import StreamScout.Probe.Pool
import StreamScout.Service.Provider

namespace StreamScout.Session

open StreamScout.Service (Event Record)
open StreamScout.Probe (Pool Target)

structure Config where
  interface : String
  typeDomain : String := Service.defaultTypeDomain
  pathStart : String := Service.defaultPathStart
  deriving DecidableEq, Repr

inductive Phase where
  | idle
  | running
  | closing
  | draining
  | stopping
  | joining
  deriving DecidableEq, Repr

inductive Loop where
  | absent
  | alive
  | stopped
  | crashed
  deriving DecidableEq, Repr

inductive Item where
  | event (e : Event Record)
  | stop
  deriving DecidableEq, Repr

structure State (σ : Type) where
  phase : Phase := .idle
  gate : Bool := false
  loop : Loop := .absent
  queue : List Item := []
  /-- The probe that the loop is about to start, having found the gate open. -/
  starting : Option Target := none
  provider : σ
  pool : Pool := {}
  log : List Effect := []
  deriving DecidableEq, Repr

namespace State

variable {σ : Type}

def isRunning (s : State σ) : Bool :=
  s.phase == .running

/-- The loop holds the registry from looking at the gate to registering a probe, the owner while it waits for the probes. -/
def locked (s : State σ) : Bool :=
  s.phase == .draining || s.starting.isSome

def pendingProbes (s : State σ) : Nat :=
  s.pool.units.length

def post (e : Event Record) (s : State σ) : Bool × State σ :=
  if s.loop = .alive then (true, { s with queue := s.queue ++ [.event e] }) else (false, s)

def note (effects : List Effect) (s : State σ) : State σ :=
  { s with log := s.log ++ effects }

def accept (r : Service.Reply σ) (s : State σ) : State σ :=
  { s with provider := r.state, queue := s.queue ++ r.posts.map .event }

end State

end StreamScout.Session
