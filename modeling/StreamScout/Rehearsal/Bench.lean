import StreamScout.Keyed
import StreamScout.Probe.Pool

namespace StreamScout.Rehearsal

open StreamScout.Probe (Answer Pool Target)

structure Script where
  url : Option String := none
  sdp : String := "v=0\r\n"
  fails : Bool := false
  panics : Bool := false
  gated : Bool := false
  deriving DecidableEq, Repr

def Script.answer (s : Script) (path : String) (t : Target) : Answer :=
  if s.panics then .crash
  else if s.fails then .error
  else .description (.ofSdp (s.url.getD (Rtsp.streamUrl path t.address t.port)) s.sdp)

structure Held where
  worker : Nat
  path : String
  answer : Answer
  deriving DecidableEq, Repr

structure Bench where
  pathStart : String
  scripts : Keyed Script := []
  otherwise : Script := { fails := true }
  held : List Held := []
  pool : Pool := {}
  log : List Effect := []
  deriving DecidableEq, Repr

namespace Bench

def script (b : Bench) (path : String) : Script :=
  (b.scripts.get? path).getD b.otherwise

def play (i : Nat) (moves : List Probe.Move) (b : Bench) : Bench :=
  let (pool, effects) := b.pool.play b.pathStart i moves
  { b with pool, log := b.log ++ effects }

def start (b : Bench) (i : Nat) : Bench :=
  match b.pool.workers[i]? with
  | some ⟨t, .spawned⟩ =>
      let path := t.path b.pathStart
      let script := b.script path
      let answer := script.answer path t
      if script.gated then { b.play i [.call] with held := b.held ++ [⟨i, path, answer⟩] }
      else b.play i (.call :: answer.completion)
  | _ => b

def startAll (b : Bench) : Bench :=
  (List.range b.pool.workers.length).foldl start b

def finish (b : Bench) (h : Held) : Bench :=
  { b.play h.worker h.answer.completion with held := b.held.filter (·.worker != h.worker) }

def release (path : String) (b : Bench) : Bool × Bench :=
  match b.held.find? (·.path == path) with
  | some h => (true, b.finish h)
  | none => (false, b)

def releaseOrder (order : List Nat) (held : List Held) : List Held :=
  let first := order.filterMap fun i => held[i]?
  first ++ held.filter fun h => !first.contains h

def releaseAll (order : List Nat) (b : Bench) : Bench :=
  (releaseOrder order b.held).foldl finish b

def completed (b : Bench) : Nat :=
  (b.pool.workers.filter fun w => w.stage.isFinished).length

end Bench

end StreamScout.Rehearsal
