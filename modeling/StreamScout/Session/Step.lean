import StreamScout.Session.Loop

namespace StreamScout.Session

open StreamScout.Service

variable {σ : Type}

def initFault (cfg : Config) (reason : String) : String :=
  "Failed to create mDNS client on " ++ cfg.interface ++ ": " ++ reason

def loopNotStarted (reason : String) : String :=
  "Failed to spawn discovery loop: " ++ reason

def loopPanicked : String := "Discovery loop panicked"

-- The gate is opened before the thread of the loop is started and closed again if there is none (`refusal`). Nobody
-- could start a probe in between, since only the loop does. What the client has posted by then is lost.
def init (cfg : Config) (p : Provider σ) (refusal : Option String) (s : State σ) : Except String Unit × State σ :=
  if s.phase ≠ .idle then (.ok (), s)
  else
    let r := p.connect cfg.interface s.provider
    let tried := s.note [.connect cfg.interface]
    match r.outcome with
    | .ok =>
        match refusal with
        | none => (.ok (), { tried.accept r with phase := .running, gate := true, loop := .alive })
        | some reason => (.error (loopNotStarted reason), { tried with provider := p.drop r.state })
    | .error m => (.error (initFault cfg m), { tried with provider := p.drop r.state })
    | .panic => (.error (initFault cfg "panic"), { tried with provider := p.drop r.state })

def reap? (s : State σ) : Option (Nat × State σ) :=
  if s.locked then none
  else some (s.pool.reap.1, { s with pool := s.pool.reap.2 })

def close? (s : State σ) : Option (State σ) :=
  if s.phase = .running then some { s with phase := .closing, gate := false } else none

/-- The owner locks the registry. From here on no probe starts. -/
def lock? (s : State σ) : Option (State σ) :=
  if s.phase = .closing ∧ !s.locked then some { s with phase := .draining } else none

def drained? (s : State σ) : Option (State σ) :=
  if s.phase = .draining then s.pool.drain?.map fun (_, pool) => { s with phase := .stopping, pool }
  else none

def tell? (s : State σ) : Option (State σ) :=
  if s.phase = .stopping then
    some { s with phase := .joining, queue := if s.loop = .alive then s.queue ++ [.stop] else s.queue }
  else none

def join? (s : State σ) : Option (Except String Unit × State σ) :=
  if s.phase = .joining then
    match s.loop with
    | .alive => none
    | .crashed => some (.error loopPanicked, { s with phase := .idle, loop := .absent })
    | .absent | .stopped => some (.ok (), { s with phase := .idle, loop := .absent })
  else none

def move? (cfg : Config) (i : Nat) (m : Probe.Move) (s : State σ) : Option (State σ) :=
  (s.pool.move? cfg.pathStart i m).map fun (pool, effects) => { s with pool }.note effects

inductive Action where
  | init (refusal : Option String)
  | close
  | lock
  | drained
  | tell
  | join
  | reap
  | handle
  | start (canStart : Bool)
  | post (e : Event Record)
  | worker (i : Nat) (m : Probe.Move)
  deriving DecidableEq, Repr

def step? (cfg : Config) (p : Provider σ) (a : Action) (s : State σ) : Option (State σ) :=
  match a with
  | .init refusal => some (init cfg p refusal s).2
  | .close => close? s
  | .lock => lock? s
  | .drained => drained? s
  | .tell => tell? s
  | .join => (join? s).map (·.2)
  | .reap => (reap? s).map (·.2)
  | .handle => handle? cfg p s
  | .start canStart => start? canStart s
  | .post e => some (s.post e).2
  | .worker i m => move? cfg i m s

def run? (cfg : Config) (p : Provider σ) : List Action → State σ → Option (State σ)
  | [], s => some s
  | a :: as, s => (step? cfg p a s).bind (run? cfg p as)

end StreamScout.Session
