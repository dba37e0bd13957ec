import StreamScout.Session.State

namespace StreamScout.Session

open StreamScout.Service

inductive Flow where
  | goOn
  | leave
  | crash
  deriving DecidableEq, Repr

def Flow.ofSubscription : Outcome → Flow
  | .ok => .goOn
  | .error _ => .leave
  | .panic => .crash

def Flow.ofResolution : Outcome → Flow
  | .panic => .crash
  | _ => .goOn

variable {σ : Type}

def subscribe (cfg : Config) (p : Provider σ) (s : State σ) : Flow × State σ :=
  let r := p.subscribe cfg.typeDomain s.provider
  (.ofSubscription r.outcome, (s.note [.subscribe cfg.typeDomain]).accept r)

def onResolved (outcome : Resolution) (s : State σ) : State σ :=
  match Probe.Target.ofResolution? outcome with
  | some t => if s.gate then { s with starting := some t } else s
  | none => s

def onClient (cfg : Config) (p : Provider σ) (state : ClientState) (s : State σ) : Flow × State σ :=
  match state with
  | .connecting => (.goOn, s)
  | .failure _ => (.leave, s)
  | .registering | .running | .collision => subscribe cfg p s

def onBrowse (p : Provider σ) (e : BrowseEvent) (s : State σ) : Flow × State σ :=
  match e with
  | .new r =>
      let reply := p.resolve r s.provider
      (.ofResolution reply.outcome, (s.note [.resolve r]).accept reply)
  | .remove r => (.goOn, s.note [.removed r.name r.domain])
  | .allForNow | .cacheExhausted => (.goOn, s)
  | .failure _ => (.leave, s)

def react (cfg : Config) (p : Provider σ) (item : Item) (s : State σ) : Flow × State σ :=
  match item with
  | .event (.client state) => onClient cfg p state s
  | .event (.browse e) => onBrowse p e s
  | .event (.resolved _ outcome) => (.goOn, onResolved outcome s)
  | .stop => (.leave, s)

def conclude (p : Provider σ) : Flow × State σ → State σ
  | (.goOn, s) => s
  | (.leave, s) => { s.note [.stop] with loop := .stopped, queue := [], provider := p.stop s.provider }
  | (.crash, s) => { s with loop := .crashed, queue := [], provider := p.drop s.provider }

/-- A resolution that could lead to a probe has to wait while someone is in the registry. -/
def needsRegistry : Item → Bool
  | .event (.resolved _ outcome) => (Probe.Target.ofResolution? outcome).isSome
  | _ => false

def handle? (cfg : Config) (p : Provider σ) (s : State σ) : Option (State σ) :=
  match s.loop, s.starting, s.queue with
  | .alive, none, item :: rest =>
      if needsRegistry item && s.locked then none
      else some (conclude p (react cfg p item { s with queue := rest }))
  | _, _, _ => none

def start? (canStart : Bool) (s : State σ) : Option (State σ) :=
  s.starting.map fun t =>
    { s with starting := none, pool := if canStart then s.pool.register t else s.pool }

def resolution (canStart : Bool) (outcome : Resolution) (s : State σ) : State σ :=
  let s' := onResolved outcome s
  (start? canStart s').getD s'

end StreamScout.Session
