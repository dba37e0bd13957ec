import StreamScout.Rehearsal.Backend
import StreamScout.Rehearsal.Bench
import StreamScout.Session.Step

namespace StreamScout.Rehearsal

open StreamScout.Service
open StreamScout.Session (State Config)

structure Show where
  cfg : Config
  session : State Backend
  bench : Bench

inductive Cue where
  | init
  | terminate (during : Option BrowseEvent) (order : List Nat)
  | reap
  | post (e : Event Record)
  | answer (name : String) (outcome : Resolution)
  | release (path : String)

inductive Result where
  | init (r : Except String Unit)
  | terminate (waited : Bool) (r : Except String Unit)
  | reaped (count : Nat)
  | posted (reached : Option Bool)
  | released (any : Bool)

namespace Show

def withSession (v : Show) (s : State Backend) : Show :=
  { v with session := s, bench := { v.bench with pool := s.pool, log := s.log } }

def withBench (v : Show) (b : Bench) : Show :=
  { v with bench := b, session := { v.session with pool := b.pool, log := b.log } }

def settleIn : Nat → Show → Show
  | 0, v => v
  | n + 1, v =>
      match Session.handle? v.cfg Backend.provider v.session with
      | some s =>
          let v' := v.withSession ((Session.start? true s).getD s)
          settleIn n (v'.withBench v'.bench.startAll)
      | none => v

/-- An event of the scripted provider leads to at most one further event, so two turns for each that is queued are
enough. -/
def settle (v : Show) : Show :=
  settleIn (2 * v.session.queue.length + 1) v

def terminate (during : Option BrowseEvent) (order : List Nat) (v : Show) : Result × Show :=
  match Session.close? v.session with
  | none => (.terminate false (.ok ()), v)
  | some s =>
      let waited := !v.bench.held.isEmpty
      let s := match during with
        | some e => if waited then (s.post (.browse e)).2 else s
        | none => s
      let v := (v.withSession s).settle
      let v := v.withSession ((Session.lock? v.session).getD v.session)
      let v := v.withBench (v.bench.releaseAll order)
      let v := match (Session.drained? v.session).bind Session.tell? with
        | some s => (v.withSession s).settle
        | none => v
      match Session.join? v.session with
      | some (r, s) => (.terminate waited r, v.withSession s)
      | none => (.terminate waited (.ok ()), v)

def post (e : Event Record) (v : Show) : Result × Show :=
  if v.session.provider.clients = 0 then (.posted none, v)
  else
    let (reached, s) := v.session.post e
    (.posted (some reached), (v.withSession s).settle)

def perform (c : Cue) (v : Show) : Result × Show :=
  match c with
  | .init =>
      let (r, s) := Session.init v.cfg Backend.provider none v.session
      (.init r, (v.withSession s).settle)
  | .terminate during order => v.terminate during order
  | .reap =>
      match Session.reap? v.session with
      | some (n, s) => (.reaped n, v.withSession s)
      | none => (.reaped 0, v)
  | .post e => v.post e
  | .answer name outcome =>
      match v.session.provider.unpark? name with
      | some (r, b) => { v with session := { v.session with provider := b } }.post (.resolved r outcome)
      | none => (.posted none, v)
  | .release path =>
      let (any, b) := v.bench.release path
      (.released any, v.withBench b)

end Show

def resolveOnce (gate : Bool) (outcome : Resolution) (b : Bench) : Nat × Bench :=
  let s := Session.resolution true outcome ({ provider := (), gate, pool := b.pool, log := b.log } : State Unit)
  let b := ({ b with pool := s.pool }.startAll).releaseAll []
  match b.pool.drain? with
  | some (n, pool) => (n, { b with pool })
  | none => (0, b)

end StreamScout.Rehearsal
