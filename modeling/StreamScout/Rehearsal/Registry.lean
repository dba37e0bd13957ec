import StreamScout.Rehearsal.Bench

namespace StreamScout.Rehearsal

open StreamScout.Probe (Ending Pool Target)

inductive RegistryCommand where
  | register (t : Target)
  | registerWhile (gate canStart : Bool) (t : Target)
  | unit (t : Target)
  | release (path : String)
  | reap
  | drain (order : List Nat)

inductive RegistryResult where
  | done
  | started (outcome : Pool.Started)
  | unit (ending : Option Ending) (ownNotice : Bool) (early : Option Bool)
  | released (any : Bool)
  | removed (count : Nat)

namespace Bench

def alone (t : Target) (b : Bench) : Bench :=
  { b with pool := ({} : Pool).dispatch t, held := [], log := [] }.startAll

def observeAlone (t : Target) (b : Bench) : RegistryResult × Bench :=
  let before := b.alone t
  let after := before.releaseAll []
  let early := if before.held.isEmpty then none else some (before.pool.isFinished 0)
  (.unit ((after.pool.stage? 0).bind (·.ending?)) (after.pool.notices == [0]) early,
    { b with log := b.log ++ after.log })

def registry (c : RegistryCommand) (b : Bench) : RegistryResult × Bench :=
  match c with
  | .register t => (.done, { b with pool := b.pool.register t }.startAll)
  | .registerWhile gate canStart t =>
      let (outcome, pool) := b.pool.registerWhile gate canStart t
      (.started outcome, { b with pool }.startAll)
  | .unit t => b.observeAlone t
  | .release path =>
      let (any, b') := b.release path
      (.released any, b')
  | .reap =>
      let (n, pool) := b.pool.reap
      (.removed n, { b with pool })
  | .drain order =>
      let b' := b.releaseAll order
      match b'.pool.drain? with
      | some (n, pool) => (.removed n, { b' with pool })
      | none => (.removed 0, b')

end Bench

end StreamScout.Rehearsal
