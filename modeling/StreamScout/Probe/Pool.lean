import StreamScout.Probe.Worker

namespace StreamScout.Probe

structure Pool where
  workers : List Worker := []
  units : List Nat := []
  notices : List Nat := []
  observed : List Nat := []
  deriving DecidableEq, Repr

namespace Pool

def stage? (p : Pool) (i : Nat) : Option Stage :=
  p.workers[i]?.map (·.stage)

def isFinished (p : Pool) (i : Nat) : Bool :=
  (p.stage? i).any (·.isFinished)

def next (p : Pool) : Nat :=
  p.workers.length

def dispatch (t : Target) (p : Pool) : Pool :=
  { p with workers := p.workers ++ [⟨t, .spawned⟩] }

def register (t : Target) (p : Pool) : Pool :=
  { p.dispatch t with units := p.units ++ [p.next] }

inductive Started where
  | started
  | closed
  | failed
  deriving DecidableEq, Repr

def registerWhile (gate canStart : Bool) (t : Target) (p : Pool) : Started × Pool :=
  if !gate then (.closed, p)
  else if canStart then (.started, p.register t)
  else (.failed, p)

def clearNotices (p : Pool) : Pool :=
  { p with notices := [] }

def collect (p : Pool) : Nat × Pool :=
  let done := p.units.filter p.isFinished
  (done.length,
    { p with
      units := p.units.filter fun i => !p.isFinished i
      observed := p.observed ++ done })

def reap (p : Pool) : Nat × Pool :=
  p.clearNotices.collect

def receive? (p : Pool) : Option Pool :=
  match p.notices with
  | [] => none
  | _ :: rest => some { p with notices := rest }

def drain? (p : Pool) : Option (Nat × Pool) :=
  if p.units.all p.isFinished then
    some (p.units.length, { p with units := [], observed := p.observed ++ p.units }.clearNotices)
  else none

def noticesAfter (p : Pool) (i : Nat) : Move → List Nat
  | .post => p.notices ++ [i]
  | _ => p.notices

def move? (pathStart : String) (i : Nat) (m : Move) (p : Pool) : Option (Pool × List Effect) := do
  let w ← p.workers[i]?
  let stage ← w.stage.next? m
  some ({ p with workers := p.workers.set i { w with stage }, notices := p.noticesAfter i m },
    w.effects pathStart m)

def play (pathStart : String) (i : Nat) : List Move → Pool → Pool × List Effect
  | [], p => (p, [])
  | m :: ms, p =>
      match p.move? pathStart i m with
      | none => (p, [])
      | some (p', now) =>
          let (p'', later) := play pathStart i ms p'
          (p'', now ++ later)

end Pool

end StreamScout.Probe
