import StreamScout.Stream.Feed

namespace StreamScout.Stream

structure Arrival where
  time : Nat
  bytes : List UInt8
  deriving DecidableEq, Repr

structure Connection where
  now : Nat
  held : List UInt8
  arrivals : List Arrival
  closes : Option Nat
  deriving DecidableEq, Repr

inductive Overdue where
  | passed
  | waited
  deriving DecidableEq, Repr

namespace Connection

/-- Time passes only here. An arrival at the very deadline is too late. -/
def await (deadline capacity : Nat) (closes : Option Nat) :
    (now : Nat) → List Arrival → Except Overdue (List UInt8) × Connection
  | now, [] =>
      match closes with
      | some t =>
          if max now t < deadline then (.ok [], ⟨max now t, [], [], closes⟩)
          else (.error .waited, ⟨max now deadline, [], [], closes⟩)
      | none => (.error .waited, ⟨max now deadline, [], [], closes⟩)
  | now, a :: as =>
      let t := max now a.time
      if deadline ≤ t then (.error .waited, ⟨max now deadline, [], a :: as, closes⟩)
      else if a.bytes.isEmpty then await deadline capacity closes t as
      else
        let there := a.bytes ++ (as.takeWhile (·.time ≤ t)).flatMap (·.bytes)
        let later := as.dropWhile (·.time ≤ t)
        let unread := there.drop capacity
        (.ok (there.take capacity),
          ⟨t, there.take capacity, if unread.isEmpty then later else ⟨t, unread⟩ :: later, closes⟩)

def fill (deadline capacity : Nat) (c : Connection) : Except Overdue (List UInt8) × Connection :=
  if !c.held.isEmpty then (.ok c.held, c)
  else if deadline ≤ c.now then (.error .passed, c)
  else await deadline capacity c.closes c.now c.arrivals

def feed (deadline capacity : Nat) : Feed Connection Overdue where
  fill := fill deadline capacity
  consume n c := { c with held := c.held.drop n }

end Connection

end StreamScout.Stream
