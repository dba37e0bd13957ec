import StreamScout.Stream.Feed

namespace StreamScout.Stream

structure Pieces where
  held : List UInt8
  pending : List (List UInt8)
  deriving DecidableEq, Repr

namespace Pieces

def ofList (pieces : List (List UInt8)) : Pieces :=
  ⟨[], pieces⟩

def rest (s : Pieces) : List UInt8 :=
  s.held ++ s.pending.flatten

def refill (capacity : Nat) : List (List UInt8) → Pieces
  | [] => ⟨[], []⟩
  | [] :: more => refill capacity more
  | piece :: more =>
      ⟨piece.take capacity, if (piece.drop capacity).isEmpty then more else piece.drop capacity :: more⟩

def fill (capacity : Nat) (s : Pieces) : Pieces :=
  if s.held.isEmpty then refill capacity s.pending else s

def feed (capacity : Nat) : Feed Pieces Empty where
  fill s := (.ok (s.fill capacity).held, s.fill capacity)
  consume n s := { s with held := s.held.drop n }

def run {α : Type} (capacity : Nat) (plan : Plan α) (pieces : List (List UInt8)) : α :=
  match ((feed capacity).run plan (ofList pieces)).1 with
  | .ok v => v
  | .error e => nomatch e.2

end Pieces

end StreamScout.Stream
