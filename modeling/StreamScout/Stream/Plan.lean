namespace StreamScout.Stream

/-- What a reader still wants from a byte stream before it can answer. It knows nothing about how the bytes arrive. -/
inductive Plan (α : Type) where
  | answer (value : α)
  | line (limit : Nat) (next : List UInt8 → Plan α)
  | exactly (count : Nat) (next : List UInt8 → Plan α)

inductive Want where
  | line
  | exactly
  deriving DecidableEq, Repr

def lineFeed : UInt8 := 10

def takeLine : (limit : Nat) → List UInt8 → List UInt8 × List UInt8
  | 0, bs => ([], bs)
  | _ + 1, [] => ([], [])
  | n + 1, b :: bs =>
      if b = lineFeed then ([b], bs)
      else ((b :: (takeLine n bs).1), (takeLine n bs).2)

def Plan.run {α : Type} : Plan α → List UInt8 → α
  | .answer v, _ => v
  | .line limit next, bs => (next (takeLine limit bs).1).run (takeLine limit bs).2
  | .exactly count next, bs => (next (bs.take count)).run (bs.drop count)

def lineComplete (limit : Nat) (line : List UInt8) : Bool :=
  line.length == limit || line.getLast? == some lineFeed

def Plan.decided? {α : Type} : Plan α → List UInt8 → Option α
  | .answer v, _ => some v
  | .line limit next, bs =>
      if lineComplete limit (takeLine limit bs).1 then
        (next (takeLine limit bs).1).decided? (takeLine limit bs).2
      else none
  | .exactly count next, bs =>
      if count ≤ bs.length then (next (bs.take count)).decided? (bs.drop count) else none

end StreamScout.Stream
