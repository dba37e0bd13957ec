import StreamScout.Decimal.Binary64

namespace StreamScout.Decimal

structure Digits where
  digits : Nat
  exponent : Int
  deriving DecidableEq, Repr

structure Interval where
  value : Nat
  low : Nat
  high : Nat
  unit : Nat × Nat
  closed : Bool

def Interval.of (m : Nat) (q : Int) : Interval where
  value := 4 * m
  low := if m = leadingBit ∧ leastExponent < q then 4 * m - 1 else 4 * m - 2
  high := 4 * m + 2
  unit := ratio 1 (q - 2)
  closed := m % 2 == 0

def place (num den : Nat) : Int :=
  if den ≤ num then (Nat.toDigits 10 (num / den)).length
  else
    let zeros := (Nat.toDigits 10 (den / num)).length
    if num * Nat.pow 10 (zeros - 1) = den then 2 - (zeros : Int) else 1 - (zeros : Int)

def gridPoint (c : Nat) (k : Int) : Nat × Nat :=
  if 0 ≤ k then (c * Nat.pow 10 k.toNat, 1) else (c, Nat.pow 10 (-k).toNat)

def Interval.reads (i : Interval) (c : Nat) (k : Int) : Bool :=
  let (a, b) := gridPoint c k
  let x := a * i.unit.2
  let low := i.low * i.unit.1 * b
  let high := i.high * i.unit.1 * b
  if i.closed then low ≤ x && x ≤ high else low < x && x < high

inductive Tie where
  | even
  | up
  deriving DecidableEq, Repr

def Tie.nearest (tie : Tie) (num den : Nat) : Nat :=
  match tie with
  | .even => roundQuotient num den
  | .up => (2 * num + den) / (2 * den)

/-- The decimals with a given number of digits form a grid. If one of its points reads back, so does one of the two
neighbours of the value. -/
def Interval.onGrid? (i : Interval) (tie : Tie) (k : Int) : Option Digits :=
  let num := i.value * i.unit.1
  let den := i.unit.2
  let (p, d) := if 0 ≤ k then (num, den * Nat.pow 10 k.toNat) else (num * Nat.pow 10 (-k).toNat, den)
  let c := p / d
  match i.reads c k, i.reads (c + 1) k with
  | true, false => some ⟨c, k⟩
  | false, true => some ⟨c + 1, k⟩
  | true, true => some ⟨tie.nearest p d, k⟩
  | false, false => none

def Interval.search (i : Interval) (tie : Tie) (p : Int) : (more : Nat) → (count : Nat) → Digits
  | 0, count => ((i.onGrid? tie (p - count)).getD ⟨i.value, 0⟩)
  | more + 1, count =>
      match i.onGrid? tie (p - count) with
      | some d => d
      | none => search i tie p more (count + 1)

def Digits.trimZeros : (room : Nat) → Digits → Digits
  | 0, d => d
  | room + 1, d =>
      if d.digits % 10 = 0 ∧ d.digits ≠ 0 then trimZeros room ⟨d.digits / 10, d.exponent + 1⟩ else d

def shortest (tie : Tie) (m : Nat) (q : Int) : Digits :=
  if m = 0 then ⟨0, 0⟩
  else
    let i := Interval.of m q
    (i.search tie (place (i.value * i.unit.1) i.unit.2) 16 1).trimZeros 17

structure Layout where
  bounds : Option (Int × Int)
  tie : Tie
  deriving DecidableEq, Repr

def Layout.isPositional (l : Layout) (place : Int) : Bool :=
  l.bounds.all fun (low, high) => low < place && place ≤ high

def zeros (n : Nat) : List Char :=
  List.replicate n '0'

def exponentChars (e : Int) : List Char :=
  (if e < 0 then '-' else '+') :: Nat.toDigits 10 e.natAbs

def Digits.toChars (layout : Layout) (d : Digits) : List Char :=
  let ds := Nat.toDigits 10 d.digits
  let place : Int := ds.length + d.exponent
  if d.digits = 0 then ['0', '.', '0']
  else if layout.isPositional place then
    if 0 ≤ d.exponent then ds ++ zeros d.exponent.toNat ++ ['.', '0']
    else if 0 < place then ds.take place.toNat ++ '.' :: ds.drop place.toNat
    else '0' :: '.' :: zeros (-place).toNat ++ ds
  else
    match ds with
    | [c] => c :: 'e' :: exponentChars (place - 1)
    | c :: cs => c :: '.' :: cs ++ 'e' :: exponentChars (place - 1)
    | [] => []

def text (layout : Layout) (negative : Bool) (x : Binary64) : String :=
  let sign := if negative then "-" else ""
  match x with
  | .infinite => sign ++ "inf"
  | .finite m q => sign ++ String.ofList ((shortest layout.tie m q).toChars layout)

end StreamScout.Decimal
