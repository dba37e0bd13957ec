namespace StreamScout.Decimal

/-- A mantissa times a power of two. The mantissa has 53 bits unless the exponent is the least. -/
inductive Binary64 where
  | finite (mantissa : Nat) (exponent : Int)
  | infinite
  deriving DecidableEq, Repr

def leastExponent : Int := -1074
def greatestExponent : Int := 971

def leadingBit : Nat := Nat.pow 2 52

def roundQuotient (num den : Nat) : Nat :=
  let k := num / den
  let r := num % den
  if 2 * r < den then k else if den < 2 * r then k + 1 else k + k % 2

def ratio (m : Nat) (q : Int) : Nat × Nat :=
  if 0 ≤ q then (m * Nat.pow 2 q.toNat, 1) else (m, Nat.pow 2 (-q).toNat)

namespace Binary64

def zero : Binary64 := .finite 0 leastExponent

def exponentOf (num den : Nat) : Int :=
  let q : Int := (num.log2 : Int) - den.log2 - 53
  let (n, d) := if 0 ≤ q then (num, den * Nat.pow 2 q.toNat) else (num * Nat.pow 2 (-q).toNat, den)
  max (if n / d < 2 * leadingBit then q else q + 1) leastExponent

def ofRatio (num den : Nat) : Binary64 :=
  if num = 0 then zero
  else
    let q := exponentOf num den
    let m :=
      if 0 ≤ q then roundQuotient num (den * Nat.pow 2 q.toNat) else roundQuotient (num * Nat.pow 2 (-q).toNat) den
    let (m, q) := if m < 2 * leadingBit then (m, q) else (leadingBit, q + 1)
    if q ≤ greatestExponent then .finite m q else .infinite

def ofNat (n : Nat) : Binary64 :=
  ofRatio n 1

def isZero : Binary64 → Bool
  | .finite 0 _ => true
  | _ => false

def mul : Binary64 → Binary64 → Binary64
  | .finite m q, .finite n r => let (a, b) := ratio (m * n) (q + r); ofRatio a b
  | _, _ => .infinite

def div : Binary64 → Binary64 → Binary64
  | .finite m q, .finite n r => let (a, b) := ratio m (q - r); ofRatio a (b * n)
  | _, _ => .infinite

/-- The magnitude nearest to a decimal. Exponents that lie far outside of the range are not computed. -/
def ofDecimal (digits : Nat) (exponent : Int) : Binary64 :=
  let place : Int := (Nat.toDigits 10 digits).length + exponent
  if digits = 0 ∨ place < -330 then zero
  else if 310 < place then .infinite
  else if 0 ≤ exponent then ofRatio (digits * Nat.pow 10 exponent.toNat) 1
  else ofRatio digits (Nat.pow 10 (-exponent).toNat)

end Binary64

end StreamScout.Decimal
