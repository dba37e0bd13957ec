import StreamScout.Decimal.Shortest
import StreamScout.Json.Fault
import StreamScout.Text.Numeral

namespace StreamScout.Json

open StreamScout.Decimal (Binary64)
open StreamScout.Numeral (digit? word64 signed64 signed32)

inductive Number where
  | natural (n : Nat)
  | negative (n : Nat)
  | float (negative : Bool) (magnitude : Binary64)
  deriving DecidableEq, Repr

def startsWithDigit (cs : List Char) : Bool :=
  cs.head?.any fun c => (digit? c).isSome

def skipDigits (cs : List Char) : List Char :=
  cs.dropWhile fun c => (digit? c).isSome

def greatestPower : Nat := 308

def powerOfTen (n : Nat) : Binary64 :=
  .ofNat (Nat.pow 10 n)

/-- Divides by powers of ten that are themselves magnitudes; after the third none is left. -/
def shrink : (turns : Nat) → Nat → Binary64 → Binary64
  | 0, _, x => x
  | turns + 1, n, x =>
      if n ≤ greatestPower then x.div (powerOfTen n)
      else if x.isZero then x
      else shrink turns (n - greatestPower) (x.div (powerOfTen greatestPower))

def magnitude (significand : Nat) (exponent : Int) : Except Fault Binary64 :=
  let x := Binary64.ofNat significand
  if exponent < 0 then .ok (shrink 4 exponent.natAbs x)
  else if x.isZero then .ok x
  else if greatestPower < exponent.toNat then .error .malformed
  else match x.mul (powerOfTen exponent.toNat) with
    | .infinite => .error .malformed
    | y => .ok y

def extend : (significand count : Nat) → List Char → Nat × Nat × List Char
  | n, k, c :: cs =>
      match digit? c with
      | some d => if n * 10 + d < word64 then extend (n * 10 + d) (k + 1) cs else (n, k, c :: cs)
      | none => (n, k, c :: cs)
  | n, k, [] => (n, k, [])

def float (negative : Bool) (significand : Nat) (exponent : Int) (rest : List Char) :
    Except Fault (Number × List Char) :=
  (magnitude significand exponent).map fun x => (.float negative x, rest)

def exponentDigits : Nat → List Char → Option Nat × List Char
  | n, c :: cs =>
      match digit? c with
      | some d => if n * 10 + d < signed32 then exponentDigits (n * 10 + d) cs else (none, skipDigits cs)
      | none => (some n, c :: cs)
  | n, [] => (some n, [])

def exponent (negative : Bool) (significand : Nat) (start : Int) (cs : List Char) :
    Except Fault (Number × List Char) :=
  let (up, cs) := match cs with
    | '+' :: rest => (true, rest)
    | '-' :: rest => (false, rest)
    | cs => (true, cs)
  if cs.isEmpty then .error .ended
  else if !startsWithDigit cs then .error .malformed
  else match exponentDigits 0 cs with
    | (some e, rest) => float negative significand (if up then start + e else start - e) rest
    | (none, rest) =>
        if significand ≠ 0 ∧ up then .error .malformed else .ok (.float negative .zero, rest)

def finish (negative : Bool) (significand : Nat) (e : Int) (cs : List Char) : Except Fault (Number × List Char) :=
  match cs with
  | 'e' :: rest => exponent negative significand e rest
  | 'E' :: rest => exponent negative significand e rest
  | cs => float negative significand e cs

def decimals (negative : Bool) (significand : Nat) (start : Int) (cs : List Char) :
    Except Fault (Number × List Char) :=
  let (n, k, rest) := extend significand 0 cs
  if startsWithDigit rest then finish negative n (start - k) (skipDigits rest)
  else if k = 0 then .error (if rest.isEmpty then .ended else .malformed)
  else finish negative n (start - k) rest

def longInteger (negative : Bool) (significand : Nat) (cs : List Char) : Except Fault (Number × List Char) :=
  let rest := skipDigits cs
  let dropped : Int := (cs.length - rest.length : Nat)
  match rest with
  | '.' :: more => decimals negative significand dropped more
  | rest => finish negative significand dropped rest

def integer (negative : Bool) (n : Nat) : Number :=
  if !negative then .natural n
  else if n = 0 ∨ signed64 < n then .float true (.ofNat n)
  else .negative n

def unsigned (negative : Bool) (cs : List Char) : Except Fault (Number × List Char) :=
  match cs with
  | [] => .error .ended
  | c :: rest =>
      if !(digit? c).isSome then .error .malformed
      else if c = '0' ∧ startsWithDigit rest then .error .malformed
      else
        let (n, _, rest) := extend 0 0 cs
        if startsWithDigit rest then longInteger negative n rest
        else match rest with
          | '.' :: more => decimals negative n 0 more
          | 'e' :: more => exponent negative n 0 more
          | 'E' :: more => exponent negative n 0 more
          | rest => .ok (integer negative n, rest)

def readNumber (cs : List Char) : Except Fault (Number × List Char) :=
  match cs with
  | '-' :: rest => unsigned true rest
  | cs => unsigned false cs

def floatLayout : Decimal.Layout := ⟨some (-5, 16), .even⟩

def Number.found : Number → Schema.Found
  | .natural n => .integer n
  | .negative n => .integer (-(n : Int))
  | .float minus x => .float (Decimal.text floatLayout minus x)

def skipExponent (cs : List Char) : Except Fault (List Char) :=
  let cs := match cs with
    | '+' :: rest => rest
    | '-' :: rest => rest
    | cs => cs
  if startsWithDigit cs then .ok (skipDigits cs) else .error .malformed

def skipFinish (cs : List Char) : Except Fault (List Char) :=
  match cs with
  | 'e' :: rest => skipExponent rest
  | 'E' :: rest => skipExponent rest
  | cs => .ok cs

def skipNumber (cs : List Char) : Except Fault (List Char) :=
  match cs with
  | [] => .error .malformed
  | c :: rest =>
      if !(digit? c).isSome then .error .malformed
      else if c = '0' ∧ startsWithDigit rest then .error .malformed
      else
        let rest := if c = '0' then rest else skipDigits rest
        match rest with
        | '.' :: more => if startsWithDigit more then skipFinish (skipDigits more) else .error .malformed
        | rest => skipFinish rest

end StreamScout.Json
