import StreamScout.Text.Blank

namespace StreamScout.Numeral

inductive Fault where
  | empty
  | badDigit
  | tooLarge
  deriving DecidableEq, Repr

def Fault.message : Fault → String
  | .empty => "cannot parse integer from empty string"
  | .badDigit => "invalid digit found in string"
  | .tooLarge => "number too large to fit in target type"

def digit? (c : Char) : Option Nat :=
  if '0' ≤ c ∧ c ≤ '9' then some (c.toNat - 48) else none

def readDigits (bound : Nat) : List Char → Nat → Except Fault Nat
  | [], n => .ok n
  | c :: cs, n =>
      match digit? c with
      | none => .error .badDigit
      | some d => if n * 10 + d < bound then readDigits bound cs (n * 10 + d) else .error .tooLarge

def read (bound : Nat) : List Char → Except Fault Nat
  | [] => .error .empty
  | ['+'] => .error .badDigit
  | '+' :: cs => readDigits bound cs 0
  | cs => readDigits bound cs 0

def word64 : Nat := Nat.pow 2 64

def signed64 : Nat := Nat.pow 2 63

def signed32 : Nat := Nat.pow 2 31

end StreamScout.Numeral
