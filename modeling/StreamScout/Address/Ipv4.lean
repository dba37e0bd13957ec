import StreamScout.Text.Blank
import StreamScout.Text.Numeral

namespace StreamScout

structure Ipv4 where
  a : UInt8
  b : UInt8
  c : UInt8
  d : UInt8
  deriving DecidableEq, Repr

namespace Ipv4

def octetChars (o : UInt8) : List Char :=
  Nat.toDigits 10 o.toNat

def toChars (i : Ipv4) : List Char :=
  octetChars i.a ++ '.' :: octetChars i.b ++ '.' :: octetChars i.c ++ '.' :: octetChars i.d

def text (i : Ipv4) : String :=
  String.ofList i.toChars

def octet? : List Char → Option UInt8
  | [] => none
  | ['0'] => some 0
  | '0' :: _ => none
  | cs =>
      if cs.length ≤ 3 then
        match Numeral.readDigits 256 cs 0 with
        | .ok n => some (UInt8.ofNat n)
        | .error _ => none
      else none

def ofChars? (cs : List Char) : Option Ipv4 :=
  match cs.splitOn '.' with
  | [w, x, y, z] => do some ⟨← octet? w, ← octet? x, ← octet? y, ← octet? z⟩
  | _ => none

def ofText? (s : String) : Option Ipv4 :=
  ofChars? s.toList

def invalid : String := "invalid IPv4 address syntax"

end Ipv4

end StreamScout
