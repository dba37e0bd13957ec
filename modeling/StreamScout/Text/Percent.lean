import StreamScout.Text.Utf8

namespace StreamScout.Text

def hexValue? (b : UInt8) : Option UInt8 :=
  if 48 ≤ b ∧ b ≤ 57 then some (b - 48)
  else if 97 ≤ b ∧ b ≤ 102 then some (b - 87)
  else if 65 ≤ b ∧ b ≤ 70 then some (b - 55)
  else none

def hexPair? (a b : UInt8) : Option UInt8 :=
  match hexValue? a, hexValue? b with
  | some high, some low => some (high * 16 + low)
  | _, _ => none

def percentDecode : List UInt8 → List UInt8
  | 37 :: a :: b :: rest =>
      match hexPair? a b with
      | some byte => byte :: percentDecode rest
      | none => 37 :: percentDecode (a :: b :: rest)
  | b :: rest => b :: percentDecode rest
  | [] => []

end StreamScout.Text
