import StreamScout.Address.Ipv4

namespace StreamScout

structure Ipv6 where
  groups : List UInt16
  deriving DecidableEq, Repr

namespace Ipv6

def hexDigit? (c : Char) : Option Nat :=
  if '0' ≤ c ∧ c ≤ '9' then some (c.toNat - 48)
  else if 'a' ≤ c ∧ c ≤ 'f' then some (c.toNat - 87)
  else if 'A' ≤ c ∧ c ≤ 'F' then some (c.toNat - 55)
  else none

def groupFrom : List Char → Nat → Option Nat
  | [], n => some n
  | c :: cs, n => (hexDigit? c).bind fun d => groupFrom cs (n * 16 + d)

def group? (cs : List Char) : Option UInt16 :=
  if cs.isEmpty ∨ 4 < cs.length then none else (groupFrom cs 0).map UInt16.ofNat

def ofIpv4 (i : Ipv4) : List UInt16 :=
  [i.a.toUInt16 * 256 + i.b.toUInt16, i.c.toUInt16 * 256 + i.d.toUInt16]

def groups? (quad : Bool) : List (List Char) → Option (List UInt16)
  | [] => some []
  | [last] =>
      match group? last with
      | some g => some [g]
      | none => if quad then (Ipv4.ofChars? last).map ofIpv4 else none
  | g :: gs => do some ((← group? g) :: (← groups? quad gs))

def groupsOf? (quad : Bool) (cs : List Char) : Option (List UInt16) :=
  if cs.isEmpty then some [] else groups? quad (cs.splitOn ':')

def cutAtGap : List Char → Option (List Char × List Char)
  | ':' :: ':' :: cs => some ([], cs)
  | c :: cs => (cutAtGap cs).map fun (a, b) => (c :: a, b)
  | [] => none

def ofChars? (cs : List Char) : Option Ipv6 :=
  match cutAtGap cs with
  | none => do
      let gs ← groups? true (cs.splitOn ':')
      if gs.length = 8 then some ⟨gs⟩ else none
  | some (front, back) => do
      let head ← groupsOf? false front
      let tail ← groupsOf? true back
      if head.length + tail.length < 8 then
        some ⟨head ++ List.replicate (8 - head.length - tail.length) 0 ++ tail⟩
      else none

def groupText (g : UInt16) : String :=
  String.ofList (Nat.toDigits 16 g.toNat)

def joined (gs : List UInt16) : String :=
  String.intercalate ":" (gs.map groupText)

def zeroRun : List UInt16 → (i : Nat) → (start length : Nat) → (best : Nat × Nat) → Nat × Nat
  | [], _, _, _, best => best
  | g :: gs, i, start, length, best =>
      if g = 0 then
        let start' := if length = 0 then i else start
        zeroRun gs (i + 1) start' (length + 1) (if best.2 < length + 1 then (start', length + 1) else best)
      else zeroRun gs (i + 1) start 0 best

def text (a : Ipv6) : String :=
  match a.groups with
  | [0, 0, 0, 0, 0, 0xFFFF, g, h] =>
      "::ffff:" ++ Ipv4.text ⟨(g / 256).toUInt8, g.toUInt8, (h / 256).toUInt8, h.toUInt8⟩
  | gs =>
      let (start, length) := zeroRun gs 0 0 0 (0, 0)
      if 1 < length then joined (gs.take start) ++ "::" ++ joined (gs.drop (start + length)) else joined gs

end Ipv6

inductive Address where
  | v4 (address : Ipv4)
  | v6 (address : Ipv6)
  deriving DecidableEq, Repr

namespace Address

def isV4 : Address → Bool
  | .v4 _ => true
  | .v6 _ => false

def text : Address → String
  | .v4 a => a.text
  | .v6 a => a.text

def ofChars? (cs : List Char) : Option Address :=
  ((Ipv4.ofChars? cs).map .v4).or ((Ipv6.ofChars? cs).map .v6)

def listOfText (s : String) : List Address :=
  (s.toList.splitOn ',').filterMap fun cs => ofChars? (Text.trim cs)

end Address

end StreamScout
