namespace StreamScout.Utf8

structure Fault where
  index : Nat
  width : Option Nat
  deriving DecidableEq, Repr

def Fault.message : Fault → String
  | ⟨i, some n⟩ => s!"invalid utf-8 sequence of {n} bytes from index {i}"
  | ⟨i, none⟩ => s!"incomplete utf-8 byte sequence from index {i}"

structure Unfinished where
  start : Nat
  taken : Nat
  missing : Nat
  low : Nat
  high : Nat
  value : Nat
  deriving DecidableEq, Repr

/-- The state after a lead byte. The bounds of the second byte exclude overlong forms, surrogates and
values above U+10FFFF. -/
def Unfinished.ofLead? (i b : Nat) : Option Unfinished :=
  if b < 0xC2 then none
  else if b ≤ 0xDF then some ⟨i, 1, 1, 0x80, 0xBF, b - 0xC0⟩
  else if b = 0xE0 then some ⟨i, 1, 2, 0xA0, 0xBF, 0⟩
  else if b = 0xED then some ⟨i, 1, 2, 0x80, 0x9F, 0xD⟩
  else if b ≤ 0xEF then some ⟨i, 1, 2, 0x80, 0xBF, b - 0xE0⟩
  else if b = 0xF0 then some ⟨i, 1, 3, 0x90, 0xBF, 0⟩
  else if b ≤ 0xF3 then some ⟨i, 1, 3, 0x80, 0xBF, b - 0xF0⟩
  else if b = 0xF4 then some ⟨i, 1, 3, 0x80, 0x8F, 4⟩
  else none

def Unfinished.push (u : Unfinished) (b : Nat) : Option (Char ⊕ Unfinished) :=
  if u.low ≤ b ∧ b ≤ u.high then
    let v := u.value * 64 + (b - 0x80)
    if u.missing = 1 then some (.inl (Char.ofNat v))
    else some (.inr ⟨u.start, u.taken + 1, u.missing - 1, 0x80, 0xBF, v⟩)
  else none

def decodeFrom : List UInt8 → Nat → Option Unfinished → List Char → Except Fault (List Char)
  | [], _, none, cs => .ok cs.reverse
  | [], _, some u, _ => .error ⟨u.start, none⟩
  | b :: bs, i, none, cs =>
      if b.toNat < 0x80 then decodeFrom bs (i + 1) none (Char.ofNat b.toNat :: cs)
      else match Unfinished.ofLead? i b.toNat with
        | none => .error ⟨i, some 1⟩
        | some u => decodeFrom bs (i + 1) (some u) cs
  | b :: bs, i, some u, cs =>
      match u.push b.toNat with
      | none => .error ⟨u.start, some u.taken⟩
      | some (.inl c) => decodeFrom bs (i + 1) none (c :: cs)
      | some (.inr u') => decodeFrom bs (i + 1) (some u') cs

def decode (bytes : List UInt8) : Except Fault (List Char) :=
  decodeFrom bytes 0 none []

def encode (cs : List Char) : List UInt8 :=
  cs.flatMap String.utf8EncodeChar

def bytes (s : String) : List UInt8 :=
  encode s.toList

end StreamScout.Utf8
