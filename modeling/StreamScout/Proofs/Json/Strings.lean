import StreamScout.Json.Strings
import StreamScout.Json.Written
import StreamScout.Proofs.Text.Utf8

namespace StreamScout.Json

variable {s t : String} {cs rest rest' read : List Char} {turns : Nat}

theorem hexValue?_hexDigit : ∀ n < 16, hexValue? (hexDigit n) = some n := by
  decide

theorem codeUnit_control {n : Nat} (hn : n < 0x20) (rest : List Char) :
    codeUnit ('0' :: '0' :: hexDigit (n / 16) :: hexDigit (n % 16) :: rest) = .ok (n, rest) := by
  have hlong := Utf8.length_le_encode ['0', '0', hexDigit (n / 16), hexDigit (n % 16)]
  have hzero : hexValue? '0' = some 0 := by decide
  have hhigh := hexValue?_hexDigit (n / 16) (by omega)
  have hlow := hexValue?_hexDigit (n % 16) (by omega)
  have hsum : n / 16 * 16 + n % 16 = n := by omega
  rw [codeUnit, if_neg]
  · simp [hzero, hhigh, hlow, hsum]
  · simpa using hlong

theorem escape_control {c : Char} (hc : c.toNat < 0x20) (rest : List Char) :
    escape ('u' :: '0' :: '0' :: hexDigit (c.toNat / 16) :: hexDigit (c.toNat % 16) :: rest) = .ok (c, rest) := by
  have hlow : isLowSurrogate c.toNat = false := by
    simp [isLowSurrogate]
    omega
  have hhigh : isHighSurrogate c.toNat = false := by
    simp [isHighSurrogate]
    omega
  rw [escape, codePoint, codeUnit_control hc]
  simp [Bind.bind, Except.bind, pure, Except.pure, hlow, hhigh]

theorem stringFrom_escapedChar (c : Char) :
    stringFrom (turns + 1) read (escapedChar c ++ rest) = stringFrom turns (c :: read) rest := by
  unfold escapedChar
  split
  case h_8 hquote hslash _ _ _ _ _ =>
    split
    · rename_i hlow
      simp [stringFrom, escape_control hlow]
    · rename_i hlow
      rw [List.singleton_append, stringFrom, if_neg hquote, if_neg hslash, if_neg hlow]
  -- the seven characters with an escape of their own
  all_goals simp [stringFrom, escape, simpleEscape?]

theorem stringFrom_written (hturns : cs.length < turns) :
    stringFrom turns read (cs.flatMap escapedChar ++ '"' :: rest) =
      .ok (String.ofList (read.reverse ++ cs), rest) := by
  induction cs generalizing turns read with
  | nil =>
    cases turns with
    | zero => cases hturns
    | succ turns => simp [stringFrom]
  | cons c cs ih =>
    cases turns with
    | zero => cases hturns
    | succ turns =>
      rw [List.flatMap_cons, List.append_assoc, stringFrom_escapedChar, ih (Nat.lt_of_succ_lt_succ hturns)]
      simp

theorem escapedChar_ne_nil (c : Char) : escapedChar c ≠ [] := by
  unfold escapedChar
  repeat' split
  all_goals simp

theorem length_le_escaped (cs : List Char) : cs.length ≤ (cs.flatMap escapedChar).length := by
  induction cs with
  | nil => exact Nat.le_refl 0
  | cons c cs ih =>
    have hc := List.length_pos_iff.mpr (escapedChar_ne_nil c)
    rw [List.flatMap_cons, List.length_cons, List.length_append]
    omega

theorem string_append (s : String) (rest : List Char) :
    string s ++ rest = '"' :: (s.toList.flatMap escapedChar ++ '"' :: rest) := by
  simp [string]

theorem readString_written (s : String) (rest : List Char) :
    readString (s.toList.flatMap escapedChar ++ '"' :: rest) = .ok (s, rest) := by
  have hlen := length_le_escaped s.toList
  rw [readString, stringFrom_written]
  · simp
  · rw [List.length_append, List.length_cons]
    omega

theorem string_append_inj : string s ++ rest = string t ++ rest' ↔ s = t ∧ rest = rest' := by
  constructor
  · intro h
    rw [string_append, string_append] at h
    have hread := congrArg readString (List.cons.inj h).2
    rw [readString_written, readString_written] at hread
    exact Prod.mk.inj (Except.ok.inj hread)
  · rintro ⟨rfl, rfl⟩
    rfl

end StreamScout.Json
