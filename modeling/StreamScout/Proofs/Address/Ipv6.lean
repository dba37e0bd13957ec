import StreamScout.Address.Ipv6
import StreamScout.Proofs.Address.Ipv4

namespace StreamScout

namespace Ipv4

theorem not_mem_toChars {c : Char} (hc : ∀ n < 256, c ∉ Nat.toDigits 10 n) (hdot : c ≠ '.') (a : Ipv4) :
    c ∉ a.toChars := by
  have hoctet (o : UInt8) : c ∉ octetChars o := hc o.toNat o.toNat_lt
  simp [toChars, hoctet, hdot]

theorem colon_not_mem_toChars (a : Ipv4) : ':' ∉ a.toChars :=
  not_mem_toChars (by decide +kernel) (by decide) a

theorem dot_mem_toChars (a : Ipv4) : '.' ∈ a.toChars := by
  simp [toChars]

end Ipv4

namespace Ipv6

theorem dot_not_mem_toDigits (n : Nat) : '.' ∉ Nat.toDigits 16 n := by
  induction n using Nat.strongRecOn with
  | ind n ih =>
    rw [Nat.toDigits_eq_if (by decide)]
    split
    next => simp
    next => simp [ih (n / 16) (by omega)]

theorem dot_not_mem_joined (gs : List UInt16) : '.' ∉ (joined gs).toList := by
  induction gs with
  | nil => simp [joined]
  | cons g gs ih =>
    have hgroup : '.' ∉ (groupText g).toList := by
      rw [groupText, String.toList_ofList]
      exact dot_not_mem_toDigits g.toNat
    cases gs with
    | nil => simpa [joined] using hgroup
    | cons g' gs =>
      have hcons : joined (g :: g' :: gs) = groupText g ++ ":" ++ joined (g' :: gs) := by
        simp [joined, String.intercalate_cons_cons]
      rw [hcons, String.toList_append, String.toList_append]
      simp [hgroup, ih]

theorem colon_or_no_dot (a : Ipv6) : ':' ∈ a.text.toList ∨ '.' ∉ a.text.toList := by
  unfold text
  split
  next => simp [String.toList_append]
  next =>
    dsimp only
    split
    next => simp [String.toList_append]
    next => exact .inr (dot_not_mem_joined _)

theorem ofText?_text (a : Ipv6) : Ipv4.ofText? a.text = none := by
  cases h : Ipv4.ofText? a.text with
  | none => rfl
  | some b =>
    have htext : a.text = b.text := Ipv4.ofText?_eq_some_iff.mp h
    have hchars : a.text.toList = b.toChars := by rw [htext, Ipv4.text, String.toList_ofList]
    rcases colon_or_no_dot a with hcolon | hdot
    · rw [hchars] at hcolon
      exact absurd hcolon b.colon_not_mem_toChars
    · rw [hchars] at hdot
      exact absurd b.dot_mem_toChars hdot

end Ipv6

namespace Address

theorem ofText?_text_eq_some_iff {a : Address} {x : Ipv4} : Ipv4.ofText? a.text = some x ↔ a = .v4 x := by
  cases a with
  | v4 y =>
    rw [text, Ipv4.ofText?_eq_some_iff.mpr rfl]
    simp
  | v6 y =>
    rw [text, Ipv6.ofText?_text]
    simp

end Address

end StreamScout
