import Mathlib.Data.List.Basic
import StreamScout.Text.Numeral

namespace StreamScout.Numeral

variable {bound n m : Nat} {cs ds : List Char}

def IsDigit (c : Char) : Prop :=
  '0' ≤ c ∧ c ≤ '9'

def continued (n : Nat) (ds : List Char) : Nat :=
  ds.foldl (fun n c => n * 10 + (c.toNat - '0'.toNat)) n

def Says (bound : Nat) (cs : List Char) (n : Nat) : Prop :=
  ∃ ds, (cs = ds ∨ cs = '+' :: ds) ∧ ds ≠ [] ∧ (∀ c ∈ ds, IsDigit c) ∧ continued 0 ds = n ∧ n < bound

theorem digit?_eq_some {c : Char} {d : Nat} : digit? c = some d ↔ IsDigit c ∧ c.toNat - '0'.toNat = d := by
  unfold digit?
  split
  · rename_i h
    simp [IsDigit, h]
  · rename_i h
    simp [IsDigit, h]

theorem le_continued (n : Nat) (ds : List Char) : n ≤ continued n ds := by
  induction ds generalizing n with
  | nil => exact Nat.le_refl n
  | cons c ds ih =>
    have h := ih (n * 10 + (c.toNat - '0'.toNat))
    have hstep : continued n (c :: ds) = continued (n * 10 + (c.toNat - '0'.toNat)) ds := rfl
    omega

theorem readDigits_ok_iff (hn : n < bound) :
    readDigits bound ds n = .ok m ↔ (∀ c ∈ ds, IsDigit c) ∧ continued n ds = m ∧ m < bound := by
  induction ds generalizing n with
  | nil =>
    simp only [readDigits, continued, List.foldl_nil, Except.ok.injEq]
    constructor
    · rintro rfl
      exact ⟨by simp, rfl, hn⟩
    · rintro ⟨-, h, -⟩
      exact h
  | cons c ds ih =>
    have hstep : continued n (c :: ds) = continued (n * 10 + (c.toNat - '0'.toNat)) ds := rfl
    rw [readDigits]
    cases hd : digit? c with
    | none =>
      have hc : ¬ IsDigit c := fun h => by
        rw [digit?_eq_some.mpr ⟨h, rfl⟩] at hd
        cases hd
      simp [hc]
    | some d =>
      obtain ⟨hc, rfl⟩ := digit?_eq_some.mp hd
      rw [hstep]
      by_cases hlt : n * 10 + (c.toNat - '0'.toNat) < bound
      · simp only [hlt, if_true]
        rw [ih hlt]
        simp [hc]
      · simp only [hlt, if_false]
        have hle := le_continued (n * 10 + (c.toNat - '0'.toNat)) ds
        constructor
        · rintro ⟨⟩
        · rintro ⟨-, rfl, hm⟩
          exact absurd (Nat.lt_of_le_of_lt hle hm) hlt

theorem not_isDigit_plus : ¬ IsDigit '+' := by
  unfold IsDigit
  decide

theorem says_cons_iff {c : Char} (hc : c ≠ '+') :
    Says bound (c :: cs) n ↔ (∀ x ∈ c :: cs, IsDigit x) ∧ continued 0 (c :: cs) = n ∧ n < bound := by
  constructor
  · rintro ⟨ds, rfl | heq, -, h⟩
    · exact h
    · cases heq
      exact absurd rfl hc
  · intro h
    exact ⟨c :: cs, .inl rfl, by simp, h⟩

theorem says_plus_iff : Says bound ('+' :: cs) n ↔
    cs ≠ [] ∧ (∀ x ∈ cs, IsDigit x) ∧ continued 0 cs = n ∧ n < bound := by
  constructor
  · rintro ⟨ds, rfl | heq, hne, h⟩
    · exact absurd (h.1 '+' (by simp)) not_isDigit_plus
    · cases heq
      exact ⟨hne, h⟩
  · rintro ⟨hne, h⟩
    exact ⟨cs, .inr rfl, hne, h⟩

theorem read_ok_iff (hb : 0 < bound) : read bound cs = .ok n ↔ Says bound cs n := by
  cases cs with
  | nil =>
    constructor
    · rintro ⟨⟩
    · rintro ⟨ds, rfl | heq, hne, -⟩
      · exact absurd rfl hne
      · cases heq
  | cons c cs =>
    by_cases hc : c = '+'
    · subst hc
      rw [says_plus_iff]
      cases cs with
      | nil =>
        constructor
        · rintro ⟨⟩
        · rintro ⟨hne, -⟩
          exact absurd rfl hne
      | cons d ds =>
        rw [read, readDigits_ok_iff hb]
        · simp
        · simp
    · rw [says_cons_iff hc, read, readDigits_ok_iff hb]
      · simp
      · simp [hc]
      · simp [hc]

end StreamScout.Numeral
