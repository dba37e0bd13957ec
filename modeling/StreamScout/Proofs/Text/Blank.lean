import Mathlib.Data.List.TakeWhile
import StreamScout.Text.Blank

namespace StreamScout.Text

variable {p : Char → Bool} {cs t a b w : List Char} {ws : List (List Char)}

def AllBlank (cs : List Char) : Prop :=
  ∀ c ∈ cs, isBlank c = true

def NoBlank (cs : List Char) : Prop :=
  ∀ c ∈ cs, isBlank c = false

theorem not_isBlank_of_isDigit {c : Char} (h : c.isDigit = true) : isBlank c = false := by
  obtain ⟨hlow, hhigh⟩ : 48 ≤ c.toNat ∧ c.toNat ≤ 57 := Char.isDigit_iff_toNat.mp h
  have hdigits : ∀ n < 10, isBlank (Char.ofNat (48 + n)) = false := by decide
  rw [← Char.ofNat_toNat c, ← Nat.add_sub_cancel' hlow]
  exact hdigits _ (by omega)

theorem dropWhile_eq_iff : cs.dropWhile p = t ↔
    ∃ front, cs = front ++ t ∧ (∀ c ∈ front, p c = true) ∧ ∀ c, t.head? = some c → p c = false := by
  constructor
  · rintro rfl
    refine ⟨cs.takeWhile p, List.takeWhile_append_dropWhile.symm, fun c hc => List.mem_takeWhile_imp hc, ?_⟩
    intro c hc
    have hnot := List.head?_dropWhile_not p cs
    rw [hc] at hnot
    exact hnot
  · rintro ⟨front, rfl, hfront, hhead⟩
    rw [List.dropWhile_append_of_pos hfront]
    cases t with
    | nil => rfl
    | cons c t => rw [List.dropWhile_cons_of_neg (by simp [hhead c rfl])]

theorem dropEnd_eq_iff : dropEnd p cs = t ↔
    ∃ tail, cs = t ++ tail ∧ (∀ c ∈ tail, p c = true) ∧ ∀ c, t.getLast? = some c → p c = false := by
  rw [dropEnd, List.reverse_eq_iff, dropWhile_eq_iff]
  constructor
  · rintro ⟨front, heq, hfront, hlast⟩
    refine ⟨front.reverse, ?_, by simpa using hfront, by simpa using hlast⟩
    rw [← List.reverse_reverse cs, heq, List.reverse_append, List.reverse_reverse]
  · rintro ⟨tail, rfl, htail, hlast⟩
    exact ⟨tail.reverse, by simp, by simpa using htail, by simpa using hlast⟩

def TrimmedRight (cs t : List Char) : Prop :=
  ∃ tail, cs = t ++ tail ∧ AllBlank tail ∧ ∀ c, t.getLast? = some c → isBlank c = false

theorem trimRight_eq_iff : trimRight cs = t ↔ TrimmedRight cs t :=
  dropEnd_eq_iff

theorem trimRight_isEmpty : (trimRight cs).isEmpty = true ↔ AllBlank cs := by
  rw [List.isEmpty_iff, trimRight_eq_iff]
  simp [TrimmedRight]

def Trimmed (cs t : List Char) : Prop :=
  ∃ front tail, cs = front ++ t ++ tail ∧ AllBlank front ∧ AllBlank tail ∧
    ∀ c, t.head? = some c ∨ t.getLast? = some c → isBlank c = false

theorem trim_eq_iff : trim cs = t ↔ Trimmed cs t := by
  rw [trim, trimRight_eq_iff, TrimmedRight, trimLeft]
  constructor
  · rintro ⟨tail, heq, htail, hlast⟩
    obtain ⟨front, rfl, hfront, hhead⟩ := dropWhile_eq_iff.mp heq
    refine ⟨front, tail, by simp, hfront, htail, ?_⟩
    rintro c (hc | hc)
    · exact hhead c (by simp [List.head?_append, hc])
    · exact hlast c hc
  · rintro ⟨front, tail, rfl, hfront, htail, hends⟩
    cases t with
    | nil =>
      refine ⟨[], dropWhile_eq_iff.mpr ⟨front ++ tail, by simp, ?_, by simp⟩, by simp [AllBlank], by simp⟩
      intro c hc
      exact (List.mem_append.mp hc).elim (hfront c) (htail c)
    | cons c t =>
      refine ⟨tail, dropWhile_eq_iff.mpr ⟨front, by simp, hfront, ?_⟩, htail, fun c hc => hends c (.inr hc)⟩
      rintro c' hc'
      exact hends c' (.inl (by simpa using hc'))

theorem cutAt_eq_some : cutAt p cs = some (a, b) ↔
    ∃ c, cs = a ++ c :: b ∧ p c = true ∧ ∀ x ∈ a, p x = false := by
  induction cs generalizing a with
  | nil => simp [cutAt]
  | cons x cs ih =>
    rw [cutAt]
    by_cases hx : p x = true
    · rw [if_pos hx]
      constructor
      · intro h
        cases h
        exact ⟨x, rfl, hx, by simp⟩
      · rintro ⟨c, heq, hc, ha⟩
        cases a with
        | nil =>
          cases heq
          rfl
        | cons y a =>
          cases heq
          exact absurd hx (by simp [ha x (by simp)])
    · rw [if_neg hx]
      constructor
      · intro h
        obtain ⟨⟨a', b'⟩, hcut, heq⟩ := Option.map_eq_some_iff.mp h
        cases heq
        obtain ⟨c, rfl, hc, ha⟩ := ih.mp hcut
        exact ⟨c, rfl, hc, by simpa [hx] using ha⟩
      · rintro ⟨c, heq, hc, ha⟩
        cases a with
        | nil =>
          cases heq
          exact absurd hc hx
        | cons y a =>
          cases heq
          have hcut := ih.mpr ⟨c, rfl, hc, fun x hx => ha x (by simp [hx])⟩
          rw [hcut]
          rfl

theorem after?_eq_some_iff : after? a cs = some b ↔ cs = a ++ b := by
  induction a generalizing cs with
  | nil => simp [after?, eq_comm]
  | cons x a ih =>
    cases cs with
    | nil => simp [after?]
    | cons y cs =>
      rw [after?]
      by_cases h : x = y
      · rw [if_pos h, ih]
        simp [h]
      · rw [if_neg h]
        simp [Ne.symm h]

theorem after?_isSome : (after? a cs).isSome = true ↔ ∃ b, cs = a ++ b := by
  simp only [Option.isSome_iff_exists, after?_eq_some_iff]

theorem before?_eq_some_iff : before? a cs = some b ↔ cs = b ++ a := by
  simp only [before?, Option.map_eq_some_iff, after?_eq_some_iff]
  constructor
  · rintro ⟨front, hrev, rfl⟩
    rw [← List.reverse_reverse cs, hrev, List.reverse_append, List.reverse_reverse]
  · rintro rfl
    exact ⟨b.reverse, List.reverse_append, List.reverse_reverse b⟩

theorem wordsFrom_noBlank (hw : NoBlank w) (acc : List Char) :
    wordsFrom (w ++ cs) acc = wordsFrom cs (w.reverse ++ acc) := by
  induction w generalizing acc with
  | nil => rfl
  | cons c w ih =>
    have hc : isBlank c = false := hw c (by simp)
    have hw' : NoBlank w := fun x hx => hw x (by simp [hx])
    rw [List.cons_append, wordsFrom, if_neg (by simp [hc]), ih hw']
    simp

def EndsWord (cs : List Char) : Prop :=
  ∀ c, cs.head? = some c → isBlank c = true

theorem wordsFrom_endsWord {acc : List Char} (hacc : acc ≠ []) (h : EndsWord cs) :
    wordsFrom cs acc = acc.reverse :: words cs := by
  have hne : acc.isEmpty = false := by simpa using hacc
  cases cs with
  | nil =>
    cases acc with
    | nil => exact absurd rfl hacc
    | cons c acc => simp [wordsFrom, words]
  | cons c cs =>
    have hc : isBlank c = true := h c rfl
    simp [words, wordsFrom, hc, hne]

theorem words_blank {gap : List Char} (h : AllBlank gap) : words (gap ++ cs) = words cs := by
  induction gap with
  | nil => rfl
  | cons c gap ih =>
    have hc : isBlank c = true := h c (by simp)
    rw [← ih fun x hx => h x (by simp [hx])]
    simp [words, wordsFrom, hc]

theorem words_word {gap tail : List Char} (hgap : AllBlank gap) (hw : NoBlank w) (hne : w ≠ [])
    (htail : EndsWord tail) : words (gap ++ w ++ tail) = w :: words tail := by
  have hacc : w.reverse ++ [] ≠ [] := by simpa using hne
  rw [List.append_assoc, words_blank hgap, words, wordsFrom_noBlank hw, wordsFrom_endsWord hacc htail]
  simp

theorem words_allBlank (h : AllBlank cs) : words cs = [] := by
  have hw : words (cs ++ []) = words [] := words_blank h
  rw [List.append_nil] at hw
  exact hw

theorem exists_word (h : ¬ AllBlank cs) : ∃ gap w tail, cs = gap ++ w ++ tail ∧
    AllBlank gap ∧ NoBlank w ∧ w ≠ [] ∧ EndsWord tail := by
  obtain ⟨gap, hcs, hgap, hhead⟩ := (@dropWhile_eq_iff isBlank cs _).mp rfl
  obtain ⟨w, hrest, hw, htail⟩ := (@dropWhile_eq_iff (fun c => !isBlank c) (cs.dropWhile isBlank) _).mp rfl
  refine ⟨gap, w, _, ?_, hgap, fun c hc => by simpa using hw c hc, ?_, fun c hc => by simpa using htail c hc⟩
  · rw [List.append_assoc, ← hrest]
    exact hcs
  · rintro rfl
    cases hnil : cs.dropWhile isBlank with
    | nil =>
      rw [hnil, List.append_nil] at hcs
      exact h (hcs ▸ hgap)
    | cons c rest =>
      rw [List.nil_append] at hrest
      have hblank := hhead c (by rw [hnil]; rfl)
      have hsolid := htail c (by rw [← hrest, hnil]; rfl)
      simp [hblank] at hsolid

theorem words_eq_cons_iff : words cs = w :: ws ↔
    ∃ gap tail, cs = gap ++ w ++ tail ∧
      AllBlank gap ∧ NoBlank w ∧ w ≠ [] ∧ EndsWord tail ∧ words tail = ws := by
  constructor
  · intro h
    have hcs : ¬ AllBlank cs := fun hall => by
      rw [words_allBlank hall] at h
      cases h
    obtain ⟨gap, w', tail, rfl, hgap, hw, hne, htail⟩ := exists_word hcs
    rw [words_word hgap hw hne htail] at h
    cases h
    exact ⟨gap, tail, rfl, hgap, hw, hne, htail, rfl⟩
  · rintro ⟨gap, tail, rfl, hgap, hw, hne, htail, rfl⟩
    exact words_word hgap hw hne htail

end StreamScout.Text
