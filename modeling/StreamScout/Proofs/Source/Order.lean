import Mathlib.Data.List.Basic
import StreamScout.Proofs.Text.Utf8
import StreamScout.Source.Digest

namespace StreamScout.Source

variable {τ : Type} {a b c : String × String} {xs ys : List (Source τ)}

def keyLt (a b : String × String) : Prop :=
  Utf8.bytes a.1 < Utf8.bytes b.1 ∨ a.1 = b.1 ∧ Utf8.bytes a.2 < Utf8.bytes b.2

theorem keyLe_iff : keyLe a b = true ↔
    Utf8.bytes a.1 < Utf8.bytes b.1 ∨ a.1 = b.1 ∧ Utf8.bytes a.2 ≤ Utf8.bytes b.2 := by
  simp [keyLe]

theorem keyLe_total (a b : String × String) : (keyLe a b || keyLe b a) = true := by
  rw [Bool.or_eq_true, keyLe_iff, keyLe_iff]
  rcases List.le_total (Utf8.bytes a.1) (Utf8.bytes b.1) with h | h
  · rcases List.le_iff_lt_or_eq.mp h with hl | he
    · exact .inl (.inl hl)
    · have heq := Utf8.bytes_injective he
      rcases List.le_total (Utf8.bytes a.2) (Utf8.bytes b.2) with h₂ | h₂
      · exact .inl (.inr ⟨heq, h₂⟩)
      · exact .inr (.inr ⟨heq.symm, h₂⟩)
  · rcases List.le_iff_lt_or_eq.mp h with hl | he
    · exact .inr (.inl hl)
    · have heq := Utf8.bytes_injective he
      rcases List.le_total (Utf8.bytes a.2) (Utf8.bytes b.2) with h₂ | h₂
      · exact .inl (.inr ⟨heq.symm, h₂⟩)
      · exact .inr (.inr ⟨heq, h₂⟩)

theorem keyLe_trans (hab : keyLe a b = true) (hbc : keyLe b c = true) : keyLe a c = true := by
  rw [keyLe_iff] at *
  rcases hab with h₁ | ⟨h₁, h₁'⟩ <;> rcases hbc with h₂ | ⟨h₂, h₂'⟩
  · exact .inl (List.lt_trans h₁ h₂)
  · exact .inl (h₂ ▸ h₁)
  · exact .inl (h₁ ▸ h₂)
  · exact .inr ⟨h₁.trans h₂, List.le_trans h₁' h₂'⟩

theorem keyLe_refl (a : String × String) : keyLe a a = true := by
  simpa using keyLe_total a a

theorem keyLe_antisymm (hab : keyLe a b = true) (hba : keyLe b a = true) : a = b := by
  rw [keyLe_iff] at hab hba
  rcases hab with h₁ | ⟨h₁, h₁'⟩
  · rcases hba with h₂ | ⟨h₂, -⟩
    · exact absurd h₂ (List.lt_asymm h₁)
    · exact absurd h₁ (h₂ ▸ List.lt_irrefl _)
  · rcases hba with h₂ | ⟨-, h₂'⟩
    · exact absurd h₂ (h₁ ▸ List.lt_irrefl _)
    · exact Prod.ext h₁ (Utf8.bytes_injective (List.le_antisymm h₁' h₂'))

theorem keyLt_of_keyLe_of_ne (h : keyLe a b = true) (hne : a ≠ b) : keyLt a b := by
  rcases keyLe_iff.mp h with h₁ | ⟨h₁, h₂⟩
  · exact .inl h₁
  · rcases List.le_iff_lt_or_eq.mp h₂ with hl | he
    · exact .inr ⟨h₁, hl⟩
    · exact absurd (Prod.ext h₁ (Utf8.bytes_injective he)) hne

theorem mem_sort {s : Source τ} : s ∈ sort xs ↔ s ∈ xs :=
  (List.mergeSort_perm xs le).mem_iff

theorem sort_ordered (xs : List (Source τ)) : (sort xs).Pairwise fun s t => le s t = true := by
  have htrans : ∀ s t u : Source τ, le s t = true → le t u = true → le s u = true :=
    fun _ _ _ hst htu => keyLe_trans hst htu
  have htotal : ∀ s t : Source τ, (le s t || le t s) = true := fun s t => keyLe_total s.key t.key
  exact List.pairwise_mergeSort htrans htotal xs

theorem sort_sort (xs : List (Source τ)) : sort (sort xs) = sort xs :=
  List.mergeSort_of_pairwise (sort_ordered xs)

theorem sort_strict (h : (xs.map key).Nodup) : (sort xs).Pairwise fun s t => keyLt s.key t.key := by
  have hn : ((sort xs).map key).Nodup := ((List.mergeSort_perm xs le).map key).nodup_iff.mpr h
  have hne : (sort xs).Pairwise fun s t => s.key ≠ t.key := List.pairwise_map.mp hn
  exact (sort_ordered xs).imp₂ (fun _ _ hle hne => keyLt_of_keyLe_of_ne hle hne) hne

theorem sort_content (xs : List (Source τ)) :
    (sort xs).map content = (xs.map content).mergeSort fun x y => keyLe (x.1, x.2.1) (y.1, y.2.1) :=
  List.map_mergeSort fun _ _ _ _ => rfl

theorem digest_sort (xs : List (Source τ)) : digest (sort xs) = digest xs := by
  rw [digest, digestInput, sort_sort]
  rfl

def lineOf (content : String × String × String × String) : List Char :=
  Json.object
    [("name", Json.string content.1), ("domain", Json.string content.2.1), ("url", Json.string content.2.2.1),
      ("sdp", Json.string content.2.2.2)] ++ ['\n']

theorem digest_eq (xs : List (Source τ)) :
    digest xs = Sha256.hex (Utf8.encode (((sort xs).map content).flatMap lineOf)) := by
  rw [List.flatMap_map]
  rfl

theorem digest_congr (h : xs.map content = ys.map content) : digest xs = digest ys := by
  rw [digest_eq, digest_eq, sort_content, sort_content, h]

end StreamScout.Source
