import Mathlib.Data.List.Perm.Basic
import StreamScout.Keyed

namespace StreamScout.Keyed

open scoped List

variable {α : Type} {m : Keyed α} {e : String × α} {k key : String} {v : α}

def keys (m : Keyed α) : List String :=
  m.map (·.1)

def values (m : Keyed α) : List α :=
  m.map (·.2)

def Distinct (m : Keyed α) : Prop :=
  m.keys.Nodup

theorem drop_cons_same (m : Keyed α) : drop k ((k, v) :: m) = drop k m := by
  simp [drop]

theorem drop_cons_other (h : key ≠ k) (m : Keyed α) : drop k ((key, v) :: m) = (key, v) :: drop k m := by
  simp [drop, h]

theorem mem_drop : e ∈ m.drop k ↔ e ∈ m ∧ e.1 ≠ k := by
  simp [drop]

theorem drop_eq_self (h : k ∉ m.keys) : m.drop k = m := by
  refine List.filter_eq_self.mpr fun e he => ?_
  have hne : e.1 ≠ k := by
    rintro rfl
    exact h (List.mem_map_of_mem he)
  simpa using hne

theorem mem_of_get? (h : m.get? k = some v) : (k, v) ∈ m := by
  induction m with
  | nil => cases h
  | cons e m ih =>
    obtain ⟨key, w⟩ := e
    rw [get?] at h
    split at h
    next hkey =>
      cases h
      rw [hkey]
      exact List.mem_cons_self
    next => exact List.mem_cons_of_mem _ (ih h)

theorem get?_eq_none_iff : m.get? k = none ↔ k ∉ m.keys := by
  induction m with
  | nil => simp [get?, keys]
  | cons e m ih =>
    obtain ⟨key', w⟩ := e
    rw [get?, keys, List.map_cons, List.mem_cons, not_or]
    split
    next heq => simp [heq]
    next hne =>
      rw [ih]
      exact (and_iff_right (Ne.symm hne)).symm

theorem get?_eq_some_iff (h : m.Distinct) : m.get? k = some v ↔ (k, v) ∈ m := by
  constructor
  · exact mem_of_get?
  · intro hmem
    induction m with
    | nil => cases hmem
    | cons e m ih =>
      obtain ⟨key', w⟩ := e
      obtain ⟨hnot, hrest⟩ := List.nodup_cons.mp h
      rw [get?]
      rcases List.mem_cons.mp hmem with heq | hmem
      · cases heq
        rw [if_pos rfl]
      · have hne : key' ≠ k := by
          rintro rfl
          have hmem' : (key', v).1 ∈ keys m := List.mem_map_of_mem hmem
          exact hnot hmem'
        rw [if_neg hne]
        exact ih hrest hmem

theorem get?_drop (m : Keyed α) : (m.drop k).get? key = if key = k then none else m.get? key := by
  induction m with
  | nil => simp [drop, get?]
  | cons e m ih =>
    obtain ⟨key', w⟩ := e
    by_cases hk : key' = k
    · subst hk
      rw [drop_cons_same, ih, get?]
      split
      next => rfl
      next hne => rw [if_neg (Ne.symm hne)]
    · rw [drop_cons_other hk, get?, ih, get?]
      split
      next heq =>
        subst heq
        rw [if_neg hk]
      next => rfl

theorem get?_put (m : Keyed α) : (m.put k v).get? key = if key = k then some v else m.get? key := by
  induction m with
  | nil =>
    rw [put, get?, get?]
    exact if_congr eq_comm rfl rfl
  | cons e m ih =>
    obtain ⟨key', w⟩ := e
    rw [put]
    split
    next heq =>
      subst heq
      rw [get?, get?]
      split
      next hkey => rw [if_pos hkey.symm]
      next hkey => rw [if_neg (Ne.symm hkey)]
    next hne =>
      rw [get?, ih, get?]
      split
      next heq =>
        subst heq
        rw [if_neg hne]
      next => rfl

theorem get?_drop_same : (m.drop k).get? k = none := by
  rw [get?_drop, if_pos rfl]

theorem get?_drop_other (h : key ≠ k) : (m.drop k).get? key = m.get? key := by
  rw [get?_drop, if_neg h]

theorem get?_put_same : (m.put k v).get? k = some v := by
  rw [get?_put, if_pos rfl]

theorem get?_put_other (h : key ≠ k) : (m.put k v).get? key = m.get? key := by
  rw [get?_put, if_neg h]

theorem mem_put (h : e ∈ m.put k v) : e = (k, v) ∨ e ∈ m := by
  induction m with
  | nil => exact .inl (List.mem_singleton.mp h)
  | cons e' m ih =>
    obtain ⟨key, w⟩ := e'
    rw [put] at h
    split at h
    next hkey =>
      rcases List.mem_cons.mp h with he | he
      · exact .inl (by rw [he, hkey])
      · exact .inr (List.mem_cons_of_mem _ he)
    next =>
      rcases List.mem_cons.mp h with he | he
      · exact .inr (by rw [he]; exact List.mem_cons_self)
      · exact (ih he).imp_right (List.mem_cons_of_mem _)

theorem mem_keys_drop : k ∈ (m.drop key).keys ↔ k ∈ m.keys ∧ k ≠ key := by
  constructor
  · intro h
    obtain ⟨e, he, rfl⟩ := List.mem_map.mp h
    exact ⟨List.mem_map_of_mem (mem_drop.mp he).1, (mem_drop.mp he).2⟩
  · rintro ⟨h, hne⟩
    obtain ⟨e, he, rfl⟩ := List.mem_map.mp h
    exact List.mem_map_of_mem (mem_drop.mpr ⟨he, hne⟩)

theorem mem_keys_put : k ∈ (m.put key v).keys ↔ k = key ∨ k ∈ m.keys := by
  induction m with
  | nil => simp [put, keys]
  | cons e m ih =>
    obtain ⟨key', w⟩ := e
    change k ∈ keys (if key' = key then (key', v) :: m else (key', w) :: put key v m) ↔ _
    split
    next hkey =>
      subst hkey
      simp [keys]
    next =>
      have hcons : k ∈ keys ((key', w) :: put key v m) ↔ k = key' ∨ k ∈ keys (put key v m) := List.mem_cons
      rw [hcons, ih]
      simp only [keys, List.map_cons, List.mem_cons]
      exact or_left_comm

theorem Distinct.tail (h : Distinct (e :: m)) : Distinct m :=
  (List.nodup_cons.mp h).2

theorem perm_drop (h : m.Distinct) : m ~ (m.get? k).toList.map (k, ·) ++ m.drop k := by
  induction m with
  | nil => exact .refl _
  | cons e m ih =>
    obtain ⟨key, w⟩ := e
    by_cases hk : key = k
    · subst hk
      have hnot : key ∉ keys m := (List.nodup_cons.mp h).1
      rw [drop_cons_same, drop_eq_self hnot]
      simp [get?]
    · rw [drop_cons_other hk, get?, if_neg hk]
      exact ((ih h.tail).cons _).trans List.perm_middle.symm

theorem perm_put (h : m.Distinct) : m.put k v ~ (k, v) :: m.drop k := by
  induction m with
  | nil => exact .refl _
  | cons e m ih =>
    obtain ⟨key, w⟩ := e
    rw [put]
    split
    next hk =>
      subst hk
      have hnot : key ∉ keys m := (List.nodup_cons.mp h).1
      rw [drop_cons_same, drop_eq_self hnot]
    next hk =>
      rw [drop_cons_other hk]
      exact ((ih h.tail).cons _).trans (.swap _ _ _)

theorem distinct_drop (h : m.Distinct) : (m.drop k).Distinct :=
  h.sublist (List.filter_sublist.map _)

theorem distinct_put (h : m.Distinct) : (m.put k v).Distinct := by
  have hkeys : (m.put k v).keys ~ k :: (m.drop k).keys := (perm_put h).map Prod.fst
  refine hkeys.nodup_iff.mpr (List.nodup_cons.mpr ⟨fun hk => ?_, distinct_drop h⟩)
  obtain ⟨e, he, heq⟩ := List.mem_map.mp hk
  exact (mem_drop.mp he).2 heq

theorem values_drop (h : m.Distinct) : m.values ~ (m.get? k).toList ++ (m.drop k).values := by
  have hperm := (@perm_drop _ m k h).map Prod.snd
  simpa [values, Function.comp_def] using hperm

theorem values_put (h : m.Distinct) : (m.put k v).values ~ v :: (m.drop k).values :=
  (perm_put h).map Prod.snd

end StreamScout.Keyed
