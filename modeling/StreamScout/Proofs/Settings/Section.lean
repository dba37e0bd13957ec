import StreamScout.Proofs.Keyed
import StreamScout.Settings.Reader

namespace StreamScout.Settings.Section

open StreamScout.Toml (Item Entries)

variable {α : Type} {s : Section α} {es : Entries} {a a' : α} {k : String}

theorem ofEntries_known {v : Item} (hk : k ∈ s.keys) (h : s.ofEntries ((k, v) :: es) a = .ok a') :
    ∃ a₁, s.set k v a = .ok a₁ ∧ s.ofEntries es a₁ = .ok a' := by
  rw [ofEntries, if_pos (List.contains_iff_mem.mpr hk)] at h
  cases hset : s.set k v a with
  | error e =>
    rw [hset] at h
    cases h
  | ok a₁ =>
    rw [hset] at h
    exact ⟨a₁, rfl, h⟩

theorem ofEntries_unknown (v : Item) (hk : k ∉ s.keys) : s.ofEntries ((k, v) :: es) a = s.ofEntries es a := by
  rw [ofEntries, if_neg fun h => hk (List.contains_iff_mem.mp h)]

theorem exists_ofEntries_iff {reads : String → Item → Prop}
    (hset : ∀ k ∈ s.keys, ∀ v, (k, v) ∈ es → ∀ a, (∃ a', s.set k v a = .ok a') ↔ reads k v) :
    (∃ a', s.ofEntries es a = .ok a') ↔ ∀ k ∈ s.keys, ∀ v, (k, v) ∈ es → reads k v := by
  induction es generalizing a with
  | nil => exact ⟨fun _ _ _ _ h => absurd h List.not_mem_nil, fun _ => ⟨a, rfl⟩⟩
  | cons e es ih =>
    obtain ⟨key, w⟩ := e
    have hrest : ∀ k ∈ s.keys, ∀ v, (k, v) ∈ es → ∀ a, (∃ a', s.set k v a = .ok a') ↔ reads k v :=
      fun k hk v hv => hset k hk v (List.mem_cons_of_mem _ hv)
    by_cases hkey : key ∈ s.keys
    · have hhead := hset key hkey w List.mem_cons_self a
      constructor
      · rintro ⟨a', h⟩ k hk v hv
        obtain ⟨a₁, h₁, h₂⟩ := ofEntries_known hkey h
        rcases List.mem_cons.mp hv with heq | hv
        · cases heq
          exact hhead.mp ⟨a₁, h₁⟩
        · exact (ih hrest).mp ⟨a', h₂⟩ k hk v hv
      · intro hall
        obtain ⟨a₁, h₁⟩ := hhead.mpr (hall key hkey w List.mem_cons_self)
        rw [ofEntries, if_pos (List.contains_iff_mem.mpr hkey), h₁]
        exact (ih hrest).mpr fun k hk v hv => hall k hk v (List.mem_cons_of_mem _ hv)
    · rw [ofEntries_unknown w hkey, ih hrest]
      constructor
      · intro hall k hk v hv
        rcases List.mem_cons.mp hv with heq | hv
        · cases heq
          exact absurd hk hkey
        · exact hall k hk v hv
      · exact fun hall k hk v hv => hall k hk v (List.mem_cons_of_mem _ hv)

theorem ofEntries_told {told : (String → Option Item) → α → α} (hnone : ∀ a, told (fun _ => none) a = a)
    (hcongr : ∀ f g a, (∀ k ∈ s.keys, f k = g k) → told f a = told g a)
    (hset : ∀ k ∈ s.keys, ∀ v, (k, v) ∈ es → ∀ a a', s.set k v a = .ok a' → ∀ f g, f k = none →
      (∀ key, g key = if key = k then some v else f key) → told f a' = told g a)
    (distinct : Keyed.Distinct es) (h : s.ofEntries es a = .ok a') : a' = told (Keyed.get? · es) a := by
  induction es generalizing a with
  | nil =>
    cases h
    exact (hnone _).symm
  | cons e es ih =>
    obtain ⟨k, v⟩ := e
    obtain ⟨hnot, hrest⟩ := List.nodup_cons.mp distinct
    have ih' {a : α} (h : s.ofEntries es a = .ok a') : a' = told (Keyed.get? · es) a :=
      ih (fun k hk v hv => hset k hk v (List.mem_cons_of_mem _ hv)) hrest h
    have hget (key : String) :
        Keyed.get? key ((k, v) :: es) = if key = k then some v else Keyed.get? key es := by
      rw [Keyed.get?]
      simp only [eq_comm]
    by_cases hk : k ∈ s.keys
    · obtain ⟨a₁, h₁, h₂⟩ := ofEntries_known hk h
      rw [ih' h₂]
      exact hset k hk v List.mem_cons_self a a₁ h₁ _ _ (Keyed.get?_eq_none_iff.mpr hnot) hget
    · rw [ofEntries_unknown v hk] at h
      rw [ih' h]
      apply hcongr
      intro key hkey
      have hne : key ≠ k := by
        rintro rfl
        exact hk hkey
      rw [hget, if_neg hne]

end StreamScout.Settings.Section
