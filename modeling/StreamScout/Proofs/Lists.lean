namespace StreamScout

theorem snoc_eq_append_cons {α : Type} {xs before after : List α} {x y : α}
    (h : xs ++ [y] = before ++ x :: after) :
    after = [] ∧ xs = before ∧ y = x ∨ ∃ front, after = front ++ [y] ∧ xs = before ++ x :: front := by
  rcases List.eq_nil_or_concat after with rfl | ⟨front, last, rfl⟩
  · obtain ⟨hxs, hy⟩ := List.append_inj' h rfl
    exact .inl ⟨rfl, hxs, List.singleton_inj.mp hy⟩
  · rw [List.concat_eq_append, ← List.cons_append, ← List.append_assoc] at h
    obtain ⟨hxs, hy⟩ := List.append_inj' h rfl
    exact .inr ⟨front, by rw [List.singleton_inj.mp hy, List.concat_eq_append], hxs⟩

theorem exists_split_snoc {α : Type} {xs : List α} {x y : α} {P : List α → Prop} {q : Prop} (hnil : P [])
    (hsnoc : ∀ ys, P (ys ++ [y]) ↔ P ys ∧ q) :
    (∃ before after, xs ++ [y] = before ++ x :: after ∧ P after) ↔
      y = x ∨ (∃ before after, xs = before ++ x :: after ∧ P after) ∧ q := by
  constructor
  · rintro ⟨before, after, heq, hafter⟩
    rcases snoc_eq_append_cons heq with ⟨-, -, hy⟩ | ⟨front, rfl, hxs⟩
    · exact .inl hy
    · obtain ⟨hfront, hq⟩ := (hsnoc front).mp hafter
      exact .inr ⟨⟨before, front, hxs, hfront⟩, hq⟩
  · rintro (rfl | ⟨⟨before, after, rfl, hafter⟩, hq⟩)
    · exact ⟨xs, [], rfl, hnil⟩
    · exact ⟨before, after ++ [y], by simp, (hsnoc after).mpr ⟨hafter, hq⟩⟩

theorem exists_set_split {α : Type} {xs : List α} {x : α} {i : Nat} (h : xs[i]? = some x) :
    ∃ front back, xs = front ++ x :: back ∧ ∀ y, xs.set i y = front ++ y :: back := by
  obtain ⟨hi, rfl⟩ := List.getElem?_eq_some_iff.mp h
  have hset : ∀ y, xs.set i y = xs.take i ++ y :: xs.drop (i + 1) := by
    intro y
    rw [List.set_eq_take_append_cons_drop, if_pos hi]
  refine ⟨xs.take i, xs.drop (i + 1), ?_, hset⟩
  rw [← hset, List.set_getElem_self]

end StreamScout
