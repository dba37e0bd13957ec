import StreamScout.Proofs.Stream.Feed
import StreamScout.Stream.Pieces

namespace StreamScout.Stream.Pieces

variable {α : Type} {capacity : Nat}

theorem refill_rest (capacity : Nat) (pending : List (List UInt8)) :
    (refill capacity pending).rest = pending.flatten := by
  induction pending with
  | nil => rfl
  | cons piece more ih =>
    cases piece with
    | nil => exact ih
    | cons b bs =>
      have hpiece := List.take_append_drop capacity (b :: bs)
      simp only [refill, rest, List.flatten_cons]
      split
      · rename_i hempty
        rw [List.isEmpty_iff.mp hempty, List.append_nil] at hpiece
        rw [hpiece]
      · rw [List.flatten_cons, ← List.append_assoc, hpiece]

theorem refill_held (hcapacity : 1 ≤ capacity) (pending : List (List UInt8))
    (h : (refill capacity pending).held = []) : pending.flatten = [] := by
  induction pending with
  | nil => rfl
  | cons piece more ih =>
    cases piece with
    | nil => exact ih h
    | cons b bs =>
      rcases List.take_eq_nil_iff.mp h with hzero | hnil
      · omega
      · cases hnil

theorem fill_rest (capacity : Nat) (s : Pieces) : (s.fill capacity).rest = s.rest := by
  rw [fill]
  split
  · rename_i hempty
    rw [refill_rest, rest, List.isEmpty_iff.mp hempty, List.nil_append]
  · rfl

theorem fill_held (hcapacity : 1 ≤ capacity) (s : Pieces) (h : (s.fill capacity).held = []) : s.rest = [] := by
  rw [fill] at h
  split at h
  · rename_i hempty
    rw [rest, List.isEmpty_iff.mp hempty, refill_held hcapacity s.pending h, List.nil_append]
  · rename_i hfull
    simp [h] at hfull

theorem fill_shows (hcapacity : 1 ≤ capacity) (s : Pieces) (h : s.rest ≠ []) :
    ∃ b bs later, (s.fill capacity).held = b :: bs ∧ s.rest = b :: bs ++ later ∧
      ∀ n ≤ (b :: bs).length, rest ⟨(s.fill capacity).held.drop n, (s.fill capacity).pending⟩ = s.rest.drop n := by
  obtain ⟨b, bs, hheld⟩ := List.exists_cons_of_ne_nil fun hnil => h (fill_held hcapacity s hnil)
  have hrest := fill_rest capacity s
  rw [rest, hheld] at hrest
  refine ⟨b, bs, (s.fill capacity).pending.flatten, hheld, hrest.symm, fun n hn => ?_⟩
  rw [rest, hheld, ← hrest, List.drop_append_of_le_length hn]

theorem fill_spent (s : Pieces) (h : s.rest = []) : (s.fill capacity).held = [] ∧ (s.fill capacity).rest = [] := by
  have hrest := fill_rest capacity s
  rw [h] at hrest
  exact ⟨(List.append_eq_nil_iff.mp hrest).1, hrest⟩

theorem carries (hcapacity : 1 ≤ capacity) : (feed capacity).Carries rest True where
  shows s h := by
    obtain ⟨b, bs, later, hheld, hrest, hconsume⟩ := fill_shows hcapacity s h
    exact ⟨b, bs, later, s.fill capacity, by simp [feed, hheld], hrest, hconsume⟩
  spent s h := by
    obtain ⟨hheld, hrest⟩ := @fill_spent capacity s h
    exact .inl ⟨trivial, s.fill capacity, by simp [feed, hheld], hrest⟩

theorem run_eq (hcapacity : 1 ≤ capacity) (plan : Plan α) (pieces : List (List UInt8)) :
    ∃ s, (feed capacity).run plan (ofList pieces) = (.ok (plan.run pieces.flatten), s) ∧
      plan.used pieces.flatten ++ s.rest = pieces.flatten :=
  (carries hcapacity).run_closed trivial plan (ofList pieces)

def openFeed (capacity : Nat) : Feed Pieces Unit where
  fill s := (if (s.fill capacity).held.isEmpty then .error () else .ok (s.fill capacity).held, s.fill capacity)
  consume n s := { s with held := s.held.drop n }

theorem carries_open (hcapacity : 1 ≤ capacity) : (openFeed capacity).Carries rest False where
  shows s h := by
    obtain ⟨b, bs, later, hheld, hrest, hconsume⟩ := fill_shows hcapacity s h
    exact ⟨b, bs, later, s.fill capacity, by simp [openFeed, hheld], hrest, hconsume⟩
  spent s h := by
    obtain ⟨hheld, -⟩ := @fill_spent capacity s h
    exact .inr ⟨not_false, (), s.fill capacity, by simp [openFeed, hheld]⟩

def answer? (capacity : Nat) (plan : Plan α) (pieces : List (List UInt8)) : Option α :=
  match ((openFeed capacity).run plan (ofList pieces)).1 with
  | .ok v => some v
  | .error _ => none

theorem answer?_eq (hcapacity : 1 ≤ capacity) (plan : Plan α) (pieces : List (List UInt8)) :
    answer? capacity plan pieces = plan.decided? pieces.flatten := by
  have hhalts := (carries_open hcapacity).run_open not_false plan (ofList pieces)
  rw [answer?]
  generalize ((openFeed capacity).run plan (ofList pieces)).1 = r at hhalts ⊢
  cases hhalts with
  | decided value => exact value.symm
  | waits undecided => exact undecided.symm

end StreamScout.Stream.Pieces
