import StreamScout.Proofs.Keyed
import StreamScout.Proofs.Resolve.Calls

namespace StreamScout.Resolve

open StreamScout.Service (Endpoint)

variable {η : Type} {t : Table η} {calls : List (Call η)} {c : Call η} {f k : String} {e : Endpoint} {h : η}

namespace Table

theorem request_known (hf : t.resolved.get? f = some e) : t.request f h = (t, some (h, e)) := by
  simp only [request, hf]

theorem request_unknown (hf : t.resolved.get? f = none) :
    t.request f h = ({ t with pending := t.pending.put f h }, none) := by
  simp only [request, hf]

theorem request_resolved : (t.request f h).1.resolved = t.resolved := by
  unfold request
  split <;> rfl

theorem request_other (hk : k ≠ f) : k ∈ (t.request f h).1.pending.keys ↔ k ∈ t.pending.keys := by
  cases hf : t.resolved.get? f with
  | some e => rw [request_known hf]
  | none =>
    rw [request_unknown hf, Keyed.mem_keys_put]
    exact or_iff_right hk

theorem request_parks (hf : f ∉ t.resolved.keys) : f ∈ (t.request f h).1.pending.keys := by
  rw [request_unknown (Keyed.get?_eq_none_iff.mpr hf)]
  exact Keyed.mem_keys_put.mpr (.inl rfl)

theorem request_answer_iff {answer : η × Endpoint} :
    (t.request f h).2 = some answer ↔ ∃ e, t.resolved.get? f = some e ∧ answer = (h, e) := by
  cases hf : t.resolved.get? f with
  | some e => simp [request_known hf, eq_comm]
  | none => simp [request_unknown hf]

theorem request_answered_iff : (t.request f h).2.isSome ↔ f ∈ t.resolved.keys := by
  rw [← not_iff_not, ← Keyed.get?_eq_none_iff, Option.not_isSome_iff_eq_none]
  cases hf : t.resolved.get? f with
  | some e => simp [request_known hf]
  | none => simp [request_unknown hf]

end Table

section WellFormed

/-- Each map has one entry for a key, and no key is in both. -/
structure WellFormed (t : Table η) : Prop where
  pending : t.pending.Distinct
  resolved : t.resolved.Distinct
  apart : t.pending.keys.Disjoint t.resolved.keys

theorem wellFormed_empty : WellFormed ({} : Table η) :=
  ⟨List.nodup_nil, List.nodup_nil, List.disjoint_nil_left _⟩

theorem WellFormed.request (hw : WellFormed t) : WellFormed (t.request f h).1 := by
  cases hf : t.resolved.get? f with
  | some e =>
    rw [Table.request_known hf]
    exact hw
  | none =>
    rw [Table.request_unknown hf]
    refine ⟨Keyed.distinct_put hw.pending, hw.resolved, fun k hp hr => ?_⟩
    rcases Keyed.mem_keys_put.mp hp with rfl | hp
    · exact Keyed.get?_eq_none_iff.mp hf hr
    · exact hw.apart hp hr

theorem WellFormed.resolve (hw : WellFormed t) : WellFormed (t.resolve f e).1 := by
  refine ⟨Keyed.distinct_drop hw.pending, Keyed.distinct_put hw.resolved, fun k hp hr => ?_⟩
  obtain ⟨hp, hne⟩ := Keyed.mem_keys_drop.mp hp
  rcases Keyed.mem_keys_put.mp hr with heq | hr
  · exact hne heq
  · exact hw.apart hp hr

theorem WellFormed.giveUp (hw : WellFormed t) : WellFormed (t.giveUp f).1 := by
  refine ⟨Keyed.distinct_drop hw.pending, hw.resolved, fun k hp hr => ?_⟩
  exact hw.apart (Keyed.mem_keys_drop.mp hp).1 hr

theorem WellFormed.withdraw (hw : WellFormed t) : WellFormed (t.withdraw f).1 := by
  refine ⟨Keyed.distinct_drop hw.pending, Keyed.distinct_drop hw.resolved, fun k hp hr => ?_⟩
  exact hw.apart (Keyed.mem_keys_drop.mp hp).1 (Keyed.mem_keys_drop.mp hr).1

theorem WellFormed.perform (hw : WellFormed t) (c : Call η) : WellFormed (c.perform t) := by
  cases c with
  | request f h => exact hw.request
  | resolve f e => exact hw.resolve
  | giveUp f => exact hw.giveUp
  | withdraw f => exact hw.withdraw

end WellFormed

section Lookup

theorem perform_other (hc : c.fullname ≠ k) :
    (c.perform t).pending.get? k = t.pending.get? k ∧ (c.perform t).resolved.get? k = t.resolved.get? k := by
  have hk := Ne.symm hc
  cases c with
  | request f h =>
    cases hf : t.resolved.get? f with
    | some e =>
      rw [Call.perform, Table.request_known hf]
      exact ⟨rfl, rfl⟩
    | none =>
      rw [Call.perform, Table.request_unknown hf]
      exact ⟨Keyed.get?_put_other hk, rfl⟩
  | resolve f e => exact ⟨Keyed.get?_drop_other hk, Keyed.get?_put_other hk⟩
  | giveUp f => exact ⟨Keyed.get?_drop_other hk, rfl⟩
  | withdraw f => exact ⟨Keyed.get?_drop_other hk, Keyed.get?_drop_other hk⟩

theorem perform_answer (hc : c.Answers k) : (c.perform t).pending.get? k = none := by
  obtain rfl : c.fullname = k := hc.fullname_eq
  cases c with
  | request f h => exact hc.elim
  | _ => exact Keyed.get?_drop_same

end Lookup

section Held

structure Held (calls : List (Call η)) (t : Table η) : Prop where
  wellFormed : WellFormed t
  known : ∀ k e, t.resolved.get? k = some e ↔ Known k e calls
  awaited : ∀ k h, t.pending.get? k = some h ↔ Awaits k h calls

theorem held_nil : Held [] ({} : Table η) where
  wellFormed := wellFormed_empty
  known _ _ := iff_of_false nofun not_known_nil
  awaited _ _ := iff_of_false nofun not_awaits_nil

theorem Held.unknown_iff (hh : Held calls t) : Unknown k calls ↔ t.resolved.get? k = none := by
  simp only [Unknown, ← hh.known, Option.eq_none_iff_forall_ne_some, ne_eq]

theorem Held.known_perform (hh : Held calls t) (c : Call η) :
    (c.perform t).resolved.get? k = some e ↔ Known k e (calls ++ [c]) := by
  by_cases hc : c.fullname = k
  · subst hc
    cases c with
    | request f h =>
      rw [Call.perform, Table.request_resolved, hh.known]
      exact known_snoc_request.symm
    | resolve f e' =>
      change (t.resolved.put f e').get? f = some e ↔ Known f e (calls ++ [.resolve f e'])
      rw [Keyed.get?_put_same, known_snoc_resolve, Option.some.injEq]
    | giveUp f => exact (hh.known f e).trans known_snoc_giveUp.symm
    | withdraw f =>
      change (t.resolved.drop f).get? f = some e ↔ Known f e (calls ++ [.withdraw f])
      rw [Keyed.get?_drop_same]
      exact iff_of_false nofun not_known_snoc_withdraw
  · rw [(perform_other hc).2, hh.known, known_snoc_other hc]

theorem Held.awaited_request (hh : Held calls t) (h' : η) :
    (t.request k h').1.pending.get? k = some h ↔ Awaits k h (calls ++ [.request k h']) := by
  cases hk : t.resolved.get? k with
  | some e =>
    have hknown : ¬ Unknown k calls := by simp [hh.unknown_iff, hk]
    rw [Table.request_known hk, awaits_snoc_known hknown]
    exact hh.awaited k h
  | none =>
    rw [Table.request_unknown hk, Keyed.get?_put_same, awaits_snoc_unknown (hh.unknown_iff.mpr hk),
      Option.some.injEq]

theorem Held.awaited_perform (hh : Held calls t) (c : Call η) :
    (c.perform t).pending.get? k = some h ↔ Awaits k h (calls ++ [c]) := by
  rcases call_cases k c with hother | hanswers | ⟨h', rfl⟩
  · rw [(perform_other hother).1, hh.awaited, awaits_snoc_other hother]
  · rw [perform_answer hanswers]
    exact iff_of_false nofun (not_awaits_snoc_answer hanswers)
  · exact hh.awaited_request h'

theorem held_perform (hh : Held calls t) (c : Call η) : Held (calls ++ [c]) (c.perform t) where
  wellFormed := hh.wellFormed.perform c
  known _ _ := hh.known_perform c
  awaited _ _ := hh.awaited_perform c

def Table.after (calls : List (Call η)) : Table η :=
  calls.foldl Call.perform {}

theorem held_after (calls : List (Call η)) : Held calls (Table.after calls) := by
  induction calls using List.reverseRecOn with
  | nil => exact held_nil
  | append_singleton calls c ih =>
    rw [Table.after, List.foldl_append]
    exact held_perform ih c

end Held

structure Reflects (calls : List (Call η)) (t : Table η) : Prop extends Held calls t where
  answered : ∀ k h, (t.request k h).2.isSome ↔ k ∈ t.resolved.keys
  answer : ∀ k h answer, (t.request k h).2 = some answer ↔ ∃ e, t.resolved.get? k = some e ∧ answer = (h, e)
  released : ∀ k h e, ((t.resolve k e).2 = some h ↔ Awaits k h calls) ∧
    ((t.giveUp k).2 = some h ↔ Awaits k h calls) ∧ ((t.withdraw k).2 = some h ↔ Awaits k h calls)
  others : ∀ (c : Call η) k, c.fullname ≠ k →
    (c.perform t).pending.get? k = t.pending.get? k ∧ (c.perform t).resolved.get? k = t.resolved.get? k

theorem table_reflects_calls (calls : List (Call η)) : Reflects calls (Table.after calls) := by
  have hh := held_after calls
  constructor
  case toHeld => exact hh
  case answered => exact fun k h => Table.request_answered_iff
  case answer => exact fun k h answer => Table.request_answer_iff
  case released => exact fun k h e => ⟨hh.awaited k h, hh.awaited k h, hh.awaited k h⟩
  case others => exact fun c k hc => perform_other hc

example (e : Endpoint) :
    Table.after [.request "studio" 1, .request "studio" 2, .resolve "desk" e, .request "desk" 3] =
      { pending := [("studio", 2)], resolved := [("desk", e)] } := rfl

end StreamScout.Resolve
