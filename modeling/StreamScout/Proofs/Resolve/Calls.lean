import Mathlib.Data.List.Induction
import StreamScout.Proofs.Lists
import StreamScout.Resolve.Table

namespace StreamScout.Resolve

open StreamScout.Service (Endpoint)

inductive Call (η : Type) where
  | request (fullname : String) (resolver : η)
  | resolve (fullname : String) (endpoint : Endpoint)
  | giveUp (fullname : String)
  | withdraw (fullname : String)
  deriving DecidableEq, Repr

variable {η : Type} {calls : List (Call η)} {c : Call η} {k : String} {e e' : Endpoint} {h h' : η}

namespace Call

def fullname : Call η → String
  | .request f _ => f
  | .resolve f _ => f
  | .giveUp f => f
  | .withdraw f => f

def perform (t : Table η) : Call η → Table η
  | .request f h => (t.request f h).1
  | .resolve f e => (t.resolve f e).1
  | .giveUp f => (t.giveUp f).1
  | .withdraw f => (t.withdraw f).1

def Answers (k : String) : Call η → Prop
  | .request .. => False
  | .resolve f _ => f = k
  | .giveUp f => f = k
  | .withdraw f => f = k

theorem Answers.fullname_eq (hc : c.Answers k) : c.fullname = k := by
  cases c with
  | request f h => exact hc.elim
  | _ => exact hc

end Call

theorem call_cases (k : String) (c : Call η) : c.fullname ≠ k ∨ c.Answers k ∨ ∃ h, c = .request k h := by
  by_cases hc : c.fullname = k
  · cases c with
    | request f h =>
      obtain rfl : f = k := hc
      exact .inr (.inr ⟨h, rfl⟩)
    | _ => exact .inr (.inl hc)
  · exact .inl hc

section Known

def Known (k : String) (e : Endpoint) (calls : List (Call η)) : Prop :=
  ∃ before after, calls = before ++ .resolve k e :: after ∧ (∀ e', .resolve k e' ∉ after) ∧ .withdraw k ∉ after

def Unknown (k : String) (calls : List (Call η)) : Prop :=
  ∀ e, ¬ Known k e calls

theorem not_known_nil : ¬ Known k e ([] : List (Call η)) := by
  rintro ⟨before, after, heq, -⟩
  simp at heq

theorem known_snoc : Known k e (calls ++ [c]) ↔
    c = .resolve k e ∨ Known k e calls ∧ (∀ e', c ≠ .resolve k e') ∧ c ≠ .withdraw k := by
  refine exists_split_snoc ⟨nofun, nofun⟩ fun after => ?_
  simp only [List.mem_append, List.mem_singleton, not_or, forall_and, ne_eq, eq_comm (a := c)]
  exact and_and_and_comm

theorem known_snoc_other (hc : c.fullname ≠ k) : Known k e (calls ++ [c]) ↔ Known k e calls := by
  have hresolve : ∀ e', c ≠ .resolve k e' := by
    rintro e' rfl
    exact hc rfl
  have hwithdraw : c ≠ .withdraw k := by
    rintro rfl
    exact hc rfl
  rw [known_snoc, or_iff_right (hresolve e)]
  exact and_iff_left ⟨hresolve, hwithdraw⟩

theorem known_snoc_request : Known k e (calls ++ [.request k h]) ↔ Known k e calls := by
  simp [known_snoc]

theorem known_snoc_resolve : Known k e (calls ++ [.resolve k e']) ↔ e' = e := by
  simp [known_snoc]

theorem known_snoc_giveUp : Known k e (calls ++ [.giveUp k]) ↔ Known k e calls := by
  simp [known_snoc]

theorem not_known_snoc_withdraw : ¬ Known k e (calls ++ [.withdraw k]) := by
  simp [known_snoc]

end Known

section Awaits

/-- Of the requests for the instance that were made while it was unknown, the last is for this resolver, and it has not
been answered since. -/
def Awaits (k : String) (h : η) (calls : List (Call η)) : Prop :=
  ∃ before after, calls = before ++ .request k h :: after ∧ Unknown k before ∧ (∀ c ∈ after, ¬ c.Answers k) ∧
    ∀ mid h' rest, after = mid ++ .request k h' :: rest → ¬ Unknown k (before ++ .request k h :: mid)

theorem not_awaits_nil : ¬ Awaits k h [] := by
  rintro ⟨before, after, heq, -⟩
  simp at heq

theorem awaits_snoc : Awaits k h (calls ++ [c]) ↔
    c = .request k h ∧ Unknown k calls ∨
      Awaits k h calls ∧ ¬ c.Answers k ∧ ∀ h', c = .request k h' → ¬ Unknown k calls := by
  constructor
  · rintro ⟨before, after, heq, hunknown, hanswers, hlast⟩
    rcases snoc_eq_append_cons heq with ⟨-, rfl, rfl⟩ | ⟨front, rfl, rfl⟩
    · exact .inl ⟨rfl, hunknown⟩
    · have hfront : ∀ mid h' rest, front = mid ++ .request k h' :: rest →
          ¬ Unknown k (before ++ .request k h :: mid) := by
        rintro mid h' rest rfl
        exact hlast mid h' (rest ++ [c]) (by simp)
      refine .inr ⟨⟨before, front, rfl, hunknown, fun c' hc' => hanswers c' (by simp [hc']), hfront⟩,
        hanswers c (by simp), ?_⟩
      rintro h' rfl
      exact hlast front h' [] rfl
  · rintro (⟨rfl, hunknown⟩ | ⟨⟨before, after, rfl, hunknown, hanswers, hlast⟩, hc, hagain⟩)
    · exact ⟨calls, [], rfl, hunknown, nofun, by simp⟩
    · refine ⟨before, after ++ [c], by simp, hunknown, fun c' hc' => ?_, fun mid h' rest heq => ?_⟩
      · rcases List.mem_append.mp hc' with hold | hnew
        · exact hanswers c' hold
        · rwa [List.mem_singleton.mp hnew]
      · rcases snoc_eq_append_cons heq with ⟨-, rfl, rfl⟩ | ⟨front, rfl, rfl⟩
        · exact hagain h' rfl
        · exact hlast mid h' front rfl

theorem awaits_snoc_other (hc : c.fullname ≠ k) : Awaits k h (calls ++ [c]) ↔ Awaits k h calls := by
  have hrequest : ∀ h', c ≠ .request k h' := by
    rintro h' rfl
    exact hc rfl
  rw [awaits_snoc, or_iff_right fun hnew => hrequest h hnew.1]
  exact and_iff_left ⟨fun ha => hc ha.fullname_eq, fun h' heq => absurd heq (hrequest h')⟩

theorem not_awaits_snoc_answer (hc : c.Answers k) : ¬ Awaits k h (calls ++ [c]) := by
  rw [awaits_snoc]
  rintro (⟨rfl, -⟩ | ⟨-, hnot, -⟩)
  · exact hc
  · exact hnot hc

theorem awaits_snoc_known (hk : ¬ Unknown k calls) :
    Awaits k h (calls ++ [.request k h']) ↔ Awaits k h calls := by
  simp [awaits_snoc, hk, Call.Answers]

theorem awaits_snoc_unknown (hk : Unknown k calls) : Awaits k h (calls ++ [.request k h']) ↔ h' = h := by
  simp [awaits_snoc, hk]

end Awaits

end StreamScout.Resolve
