import Mathlib.Data.List.Induction
import StreamScout.Proofs.Lists
import StreamScout.Source.Table

namespace StreamScout.Source

variable {τ : Type}

inductive Call (τ : Type) where
  | deliver (now : τ) (name domain : String) (d : Rtsp.Description)
  | remove (name domain : String)
  deriving DecidableEq, Repr

namespace Call

def key : Call τ → String × String
  | .deliver _ name domain _ => (name, domain)
  | .remove name domain => (name, domain)

def isDelivery : Call τ → Bool
  | .deliver .. => true
  | .remove .. => false

def perform (t : Table τ) : Call τ → Table τ
  | .deliver now name domain d => t.deliver now name domain d
  | .remove name domain => t.remove name domain

end Call

variable {key : String × String} {calls : List (Call τ)} {c : Call τ} {first first' : τ}

def lastCall? (key : String × String) (calls : List (Call τ)) : Option (Call τ) :=
  (calls.filter (·.key = key)).getLast?

def Absent (key : String × String) (calls : List (Call τ)) : Prop :=
  ∀ c, lastCall? key calls = some c → c.isDelivery = false

def Since (calls : List (Call τ)) (key : String × String) (first : τ) : Prop :=
  ∃ earlier later d, calls = earlier ++ .deliver first key.1 key.2 d :: later ∧
    Absent key earlier ∧ ∀ c ∈ later, c.key = key → c.isDelivery = true

theorem lastCall?_append (xs ys : List (Call τ)) :
    lastCall? key (xs ++ ys) = (lastCall? key ys).or (lastCall? key xs) := by
  simp [lastCall?, List.getLast?_append]

theorem lastCall?_singleton (h : c.key = key) : lastCall? key [c] = some c := by
  simp [lastCall?, h]

theorem lastCall?_snoc_same (h : c.key = key) : lastCall? key (calls ++ [c]) = some c := by
  rw [lastCall?_append, lastCall?_singleton h, Option.some_or]

theorem lastCall?_snoc_other (h : c.key ≠ key) : lastCall? key (calls ++ [c]) = lastCall? key calls := by
  simp [lastCall?, h]

theorem lastCall?_mem (h : lastCall? key calls = some c) : c ∈ calls ∧ c.key = key := by
  have hmem := List.mem_of_getLast? h
  simpa using hmem

theorem not_absent (h : ¬ Absent key calls) :
    ∃ now d, lastCall? key calls = some (.deliver now key.1 key.2 d) := by
  simp only [Absent, Classical.not_forall] at h
  obtain ⟨c, hlast, hc⟩ := h
  have hkey := (lastCall?_mem hlast).2
  cases c with
  | deliver now name domain d =>
    cases hkey
    exact ⟨now, d, hlast⟩
  | remove name domain => simp [Call.isDelivery] at hc

theorem absent_nil : Absent key ([] : List (Call τ)) := by
  simp [Absent, lastCall?]

theorem absent_remove : Absent key (calls ++ [.remove key.1 key.2]) := by
  intro c hc
  have hlast : lastCall? key (calls ++ [.remove key.1 key.2]) = some (.remove key.1 key.2) :=
    lastCall?_snoc_same rfl
  rw [hlast] at hc
  cases hc
  rfl

theorem absent_snoc_other (h : c.key ≠ key) : Absent key (calls ++ [c]) ↔ Absent key calls := by
  simp only [Absent, lastCall?_snoc_other h]

theorem Since.not_absent (h : Since calls key first) : ¬ Absent key calls := by
  obtain ⟨earlier, later, d, rfl, -, hlater⟩ := h
  intro ha
  rw [List.append_cons, Absent, lastCall?_append] at ha
  cases hlast : lastCall? key later with
  | none =>
    have hd : lastCall? key (earlier ++ [.deliver first key.1 key.2 d]) =
        some (.deliver first key.1 key.2 d) := lastCall?_snoc_same rfl
    rw [hlast, hd] at ha
    exact absurd (ha _ rfl) (by simp [Call.isDelivery])
  | some c =>
    obtain ⟨hmem, hkey⟩ := lastCall?_mem hlast
    rw [hlast] at ha
    exact absurd (ha c rfl) (by simp [hlater c hmem hkey])

theorem Since.snoc (h : Since calls key first) (hc : c.key = key → c.isDelivery = true) :
    Since (calls ++ [c]) key first := by
  obtain ⟨earlier, later, d, rfl, hearlier, hlater⟩ := h
  refine ⟨earlier, later ++ [c], d, by simp, hearlier, fun c' hc' hkey => ?_⟩
  rcases List.mem_append.mp hc' with hold | hnew
  · exact hlater c' hold hkey
  · cases List.mem_singleton.mp hnew
    exact hc hkey

theorem since_snoc (h : Since (calls ++ [c]) key first) :
    Since calls key first ∨ Absent key calls ∧ ∃ d, c = .deliver first key.1 key.2 d := by
  obtain ⟨earlier, later, d, heq, hearlier, hlater⟩ := h
  rcases snoc_eq_append_cons heq with ⟨-, rfl, hc⟩ | ⟨front, rfl, rfl⟩
  · exact .inr ⟨hearlier, d, hc⟩
  · exact .inl ⟨earlier, front, d, rfl, hearlier, fun c hc => hlater c (by simp [hc])⟩

theorem since_snoc_other (h : c.key ≠ key) : Since (calls ++ [c]) key first ↔ Since calls key first := by
  constructor
  · intro hs
    rcases since_snoc hs with hs | ⟨-, d, rfl⟩
    · exact hs
    · exact absurd rfl h
  · intro hs
    exact hs.snoc fun hc => absurd hc h

theorem since_snoc_deliver {now : τ} {d : Rtsp.Description} :
    Since (calls ++ [.deliver now key.1 key.2 d]) key first ↔
      Since calls key first ∨ Absent key calls ∧ first = now := by
  constructor
  · intro hs
    rcases since_snoc hs with hs | ⟨ha, d, heq⟩
    · exact .inl hs
    · cases heq
      exact .inr ⟨ha, rfl⟩
  · rintro (hs | ⟨ha, rfl⟩)
    · exact hs.snoc fun _ => rfl
    · exact ⟨calls, [], d, rfl, ha, by simp⟩

theorem call_cases (key : String × String) (c : Call τ) :
    c.key ≠ key ∨ (∃ now d, c = .deliver now key.1 key.2 d) ∨ c = .remove key.1 key.2 := by
  by_cases h : c.key = key
  · cases c with
    | deliver now name domain d =>
      cases h
      exact .inr (.inl ⟨now, d, rfl⟩)
    | remove name domain =>
      cases h
      exact .inr (.inr rfl)
  · exact .inl h

theorem Since.unique (h : Since calls key first) (h' : Since calls key first') : first = first' := by
  induction calls using List.reverseRecOn with
  | nil =>
    obtain ⟨earlier, later, d, heq, -⟩ := h
    simp at heq
  | append_singleton calls c ih =>
    rcases call_cases key c with hother | ⟨now, d, rfl⟩ | rfl
    · exact ih ((since_snoc_other hother).mp h) ((since_snoc_other hother).mp h')
    · rcases since_snoc_deliver.mp h with hs | ⟨ha, rfl⟩ <;>
        rcases since_snoc_deliver.mp h' with hs' | ⟨ha', rfl⟩
      · exact ih hs hs'
      · exact absurd ha' hs.not_absent
      · exact absurd ha hs'.not_absent
      · rfl
    · exact absurd absent_remove h.not_absent

theorem exists_since (h : ¬ Absent key calls) : ∃ first, Since calls key first := by
  induction calls using List.reverseRecOn with
  | nil => exact absurd absent_nil h
  | append_singleton calls c ih =>
    rcases call_cases key c with hother | ⟨now, d, rfl⟩ | rfl
    · obtain ⟨first, hs⟩ := ih (mt (absent_snoc_other hother).mpr h)
      exact ⟨first, (since_snoc_other hother).mpr hs⟩
    · by_cases ha : Absent key calls
      · exact ⟨now, since_snoc_deliver.mpr (.inr ⟨ha, rfl⟩)⟩
      · obtain ⟨first, hs⟩ := ih ha
        exact ⟨first, since_snoc_deliver.mpr (.inl hs)⟩
    · exact absurd absent_remove h

end StreamScout.Source
