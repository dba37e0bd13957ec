import Mathlib.Order.Defs.LinearOrder
import StreamScout.Proofs.Source.Table

namespace StreamScout.Source

namespace Table

variable {τ : Type} {t : Table τ} {s : Source τ} {now : τ} {d : Rtsp.Description}

theorem delivered_first (t : Table τ) (now : τ) (name domain : String) (d : Rtsp.Description) :
    (∃ s ∈ t.entries, s.key = (name, domain) ∧ (t.delivered now name domain d).firstSeen = s.firstSeen) ∨
      (t.delivered now name domain d).firstSeen = now := by
  cases hfind : t.find? name domain with
  | none => exact .inr (by rw [delivered_none hfind])
  | some s =>
    obtain ⟨hs, hkey⟩ := mem_of_find? hfind
    exact .inl ⟨s, hs, hkey, by rw [delivered_some hfind]; rfl⟩

theorem delivered_same (hk : t.keys.Nodup) (hs : s ∈ t.entries) :
    (t.delivered now s.name s.domain d).firstSeen = s.firstSeen := by
  have hfind : t.find? s.name s.domain = some s := (find?_iff hk).mpr ⟨hs, rfl⟩
  rw [delivered_some hfind]
  rfl

end Table

/-- A delivery that has read the clock and does not hold the table yet. -/
structure Delivery (τ : Type) where
  now : τ
  name : String
  domain : String
  description : Rtsp.Description
  deriving DecidableEq, Repr

def Delivery.key {τ : Type} (u : Delivery τ) : String × String :=
  (u.name, u.domain)

structure Clocked (τ : Type) where
  clock : τ
  table : Table τ := {}
  underway : List (Delivery τ) := []
  deriving DecidableEq, Repr

namespace Clocked

inductive Action (τ : Type) where
  | tick (now : τ)
  | read (name domain : String) (d : Rtsp.Description)
  | enter (i : Nat)
  | remove (name domain : String)
  deriving DecidableEq, Repr

variable {τ : Type} [LinearOrder τ]

def step? (a : Action τ) (b : Clocked τ) : Option (Clocked τ) :=
  match a with
  | .tick now => if b.clock ≤ now then some { b with clock := now } else none
  | .read name domain d => some { b with underway := b.underway ++ [⟨b.clock, name, domain, d⟩] }
  | .enter i =>
      b.underway[i]?.map fun u =>
        { b with
          table := b.table.deliver u.now u.name u.domain u.description
          underway := b.underway.eraseIdx i }
  | .remove name domain => some { b with table := b.table.remove name domain }

def run? : List (Action τ) → Clocked τ → Option (Clocked τ)
  | [], b => some b
  | a :: as, b => (step? a b).bind (run? as)

/-- Whoever enters the table leaves no delivery for its source behind that has read the clock before it. -/
def overtakesNone (a : Action τ) (b : Clocked τ) : Bool :=
  match a with
  | .enter i => b.underway[i]?.all fun u => b.underway.all fun v => v.key != u.key || decide (u.now ≤ v.now)
  | _ => true

def orderly : List (Action τ) → Clocked τ → Bool
  | [], _ => true
  | a :: as, b => overtakesNone a b && (step? a b).all (orderly as)

variable {a : Action τ} {as before after : List (Action τ)} {b b' b₁ b₂ : Clocked τ} {u : Delivery τ} {s : Source τ}
  {t : Table τ} {now start : τ} {name domain : String} {d : Rtsp.Description} {i : Nat}

theorem tick_cases (h : step? (.tick now) b = some b') : b.clock ≤ now ∧ b' = { b with clock := now } := by
  obtain ⟨hle, heq⟩ := Option.ite_none_right_eq_some.mp h
  exact ⟨hle, (Option.some.inj heq).symm⟩

theorem enter_cases (h : step? (.enter i) b = some b') :
    ∃ u, b.underway[i]? = some u ∧
      b' = { b with
        table := b.table.deliver u.now u.name u.domain u.description
        underway := b.underway.eraseIdx i } := by
  obtain ⟨u, hu, heq⟩ := Option.map_eq_some_iff.mp h
  exact ⟨u, hu, heq.symm⟩

theorem overtakes_iff (hu : b.underway[i]? = some u) :
    overtakesNone (.enter i) b = true ↔ ∀ v ∈ b.underway, v.key = u.key → u.now ≤ v.now := by
  simp [overtakesNone, hu, imp_iff_not_or]

/-- No reading of the clock is ahead of it. -/
structure Sound (b : Clocked τ) : Prop where
  keys : b.table.keys.Nodup
  underway : ∀ u ∈ b.underway, u.now ≤ b.clock
  lastSeen : ∀ s ∈ b.table.entries, s.lastSeen ≤ b.clock

theorem sound_start (start : τ) : Sound { clock := start } where
  keys := List.nodup_nil
  underway _ hu := nomatch hu
  lastSeen _ hs := nomatch hs

theorem step_sound (hb : Sound b) (h : step? a b = some b') : Sound b' := by
  cases a with
  | tick now =>
    obtain ⟨hle, rfl⟩ := tick_cases h
    exact ⟨hb.keys, fun u hu => (hb.underway u hu).trans hle, fun s hs => (hb.lastSeen s hs).trans hle⟩
  | read name domain d =>
    cases h
    refine ⟨hb.keys, fun u hu => ?_, hb.lastSeen⟩
    rcases List.mem_append.mp hu with hold | hnew
    · exact hb.underway u hold
    · rw [List.mem_singleton.mp hnew]
  | enter i =>
    obtain ⟨u, hu, rfl⟩ := enter_cases h
    have hmem : u ∈ b.underway := List.mem_of_getElem? hu
    refine ⟨Table.nodup_deliver hb.keys, fun v hv => hb.underway v (List.mem_of_mem_eraseIdx hv), fun s hs => ?_⟩
    rcases (Table.mem_deliver hb.keys).mp hs with rfl | ⟨hold, -⟩
    · exact hb.underway u hmem
    · exact hb.lastSeen s hold
  | remove name domain =>
    cases h
    exact ⟨Table.nodup_remove hb.keys, hb.underway, fun s hs => hb.lastSeen s (Table.mem_remove.mp hs).1⟩

/-- No source was last seen after the reading of a delivery for it that is still underway. -/
structure Ordered (b : Clocked τ) : Prop where
  seen : ∀ s ∈ b.table.entries, s.firstSeen ≤ s.lastSeen
  ahead : ∀ s ∈ b.table.entries, ∀ u ∈ b.underway, u.key = s.key → s.lastSeen ≤ u.now

theorem ordered_start (start : τ) : Ordered { clock := start } where
  seen _ hs := nomatch hs
  ahead _ hs := nomatch hs

theorem ordered_enter (hb : Sound b) (ho : Ordered b) (hu : b.underway[i]? = some u)
    (hnone : ∀ v ∈ b.underway, v.key = u.key → u.now ≤ v.now) :
    Ordered { b with
      table := b.table.deliver u.now u.name u.domain u.description
      underway := b.underway.eraseIdx i } := by
  have hmem : u ∈ b.underway := List.mem_of_getElem? hu
  constructor
  · intro s hs
    rcases (Table.mem_deliver hb.keys).mp hs with rfl | ⟨hold, -⟩
    · rcases Table.delivered_first b.table u.now u.name u.domain u.description with ⟨old, hold, hkey, hfirst⟩ | hfirst
      · rw [hfirst]
        exact (ho.seen old hold).trans (ho.ahead old hold u hmem hkey.symm)
      · exact hfirst.le
    · exact ho.seen s hold
  · intro s hs v hv hkey
    have hv : v ∈ b.underway := List.mem_of_mem_eraseIdx hv
    rcases (Table.mem_deliver hb.keys).mp hs with rfl | ⟨hold, -⟩
    · exact hnone v hv hkey
    · exact ho.ahead s hold v hv hkey

theorem step_ordered (hb : Sound b) (ho : Ordered b) (hnone : overtakesNone a b = true) (h : step? a b = some b') :
    Ordered b' := by
  cases a with
  | tick now =>
    obtain ⟨-, rfl⟩ := tick_cases h
    exact ⟨ho.seen, ho.ahead⟩
  | read name domain d =>
    cases h
    refine ⟨ho.seen, fun s hs u hu hkey => ?_⟩
    rcases List.mem_append.mp hu with hold | hnew
    · exact ho.ahead s hs u hold hkey
    · -- the newest reading is the clock itself, which is behind nothing in the table
      rw [List.mem_singleton.mp hnew]
      exact hb.lastSeen s hs
  | enter i =>
    obtain ⟨u, hu, rfl⟩ := enter_cases h
    exact ordered_enter hb ho hu ((overtakes_iff hu).mp hnone)
  | remove name domain =>
    cases h
    exact ⟨fun s hs => ho.seen s (Table.mem_remove.mp hs).1, fun s hs => ho.ahead s (Table.mem_remove.mp hs).1⟩

structure Continues (inOrder : Prop) (s s' : Source τ) : Prop where
  key : s'.key = s.key
  first : s'.firstSeen = s.firstSeen
  last : inOrder → s.lastSeen ≤ s'.lastSeen

theorem Continues.refl (inOrder : Prop) (s : Source τ) : Continues inOrder s s :=
  ⟨rfl, rfl, fun _ => le_refl _⟩

theorem step_continues (hb : Sound b) (h : step? a b = some b') (hs : s ∈ b.table.entries)
    (hremove : a ≠ .remove s.name s.domain) : ∃ s' ∈ b'.table.entries, Continues (Ordered b) s s' := by
  cases a with
  | tick now =>
    obtain ⟨-, rfl⟩ := tick_cases h
    exact ⟨s, hs, .refl _ s⟩
  | read name domain d =>
    cases h
    exact ⟨s, hs, .refl _ s⟩
  | enter i =>
    obtain ⟨u, hu, rfl⟩ := enter_cases h
    have hmem : u ∈ b.underway := List.mem_of_getElem? hu
    by_cases hkey : s.key = u.key
    · refine ⟨_, (Table.mem_deliver hb.keys).mpr (.inl rfl), hkey.symm, ?_, fun ho => ?_⟩
      · obtain ⟨hname, hdomain⟩ := Prod.mk.inj hkey
        rw [← hname, ← hdomain]
        exact Table.delivered_same hb.keys hs
      · exact ho.ahead s hs u hmem hkey.symm
    · exact ⟨s, (Table.mem_deliver hb.keys).mpr (.inr ⟨hs, hkey⟩), .refl _ s⟩
  | remove name domain =>
    cases h
    have hother : s.key ≠ (name, domain) := by
      rintro heq
      obtain ⟨rfl, rfl⟩ := Prod.mk.inj heq
      exact hremove rfl
    exact ⟨s, Table.mem_remove.mpr ⟨hs, hother⟩, .refl _ s⟩

theorem run_continues (hb : Sound b) (h : run? as b = some b') (hs : s ∈ b.table.entries)
    (hremove : .remove s.name s.domain ∉ as) :
    ∃ s' ∈ b'.table.entries, Continues (Ordered b ∧ orderly as b = true) s s' := by
  induction as generalizing b s with
  | nil =>
    cases h
    exact ⟨s, hs, .refl _ s⟩
  | cons a as ih =>
    obtain ⟨b₁, h₁, h₂⟩ := Option.bind_eq_some_iff.mp h
    obtain ⟨hhead, htail⟩ := List.ne_and_not_mem_of_not_mem_cons hremove
    obtain ⟨s₁, hs₁, hstep⟩ := step_continues hb h₁ hs hhead.symm
    obtain ⟨hname, hdomain⟩ := Prod.mk.inj hstep.key
    obtain ⟨s', hs', hrun⟩ := ih (step_sound hb h₁) h₂ hs₁ (by rw [hname, hdomain]; exact htail)
    refine ⟨s', hs', hrun.key.trans hstep.key, hrun.first.trans hstep.first, fun ⟨ho, horderly⟩ => ?_⟩
    obtain ⟨hnone, hrest⟩ := Bool.and_eq_true_iff.mp horderly
    rw [h₁, Option.all_some] at hrest
    exact (hstep.last ho).trans (hrun.last ⟨step_ordered hb ho hnone h₁, hrest⟩)

theorem run_ordered (hb : Sound b) (ho : Ordered b) (horderly : orderly as b = true) (h : run? as b = some b') :
    Ordered b' := by
  induction as generalizing b with
  | nil => exact Option.some.inj h ▸ ho
  | cons a as ih =>
    obtain ⟨b₁, h₁, h₂⟩ := Option.bind_eq_some_iff.mp h
    obtain ⟨hnone, hrest⟩ := Bool.and_eq_true_iff.mp horderly
    rw [h₁, Option.all_some] at hrest
    exact ih (step_sound hb h₁) (step_ordered hb ho hnone h₁) hrest h₂

theorem run_sound (hb : Sound b) (h : run? as b = some b') : Sound b' := by
  induction as generalizing b with
  | nil => exact Option.some.inj h ▸ hb
  | cons a as ih =>
    obtain ⟨b₁, h₁, h₂⟩ := Option.bind_eq_some_iff.mp h
    exact ih (step_sound hb h₁) h₂

theorem orderly_append (h : run? before b = some b₁) :
    orderly (before ++ after) b = true ↔ orderly before b = true ∧ orderly after b₁ = true := by
  induction before generalizing b with
  | nil =>
    cases h
    simp [orderly]
  | cons a as ih =>
    obtain ⟨b₂, h₁, h₂⟩ := Option.bind_eq_some_iff.mp h
    simp only [List.cons_append, orderly, h₁, Option.all_some, Bool.and_eq_true, ih h₂, and_assoc]

theorem times_in_order (hb : run? before { clock := start } = some b₁) (ha : run? after b₁ = some b₂) :
    (∀ s ∈ b₁.table.entries, .remove s.name s.domain ∉ after → ∃ s' ∈ b₂.table.entries,
      Continues (orderly (before ++ after) { clock := start } = true) s s') ∧
    (orderly (before ++ after) { clock := start } = true → ∀ s ∈ b₂.table.entries, s.firstSeen ≤ s.lastSeen) := by
  have hsound := run_sound (sound_start start) hb
  constructor
  · intro s hs hremove
    obtain ⟨s', hs', hkept⟩ := run_continues hsound ha hs hremove
    refine ⟨s', hs', hkept.key, hkept.first, fun horderly => ?_⟩
    obtain ⟨hbefore, hafter⟩ := (orderly_append hb).mp horderly
    exact hkept.last ⟨run_ordered (sound_start start) (ordered_start start) hbefore hb, hafter⟩
  · intro horderly
    obtain ⟨hbefore, hafter⟩ := (orderly_append hb).mp horderly
    exact (run_ordered hsound (run_ordered (sound_start start) (ordered_start start) hbefore hb) hafter ha).seen

def studioSdp : Rtsp.Description :=
  .ofSdp "rtsp://10.0.0.5:8554/by-name/studio" "v=0\r\ns=Studio One\r\n"

def inTurn : List (Action Nat) :=
  [.read "studio" "local" studioSdp, .tick 1, .read "studio" "local" studioSdp, .enter 0]

def inTurnLater : List (Action Nat) :=
  [.tick 2, .read "attic" "local" studioSdp, .enter 1, .remove "attic" "local", .enter 0]

theorem times_in_order_overlapping :
    ∃ b₁ b₂ s, run? inTurn { clock := 0 } = some b₁ ∧ run? inTurnLater b₁ = some b₂ ∧ s ∈ b₁.table.entries ∧
      .remove s.name s.domain ∉ inTurnLater ∧ orderly (inTurn ++ inTurnLater) { clock := 0 } = true ∧
      (∃ s' ∈ b₂.table.entries, Continues (orderly (inTurn ++ inTurnLater) { clock := 0 } = true) s s') ∧
      ∀ s' ∈ b₂.table.entries, s'.firstSeen ≤ s'.lastSeen := by
  have hs : (⟨"studio", "local", studioSdp.url, studioSdp.sdp, studioSdp.sessionName, 0, 0⟩ : Source Nat) ∈
      (({} : Table Nat).deliver 0 "studio" "local" studioSdp).entries := List.mem_singleton.mpr rfl
  have horderly : orderly (inTurn ++ inTurnLater) { clock := 0 } = true := rfl
  obtain ⟨b₁, hbefore, htable⟩ : ∃ b₁, run? inTurn { clock := 0 } = some b₁ ∧
      b₁.table = ({} : Table Nat).deliver 0 "studio" "local" studioSdp := ⟨_, rfl, rfl⟩
  obtain ⟨b₂, hafter⟩ : ∃ b₂, run? inTurnLater b₁ = some b₂ := by
    cases hbefore
    exact ⟨_, rfl⟩
  have htimes := times_in_order hbefore hafter
  rw [← htable] at hs
  exact ⟨b₁, b₂, _, hbefore, hafter, hs, by decide, horderly, htimes.1 _ hs (by decide), htimes.2 horderly⟩

def overtaken : List (Action Nat) :=
  [.read "studio" "local" studioSdp, .tick 1, .read "studio" "local" studioSdp, .enter 1]

theorem times_turned_back :
    (¬ ∀ as b, run? as ({ clock := 0 } : Clocked Nat) = some b → ∀ s ∈ b.table.entries, s.firstSeen ≤ s.lastSeen) ∧
      ¬ ∀ before after b₁ b₂, run? before ({ clock := 0 } : Clocked Nat) = some b₁ → run? after b₁ = some b₂ →
        ∀ s ∈ b₁.table.entries, .remove s.name s.domain ∉ after →
          ∀ s' ∈ b₂.table.entries, s'.key = s.key → s.lastSeen ≤ s'.lastSeen := by
  constructor
  · intro h
    have hseen := h (overtaken ++ [.enter 0]) _ rfl _ (List.mem_singleton.mpr rfl)
    exact absurd hseen (by decide)
  · intro h
    have hlast := h overtaken [.enter 0] _ _ rfl rfl _ (List.mem_singleton.mpr rfl) (by decide) _
      (List.mem_singleton.mpr rfl) rfl
    exact absurd hlast (by decide)

end Clocked

end StreamScout.Source
