import StreamScout.Proofs.Resolve.Table
import StreamScout.Proofs.Session.Appearance

namespace StreamScout.Mdns

open StreamScout.Resolve (Table)
open StreamScout.Service

variable {η : Type} {t t' : Table η} {i k : String} {a : Announcement} {es : List (Event η)}

def Announcement.about? : Announcement → Option String
  | .found _ f => some f
  | .resolved info => some info.fullname
  | .removed _ f => some f
  | .searchStarted | .searchStopped => none

theorem Heard.untouched (h : Heard i t a t' es) (hk : a.about? ≠ some k) :
    (k ∈ t'.pending.keys ↔ k ∈ t.pending.keys) ∧ (k ∈ t'.resolved.keys ↔ k ∈ t.resolved.keys) := by
  cases h with
  | ignored _ unread kept => exact ⟨Iff.rfl, Iff.rfl⟩
  | found ty f r read => exact ⟨Iff.rfl, Iff.rfl⟩
  | known info r e read reached =>
    have hne : k ≠ info.fullname := fun heq => hk (congrArg some heq.symm)
    rw [Keyed.mem_keys_drop, Keyed.mem_keys_put]
    exact ⟨and_iff_left hne, or_iff_right hne⟩
  | nowhere info =>
    have hne : k ≠ info.fullname := fun heq => hk (congrArg some heq.symm)
    rw [Keyed.mem_keys_drop]
    exact ⟨and_iff_left hne, Iff.rfl⟩
  | removed ty f =>
    have hne : k ≠ f := fun heq => hk (congrArg some heq.symm)
    rw [Keyed.mem_keys_drop, Keyed.mem_keys_drop]
    exact ⟨and_iff_left hne, and_iff_left hne⟩

theorem Heard.cleared {ty : String} (h : Heard i t (.removed ty k) t' es) :
    k ∉ t'.pending.keys ∧ k ∉ t'.resolved.keys := by
  cases h with
  | ignored _ unread kept => exact absurd rfl (kept ty k)
  | removed ty f =>
    rw [Keyed.mem_keys_drop, Keyed.mem_keys_drop]
    exact ⟨fun h => h.2 rfl, fun h => h.2 rfl⟩

end StreamScout.Mdns

namespace StreamScout.Session

open StreamScout.Mdns (Announcement Forwarder Heard Search studioFound studioRemoved)
open StreamScout.Service

variable {cfg : Config} {s s' : State Wire} {m : Move} {ms : List Move} {k : String}

inductive Report where
  | heard (a : Announcement)
  | asked (fullname : String)
  deriving DecidableEq, Repr

def Item.report? : Item → Option Report
  | .event (.browse (.new r)) => some (.asked r.fullname)
  | _ => none

def reports (m : Move) (s : State Wire) : List Report :=
  match m with
  | .access _ a => [.heard a]
  | .session .handle _ => (s.queue.head?.bind Item.report?).toList
  | _ => []

def history (cfg : Config) : List Move → State Wire → List Report
  | [], _ => []
  | m :: ms, s => reports m s ++ ((advance? cfg m s).map (history cfg ms)).getD []

def Withdrawn (k : String) (all : List Report) : Prop :=
  ∃ before ty after, all = before ++ .heard (.removed ty k) :: after ∧
    ∀ a, .heard a ∈ after → a.about? ≠ some k

def AskedSince (k : String) (all : List Report) : Prop :=
  ∃ before after, all = before ++ .asked k :: after ∧ ∀ ty, .heard (.removed ty k) ∉ after

section Report

variable {all : List Report} {x : Report}

theorem withdrawn_snoc : Withdrawn k (all ++ [x]) ↔
    (∃ ty, x = .heard (.removed ty k)) ∨ Withdrawn k all ∧ ∀ a, x = .heard a → a.about? ≠ some k := by
  constructor
  · rintro ⟨before, ty, after, heq, hafter⟩
    rcases snoc_eq_append_cons heq with ⟨-, -, rfl⟩ | ⟨front, rfl, rfl⟩
    · exact .inl ⟨ty, rfl⟩
    · refine .inr ⟨⟨before, ty, front, rfl, fun a ha => hafter a (List.mem_append_left _ ha)⟩, ?_⟩
      rintro a rfl
      exact hafter a (List.mem_append_right _ (List.mem_singleton_self _))
  · rintro (⟨ty, rfl⟩ | ⟨⟨before, ty, after, rfl, hafter⟩, hx⟩)
    · exact ⟨all, ty, [], rfl, nofun⟩
    · refine ⟨before, ty, after ++ [x], by simp, fun a ha => ?_⟩
      rcases List.mem_append.mp ha with ha | ha
      · exact hafter a ha
      · exact hx a (List.mem_singleton.mp ha).symm

theorem askedSince_snoc : AskedSince k (all ++ [x]) ↔
    x = .asked k ∨ AskedSince k all ∧ ∀ ty, x ≠ .heard (.removed ty k) := by
  refine exists_split_snoc nofun fun after => ?_
  simp only [List.mem_append, List.mem_singleton, not_or, forall_and, ne_eq, eq_comm (a := x)]

end Report

section Table

inductive Touched (t t' : Resolve.Table Record) : List Report → Prop
  | kept (table : t' = t) : Touched t t' []
  | asked (r : Record) (table : t' = (t.request r.fullname r).1) : Touched t t' [.asked r.fullname]
  | heard (i : String) (a : Announcement) (es : List (Event Record)) (heard : Heard i t a t' es) :
      Touched t t' [.heard a]

theorem handle_request {search : Search} {r : Record} {rest : List Item}
    (h : step? cfg (wire search) .handle s = some s') (hq : s.queue = .event (.browse (.new r)) :: rest) :
    s'.provider = (s.provider.resolve r).state := by
  simp only [step?, handle?] at h
  split at h
  next item rest' hl hn hq' =>
    obtain ⟨rfl, rfl⟩ := List.cons.inj (hq.symm.trans hq')
    obtain ⟨-, heq⟩ := Option.ite_none_left_eq_some.mp h
    obtain rfl := Option.some.inj heq
    change (conclude (wire search) (onBrowse (wire search) (.new r) { s with queue := rest })).provider = _
    cases ho : (s.provider.resolve r).outcome with
    | panic => exact absurd ho (wire_resolve r s.provider)
    | _ => simp [onBrowse, wire, ho, Flow.ofResolution, conclude, State.accept, State.note]
  next => cases h

theorem resolve_table {r : Record} {w : Wire} {f : Forwarder Record}
    (hf : (w.resolve r).state.client.forwarder = some f) :
    (w.resolve r).state.table = (w.table.request r.fullname r).1 := by
  cases h : w.client.forwarder with
  | none => simp [Wire.resolve, Mdns.Client.resolve, h] at hf
  | some f => simp [Wire.resolve, Mdns.Client.resolve, Forwarder.request, Wire.table, h]

theorem reports_handle {search : Search} {item : Item} {rest : List Item} (h : s.queue = item :: rest) :
    reports (.session .handle search) s = item.report?.toList := by
  simp [reports, h]

theorem reports_other {a : Action} {search : Search} (h : a ≠ .handle) : reports (.session a search) s = [] := by
  cases a with
  | handle => exact absurd rfl h
  | _ => rfl

theorem report?_eq_some {item : Item} {x : Report} (h : item.report? = some x) :
    ∃ r, item = .event (.browse (.new r)) ∧ x = .asked r.fullname := by
  unfold Item.report? at h
  split at h
  next r => exact ⟨r, rfl, (Option.some.inj h).symm⟩
  next => cases h

theorem touched_handle {search : Search} {item : Item} {rest : List Item} {f : Forwarder Record}
    (h : step? cfg (wire search) .handle s = some s') (hq : s.queue = item :: rest) (hh : Handled s s' rest item)
    (hf : s'.provider.client.forwarder = some f) :
    Touched s.provider.table s'.provider.table item.report?.toList := by
  cases hr : item.report? with
  | some x =>
    obtain ⟨r, rfl, rfl⟩ := report?_eq_some hr
    rw [handle_request h hq] at hf ⊢
    exact .asked r (resolve_table hf)
  | none =>
    cases hh with
    | left _ loop queue provider =>
      rw [provider] at hf
      cases hf
    | passed _ loop queue provider =>
      rw [provider]
      exact .kept rfl
    | subscribed _ c asks loop queue forwarder provider =>
      rw [provider]
      exact .kept (by rw [Wire.table, Wire.table, forwarder])
    | requested r loop queue provider => cases hr

theorem advance_touched {f' : Forwarder Record} (h : advance? cfg m s = some s')
    (hf : s'.provider.client.forwarder = some f') :
    Touched s.provider.table s'.provider.table (reports m s) := by
  cases advance_cases h with
  | handled search item rest queue alive pocket before after handled =>
    rw [reports_handle queue]
    obtain ⟨-, hstep⟩ := Option.ite_none_right_eq_some.mp h
    exact touched_handle hstep queue handled hf
  | started _ ok t before after loop queue provider =>
    rw [provider]
    exact .kept rfl
  | aside _ a other starting loop queue provider =>
    rw [provider, reports_other other.1]
    exact .kept rfl
  | flushed e es pocket posted provider =>
    rw [provider]
    exact .kept rfl
  | relayed k e hands take posted provider =>
    rw [provider]
    exact .kept rfl
  | heard k a f t es forwarder client heard fill pocket queue loop starting =>
    have hold : s.provider.table = f.table := by rw [Wire.table, forwarder]
    have hnew : s'.provider.table = t := by rw [Wire.table, client]
    rw [hold, hnew]
    exact .heard f.interface a es heard

end Table

section Kept

variable {all : List Report}

/-- A withdrawn instance is not known, and a resolver for it is parked only if it was asked for after all. -/
def Cleared (k : String) (all : List Report) (t : Resolve.Table Record) : Prop :=
  k ∉ t.resolved.keys ∧ (k ∈ t.pending.keys ↔ AskedSince k all)

theorem touched_cleared {t t' : Resolve.Table Record} {rs : List Report}
    (hc : Withdrawn k all → Cleared k all t) (ht : Touched t t' rs) (hw : Withdrawn k (all ++ rs)) :
    Cleared k (all ++ rs) t' := by
  cases ht with
  | kept table =>
    rw [List.append_nil] at hw ⊢
    rw [table]
    exact hc hw
  | asked r table =>
    rcases withdrawn_snoc.mp hw with ⟨ty, h⟩ | ⟨hold, -⟩
    · cases h
    · obtain ⟨hknown, hparked⟩ := hc hold
      subst table
      refine ⟨by rw [Resolve.Table.request_resolved]; exact hknown, ?_⟩
      rw [askedSince_snoc, ← hparked]
      by_cases hk : k = r.fullname
      · subst hk
        simp [Resolve.Table.request_parks hknown]
      · rw [Resolve.Table.request_other hk]
        have hne : Report.asked r.fullname ≠ .asked k := fun h => hk (Report.asked.inj h).symm
        simp [hne]
  | heard i a es heard =>
    rcases withdrawn_snoc.mp hw with ⟨ty, h⟩ | ⟨hold, hnot⟩
    · cases h
      obtain ⟨hparked, hknown⟩ := heard.cleared
      refine ⟨hknown, ?_⟩
      rw [askedSince_snoc]
      simp [hparked]
    · have hother := hnot a rfl
      obtain ⟨hpending, hresolved⟩ := heard.untouched hother
      obtain ⟨hknown, hparked⟩ := hc hold
      refine ⟨fun h => hknown (hresolved.mp h), ?_⟩
      rw [askedSince_snoc, hpending, hparked]
      have hne : ∀ ty, Report.heard a ≠ .heard (.removed ty k) := by
        intro ty h
        rw [Report.heard.inj h] at hother
        exact hother rfl
      simp [hne]

def Tidy (all : List Report) (s : State Wire) : Prop :=
  ∀ f, s.provider.client.forwarder = some f → ∀ k, Withdrawn k all → Cleared k all s.provider.table

theorem advance_tidy (ht : Tidy all s) (h : advance? cfg m s = some s') : Tidy (all ++ reports m s) s' := by
  intro f' hf' k hw
  obtain ⟨f, hf, -⟩ := advance_interface (advance_cases h) hf'
  exact touched_cleared (ht f hf k) (advance_touched h hf') hw

theorem follow_tidy {marked : List Mark} (ht : Tidy all s) (h : follow? cfg ms s = some (s', marked)) :
    Tidy (all ++ history cfg ms s) s' := by
  induction ms generalizing s all marked with
  | nil =>
    cases h
    rw [history, List.append_nil]
    exact ht
  | cons m ms ih =>
    obtain ⟨s₁, later, h₁, h₂, -⟩ := follow_cons h
    have hnext := ih (advance_tidy ht h₁) h₂
    rw [history, h₁, Option.map_some, Option.getD_some, ← List.append_assoc]
    exact hnext

end Kept

theorem withdrawn_parked_iff {marked : List Mark} (h : follow? cfg ms (launched cfg) = some (s, marked))
    (hk : Withdrawn k (history cfg ms (launched cfg))) :
    k ∉ s.provider.table.resolved.keys ∧
      (k ∈ s.provider.table.pending.keys ↔
        s.provider.client.forwarder.isSome = true ∧ AskedSince k (history cfg ms (launched cfg))) := by
  have hfresh : Tidy [] (launched cfg) := by
    rintro f - k ⟨before, ty, after, heq, -⟩
    simp at heq
  have htidy := follow_tidy hfresh h
  cases hf : s.provider.client.forwarder with
  | some f =>
    obtain ⟨hknown, hparked⟩ := htidy f hf k hk
    exact ⟨hknown, by simpa using hparked⟩
  | none =>
    have hempty : s.provider.table = {} := by rw [Wire.table, hf]
    rw [hempty]
    exact ⟨List.not_mem_nil, by simp [Keyed.keys]⟩

def AtRest (s : State Wire) : Prop :=
  s.queue = [] ∧ s.starting = none ∧ s.provider.pocket = [] ∧ s.provider.hands.flatten = []

def studioName : String := "studio._rtsp._tcp.local."

def askedInTime : List Move :=
  [.turn, .turn, .access 0 studioFound, .post 0, .turn, .access 0 studioRemoved,
    .post 0, .post 0, .turn, .turn]

theorem withdrawn_parked_iff_in_time :
    ∃ s marked, follow? studioConfig askedInTime (launched studioConfig) = some (s, marked) ∧ AtRest s ∧
      Withdrawn studioName (history studioConfig askedInTime (launched studioConfig)) ∧
      s.provider.table.pending = [] ∧ studioName ∉ s.provider.table.resolved.keys ∧
      ¬ AskedSince studioName (history studioConfig askedInTime (launched studioConfig)) := by
  have hk : Withdrawn studioName (history studioConfig askedInTime (launched studioConfig)) :=
    ⟨[.heard studioFound, .asked studioName], "_rtsp._tcp.local.", [], rfl, nofun⟩
  have hiff := withdrawn_parked_iff rfl hk
  refine ⟨_, _, rfl, ⟨rfl, rfl, rfl, rfl⟩, hk, rfl, hiff.1, fun hasked => ?_⟩
  exact List.not_mem_nil (hiff.2.mpr ⟨rfl, hasked⟩)

def askedTooLate : List Move :=
  [.turn, .turn, .access 0 studioFound, .post 0, .access 0 studioRemoved, .post 0,
    .turn, .turn]

theorem resolver_left_behind :
    ¬ ∀ ms s marked k, (∀ j a, .access j a ∈ ms → a.Carries studioConfig.typeDomain) →
      follow? studioConfig ms (launched studioConfig) = some (s, marked) → AtRest s →
      Withdrawn k (history studioConfig ms (launched studioConfig)) →
      k ∉ s.provider.table.pending.keys ∧ k ∉ s.provider.table.resolved.keys := by
  intro h
  have hcarries : ∀ j a, .access j a ∈ askedTooLate → a.Carries studioConfig.typeDomain := by
    intro j a hj
    simp only [askedTooLate, Move.turn, List.mem_cons, reduceCtorEq, false_or, or_false, Move.access.injEq,
      List.not_mem_nil] at hj
    rcases hj with ⟨-, rfl⟩ | ⟨-, rfl⟩ <;> rfl
  have hk : Withdrawn studioName (history studioConfig askedTooLate (launched studioConfig)) :=
    ⟨[.heard studioFound], "_rtsp._tcp.local.", [.asked studioName], rfl, by simp⟩
  have hclear := h askedTooLate _ _ studioName hcarries rfl ⟨rfl, rfl, rfl, rfl⟩ hk
  exact hclear.1 (List.mem_singleton.mpr rfl)

end StreamScout.Session
