import StreamScout.Proofs.Lists
import StreamScout.Proofs.Probe.Course
import StreamScout.Proofs.Session.Shutdown
import StreamScout.Proofs.Session.Turn

namespace StreamScout.Session

open StreamScout.Service
open StreamScout.Probe (Pool Stage Target Worker)

variable {σ : Type} {cfg : Config} {p : Provider σ} {s s' : State σ} {a : Action} {as past : List Action}
  {ts new : List Target} {i : Nat} {m : Probe.Move}

section Dispatch

structure Accounts (past : List Action) (ts : List Target) (s : State σ) : Prop where
  sublist : (s.targets ++ s.starting.toList).Sublist ts
  refused : (s.targets ++ s.starting.toList).length + past.count (.start false) = ts.length

theorem targets_set {w : Worker} (hw : s.pool.workers[i]? = some w) (st : Stage) :
    (s.pool.workers.set i { w with stage := st }).map (·.target) = s.targets := by
  obtain ⟨front, back, hs, hset⟩ := exists_set_split hw
  rw [hset, State.targets, hs]
  simp

theorem accounts_fresh (b : σ) : Accounts [] [] ({ provider := b } : State σ) :=
  ⟨List.Sublist.refl _, rfl⟩

theorem step_accounts (h : Accounts past ts s) (hs : step? cfg p a s = some s') :
    Accounts (past ++ [a]) (ts ++ admittedBy a s) s' := by
  have hsub := h.sublist
  have hlen := h.refused
  cases step_turn hs with
  | handle before after workers silent =>
    have ht : s'.targets = s.targets := congrArg (List.map Worker.target) workers
    rw [before] at hsub hlen
    simp only [Option.toList_none, List.append_nil] at hsub hlen
    constructor
    · rw [ht, after, admittedBy, if_pos rfl]
      exact hsub.append_right _
    · rw [ht, after, admittedBy, if_pos rfl, List.count_append, List.length_append, List.length_append]
      have hc : [Action.handle].count (.start false) = 0 := rfl
      omega
  | start ok t before after workers silent =>
    rw [before] at hsub hlen
    cases ok with
    | true =>
      have ht : s'.targets = s.targets ++ [t] := by simp [State.targets, workers]
      constructor
      · rw [ht, after]
        simpa [admittedBy] using hsub
      · rw [ht, after]
        simpa [admittedBy, List.count_append] using hlen
    | false =>
      have ht : s'.targets = s.targets := by simp [State.targets, workers]
      constructor
      · rw [ht, after]
        simpa [admittedBy] using (List.sublist_append_left _ _).trans hsub
      · rw [ht, after]
        simp only [Option.toList_none, List.append_nil, Option.toList_some, List.length_append,
          List.length_singleton, List.count_append, List.count_singleton_self, admittedBy, reduceCtorEq,
          if_false] at hlen ⊢
        omega
  | worker i m w st found next starting workers log =>
    have ht : s'.targets = s.targets := by rw [State.targets, workers, targets_set found]
    constructor
    · simpa [ht, starting, admittedBy] using hsub
    · simpa [ht, starting, admittedBy, List.count_append] using hlen
  | aside _ kind starting workers silent =>
    have ht : s'.targets = s.targets := congrArg (List.map Worker.target) workers
    have hc : [a].count (.start false) = 0 := List.count_eq_zero.mpr (by simpa [eq_comm] using kind.2.1 false)
    constructor
    · simpa [ht, starting, admittedBy, kind.1] using hsub
    · simpa [ht, starting, admittedBy, kind.1, List.count_append, hc] using hlen

theorem run_accounts (h : Accounts past ts s) (hs : run? cfg p as s = some s') :
    Accounts (past ++ as) (ts ++ admitted cfg p as s) s' := by
  induction as generalizing past ts s with
  | nil =>
    obtain rfl := Option.some.inj hs
    simpa [admitted] using h
  | cons a as ih =>
    obtain ⟨s₁, h₁, h₂⟩ := Option.bind_eq_some_iff.mp hs
    have hnext := ih (step_accounts h h₁) h₂
    have hadm : admitted cfg p (a :: as) s = admittedBy a s ++ admitted cfg p as s₁ := by
      simp [admitted, h₁]
    rwa [hadm, ← List.append_assoc, List.append_cons]

end Dispatch

section Work

def movesOf (i : Nat) (as : List Action) : List Probe.Move :=
  as.filterMap fun
    | .worker j m => if j = i then some m else none
    | _ => none

def tally (g : Probe.Move → Target → Option Effect) (ts : List Target) (as : List Action) : List Effect :=
  as.filterMap fun
    | .worker i m => ts[i]?.bind (g m)
    | _ => none

def callOf (start : String) : Probe.Move → Target → Option Effect
  | .call, t => some (.describe (start ++ t.name) t.address t.port)
  | _, _ => none

def dueOf : Probe.Move → Target → Option Effect
  | .answer (.description d), t => some (.added t.name t.domain d)
  | _, _ => none

def outstanding? (w : Worker) : Option Effect :=
  match w.stage with
  | .delivering d => some (.added w.target.name w.target.domain d)
  | _ => none

theorem movesOf_snoc_same (i : Nat) (m : Probe.Move) (past : List Action) :
    movesOf i (past ++ [.worker i m]) = movesOf i past ++ [m] := by
  simp [movesOf]

theorem movesOf_snoc_other (h : ∀ m, a ≠ .worker i m) (past : List Action) :
    movesOf i (past ++ [a]) = movesOf i past := by
  rw [movesOf, List.filterMap_append]
  cases a with
  | worker j m =>
    have hj : j ≠ i := by
      rintro rfl
      exact h m rfl
    simp [movesOf, hj]
  | _ => simp [movesOf]

theorem movesOf_eq_nil (h : ∀ m, .worker i m ∉ past) : movesOf i past = [] := by
  refine List.filterMap_eq_nil_iff.mpr fun a ha => ?_
  cases a with
  | worker j m =>
    have hj : j ≠ i := by
      rintro rfl
      exact h m ha
    simp [hj]
  | _ => rfl

theorem tally_grow (g : Probe.Move → Target → Option Effect)
    (h : ∀ i m, Action.worker i m ∈ past → i < ts.length) : tally g (ts ++ new) past = tally g ts past := by
  refine List.filterMap_congr fun a ha => ?_
  cases a with
  | worker i m => simp [List.getElem?_append_left (h i m ha)]
  | _ => rfl

theorem tally_snoc_worker (g : Probe.Move → Target → Option Effect) {t : Target} (ht : ts[i]? = some t) :
    tally g ts (past ++ [.worker i m]) = tally g ts past ++ (g m t).toList := by
  rw [tally, List.filterMap_append]
  cases hg : g m t <;> simp [tally, ht, hg]

theorem tally_snoc_other (g : Probe.Move → Target → Option Effect) (h : ∀ i m, a ≠ .worker i m) :
    tally g ts (past ++ [a]) = tally g ts past := by
  rw [tally, List.filterMap_append]
  cases a with
  | worker i m => exact absurd rfl (h i m)
  | _ => simp [tally]

theorem effects_describe (start : String) (w : Worker) (m : Probe.Move) :
    (w.effects start m).filter isDescribe = (callOf start m w.target).toList := by
  cases m with
  | call => rfl
  | deliver =>
    unfold Worker.effects
    cases w.stage <;> rfl
  | _ => rfl

theorem effects_added (start : String) {w : Worker} {st : Stage} (h : w.stage.next? m = some st) :
    (w.effects start m).filter isAdded ++ (outstanding? { w with stage := st }).toList =
      (outstanding? w).toList ++ (dueOf m w.target).toList := by
  obtain ⟨t, stage⟩ := w
  change stage.next? m = some st at h
  unfold Stage.next? at h
  split at h
  all_goals first | cases h; rfl | cases h

structure Works (start : String) (past : List Action) (s : State σ) : Prop where
  known : ∀ i m, Action.worker i m ∈ past → i < s.targets.length
  course : ∀ (i : Nat) (w : Worker), s.pool.workers[i]? = some w → w.stage.Course (movesOf i past)
  described : s.log.filter isDescribe = tally (callOf start) s.targets past
  delivered : (s.log.filter isAdded ++ s.pool.workers.filterMap outstanding?).Perm (tally dueOf s.targets past)

theorem works_fresh (start : String) (b : σ) : Works start [] ({ provider := b } : State σ) where
  known i m hi := absurd hi List.not_mem_nil
  course i w hw := by simp at hw
  described := rfl
  delivered := .refl _

theorem works_grow {start : String} (new : List Target) (h : Works start past s) (ha : ∀ i m, a ≠ .worker i m)
    (hw : s'.pool.workers = s.pool.workers ++ new.map (⟨·, .spawned⟩)) (hl : Silent s s') :
    Works start (past ++ [a]) s' := by
  have ht : s'.targets = s.targets ++ new := by
    rw [State.targets, hw]
    simp [State.targets, Function.comp_def]
  have hout : (new.map fun t => (⟨t, .spawned⟩ : Worker)).filterMap outstanding? = [] := by
    refine List.filterMap_eq_nil_iff.mpr fun w hw => ?_
    obtain ⟨t, -, rfl⟩ := List.mem_map.mp hw
    rfl
  obtain ⟨hd, hadd⟩ := hl.filter_log
  constructor
  case known =>
    intro i m hi
    rw [ht, List.length_append]
    rcases List.mem_append.mp hi with hi | hi
    · have hlt := h.known i m hi
      omega
    · exact absurd (List.mem_singleton.mp hi).symm (ha i m)
  case course =>
    intro i w hi
    rw [movesOf_snoc_other (fun m => ha i m)]
    rw [hw] at hi
    by_cases hlt : i < s.pool.workers.length
    · rw [List.getElem?_append_left hlt] at hi
      exact h.course i w hi
    · -- a new worker has not moved yet
      rw [List.getElem?_append_right (Nat.le_of_not_lt hlt)] at hi
      obtain ⟨t, -, rfl⟩ := List.mem_map.mp (List.mem_of_getElem? hi)
      refine movesOf_eq_nil fun m hm => hlt ?_
      simpa [State.targets] using h.known i m hm
  case described =>
    rw [hd, ht, tally_snoc_other _ ha, tally_grow _ h.known]
    exact h.described
  case delivered =>
    rw [hadd, ht, tally_snoc_other _ ha, tally_grow _ h.known, hw, List.filterMap_append, hout, List.append_nil]
    exact h.delivered

theorem step_works (h : Works cfg.pathStart past s) (hs : step? cfg p a s = some s') :
    Works cfg.pathStart (past ++ [a]) s' := by
  cases step_turn hs with
  | handle before after workers silent =>
    exact works_grow [] h nofun (by simpa using workers) silent
  | start ok t before after workers silent =>
    cases ok with
    | true => exact works_grow [t] h nofun workers silent
    | false => exact works_grow [] h nofun workers silent
  | aside _ kind starting workers silent =>
    exact works_grow [] h kind.2.2 (by simpa using workers) silent
  | worker i m w st found next starting workers log =>
    have hi : i < s.pool.workers.length := (List.getElem?_eq_some_iff.mp found).1
    have ht : s'.targets = s.targets := by rw [State.targets, workers, targets_set found]
    have htarget : s.targets[i]? = some w.target := by simp [State.targets, found]
    obtain ⟨front, back, hsplit, hset⟩ := exists_set_split found
    constructor
    case known =>
      intro j m' hj
      rw [ht]
      rcases List.mem_append.mp hj with hj | hj
      · exact h.known j m' hj
      · cases List.mem_singleton.mp hj
        simpa [State.targets] using hi
    case course =>
      intro j w' hj
      rw [workers] at hj
      by_cases hji : j = i
      · subst hji
        rw [List.getElem?_set_self hi] at hj
        cases hj
        rw [movesOf_snoc_same]
        exact Stage.course_next (h.course j w found) next
      · rw [List.getElem?_set_ne (Ne.symm hji)] at hj
        rw [movesOf_snoc_other (by simp [Ne.symm hji])]
        exact h.course j w' hj
    case described =>
      rw [log, List.filter_append, effects_describe, ht, tally_snoc_worker _ htarget, h.described]
    case delivered =>
      refine List.perm_iff_count.mpr fun e => ?_
      have hold := h.delivered.count_eq e
      have hmove := congrArg (List.count e) (effects_added cfg.pathStart next)
      rw [log, workers, hset, ht, tally_snoc_worker _ htarget, List.filter_append]
      rw [hsplit] at hold
      cases ho : outstanding? w <;> cases ho' : outstanding? { w with stage := st } <;>
        simp [ho, ho', List.count_append, List.filterMap_append, List.count_cons] at hold hmove ⊢ <;> omega

theorem run_works (h : Works cfg.pathStart past s) (hs : run? cfg p as s = some s') :
    Works cfg.pathStart (past ++ as) s' := by
  induction as generalizing past s with
  | nil =>
    obtain rfl := Option.some.inj hs
    simpa using h
  | cons a as ih =>
    obtain ⟨s₁, h₁, h₂⟩ := Option.bind_eq_some_iff.mp hs
    rw [List.append_cons]
    exact ih (step_works h h₁) h₂

end Work

structure DeliversOnce (cfg : Config) (p : Provider σ) (as : List Action) (b : σ) (s : State σ) : Prop where
  handled : ∀ s', step? cfg p .handle s = some s' →
    s.starting = none ∧ s'.targets = s.targets ∧ ∀ t, s'.starting = some t ↔ Accepts s t
  started : ∀ ok s', step? cfg p (.start ok) s = some s' →
    ∃ t, s.starting = some t ∧ s'.starting = none ∧ s'.targets = s.targets ++ if ok then [t] else []
  accounted : (s.targets ++ s.starting.toList).Sublist (admitted cfg p as { provider := b }) ∧
    (s.targets ++ s.starting.toList).length + as.count (.start false) =
      (admitted cfg p as { provider := b }).length
  course : ∀ i < s.targets.length, ∃ a : Probe.Answer, movesOf i as <+: .call :: a.completion ∧
    (s.pool.isFinished i = true → movesOf i as = .call :: a.completion)
  called : s.log.filter isDescribe = tally (callOf cfg.pathStart) s.targets as
  reported : (s.log.filter isAdded ++ s.pool.workers.filterMap outstanding?).Perm (tally dueOf s.targets as)
  unfinished : ∀ i < s.targets.length, s.pool.isFinished i = false →
    ∃ m s', step? cfg p (.worker i m) s = some s'
  terminated : s.phase.isDrained = true →
    (∀ i < s.targets.length, s.pool.isFinished i = true) ∧
      (s.log.filter isAdded).Perm (tally dueOf s.targets as)

theorem probes_deliver_once {b : σ} (h : run? cfg p as { provider := b } = some s) :
    DeliversOnce cfg p as b s := by
  have haccounts := run_accounts (accounts_fresh b) h
  have hworks := run_works (works_fresh cfg.pathStart b) h
  have hguarded := run_guarded (guarded_fresh b) h
  rw [List.nil_append] at haccounts hworks
  rw [List.nil_append] at haccounts
  have hlen : s.targets.length = s.pool.next := by simp [State.targets, Pool.next]
  constructor
  case handled =>
    intro s' hs
    obtain ⟨hn, hs', hk⟩ := handle_keeps hs
    refine ⟨hn, by rw [State.targets, hk.pool]; rfl, fun t => ?_⟩
    rw [hs', admits?_eq_some_iff]
  case started =>
    intro ok s' hs
    obtain ⟨t, ht, rfl⟩ := start_iff.mp hs
    refine ⟨t, ht, rfl, ?_⟩
    cases ok with
    | true => simp [State.targets, Pool.register, Pool.dispatch]
    | false => simp [State.targets]
  case accounted => exact ⟨haccounts.sublist, haccounts.refused⟩
  case course =>
    intro i hi
    rw [hlen] at hi
    obtain ⟨w, hw⟩ : ∃ w, s.pool.workers[i]? = some w := ⟨_, List.getElem?_eq_getElem hi⟩
    obtain ⟨a, hpre, hfin⟩ := Stage.course_prefix (hworks.course i w hw)
    exact ⟨a, hpre, fun hf => hfin (by simpa [Pool.isFinished, Pool.stage?, hw] using hf)⟩
  case called => exact hworks.described
  case reported => exact hworks.delivered
  case unfinished =>
    intro i hi hf
    obtain ⟨m, pool, es, hm⟩ := Pool.exists_move cfg.pathStart (hlen ▸ hi) hf
    exact ⟨m, _, worker_iff.mpr ⟨pool, es, hm, rfl⟩⟩
  case terminated =>
    intro hd
    have hall := hguarded.finished hd
    have hout : s.pool.workers.filterMap outstanding? = [] := by
      refine List.filterMap_eq_nil_iff.mpr fun w hw => ?_
      have hf := hall w hw
      obtain ⟨t, stage⟩ := w
      cases stage <;> first | rfl | cases hf
    have hrep := hworks.delivered
    rw [hout, List.append_nil] at hrep
    refine ⟨fun i hi => ?_, hrep⟩
    exact Pool.finished_of_tracked hguarded.tracked (hguarded.drained hd) (by rwa [← hlen])

def resolvedAt (name address : String) : Event Record :=
  .resolved ⟨name, "_rtsp._tcp", "local", "eth0", .inet⟩
    (.found ⟨name, "local", name ++ ".local", address, 8554, {}⟩)

/-- Of three resolutions one is for IPv6. The first worker crashes and is reaped, the second gets its description while
the owner already drains. -/
def crashBesideDelivery : List Action :=
  [.init none, .handle, .handle, .post (resolvedAt "a" "10.0.0.5"), .post (resolvedAt "v6" "fe80::1"),
    .post (resolvedAt "b" "10.0.0.6"), .handle, .start true, .handle, .handle, .start true, .worker 0 .call,
    .worker 1 .call, .worker 0 (.answer .crash), .worker 0 .post, .worker 0 .exit, .reap, .close, .lock,
    .worker 1 (.answer (.description ⟨"rtsp://b", "v=0", none⟩)), .worker 1 .deliver, .worker 1 .post,
    .worker 1 .exit, .drained, .tell, .handle, .join]

theorem probes_deliver_once_crash :
    ∃ s, run? wiredConfig Mdns.provider crashBesideDelivery { provider := {} } = some s ∧
      s.targets.map (·.name) = ["a", "b"] ∧
      s.log.filter isDescribe =
        [.describe "/by-name/a" ⟨10, 0, 0, 5⟩ 8554, .describe "/by-name/b" ⟨10, 0, 0, 6⟩ 8554] ∧
      s.log.filter isAdded = [.added "b" "local" ⟨"rtsp://b", "v=0", none⟩] ∧
      DeliversOnce wiredConfig Mdns.provider crashBesideDelivery {} s :=
  ⟨_, rfl, rfl, rfl, rfl, probes_deliver_once rfl⟩

end StreamScout.Session
