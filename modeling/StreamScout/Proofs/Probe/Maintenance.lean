import StreamScout.Proofs.Probe.Registry

namespace StreamScout.Probe

namespace Pool

def isLeaving (p : Pool) (i : Nat) : Bool :=
  p.posts i == 1 && !p.isFinished i

theorem posts_fresh (p : Pool) : p.posts p.next = 0 := by
  cases hs : p.stage? p.next with
  | none => simp [posts, hs]
  | some s => exact absurd (lt_next_of_stage hs) (Nat.lt_irrefl _)

theorem notices_move {start : String} {p p' : Pool} {i : Nat} {m : Move} {es : List Effect}
    (h : p.move? start i m = some (p', es)) : p'.notices = p.noticesAfter i m := by
  obtain ⟨w, s, -, -, -, rfl⟩ := move_cases h
  rfl

end Pool

structure Maintenance where
  registry : Registry := {}
  awake : Bool := false
  /-- What the last reaping left on the list between its notice and its end. -/
  overlooked : List Nat := []
  deriving DecidableEq, Repr

namespace Maintenance

inductive Action where
  | start (gate canStart : Bool) (t : Target)
  | worker (i : Nat) (m : Move)
  | receive
  | tick
  | discard
  | partition
  deriving DecidableEq, Repr

def pool (w : Maintenance) : Pool :=
  w.registry.pool

def step? (start : String) (a : Action) (w : Maintenance) : Option Maintenance :=
  match a with
  | .start gate canStart t =>
      (w.registry.step? start (.registerWhile gate canStart t)).map fun registry => { w with registry }
  | .worker i m => (w.registry.step? start (.worker i m)).map fun registry => { w with registry }
  | .receive =>
      if w.awake then none
      else (w.registry.step? start .receive).map fun registry => { w with registry, awake := true }
  | .tick => if w.awake then none else some { w with awake := true }
  | .discard =>
      if w.awake then (w.registry.step? start .discard).map fun registry => { w with registry } else none
  | .partition =>
      (w.registry.step? start .partition).map fun registry =>
        { registry, awake := false, overlooked := w.pool.units.filter w.pool.isLeaving }

def run? (start : String) : List Action → Maintenance → Option Maintenance
  | [], w => some w
  | a :: as, w => (w.step? start a).bind (run? start as)

variable {start : String} {w w' : Maintenance} {a : Action} {as : List Action} {i : Nat} {m : Move} {t : Target}

/-- Every notice is in the queue, or has woken the loop, or is that of a unit that was overlooked. -/
structure Heeds (w : Maintenance) : Prop where
  awake : w.registry.holder = .reaper → w.awake = true
  free : w.registry.holder ≠ .drainer
  listed : ∀ i ∈ w.overlooked, i ∈ w.pool.units
  heard : w.awake = false → ∀ i ∈ w.pool.units, w.pool.posts i = 1 → i ∈ w.pool.notices ∨ i ∈ w.overlooked

theorem heeds_empty : Heeds {} where
  awake h := nomatch h
  free h := nomatch h
  listed _ hi := nomatch hi
  heard _ _ hi := nomatch hi

theorem heeds_start (hw : Heeds w) {gate canStart : Bool} (h : w.step? start (.start gate canStart t) = some w') :
    Heeds w' := by
  obtain ⟨r, hr, rfl⟩ := Option.map_eq_some_iff.mp h
  obtain ⟨-, ⟨-, rfl⟩ | ⟨-, rfl⟩⟩ := Registry.registerWhile_cases hr
  · exact hw
  · refine ⟨hw.awake, hw.free, fun i hi => List.mem_append_left _ (hw.listed i hi), fun hidle i hi hp => ?_⟩
    have hposts : w.pool.posts i = 1 := (Pool.posts_dispatch t w.pool i).symm.trans hp
    rcases List.mem_append.mp hi with hold | hlast
    · exact hw.heard hidle i hold hposts
    · rw [List.mem_singleton.mp hlast] at hposts
      exact absurd ((Pool.posts_fresh w.pool).symm.trans hposts) (by decide)

theorem heeds_worker (hw : Heeds w) (h : w.step? start (.worker i m) = some w') : Heeds w' := by
  obtain ⟨r, hr, rfl⟩ := Option.map_eq_some_iff.mp h
  obtain ⟨p, es, hm, rfl⟩ := Registry.worker_iff.mp hr
  have hunits : p.units = w.pool.units := Pool.move_units hm
  refine ⟨hw.awake, hw.free, fun j hj => hunits ▸ hw.listed j hj, fun hidle j hj hp => ?_⟩
  have hnotices : p.notices = w.pool.noticesAfter i m := Pool.notices_move hm
  have hposts : p.posts j = w.pool.posts j + if j = i ∧ m = .post then 1 else 0 := Pool.posts_move hm j
  change j ∈ p.notices ∨ j ∈ w.overlooked
  rw [hnotices]
  by_cases hnow : j = i ∧ m = .post
  · obtain ⟨rfl, rfl⟩ := hnow
    exact .inl (List.mem_append_right _ (List.mem_singleton_self _))
  · rw [if_neg hnow] at hposts
    rcases hw.heard hidle j (hunits ▸ hj) (hposts.symm.trans hp) with hqueued | hleft
    · refine .inl ?_
      cases m with
      | post => exact List.mem_append_left _ hqueued
      | _ => exact hqueued
    · exact .inr hleft

theorem heeds_partition (h : w.step? start .partition = some w') : Heeds w' := by
  obtain ⟨r, hr, rfl⟩ := Option.map_eq_some_iff.mp h
  obtain ⟨-, rfl⟩ := Registry.partition_iff.mp hr
  refine ⟨nofun, nofun, fun i hi => ?_, fun _ i hi hp => .inr ?_⟩
  · obtain ⟨hunit, hleaving⟩ := List.mem_filter.mp hi
    exact List.mem_filter.mpr ⟨hunit, (Bool.and_eq_true_iff.mp hleaving).2⟩
  · -- the loop goes back to sleep: what has posted and stays on the list must have been seen running
    obtain ⟨hunit, hrunning⟩ := List.mem_filter.mp hi
    have hposted : (w.pool.posts i == 1) = true := beq_iff_eq.mpr hp
    exact List.mem_filter.mpr ⟨hunit, Bool.and_eq_true_iff.mpr ⟨hposted, hrunning⟩⟩

theorem step_heeds (hw : Heeds w) (h : w.step? start a = some w') : Heeds w' := by
  cases a with
  | start gate canStart t => exact heeds_start hw h
  | worker i m => exact heeds_worker hw h
  | receive =>
    obtain ⟨-, h⟩ := Option.ite_none_left_eq_some.mp h
    obtain ⟨r, hr, rfl⟩ := Option.map_eq_some_iff.mp h
    obtain ⟨p, hp, rfl⟩ := Registry.receive_iff.mp hr
    obtain ⟨n, ns, -, rfl⟩ := Registry.receive_cases hp
    exact ⟨fun _ => rfl, hw.free, hw.listed, nofun⟩
  | tick =>
    obtain ⟨-, h⟩ := Option.ite_none_left_eq_some.mp h
    cases h
    exact ⟨fun _ => rfl, hw.free, hw.listed, nofun⟩
  | discard =>
    obtain ⟨hawake, h⟩ := Option.ite_none_right_eq_some.mp h
    obtain ⟨r, hr, rfl⟩ := Option.map_eq_some_iff.mp h
    obtain ⟨-, rfl⟩ := Registry.discard_iff.mp hr
    exact ⟨fun _ => hawake, nofun, hw.listed, fun hidle => absurd (hawake.symm.trans hidle) (by decide)⟩
  | partition => exact heeds_partition h

theorem run_heeds (hw : Heeds w) (h : run? start as w = some w') : Heeds w' := by
  induction as generalizing w with
  | nil => exact Option.some.inj h ▸ hw
  | cons a as ih =>
    obtain ⟨w₁, h₁, h₂⟩ := Option.bind_eq_some_iff.mp h
    exact ih (step_heeds hw h₁) h₂

theorem Heeds.idle (hw : Heeds w) (hidle : w.awake = false) : w.registry.holder = .nobody := by
  cases hholder : w.registry.holder with
  | nobody => rfl
  | reaper => exact absurd ((hw.awake hholder).symm.trans hidle) (by decide)
  | drainer => exact absurd hholder hw.free

theorem tick_reaps (start : String) (hw : Heeds w) (hidle : w.awake = false) :
    ∃ w', run? start [.tick, .discard, .partition] w = some w' ∧
      ∀ i, i ∈ w'.pool.units ↔ i ∈ w.pool.units ∧ w.pool.isFinished i = false := by
  have hholder := hw.idle hidle
  have htick : w.step? start .tick = some { w with awake := true } := by simp [step?, hidle]
  obtain ⟨w₂, hdiscard, hpool, hreaper⟩ :
      ∃ w₂, ({ w with awake := true } : Maintenance).step? start .discard = some w₂ ∧
        w₂.pool = w.pool.clearNotices ∧ w₂.registry.holder = .reaper := by
    simp [step?, Registry.step?, hholder, pool]
  obtain ⟨w₃, hpartition, hcollect⟩ : ∃ w₃, w₂.step? start .partition = some w₃ ∧ w₃.pool = w₂.pool.collect.2 := by
    simp [step?, Registry.step?, hreaper, pool]
  refine ⟨w₃, by simp [run?, htick, hdiscard, hpartition], fun i => ?_⟩
  rw [hcollect, hpool]
  change i ∈ w.pool.units.filter (fun i => !w.pool.isFinished i) ↔ _
  rw [List.mem_filter, Bool.not_eq_true']

theorem notices_reap_finished (h : run? start as {} = some w) (hidle : w.awake = false) (hq : w.pool.notices = []) :
    (∀ i, i ∈ w.pool.units ∧ w.pool.isFinished i = true ↔ i ∈ w.overlooked ∧ w.pool.isFinished i = true) ∧
    ∃ w', run? start [.tick, .discard, .partition] w = some w' ∧
      ∀ i, i ∈ w'.pool.units ↔ i ∈ w.pool.units ∧ w.pool.isFinished i = false := by
  have hw := run_heeds heeds_empty h
  refine ⟨fun i => and_congr_left fun hfinished => ⟨fun hunit => ?_, hw.listed i⟩, tick_reaps start hw hidle⟩
  have hheard := hw.heard hidle i hunit (Pool.posts_of_finished hfinished)
  rw [hq] at hheard
  exact hheard.resolve_left List.not_mem_nil

open Registry (studio)

def oneTooEarly : List Action :=
  [.start true true (studio "a"), .start true true (studio "b"), .start true true (studio "c"), .worker 0 .call,
    .worker 1 .call, .worker 0 (.answer .error), .worker 0 .post, .worker 0 .exit, .worker 1 (.answer .crash),
    .worker 1 .post, .receive, .discard, .partition, .worker 1 .exit, .worker 2 .call]

theorem notices_reap_finished_one :
    ∃ w, run? "/by-name/" oneTooEarly {} = some w ∧ w.awake = false ∧ w.pool.notices = [] ∧ w.overlooked = [1] ∧
      (∀ i, i ∈ w.pool.units ∧ w.pool.isFinished i = true ↔ i ∈ w.overlooked ∧ w.pool.isFinished i = true) ∧
      ∃ w', run? "/by-name/" [.tick, .discard, .partition] w = some w' ∧
        ∀ i, i ∈ w'.pool.units ↔ i ∈ w.pool.units ∧ w.pool.isFinished i = false := by
  obtain ⟨w, hrun, hstate⟩ : ∃ w, run? "/by-name/" oneTooEarly {} = some w ∧
      w.awake = false ∧ w.pool.notices = [] ∧ w.overlooked = [1] := ⟨_, rfl, rfl, rfl, rfl⟩
  exact ⟨w, hrun, hstate.1, hstate.2.1, hstate.2.2, notices_reap_finished hrun hstate.1 hstate.2.1⟩

def tooEarly : List Action :=
  [.start true true (studio "a"), .worker 0 .call, .worker 0 (.answer .error), .worker 0 .post, .receive, .discard,
    .partition, .worker 0 .exit]

theorem finished_unit_left :
    ¬ ∀ as w, .tick ∉ as → run? "/by-name/" as {} = some w → w.awake = false → w.pool.notices = [] →
      (∀ i < w.pool.next, w.pool.posts i = 1) → ∀ i ∈ w.pool.units, w.pool.isFinished i = false := by
  intro h
  have hrunning := h tooEarly _ (by decide) rfl rfl rfl (by decide) 0 (by decide)
  exact absurd hrunning (by decide)

end Maintenance

end StreamScout.Probe
