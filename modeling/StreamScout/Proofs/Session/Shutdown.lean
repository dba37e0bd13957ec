import StreamScout.Mdns.Client
import StreamScout.Proofs.Session.Units

namespace StreamScout.Session

open StreamScout.Service
open StreamScout.Probe (Pool)

variable {σ : Type} {cfg : Config} {p : Provider σ} {s s' s'' : State σ} {a : Action}

def stops (log : List Effect) : Nat :=
  log.foldl (fun n e => match e with | .connect _ => 0 | .stop => n + 1 | _ => n) 0

theorem stops_append {es : List Effect} (h : ∀ e ∈ es, Within e) (log : List Effect) :
    stops (log ++ es) = stops log := by
  unfold stops
  rw [List.foldl_append]
  generalize List.foldl _ 0 log = n
  induction es with
  | nil => rfl
  | cons e es ih =>
    have he := h e List.mem_cons_self
    have hes := ih fun e' he' => h e' (List.mem_cons_of_mem _ he')
    cases e with
    | connect i => exact absurd rfl (he.2 i)
    | stop => exact absurd rfl he.1
    | _ => exact hes

theorem stops_stop (log : List Effect) : stops (log ++ [.stop]) = stops log + 1 := by
  simp [stops]

theorem stops_connect (i : String) (log : List Effect) : stops (log ++ [.connect i]) = 0 := by
  simp [stops]

theorem worker_within {start : String} {w : Probe.Worker} {m : Probe.Move} :
    ∀ e ∈ w.effects start m, Within e := by
  intro e he
  unfold Probe.Worker.effects at he
  split at he
  · simp [List.mem_singleton.mp he, Within]
  · split at he
    · simp [List.mem_singleton.mp he, Within]
    · cases he
  · cases he

structure Orderly (s : State σ) : Prop where
  gate : s.gate = true ↔ s.phase = .running
  starting : s.starting ≠ none → s.phase = .running ∨ s.phase = .closing
  loop : s.loop = .absent ↔ s.phase = .idle
  no_crash : s.loop ≠ .crashed
  tracked : s.pool.Tracked
  drained : s.phase.isDrained = true → s.pool.units = [] ∧ s.pool.notices = []
  stopped : s.phase ≠ .idle → stops s.log = if s.loop = .alive then 0 else 1

theorem orderly_fresh (b : σ) : Orderly ({ provider := b } : State σ) where
  gate := by simp
  starting := by simp
  loop := by simp
  no_crash := by simp
  tracked i hi := nomatch hi
  drained _ := ⟨rfl, rfl⟩
  stopped h := absurd rfl h

theorem Orderly.guarded (ho : Orderly s) : Guarded s :=
  ⟨ho.gate.mp, ho.starting, ho.tracked, fun hd => (ho.drained hd).1⟩

theorem Orderly.gate_closed (ho : Orderly s) (h : s.phase ≠ .running) : s.gate = false := by
  cases hg : s.gate with
  | true => exact absurd (ho.gate.mp hg) h
  | false => rfl

theorem Orderly.starting_none (ho : Orderly s) (h : s.phase.isDrained = true ∨ s.phase = .draining) :
    s.starting = none := by
  cases hs : s.starting with
  | none => rfl
  | some t => rcases ho.starting (by simp [hs]) with hp | hp <;> simp [hp, Phase.isDrained] at h

theorem Orderly.present (ho : Orderly s) (h : s.phase ≠ .idle) : s.loop ≠ .absent :=
  fun hl => h (ho.loop.mp hl)

theorem Orderly.still (ho : Orderly s) (h : s.phase.isDrained = true) (i : Nat) (m : Probe.Move) :
    s.pool.move? cfg.pathStart i m = none := by
  cases hm : s.pool.move? cfg.pathStart i m with
  | none => rfl
  | some r =>
    obtain ⟨w, st, hw, -, -, -⟩ := Pool.move_cases hm
    have hi : i < s.pool.next := (List.getElem?_eq_some_iff.mp hw).1
    have hf := Pool.finished_of_tracked ho.tracked (ho.drained h).1 hi
    rw [Pool.move_of_finished hf] at hm
    cases hm

theorem orderly_init {refusal : Option String} (ho : Orderly s) (h : step? cfg p (.init refusal) s = some s') :
    Orderly s' := by
  have hg := step_guarded ho.guarded h
  rcases init_cases h with ⟨-, rfl⟩ | ⟨hs, rfl⟩ | ⟨hi, -, rfl⟩
  · exact ho
  · exact {
      gate := by simp
      starting := hg.starting
      loop := by simp
      no_crash := by simp
      tracked := hg.tracked
      drained := nofun
      stopped := fun _ => stops_connect _ _ }
  · exact {
      gate := ho.gate
      starting := hg.starting
      loop := ho.loop
      no_crash := ho.no_crash
      tracked := hg.tracked
      drained := ho.drained
      stopped := fun hc => absurd hi hc }

theorem orderly_handle (hp : p.Calm) (ho : Orderly s) (h : step? cfg p .handle s = some s') :
    Orderly s' := by
  have hg := step_guarded ho.guarded h
  obtain ⟨hl, -, s₁, hr, hs⟩ := handle_cases hp h
  obtain ⟨es, hlog, hes⟩ := hr.log
  have hphase : s.phase ≠ .idle := fun hc => by simp [ho.loop.mpr hc] at hl
  have h₁ : stops s₁.log = 0 := by
    rw [hlog, stops_append hes, ho.stopped hphase, if_pos hl]
  have hgate : s₁.gate = true ↔ s₁.phase = .running := by
    rw [hr.gate, hr.phase]
    exact ho.gate
  have hdrained : s₁.phase.isDrained = true → s₁.pool.units = [] ∧ s₁.pool.notices = [] := by
    rw [hr.phase, hr.pool]
    exact ho.drained
  rcases hs with rfl | rfl
  · exact {
      gate := hgate
      starting := hg.starting
      loop := by rw [hr.loop, hr.phase]; exact ho.loop
      no_crash := by rw [hr.loop]; exact ho.no_crash
      tracked := hg.tracked
      drained := hdrained
      stopped := fun _ => by rw [h₁, hr.loop, if_pos hl] }
  · -- the loop leaves: this is the one stop of its provider
    exact {
      gate := hgate
      starting := hg.starting
      loop := by
        change Loop.stopped = .absent ↔ s₁.phase = .idle
        rw [hr.phase]; simp [hphase]
      no_crash := by simp
      tracked := hg.tracked
      drained := hdrained
      stopped := fun _ => by
        change stops (s₁.log ++ [.stop]) = 1
        rw [stops_stop, h₁] }

theorem step_orderly (hp : p.Calm) (ho : Orderly s) (h : step? cfg p a s = some s') : Orderly s' := by
  have hg := step_guarded ho.guarded h
  cases a with
  | init refusal => exact orderly_init ho h
  | close =>
    obtain ⟨hr, rfl⟩ := close_iff.mp h
    have hi : s.phase ≠ .idle := by simp [hr]
    exact { ho with
      gate := by simp
      starting := hg.starting
      loop := by simp [ho.present hi]
      drained := nofun
      stopped := fun _ => ho.stopped hi }
  | lock =>
    obtain ⟨⟨hc, -⟩, rfl⟩ := lock_iff.mp h
    have hi : s.phase ≠ .idle := by simp [hc]
    exact { ho with
      gate := by simp [ho.gate_closed (by simp [hc])]
      starting := hg.starting
      loop := by simp [ho.present hi]
      drained := nofun
      stopped := fun _ => ho.stopped hi }
  | drained =>
    obtain ⟨hd, n, pool, hdrain, rfl⟩ := drained_iff.mp h
    have hi : s.phase ≠ .idle := by simp [hd]
    exact { ho with
      gate := by simp [ho.gate_closed (by simp [hd])]
      starting := hg.starting
      loop := by simp [ho.present hi]
      tracked := hg.tracked
      drained := fun _ => by
        obtain ⟨-, -, rfl⟩ := Pool.drain_cases hdrain
        exact ⟨rfl, rfl⟩
      stopped := fun _ => ho.stopped hi }
  | tell =>
    obtain ⟨ht, rfl⟩ := tell_iff.mp h
    have hi : s.phase ≠ .idle := by simp [ht]
    exact { ho with
      gate := by simp [ho.gate_closed (by simp [ht])]
      starting := hg.starting
      loop := by simp [ho.present hi]
      drained := fun _ => ho.drained (by rw [ht]; rfl)
      stopped := fun _ => ho.stopped hi }
  | join =>
    obtain ⟨v, hv⟩ := step_join.mp h
    obtain ⟨hj, -, -, rfl⟩ := join_cases hv
    exact { ho with
      gate := by simp [ho.gate_closed (by simp [hj])]
      starting := hg.starting
      loop := by simp
      no_crash := by simp
      drained := fun _ => ho.drained (by rw [hj]; rfl)
      stopped := fun hc => absurd rfl hc }
  | reap =>
    obtain ⟨-, rfl⟩ := reap_iff.mp h
    exact { ho with
      tracked := hg.tracked
      drained := fun hd => ⟨hg.drained hd, rfl⟩ }
  | handle => exact orderly_handle hp ho h
  | start canStart =>
    obtain ⟨t, ht, rfl⟩ := start_iff.mp h
    exact { ho with
      starting := hg.starting
      tracked := hg.tracked
      drained := fun hd => by
        cases ht.symm.trans (ho.starting_none (.inl hd)) }
  | post e =>
    rcases post_cases h with rfl | ⟨-, rfl⟩
    · exact ho
    · exact { ho with }
  | worker i m =>
    obtain ⟨pool, es, hm, rfl⟩ := worker_iff.mp h
    exact { ho with
      tracked := hg.tracked
      drained := fun hd => by simp [ho.still hd] at hm
      stopped := fun hi => by
        obtain ⟨w, st, -, -, rfl, -⟩ := Pool.move_cases hm
        rw [stops_append worker_within]
        exact ho.stopped hi }

theorem run_orderly (hp : p.Calm) {as : List Action} (ho : Orderly s) (h : run? cfg p as s = some s') :
    Orderly s' :=
  run_invariant (fun _ _ _ ho h => step_orderly hp ho h) ho h

inductive Lull (cfg : Config) (p : Provider σ) : State σ → State σ → Prop
  | refl (s : State σ) : Lull cfg p s s
  | step {s s' s'' : State σ} {a : Action} : Lull cfg p s s' → step? cfg p a s' = some s'' →
      ¬ Starts cfg p a s' → Lull cfg p s s''

theorem lull_orderly (hp : p.Calm) (ho : Orderly s) (h : Lull cfg p s s') : Orderly s' := by
  induction h with
  | refl => exact ho
  | step _ hs _ ih => exact step_orderly hp ih hs

def Phase.isSealed (ph : Phase) : Bool :=
  ph == .draining || ph.isDrained

theorem Orderly.gate_sealed (ho : Orderly s) (hs : s.phase.isSealed = true) :
    s.gate = false ∧ s.starting = none := by
  have hph : s.phase = .draining ∨ s.phase.isDrained = true := by simpa [Phase.isSealed] using hs
  refine ⟨ho.gate_closed fun hr => ?_, ho.starting_none hph.symm⟩
  rw [hr] at hs
  cases hs

theorem step_sealed (ho : Orderly s) (hs : s.phase.isSealed = true)
    (h : step? cfg p a s = some s') (hn : ¬ Starts cfg p a s) :
    s'.phase.isSealed = true ∧ s'.pool.next = s.pool.next ∧ s'.pool.units.Sublist s.pool.units := by
  refine ⟨?_, step_unstarted h (ho.gate_sealed hs).2⟩
  cases a with
  | init refusal =>
    rcases init_cases h with ⟨-, rfl⟩ | ⟨hc, -⟩ | ⟨-, -, rfl⟩
    · exact hs
    · exact absurd hc hn
    · exact hs
  | close =>
    obtain ⟨hr, -⟩ := close_iff.mp h
    rw [hr] at hs
    cases hs
  | lock =>
    obtain ⟨⟨hc, -⟩, -⟩ := lock_iff.mp h
    rw [hc] at hs
    cases hs
  | drained =>
    obtain ⟨-, n, pool, -, rfl⟩ := drained_iff.mp h
    rfl
  | tell =>
    obtain ⟨-, rfl⟩ := tell_iff.mp h
    rfl
  | join =>
    obtain ⟨v, hv⟩ := step_join.mp h
    obtain ⟨-, -, -, rfl⟩ := join_cases hv
    rfl
  | reap =>
    obtain ⟨-, rfl⟩ := reap_iff.mp h
    exact hs
  | handle => rwa [(handle_keeps h).2.2.phase]
  | start canStart =>
    obtain ⟨t, -, rfl⟩ := start_iff.mp h
    exact hs
  | post e => rcases post_cases h with rfl | ⟨-, rfl⟩ <;> exact hs
  | worker i m =>
    obtain ⟨pool, es, -, rfl⟩ := worker_iff.mp h
    exact hs

theorem lull_sealed (hp : p.Calm) (ho : Orderly s) (hs : s.phase.isSealed = true)
    (h : Lull cfg p s s') :
    s'.phase.isSealed = true ∧ s'.pool.next = s.pool.next ∧ s'.pool.units.Sublist s.pool.units := by
  induction h with
  | refl => exact ⟨hs, rfl, .refl _⟩
  | step hl h₁ hn ih =>
    obtain ⟨hph, hnext, hsub⟩ := step_sealed (lull_orderly hp ho hl) ih.1 h₁ hn
    exact ⟨hph, hnext.trans ih.2.1, hsub.trans ih.2.2⟩

def isCall : Effect → Bool
  | .describe .. | .added .. | .removed .. => true
  | _ => false

theorem step_idle (hp : p.Calm) (ho : Orderly s) (hi : s.phase = .idle) (h : step? cfg p a s = some s')
    (hn : ¬ Starts cfg p a s) :
    s'.phase = .idle ∧ s'.log.filter isCall = s.log.filter isCall := by
  have hd : s.phase.isDrained = true := by rw [hi]; rfl
  have hl : s.loop = .absent := ho.loop.mpr hi
  cases a with
  | init refusal =>
    rcases init_cases h with ⟨-, rfl⟩ | ⟨hc, -⟩ | ⟨-, -, rfl⟩
    · exact ⟨hi, rfl⟩
    · exact absurd hc hn
    · exact ⟨hi, by simp [State.note, isCall]⟩
  | close =>
    obtain ⟨hc, -⟩ := close_iff.mp h
    cases hi.symm.trans hc
  | lock =>
    obtain ⟨⟨hc, -⟩, -⟩ := lock_iff.mp h
    cases hi.symm.trans hc
  | drained =>
    obtain ⟨hc, -⟩ := drained_iff.mp h
    cases hi.symm.trans hc
  | tell =>
    obtain ⟨hc, -⟩ := tell_iff.mp h
    cases hi.symm.trans hc
  | join =>
    obtain ⟨v, hv⟩ := step_join.mp h
    cases hi.symm.trans (join_cases hv).1
  | reap =>
    obtain ⟨-, rfl⟩ := reap_iff.mp h
    exact ⟨hi, rfl⟩
  | handle =>
    obtain ⟨ha, -⟩ := handle_cases hp h
    cases hl.symm.trans ha
  | start canStart =>
    obtain ⟨t, ht, -⟩ := start_iff.mp h
    rw [ho.starting_none (.inl hd)] at ht
    cases ht
  | post e =>
    rcases post_cases h with rfl | ⟨ha, -⟩
    · exact ⟨hi, rfl⟩
    · cases hl.symm.trans ha
  | worker i m =>
    obtain ⟨pool, es, hm, -⟩ := worker_iff.mp h
    rw [ho.still hd] at hm
    cases hm

theorem lull_idle (hp : p.Calm) (ho : Orderly s) (hi : s.phase = .idle) (h : Lull cfg p s s') :
    s'.phase = .idle ∧ s'.log.filter isCall = s.log.filter isCall := by
  induction h with
  | refl => exact ⟨hi, rfl⟩
  | step hl h₁ hn ih =>
    obtain ⟨hph, hlog⟩ := step_idle hp (lull_orderly hp ho hl) ih.1 h₁ hn
    exact ⟨hph, hlog.trans ih.2⟩

structure ShutDown (cfg : Config) (p : Provider σ) (s : State σ) : Prop where
  not_running : s.isRunning = false
  gate_closed : s.gate = false
  loop_gone : s.loop = .absent
  no_unit : s.pool.units = []
  no_notice : s.pool.notices = []
  no_worker : ∀ w ∈ s.pool.workers, w.stage.isFinished = true
  silent : ∀ s', Lull cfg p s s' → s'.log.filter isCall = s.log.filter isCall

theorem idle_shutDown (hp : p.Calm) (ho : Orderly s) (hi : s.phase = .idle) : ShutDown cfg p s where
  not_running := by simp [State.isRunning, hi]
  gate_closed := ho.gate_closed (by simp [hi])
  loop_gone := ho.loop.mpr hi
  no_unit := (ho.drained (by simp [hi, Phase.isDrained])).1
  no_notice := (ho.drained (by simp [hi, Phase.isDrained])).2
  no_worker := ho.guarded.finished (by simp [hi, Phase.isDrained])
  silent s' h := (lull_idle hp ho hi h).2

theorem shutdown_seals (hp : p.Calm) {as : List Action} {b : σ}
    (h : run? cfg p as { provider := b } = some s) :
    (s.phase = .draining → ∀ s', Lull cfg p s s' →
      s'.pool.next = s.pool.next ∧ s'.pool.units.Sublist s.pool.units) ∧
    (s.phase = .idle → ShutDown cfg p s) ∧
    ∀ v s', join? s = some (v, s') → v = .ok () ∧ stops s'.log = 1 ∧ ShutDown cfg p s' := by
  have ho := run_orderly hp (orderly_fresh b) h
  refine ⟨fun hd s' hl => ?_, idle_shutDown hp ho, fun v s' hj => ?_⟩
  · exact (lull_sealed hp ho (by rw [hd]; rfl) hl).2
  · have hstep : step? cfg p .join s = some s' := step_join.mpr ⟨v, hj⟩
    have ho' := step_orderly hp ho hstep
    obtain ⟨hph, hl, hv, rfl⟩ := join_cases hj
    refine ⟨hv ho.no_crash, ?_, idle_shutDown hp ho' rfl⟩
    have hs := ho.stopped (by simp [hph])
    rwa [if_neg hl] at hs

theorem mdns_calm (d : Mdns.Daemon) : d.provider.Calm where
  subscribe t c := by
    change (c.subscribe (d.search t c) t).outcome ≠ .panic
    unfold Mdns.Client.subscribe
    split
    · simp
    · cases d.search t c <;> simp
  resolve r c := by
    change (c.resolve r).outcome ≠ .panic
    unfold Mdns.Client.resolve
    split <;> simp

def wiredConfig : Config :=
  { interface := "eth0" }

def lateEvent : Event Record :=
  .resolved ⟨"a", "_rtsp._tcp", "local", "eth0", .inet⟩ (.found ⟨"a", "local", "a.local", "10.0.0.5", 8554, {}⟩)

/-- The loop has passed the gate when it is closed, and meets the same resolution again while the owner drains. -/
def closedBehindTheLoop : List Action :=
  [.init none, .handle, .handle, .post lateEvent, .handle, .close, .start true, .post lateEvent, .lock, .worker 0 .call,
    .worker 0 (.answer .crash), .worker 0 .post, .worker 0 .exit, .drained, .handle, .tell, .handle]

def drainedState : State Mdns.Client where
  phase := .joining
  loop := .stopped
  provider := {}
  pool := { workers := [⟨⟨"a", "local", ⟨10, 0, 0, 5⟩, 8554⟩, .finished .crashed⟩], observed := [0] }
  log :=
    [.connect "eth0", .subscribe "_rtsp._tcp.local.", .describe "/by-name/a" ⟨10, 0, 0, 5⟩ 8554, .stop]

theorem shutdown_seals_late_probe :
    run? wiredConfig Mdns.provider closedBehindTheLoop { provider := {} } = some drainedState ∧
      ∃ s', join? drainedState = some (.ok (), s') ∧ stops s'.log = 1 ∧
        ShutDown wiredConfig Mdns.provider s' := by
  have hrun : run? wiredConfig Mdns.provider closedBehindTheLoop { provider := {} } = some drainedState := rfl
  have hseals := shutdown_seals (mdns_calm _) hrun
  exact ⟨hrun, _, rfl, (hseals.2.2 _ _ rfl).2⟩

end StreamScout.Session
