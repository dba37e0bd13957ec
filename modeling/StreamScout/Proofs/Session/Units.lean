import StreamScout.Proofs.Session.Turn

namespace StreamScout.Session

open StreamScout.Service
open StreamScout.Probe (Pool Target)

variable {σ : Type} {cfg : Config} {p : Provider σ} {s s' : State σ} {a : Action} {as : List Action}

/-- All that a step may do to the units. -/
inductive Tends (start : String) (s s' : State σ) : Prop
  | same (pool : s'.pool = s.pool)
  | registers (t : Target) (before : s.starting = some t) (pool : s'.pool = s.pool.register t)
  | reaps (pool : s'.pool = s.pool.reap.2)
  | drains (n : Nat) (drained : s.pool.drain? = some (n, s'.pool))
  | moves (i : Nat) (m : Probe.Move) (es : List Effect) (moved : s.pool.move? start i m = some (s'.pool, es))

theorem step_tends (h : step? cfg p a s = some s') : Tends cfg.pathStart s s' := by
  cases a with
  | init refusal => rcases init_cases h with ⟨-, rfl⟩ | ⟨-, rfl⟩ | ⟨-, -, rfl⟩ <;> exact .same rfl
  | close =>
    obtain ⟨-, rfl⟩ := close_iff.mp h
    exact .same rfl
  | lock =>
    obtain ⟨-, rfl⟩ := lock_iff.mp h
    exact .same rfl
  | drained =>
    obtain ⟨-, n, pool, hd, rfl⟩ := drained_iff.mp h
    exact .drains n hd
  | tell =>
    obtain ⟨-, rfl⟩ := tell_iff.mp h
    exact .same rfl
  | join =>
    obtain ⟨v, hv⟩ := step_join.mp h
    obtain ⟨-, -, -, rfl⟩ := join_cases hv
    exact .same rfl
  | reap =>
    obtain ⟨-, rfl⟩ := reap_iff.mp h
    exact .reaps rfl
  | handle =>
    obtain ⟨-, -, hk⟩ := handle_keeps h
    exact .same hk.pool
  | start ok =>
    obtain ⟨t, ht, rfl⟩ := start_iff.mp h
    cases ok with
    | true => exact .registers t ht rfl
    | false => exact .same rfl
  | post e => rcases post_cases h with rfl | ⟨-, rfl⟩ <;> exact .same rfl
  | worker i m =>
    obtain ⟨pool, es, hm, rfl⟩ := worker_iff.mp h
    exact .moves i m es hm

/-- Every unit on the list is that of a worker. -/
def Numbered (s : State σ) : Prop :=
  ∀ i ∈ s.pool.units, i < s.pool.next

theorem numbered_fresh (b : σ) : Numbered ({ provider := b } : State σ) :=
  fun _ hi => absurd hi List.not_mem_nil

theorem step_numbered (hn : Numbered s) (h : step? cfg p a s = some s') : Numbered s' := by
  unfold Numbered
  cases step_tends h with
  | same pool =>
    rw [pool]
    exact hn
  | registers t before pool =>
    intro i hi
    rw [pool] at hi ⊢
    change i < (s.pool.dispatch t).next
    rw [Pool.next_dispatch]
    rcases List.mem_append.mp hi with hi | hi
    · exact Nat.lt_succ_of_lt (hn i hi)
    · rw [List.mem_singleton.mp hi]
      exact Nat.lt_succ_self _
  | reaps pool =>
    rw [pool]
    exact fun i hi => hn i (List.mem_filter.mp hi).1
  | drains n drained =>
    obtain ⟨-, -, heq⟩ := Pool.drain_cases drained
    rw [heq]
    exact fun i hi => absurd hi List.not_mem_nil
  | moves i m es moved =>
    rw [Pool.move_units moved, Pool.move_next moved]
    exact hn

theorem run_numbered (hn : Numbered s) (h : run? cfg p as s = some s') : Numbered s' :=
  run_invariant (fun _ _ _ hn h => step_numbered hn h) hn h

theorem step_tracked (ht : s.pool.Tracked) (h : step? cfg p a s = some s') : s'.pool.Tracked := by
  cases step_tends h with
  | same pool => rwa [pool]
  | registers t before pool =>
    rw [pool]
    exact Pool.tracked_register t ht
  | reaps pool =>
    rw [pool]
    exact Pool.tracked_reap ht
  | drains n drained => exact Pool.tracked_drain ht drained
  | moves i m es moved => exact Pool.tracked_move ht moved

/-- While the loop has nothing to start, no worker is added and the list gets no longer. -/
theorem step_unstarted (h : step? cfg p a s = some s') (hn : s.starting = none) :
    s'.pool.next = s.pool.next ∧ s'.pool.units.Sublist s.pool.units := by
  cases step_tends h with
  | same pool =>
    rw [pool]
    exact ⟨rfl, .refl _⟩
  | registers t before pool => cases hn.symm.trans before
  | reaps pool =>
    rw [pool]
    exact ⟨rfl, List.filter_sublist⟩
  | drains n drained =>
    obtain ⟨-, -, heq⟩ := Pool.drain_cases drained
    rw [heq]
    exact ⟨rfl, List.nil_sublist _⟩
  | moves i m es moved =>
    rw [Pool.move_units moved, Pool.move_next moved]
    exact ⟨rfl, .refl _⟩

def Phase.isDrained : Phase → Bool
  | .stopping | .joining | .idle => true
  | _ => false

/-- No probe starts once the gate is closed and the registry is drained, even if the loop has crashed. -/
structure Guarded (s : State σ) : Prop where
  gate : s.gate = true → s.phase = .running
  starting : s.starting ≠ none → s.phase = .running ∨ s.phase = .closing
  tracked : s.pool.Tracked
  drained : s.phase.isDrained = true → s.pool.units = []

theorem guarded_fresh (b : σ) : Guarded ({ provider := b } : State σ) where
  gate := by simp
  starting := by simp
  tracked i hi := nomatch hi
  drained _ := rfl

theorem Guarded.shut (h : Guarded s) (hr : s.phase ≠ .running) (hc : s.phase ≠ .closing) :
    s.gate = false ∧ s.starting = none := by
  constructor
  · by_contra hg
    exact hr (h.gate (by simpa using hg))
  · by_contra hs
    rcases h.starting hs with hp | hp
    · exact hr hp
    · exact hc hp

theorem step_guarded (h : Guarded s) (hs : step? cfg p a s = some s') : Guarded s' := by
  have htracked := step_tracked h.tracked hs
  cases a with
  | init refusal =>
    rcases init_cases hs with ⟨-, rfl⟩ | ⟨-, rfl⟩ | ⟨-, -, rfl⟩
    · exact h
    · exact ⟨fun _ => rfl, fun _ => .inl rfl, htracked, fun hd => absurd hd Bool.false_ne_true⟩
    · exact ⟨h.gate, h.starting, htracked, h.drained⟩
  | close =>
    obtain ⟨-, rfl⟩ := close_iff.mp hs
    refine ⟨fun hg => ?_, fun _ => .inr rfl, htracked, fun hd => absurd hd Bool.false_ne_true⟩
    exact absurd hg Bool.false_ne_true
  | lock =>
    obtain ⟨⟨hc, hl⟩, rfl⟩ := lock_iff.mp hs
    have hn : s.starting = none := by simpa [State.locked, hc] using hl
    refine ⟨fun hg => ?_, fun hs => absurd hn hs, htracked, fun hd => absurd hd Bool.false_ne_true⟩
    have hr := h.gate hg
    rw [hc] at hr
    cases hr
  | drained =>
    obtain ⟨hd, n, pool, hp, rfl⟩ := drained_iff.mp hs
    obtain ⟨hg, hn⟩ := h.shut (by simp [hd]) (by simp [hd])
    refine ⟨by simp [hg], by simp [hn], htracked, fun _ => ?_⟩
    obtain ⟨-, -, rfl⟩ := Pool.drain_cases hp
    rfl
  | tell =>
    obtain ⟨ht, rfl⟩ := tell_iff.mp hs
    obtain ⟨hg, hn⟩ := h.shut (by simp [ht]) (by simp [ht])
    have hu : s.pool.units = [] := h.drained (by rw [ht]; rfl)
    exact ⟨by simp [hg], by simp [hn], htracked, fun _ => hu⟩
  | join =>
    obtain ⟨v, hv⟩ := step_join.mp hs
    obtain ⟨hj, -, -, rfl⟩ := join_cases hv
    obtain ⟨hg, hn⟩ := h.shut (by simp [hj]) (by simp [hj])
    have hu : s.pool.units = [] := h.drained (by rw [hj]; rfl)
    exact ⟨by simp [hg], by simp [hn], htracked, fun _ => hu⟩
  | reap =>
    obtain ⟨-, rfl⟩ := reap_iff.mp hs
    refine ⟨h.gate, h.starting, htracked, fun hd => ?_⟩
    simp [Pool.reap, Pool.collect, Pool.clearNotices, h.drained hd]
  | handle =>
    obtain ⟨-, hn, hk⟩ := handle_keeps hs
    refine ⟨?_, fun hs' => ?_, htracked, ?_⟩
    · rw [hk.gate, hk.phase]
      exact h.gate
    · obtain ⟨t, ht⟩ := Option.ne_none_iff_exists'.mp hs'
      rw [hk.phase]
      exact .inl (h.gate (admits?_eq_some_iff.mp (hn ▸ ht)).1)
    · rw [hk.phase, hk.pool]
      exact h.drained
  | start ok =>
    obtain ⟨t, ht, rfl⟩ := start_iff.mp hs
    refine ⟨h.gate, fun hs => absurd rfl hs, htracked, fun hd => ?_⟩
    rcases h.starting (by simp [ht]) with hp | hp <;> simp [hp, Phase.isDrained] at hd
  | post e =>
    rcases post_cases hs with rfl | ⟨-, rfl⟩
    · exact h
    · exact ⟨h.gate, h.starting, htracked, h.drained⟩
  | worker i m =>
    obtain ⟨pool, es, hm, rfl⟩ := worker_iff.mp hs
    refine ⟨h.gate, h.starting, htracked, fun hd => ?_⟩
    change pool.units = []
    rw [Pool.move_units hm]
    exact h.drained hd

theorem run_guarded (h : Guarded s) (hs : run? cfg p as s = some s') : Guarded s' :=
  run_invariant (fun _ _ _ h hs => step_guarded h hs) h hs

theorem Guarded.finished (h : Guarded s) (hd : s.phase.isDrained = true) :
    ∀ w ∈ s.pool.workers, w.stage.isFinished = true := by
  intro w hw
  obtain ⟨i, hi, rfl⟩ := List.mem_iff_getElem.mp hw
  have hf := Pool.finished_of_tracked h.tracked (h.drained hd) hi
  simpa [Pool.isFinished, Pool.stage?, hi] using hf

end StreamScout.Session
