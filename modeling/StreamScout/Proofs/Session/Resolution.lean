import StreamScout.Proofs.Session.Delivery

namespace StreamScout.Session

open StreamScout.Service
open StreamScout.Probe (Pool Target)

variable {σ : Type} {cfg : Config} {p : Provider σ} {s s' : State σ} {a : Action} {as : List Action}
  {outcome : Resolution} {canStart : Bool} {t : Target}

def Reaches (outcome : Resolution) (t : Target) : Prop :=
  ∃ e, outcome = .found e ∧ Ipv4.DottedQuad e.address t.address ∧
    t.name = e.name ∧ t.domain = e.domain ∧ t.port = e.port

theorem ofResolution?_eq_some_iff : Target.ofResolution? outcome = some t ↔ Reaches outcome t := by
  cases outcome with
  | failure reason =>
    constructor
    · rintro ⟨⟩
    · rintro ⟨e, heq, -⟩
      cases heq
  | found e =>
    change Target.ofEndpoint? e = some t ↔ _
    rw [ofEndpoint?_eq_some_iff, ← Ipv4.ofText?_eq_some_iff, Ipv4.ofText?_eq_some_iff_quad]
    constructor
    · rintro ⟨haddress, hname, hdomain, hport⟩
      exact ⟨e, rfl, haddress, hname.symm, hdomain.symm, hport.symm⟩
    · rintro ⟨e', heq, haddress, hname, hdomain, hport⟩
      cases heq
      exact ⟨haddress, hname.symm, hdomain.symm, hport.symm⟩

section Handler

theorem onResolved_admitted (h : Reaches outcome t) (hg : s.gate = true) :
    onResolved outcome s = { s with starting := some t } := by
  simp [onResolved, ofResolution?_eq_some_iff.mpr h, hg]

theorem onResolved_refused (h : ¬ ((∃ t, Reaches outcome t) ∧ s.gate = true)) : onResolved outcome s = s := by
  unfold onResolved
  split
  next t ht =>
    refine if_neg fun hg => h ⟨⟨t, ?_⟩, hg⟩
    exact ofResolution?_eq_some_iff.mp ht
  next => rfl

theorem resolution_admitted (idle : s.starting = none) (h : Reaches outcome t) (hg : s.gate = true) :
    resolution canStart outcome s = { s with pool := if canStart then s.pool.register t else s.pool } := by
  simp only [resolution, onResolved_admitted h hg, start?, Option.map_some, Option.getD_some]
  rw [← idle]

theorem resolution_refused (idle : s.starting = none) (h : ¬ ((∃ t, Reaches outcome t) ∧ s.gate = true)) :
    resolution canStart outcome s = s := by
  simp [resolution, onResolved_refused h, start?, idle]

theorem resolution_unchanged (idle : s.starting = none)
    (h : ¬ ((∃ t, Reaches outcome t) ∧ s.gate = true ∧ canStart = true)) : resolution canStart outcome s = s := by
  by_cases hadmitted : (∃ t, Reaches outcome t) ∧ s.gate = true
  · obtain ⟨⟨t, ht⟩, hg⟩ := hadmitted
    have hfail : canStart = false := by simpa [hg] using fun hc => h ⟨⟨t, ht⟩, hg, hc⟩
    rw [resolution_admitted idle ht hg, hfail]
    rfl
  · exact resolution_refused idle hadmitted

theorem handle_resolution {r : Record} {rest : List Item} (idle : s.starting = none) (alive : s.loop = .alive)
    (free : s.phase ≠ .draining) (hq : s.queue = .event (.resolved r outcome) :: rest) :
    ∃ s₁, step? cfg p .handle s = some s₁ ∧ s₁.pool = s.pool ∧ s₁.log = s.log ∧
      (step? cfg p (.start canStart) s₁).getD s₁ = resolution canStart outcome { s with queue := rest } := by
  have hfree : s.locked = false := by simp [State.locked, idle, free]
  refine ⟨onResolved outcome { s with queue := rest }, ?_, ?_, ?_, rfl⟩
  · simp [step?, handle?, alive, idle, hq, hfree, conclude, react]
  · exact (onResolved_reacts outcome { s with queue := rest }).pool
  · unfold onResolved
    split
    · split <;> rfl
    · rfl

end Handler

section Lock

/-- While the loop is about to start a probe, nobody else touches the list or dispatches. -/
theorem step_held (hg : Guarded s) (hs : s.starting = some t) (ha : ∀ ok, a ≠ .start ok)
    (h : step? cfg p a s = some s') :
    s'.starting = some t ∧ s'.pool.units = s.pool.units ∧ s'.targets = s.targets := by
  have hphase : s.phase = .running ∨ s.phase = .closing := hg.starting (by simp [hs])
  have hlocked : s.locked = true := by simp [State.locked, hs]
  cases a with
  | init refusal =>
    rcases init_cases h with ⟨-, rfl⟩ | ⟨-, rfl⟩ | ⟨-, -, rfl⟩ <;> exact ⟨hs, rfl, rfl⟩
  | close =>
    obtain ⟨-, rfl⟩ := close_iff.mp h
    exact ⟨hs, rfl, rfl⟩
  | lock =>
    obtain ⟨⟨-, hfree⟩, -⟩ := lock_iff.mp h
    simp [hlocked] at hfree
  | drained =>
    obtain ⟨hd, -⟩ := drained_iff.mp h
    simp [hd] at hphase
  | tell =>
    obtain ⟨-, rfl⟩ := tell_iff.mp h
    exact ⟨hs, rfl, rfl⟩
  | join =>
    obtain ⟨v, hv⟩ := step_join.mp h
    obtain ⟨-, -, -, rfl⟩ := join_cases hv
    exact ⟨hs, rfl, rfl⟩
  | reap =>
    obtain ⟨hfree, -⟩ := reap_iff.mp h
    simp [hlocked] at hfree
  | handle =>
    obtain ⟨hn, -⟩ := handle_keeps h
    simp [hs] at hn
  | start ok => exact absurd rfl (ha ok)
  | post e =>
    rcases post_cases h with rfl | ⟨-, rfl⟩ <;> exact ⟨hs, rfl, rfl⟩
  | worker i m =>
    obtain ⟨pool, es, hm, rfl⟩ := worker_iff.mp h
    refine ⟨hs, Pool.move_units hm, ?_⟩
    obtain ⟨w, st, hw, -, -, rfl⟩ := Pool.move_cases hm
    exact targets_set hw st

theorem run_held (hg : Guarded s) (hs : s.starting = some t) (ha : ∀ ok, .start ok ∉ as)
    (h : run? cfg p as s = some s') :
    s'.starting = some t ∧ s'.pool.units = s.pool.units ∧ s'.targets = s.targets := by
  induction as generalizing s with
  | nil =>
    obtain rfl := Option.some.inj h
    exact ⟨hs, rfl, rfl⟩
  | cons a as ih =>
    obtain ⟨s₁, h₁, h₂⟩ := Option.bind_eq_some_iff.mp h
    have hother : ∀ ok, a ≠ .start ok := fun ok heq => ha ok (heq ▸ List.mem_cons_self)
    obtain ⟨hs₁, hunits, htargets⟩ := step_held hg hs hother h₁
    have hrest := ih (step_guarded hg h₁) hs₁ (fun ok hmem => ha ok (List.mem_cons_of_mem _ hmem)) h₂
    rw [hunits, htargets] at hrest
    exact hrest

theorem start_held {b : σ} {others : List Action} {s₁ s₂ : State σ} (hr : run? cfg p as { provider := b } = some s)
    (h₁ : step? cfg p .handle s = some s₁) (hs₁ : s₁.starting = some t) (h₂ : run? cfg p others s₁ = some s₂)
    (hothers : ∀ ok, .start ok ∉ others) :
    ∃ s₃, step? cfg p (.start canStart) s₂ = some s₃ ∧
      s₃.pool.units = s.pool.units ++ (if canStart then [s.pool.next] else []) ∧
      s₃.targets = s.targets ++ (if canStart then [t] else []) ∧
      s₃.pool.notices = s₂.pool.notices ∧ s₃.log = s₂.log := by
  obtain ⟨-, -, hk⟩ := handle_keeps h₁
  have hguarded := step_guarded (run_guarded (guarded_fresh b) hr) h₁
  obtain ⟨hs₂, hunits, htargets⟩ := run_held hguarded hs₁ hothers h₂
  have hnext : s₂.pool.next = s.pool.next := by
    have hlength := congrArg List.length htargets
    rw [State.targets, State.targets, List.length_map, List.length_map, hk.pool] at hlength
    exact hlength
  rw [hk.pool] at hunits
  have htargets' : s₂.targets = s.targets := by rw [htargets, State.targets, hk.pool, State.targets]
  refine ⟨_, start_iff.mpr ⟨t, hs₂, rfl⟩, ?_⟩
  cases canStart with
  | false => exact ⟨by simp [hunits], by simpa [State.targets] using htargets', rfl, rfl⟩
  | true =>
    refine ⟨?_, ?_, rfl, rfl⟩
    · change s₂.pool.units ++ [s₂.pool.next] = _
      rw [hunits, hnext]
      rfl
    · have hregister : (s₂.pool.register t).workers.map (·.target) = s₂.targets ++ [t] := by
        simp [Pool.register, Pool.dispatch, State.targets]
      exact hregister.trans (by rw [htargets']; rfl)

end Lock

structure OneOrNothing (cfg : Config) (p : Provider σ) (canStart : Bool) (outcome : Resolution) (s : State σ) :
    Prop where
  appends : (∃ i, (resolution canStart outcome s).pool.units = s.pool.units ++ [i]) ↔
    (∃ t, Reaches outcome t) ∧ s.gate = true ∧ canStart = true
  unit : ∀ t, Reaches outcome t → s.gate = true → canStart = true →
    resolution canStart outcome s =
      { s with pool :=
        { s.pool with
          units := s.pool.units ++ [s.pool.next]
          workers := s.pool.workers ++ [⟨t, .spawned⟩] } }
  otherwise : ¬ ((∃ t, Reaches outcome t) ∧ s.gate = true ∧ canStart = true) → resolution canStart outcome s = s
  steps : ∀ r rest, s.queue = .event (.resolved r outcome) :: rest → s.loop = .alive → s.phase ≠ .draining →
    ∃ s₁, step? cfg p .handle s = some s₁ ∧ s₁.pool = s.pool ∧ s₁.log = s.log ∧
      (step? cfg p (.start canStart) s₁).getD s₁ = resolution canStart outcome { s with queue := rest }
  fresh : ∀ as b, run? cfg p as { provider := b } = some s → s.pool.next ∉ s.pool.units
  held : ∀ as b, run? cfg p as { provider := b } = some s → ∀ s₁ t others s₂, step? cfg p .handle s = some s₁ →
    s₁.starting = some t → run? cfg p others s₁ = some s₂ → (∀ ok, .start ok ∉ others) →
    ∃ s₃, step? cfg p (.start canStart) s₂ = some s₃ ∧
      s₃.pool.units = s.pool.units ++ (if canStart then [s.pool.next] else []) ∧
      s₃.targets = s.targets ++ (if canStart then [t] else []) ∧
      s₃.pool.notices = s₂.pool.notices ∧ s₃.log = s₂.log

theorem resolution_one_or_nothing (cfg : Config) (p : Provider σ) (canStart : Bool) (outcome : Resolution)
    (idle : s.starting = none) : OneOrNothing cfg p canStart outcome s := by
  have hunit : ∀ t, Reaches outcome t → s.gate = true → canStart = true →
      resolution canStart outcome s = { s with pool := s.pool.register t } := by
    rintro t ht hg rfl
    exact resolution_admitted idle ht hg
  constructor
  case unit => exact hunit
  case otherwise => exact resolution_unchanged idle
  case appends =>
    constructor
    · rintro ⟨i, hi⟩
      by_contra hrefused
      rw [resolution_unchanged idle hrefused] at hi
      simp at hi
    · rintro ⟨⟨t, ht⟩, hg, hc⟩
      exact ⟨s.pool.next, by rw [hunit t ht hg hc]; rfl⟩
  case steps =>
    intro r rest hq alive free
    exact handle_resolution idle alive free hq
  case fresh =>
    intro as b hr hmem
    exact Nat.lt_irrefl _ (run_numbered (numbered_fresh b) hr _ hmem)
  case held =>
    intro as b hr s₁ t others s₂ h₁ hs₁ h₂ hothers
    exact start_held hr h₁ hs₁ h₂ hothers

def studioAt (address : String) : Resolution :=
  .found ⟨"studio", "local", "studio.local", address, 8554, {}⟩

theorem resolution_one_or_nothing_second :
    ∃ s, run? wiredConfig Mdns.provider
        [.init none, .handle, .handle, .post (resolvedAt "a" "10.0.0.5"), .handle, .start true] { provider := {} } = some s ∧
      s.starting = none ∧ OneOrNothing wiredConfig Mdns.provider true (studioAt "10.0.0.6") s ∧
      s.pool.units = [0] ∧ (resolution true (studioAt "10.0.0.6") s).pool.units = [0, 1] ∧
      ∀ address ∈ ["10.0.0.06", " 10.0.0.6", "::ffff:10.0.0.6"], resolution true (studioAt address) s = s :=
  ⟨_, rfl, rfl, resolution_one_or_nothing _ _ _ _ rfl, rfl, rfl, by
    simp only [List.mem_cons, List.not_mem_nil, or_false, forall_eq_or_imp, forall_eq]
    exact ⟨rfl, rfl, rfl⟩⟩

end StreamScout.Session
