import StreamScout.Proofs.Probe.Pool
import StreamScout.Session.Step

namespace StreamScout.Service

structure Provider.Calm {σ : Type} (p : Provider σ) : Prop where
  subscribe : ∀ t b, (p.subscribe t b).outcome ≠ .panic
  resolve : ∀ r b, (p.resolve r b).outcome ≠ .panic

end StreamScout.Service

namespace StreamScout.Session

open StreamScout.Service

variable {σ : Type} {cfg : Config} {p : Provider σ} {s s' : State σ}

def Starts (cfg : Config) (p : Provider σ) (a : Action) (s : State σ) : Prop :=
  a = .init none ∧ s.phase = .idle ∧ (p.connect cfg.interface s.provider).outcome = .ok

theorem init_cases {refusal : Option String} (h : step? cfg p (.init refusal) s = some s') :
    (s.phase ≠ .idle ∧ s' = s) ∨
      (Starts cfg p (.init refusal) s ∧
        s' = { (s.note [.connect cfg.interface]).accept (p.connect cfg.interface s.provider) with
          phase := .running, gate := true, loop := .alive }) ∨
      (s.phase = .idle ∧ ¬ Starts cfg p (.init refusal) s ∧
        s' = { s.note [.connect cfg.interface] with
          provider := p.drop (p.connect cfg.interface s.provider).state }) := by
  obtain rfl := Option.some.inj h
  by_cases hi : s.phase = .idle
  · refine .inr ?_
    cases ho : (p.connect cfg.interface s.provider).outcome with
    | ok =>
      cases refusal with
      | none => exact .inl ⟨⟨rfl, hi, ho⟩, by simp [init, hi, ho]⟩
      | some reason => exact .inr ⟨hi, by simp [Starts], by simp [init, hi, ho]⟩
    | error m => exact .inr ⟨hi, by simp [Starts, ho], by simp [init, hi, ho]⟩
    | panic => exact .inr ⟨hi, by simp [Starts, ho], by simp [init, hi, ho]⟩
  · exact .inl ⟨hi, by simp [init, hi]⟩

theorem close_iff : step? cfg p .close s = some s' ↔
    s.phase = .running ∧ { s with phase := .closing, gate := false } = s' := by
  simp [step?, close?]

theorem lock_iff : step? cfg p .lock s = some s' ↔
    (s.phase = .closing ∧ s.locked = false) ∧ { s with phase := .draining } = s' := by
  simp [step?, lock?]

theorem drained_iff : step? cfg p .drained s = some s' ↔
    s.phase = .draining ∧ ∃ n pool, s.pool.drain? = some (n, pool) ∧
      { s with phase := .stopping, pool } = s' := by
  simp [step?, drained?]

theorem tell_iff : step? cfg p .tell s = some s' ↔
    s.phase = .stopping ∧
      { s with phase := .joining, queue := if s.loop = .alive then s.queue ++ [.stop] else s.queue } = s' := by
  simp [step?, tell?]

theorem join_cases {v : Except String Unit} (h : join? s = some (v, s')) :
    s.phase = .joining ∧ s.loop ≠ .alive ∧ (s.loop ≠ .crashed → v = .ok ()) ∧
      s' = { s with phase := .idle, loop := .absent } := by
  unfold join? at h
  split at h
  next hj =>
    cases hl : s.loop <;> simp only [hl, reduceCtorEq, Option.some.injEq, Prod.mk.injEq] at h
    all_goals simp [hj, ← h.1, ← h.2]
  next => cases h

theorem step_join : step? cfg p .join s = some s' ↔ ∃ v, join? s = some (v, s') := by
  simp [step?]

theorem reap_iff : step? cfg p .reap s = some s' ↔
    s.locked = false ∧ { s with pool := s.pool.reap.2 } = s' := by
  simp [step?, reap?]

theorem start_iff {canStart : Bool} : step? cfg p (.start canStart) s = some s' ↔
    ∃ t, s.starting = some t ∧
      { s with starting := none, pool := if canStart then s.pool.register t else s.pool } = s' := by
  simp [step?, start?]

theorem post_cases {e : Event Record} (h : step? cfg p (.post e) s = some s') :
    s' = s ∨ s.loop = .alive ∧ s' = { s with queue := s.queue ++ [.event e] } := by
  obtain rfl := Option.some.inj h
  unfold State.post
  split
  next ha => exact .inr ⟨ha, rfl⟩
  next => exact .inl rfl

theorem worker_iff {i : Nat} {m : Probe.Move} : step? cfg p (.worker i m) s = some s' ↔
    ∃ pool es, s.pool.move? cfg.pathStart i m = some (pool, es) ∧
      { s with pool, log := s.log ++ es } = s' := by
  simp [step?, move?, State.note]

def Within (e : Effect) : Prop :=
  e ≠ .stop ∧ ∀ i, e ≠ .connect i

/-- What reacting to an item may change: the queue, the provider, the log and, with the gate open, the probe that is
about to start. -/
structure Reacts (s s' : State σ) : Prop where
  phase : s'.phase = s.phase
  gate : s'.gate = s.gate
  loop : s'.loop = s.loop
  pool : s'.pool = s.pool
  starting : s'.starting = s.starting ∨ s.gate = true
  log : ∃ es, s'.log = s.log ++ es ∧ ∀ e ∈ es, Within e

theorem Reacts.refl (s : State σ) : Reacts s s :=
  ⟨rfl, rfl, rfl, rfl, .inl rfl, [], (List.append_nil _).symm, fun _ h => nomatch h⟩

theorem reacts_note {e : Effect} (he : Within e) (r : Reply σ) (s : State σ) :
    Reacts s ((s.note [e]).accept r) :=
  ⟨rfl, rfl, rfl, rfl, .inl rfl, [e], rfl, fun _ h => List.mem_singleton.mp h ▸ he⟩

theorem subscribe_reacts (cfg : Config) (hp : p.Calm) (s : State σ) :
    (subscribe cfg p s).1 ≠ .crash ∧ Reacts s (subscribe cfg p s).2 := by
  refine ⟨?_, reacts_note ⟨by simp, by simp⟩ _ s⟩
  cases ho : (p.subscribe cfg.typeDomain s.provider).outcome with
  | ok => simp [subscribe, ho, Flow.ofSubscription]
  | error m => simp [subscribe, ho, Flow.ofSubscription]
  | panic => exact absurd ho (hp.subscribe _ _)

theorem onResolved_reacts (outcome : Resolution) (s : State σ) : Reacts s (onResolved outcome s) := by
  unfold onResolved
  split
  · split
    next hg => exact ⟨rfl, rfl, rfl, rfl, .inr hg, [], (List.append_nil _).symm, fun _ h => nomatch h⟩
    next => exact .refl s
  · exact .refl s

theorem onBrowse_reacts (hp : p.Calm) (e : BrowseEvent) (s : State σ) :
    (onBrowse p e s).1 ≠ .crash ∧ Reacts s (onBrowse p e s).2 := by
  cases e with
  | new r =>
    refine ⟨?_, reacts_note ⟨by simp, by simp⟩ _ s⟩
    cases ho : (p.resolve r s.provider).outcome with
    | ok => simp [onBrowse, ho, Flow.ofResolution]
    | error m => simp [onBrowse, ho, Flow.ofResolution]
    | panic => exact absurd ho (hp.resolve _ _)
  | remove r =>
    exact ⟨nofun, rfl, rfl, rfl, rfl, .inl rfl, [.removed r.name r.domain], rfl, by simp [Within]⟩
  | allForNow => exact ⟨nofun, .refl s⟩
  | cacheExhausted => exact ⟨nofun, .refl s⟩
  | failure m => exact ⟨nofun, .refl s⟩

theorem react_reacts (cfg : Config) (hp : p.Calm) (item : Item) (s : State σ) :
    (react cfg p item s).1 ≠ .crash ∧ Reacts s (react cfg p item s).2 := by
  match item with
  | .event (.client .connecting) => exact ⟨nofun, .refl s⟩
  | .event (.client (.failure _)) => exact ⟨nofun, .refl s⟩
  | .event (.client .registering) => exact subscribe_reacts cfg hp s
  | .event (.client .running) => exact subscribe_reacts cfg hp s
  | .event (.client .collision) => exact subscribe_reacts cfg hp s
  | .event (.browse e) => exact onBrowse_reacts hp e s
  | .event (.resolved _ outcome) => exact ⟨nofun, onResolved_reacts outcome s⟩
  | .stop => exact ⟨nofun, .refl s⟩

theorem handle_cases (hp : p.Calm) (h : step? cfg p .handle s = some s') :
    s.loop = .alive ∧ s.starting = none ∧ ∃ s₁, Reacts s s₁ ∧
      (s' = s₁ ∨
        s' = { s₁.note [.stop] with loop := .stopped, queue := [], provider := p.stop s₁.provider }) := by
  simp only [step?, handle?] at h
  split at h
  next item rest hl hs hq =>
    obtain ⟨-, heq⟩ := Option.ite_none_left_eq_some.mp h
    obtain rfl := Option.some.inj heq
    have hr := react_reacts cfg hp item { s with queue := rest }
    refine ⟨hl, hs, (react cfg p item { s with queue := rest }).2, { hr.2 with }, ?_⟩
    generalize react cfg p item { s with queue := rest } = o at hr
    obtain ⟨flow, s₁⟩ := o
    cases flow with
    | goOn => exact .inl rfl
    | leave => exact .inr rfl
    | crash => exact absurd rfl hr.1
  next => cases h

section Run

variable {as : List Action}

theorem run_invariant {P : State σ → Prop} (hstep : ∀ s a s', P s → step? cfg p a s = some s' → P s') (h : P s)
    (hr : run? cfg p as s = some s') : P s' := by
  induction as generalizing s with
  | nil => exact Option.some.inj hr ▸ h
  | cons a as ih =>
    obtain ⟨s₁, h₁, h₂⟩ := Option.bind_eq_some_iff.mp hr
    exact ih (hstep s a s₁ h h₁) h₂

theorem run_append (as bs : List Action) (s : State σ) :
    run? cfg p (as ++ bs) s = (run? cfg p as s).bind (run? cfg p bs) := by
  induction as generalizing s with
  | nil => rfl
  | cons a as ih =>
    change (step? cfg p a s).bind _ = ((step? cfg p a s).bind _).bind _
    rw [Option.bind_assoc]
    exact Option.bind_congr fun s₁ _ => ih s₁

end Run

end StreamScout.Session
