import StreamScout.Proofs.Probe.Course
import StreamScout.Proofs.Session.Events

namespace StreamScout.Session

open StreamScout.Mdns.Relay (studio)
open StreamScout.Probe (Pool)
open StreamScout.Service

variable {σ : Type} {cfg : Config} {p : Provider σ} {s s' s'' : State σ} {a : Action} {as os os' : List Action}

inductive Contact where
  | connected
  -- the client was connected, but there is no thread for the loop
  | abandoned
  | refused
  | asked
  | stopped
  deriving DecidableEq, Repr

namespace Contact

def of? (attempt : Contact) : Effect → Option Contact
  | .connect _ => some attempt
  | .subscribe _ | .resolve _ => some .asked
  | .stop => some .stopped
  | _ => none

def isClient : Contact → Bool
  | .connected | .abandoned => true
  | _ => false

/-- Whether a client is connected after a contact. Only a connected one is asked or stopped, and no other is connected
beside it. -/
def next? : Bool → Contact → Option Bool
  | false, .connected => some true
  | false, .abandoned | false, .refused => some false
  | true, .asked => some true
  | true, .stopped => some false
  | _, _ => none

end Contact

def attempt (cfg : Config) (p : Provider σ) (a : Action) (s : State σ) : Contact :=
  match a, (p.connect cfg.interface s.provider).outcome with
  | .init none, .ok => .connected
  | .init (some _), .ok => .abandoned
  | _, _ => .refused

def contactsOf (cfg : Config) (p : Provider σ) (a : Action) (s s' : State σ) : List Contact :=
  (s'.log.drop s.log.length).filterMap (Contact.of? (attempt cfg p a s))

def contacts (cfg : Config) (p : Provider σ) : List Action → State σ → List Contact
  | [], _ => []
  | a :: as, s => ((step? cfg p a s).map fun s' => contactsOf cfg p a s s' ++ contacts cfg p as s').getD []

section Contacts

variable {b b' : Bool} {cs : List Contact}

theorem attempt_starts (h : Starts cfg p a s) : attempt cfg p a s = .connected := by
  obtain ⟨rfl, -, ho⟩ := h
  simp [attempt, ho]

theorem attempt_fails (h : ¬ Starts cfg p a s) (hi : s.phase = .idle) :
    attempt cfg p a s = .abandoned ∨ attempt cfg p a s = .refused := by
  unfold attempt
  split
  next ho => exact absurd ⟨rfl, hi, ho⟩ h
  next => exact .inl rfl
  next => exact .inr rfl

theorem attempt_abandoned (h : attempt cfg p a s = .abandoned) : ∃ reason, a = .init (some reason) := by
  unfold attempt at h
  split at h
  next => cases h
  next reason _ => exact ⟨reason, rfl⟩
  next => cases h

theorem foldlM_fails (h : ∀ c ∈ cs, (c = .abandoned ∨ c = .refused) ∧ b = false) :
    cs.foldlM Contact.next? b = some b := by
  induction cs with
  | nil => rfl
  | cons c cs ih =>
    have hrest := ih fun c' hc' => h c' (List.mem_cons_of_mem _ hc')
    obtain ⟨rfl | rfl, rfl⟩ := h c List.mem_cons_self
    · exact hrest
    · exact hrest

theorem count_contacts (h : cs.foldlM Contact.next? b = some b') :
    cs.countP Contact.isClient + b.toNat = cs.count .stopped + cs.count .abandoned + b'.toNat := by
  induction cs generalizing b with
  | nil =>
    obtain rfl := Option.some.inj h
    rfl
  | cons c cs ih =>
    obtain ⟨b₁, h₁, h₂⟩ := Option.bind_eq_some_iff.mp h
    have hrest := ih h₂
    rw [List.countP_cons, List.count_cons, List.count_cons]
    cases b <;> cases c <;> cases h₁ <;> simp [Contact.isClient] at hrest ⊢ <;> omega

theorem call_contacts (item : Item) (c : Contact) (ty : String) :
    (item.call? ty).toList.filterMap (Contact.of? c) = [] ∨
      (item.call? ty).toList.filterMap (Contact.of? c) = [.asked] := by
  unfold Item.call?
  split
  case h_6 => exact .inl rfl
  case h_5 => exact .inl rfl
  all_goals exact .inr rfl

theorem contacts_aloof {es : List Effect} {c' : Contact} (h : ∀ e ∈ es, Aloof s e) :
    ∀ c ∈ es.filterMap (Contact.of? c'), c = c' ∧ s.phase = .idle := by
  intro c hc
  obtain ⟨e, he, hof⟩ := List.mem_filterMap.mp hc
  obtain ⟨hcall, hidle⟩ := h e he
  cases e with
  | connect i => exact ⟨(Option.some.inj hof).symm, hidle ⟨i, rfl⟩⟩
  | subscribe _ | resolve _ | stop => cases hcall
  | describe _ _ _ | added _ _ _ | removed _ _ => cases hof

theorem step_contacts (hp : p.Calm) (ho : Orderly s) (h : step? cfg p a s = some s') :
    (contactsOf cfg p a s s').foldlM Contact.next? (s.loop == .alive) = some (s'.loop == .alive) := by
  cases step_kind hp h with
  | starts hst loop _ log =>
    have hl : s.loop = .absent := ho.loop.mpr hst.2.1
    rw [contactsOf, log, List.drop_left, attempt_starts hst, hl, loop]
    rfl
  | turn item rest alive queue takes =>
    cases he : (Taken.of cfg p s.provider item).ends with
    | false =>
      obtain ⟨hl, -, hlog⟩ := takes.goes he
      rw [contactsOf, hlog, List.drop_left, alive, hl]
      rcases call_contacts item (attempt cfg p .handle s) cfg.typeDomain with hc | hc
      · rw [hc]
        rfl
      · rw [hc]
        rfl
    | true =>
      obtain ⟨hl, -, -, hlog⟩ := takes.leaves he
      rw [contactsOf, hlog, List.append_assoc, List.drop_left, List.filterMap_append, alive, hl]
      rcases call_contacts item (attempt cfg p .handle s) cfg.typeDomain with hc | hc
      · rw [hc]
        rfl
      · rw [hc]
        rfl
  | beside _ _ idle hb =>
    obtain ⟨es, hlog, hes⟩ := hb.log
    have hsame : (s'.loop == .alive) = (s.loop == .alive) := by
      rw [Bool.eq_iff_iff, beq_iff_eq, beq_iff_eq, hb.loop]
    rw [contactsOf, hlog, List.drop_left, hsame]
    refine foldlM_fails fun c hc => ?_
    obtain ⟨rfl, hi⟩ := contacts_aloof hes c hc
    exact ⟨attempt_fails idle hi, by simp [ho.loop.mpr hi]⟩

theorem run_contacts (hp : p.Calm) (ho : Orderly s) (h : run? cfg p as s = some s') :
    (contacts cfg p as s).foldlM Contact.next? (s.loop == .alive) = some (s'.loop == .alive) := by
  induction as generalizing s with
  | nil =>
    obtain rfl := Option.some.inj h
    rfl
  | cons a as ih =>
    obtain ⟨s₁, h₁, h₂⟩ := Option.bind_eq_some_iff.mp h
    have hrest := ih (step_orderly hp ho h₁) h₂
    simp only [contacts, h₁, Option.map_some, Option.getD_some, List.foldlM_append]
    rw [step_contacts hp ho h₁]
    exact hrest

theorem not_abandoned (h : ∀ reason, .init (some reason) ∉ as) : .abandoned ∉ contacts cfg p as s := by
  induction as generalizing s with
  | nil => exact List.not_mem_nil
  | cons a as ih =>
    have hlater := fun s₁ => ih (s := s₁) fun reason hr => h reason (List.mem_cons_of_mem _ hr)
    rw [contacts]
    cases hs : step? cfg p a s with
    | none => exact List.not_mem_nil
    | some s₁ =>
      rw [Option.map_some, Option.getD_some]
      intro hc
      rcases List.mem_append.mp hc with hnow | hthen
      · obtain ⟨e, -, hof⟩ := List.mem_filterMap.mp hnow
        have hattempt : attempt cfg p a s = .abandoned := by
          cases e <;> first | exact Option.some.inj hof | cases hof
        obtain ⟨reason, rfl⟩ := attempt_abandoned hattempt
        exact h reason List.mem_cons_self
      · exact hlater s₁ hthen

end Contacts

section Owner

def Action.isOwner : Action → Bool
  | .init _ | .close | .lock | .drained | .tell | .join | .reap => true
  | _ => false

def Owned (cfg : Config) (p : Provider σ) (os : List Action) (s s' : State σ) : Prop :=
  ∃ as, run? cfg p as s = some s' ∧ as.filter Action.isOwner = os

theorem Owned.refl (s : State σ) : Owned cfg p [] s s :=
  ⟨[], rfl, rfl⟩

theorem Owned.of_step (h : step? cfg p a s = some s') : Owned cfg p ([a].filter Action.isOwner) s s' :=
  ⟨[a], by simp [run?, h], rfl⟩

theorem Owned.trans (h : Owned cfg p os s s') (h' : Owned cfg p os' s' s'') : Owned cfg p (os ++ os') s s'' := by
  obtain ⟨as, hr, rfl⟩ := h
  obtain ⟨as', hr', rfl⟩ := h'
  exact ⟨as ++ as', by rw [run_append, hr, Option.bind_some, hr'], List.filter_append _ _⟩

theorem Owned.orderly (hp : p.Calm) (ho : Orderly s) (h : Owned cfg p os s s') : Orderly s' := by
  obtain ⟨as, hr, -⟩ := h
  exact run_orderly hp ho hr

inductive Terminates (cfg : Config) (p : Provider σ) (s : State σ) : Except String Unit → State σ → Prop
  | idle (h : s.phase = .idle) : Terminates cfg p s (.ok ()) s
  | joined {s₁ s' : State σ} {v : Except String Unit} (h : Owned cfg p [.close, .lock, .drained, .tell] s s₁)
      (hj : join? s₁ = some (v, s')) : Terminates cfg p s v s'

theorem step_other (h : step? cfg p a s = some s') (ho : a.isOwner = false) : s'.phase = s.phase := by
  cases a with
  | handle => exact (handle_keeps h).2.2.phase
  | start ok =>
    obtain ⟨t, -, rfl⟩ := start_iff.mp h
    rfl
  | post e =>
    rcases post_cases h with rfl | ⟨-, rfl⟩
    · rfl
    · rfl
  | worker i m =>
    obtain ⟨pool, es, -, rfl⟩ := worker_iff.mp h
    rfl
  | init _ | close | lock | drained | tell | join | reap => cases ho

theorem step_running (h : step? cfg p a s = some s') (hr : s.phase = .running) (hc : a ≠ .close) :
    s'.phase = .running := by
  cases a with
  | init refusal =>
    rcases init_cases h with ⟨-, rfl⟩ | ⟨hst, -⟩ | ⟨hi, -⟩
    · exact hr
    · cases hr.symm.trans hst.2.1
    · cases hr.symm.trans hi
  | close => exact absurd rfl hc
  | lock => cases hr.symm.trans (lock_iff.mp h).1.1
  | drained => cases hr.symm.trans (drained_iff.mp h).1
  | tell => cases hr.symm.trans (tell_iff.mp h).1
  | join =>
    obtain ⟨v, hv⟩ := step_join.mp h
    cases hr.symm.trans (join_cases hv).1
  | reap =>
    obtain ⟨-, rfl⟩ := reap_iff.mp h
    exact hr
  | handle | start _ | post _ | worker _ _ => rw [step_other h rfl, hr]

theorem owned_close (h : Owned cfg p (.close :: os) s s') : s.phase = .running := by
  obtain ⟨as, hr, hf⟩ := h
  induction as generalizing s with
  | nil => cases hf
  | cons a as ih =>
    obtain ⟨s₁, h₁, h₂⟩ := Option.bind_eq_some_iff.mp hr
    cases ho : a.isOwner with
    | true =>
      rw [List.filter_cons_of_pos ho] at hf
      obtain rfl := (List.cons.inj hf).1
      exact (close_iff.mp h₁).1
    | false =>
      rw [List.filter_cons_of_neg (by simp [ho])] at hf
      rw [← step_other h₁ ho]
      exact ih h₂ hf

theorem terminates_idle {v : Except String Unit} (hi : s.phase = .idle) (h : Terminates cfg p s v s') :
    v = .ok () ∧ s' = s := by
  cases h with
  | idle => exact ⟨rfl, rfl⟩
  | joined h hj => cases hi.symm.trans (owned_close h)

theorem terminates_running {v : Except String Unit} (hp : p.Calm) (ho : Orderly s) (hr : s.phase = .running)
    (h : Terminates cfg p s v s') : v = .ok () ∧ s'.phase = .idle ∧ Orderly s' := by
  cases h with
  | idle hi => cases hr.symm.trans hi
  | @joined s₁ _ _ h hj =>
    have ho₁ := h.orderly hp ho
    have hstep : step? cfg p .join s₁ = some s' := step_join.mpr ⟨v, hj⟩
    have ho' := step_orderly hp ho₁ hstep
    obtain ⟨-, -, hv, rfl⟩ := join_cases hj
    exact ⟨hv ho₁.no_crash, rfl, ho'⟩

end Owner

section End

theorem exists_finish (cfg : Config) (p : Provider σ) (s : State σ) : ∃ pool log,
    Owned cfg p [] s { s with pool, log } ∧ ∀ i < pool.next, pool.isFinished i = true := by
  induction hn : s.pool.left using Nat.strongRecOn generalizing s with
  | ind n ih =>
    by_cases hall : ∀ i < s.pool.next, s.pool.isFinished i = true
    · exact ⟨s.pool, s.log, .refl s, hall⟩
    · obtain ⟨i, hi⟩ := not_forall.mp hall
      obtain ⟨hi, hf⟩ := Classical.not_imp.mp hi
      obtain ⟨m, pool, es, hm⟩ := Pool.exists_move cfg.pathStart hi (by simpa using hf)
      have hstep : step? cfg p (.worker i m) s = some { s with pool, log := s.log ++ es } :=
        worker_iff.mpr ⟨pool, es, hm, rfl⟩
      obtain ⟨pool', log', ho, hfin⟩ := ih _ (hn ▸ Pool.left_move hm) { s with pool, log := s.log ++ es } rfl
      exact ⟨pool', log', (Owned.of_step hstep).trans ho, hfin⟩

theorem exists_leave (hp : p.Calm) {q tail : List Item} (ho : Orderly s) (hj : s.phase = .joining)
    (hl : s.loop = .alive) (hq : s.queue = q ++ .stop :: tail) :
    ∃ s', Owned cfg p [] s s' ∧ s'.phase = .joining ∧ s'.loop ≠ .alive := by
  have turn {s : State σ} {item : Item} {rest : List Item} (ho : Orderly s) (hj : s.phase = .joining)
      (hl : s.loop = .alive) (hq : s.queue = item :: rest) :
      ∃ s', Owned cfg p [] s s' ∧ s'.phase = .joining ∧ Takes cfg p s item rest s' := by
    have hn := ho.starting_none (.inl (by rw [hj]; rfl))
    obtain ⟨s', hs'⟩ : ∃ s', step? cfg p .handle s = some s' := exists_handle hl hn hq fun _ => by simp [hj]
    obtain ⟨-, item', rest', hq', ht⟩ := handle_takes hp hs'
    obtain ⟨rfl, rfl⟩ := List.cons.inj (hq.symm.trans hq')
    exact ⟨s', .of_step hs', (step_other hs' rfl).trans hj, ht⟩
  induction q generalizing s tail with
  | nil =>
    obtain ⟨s', hs', hj', ht⟩ := turn ho hj hl hq
    exact ⟨s', hs', hj', by simp [(ht.leaves rfl).1]⟩
  | cons item q ih =>
    rw [List.cons_append] at hq
    obtain ⟨s', hs', hj', ht⟩ := turn ho hj hl hq
    cases he : (Taken.of cfg p s.provider item).ends with
    | true => exact ⟨s', hs', hj', by simp [(ht.leaves he).1]⟩
    | false =>
      obtain ⟨hl', hq', -⟩ := ht.goes he
      rw [List.append_assoc, List.cons_append] at hq'
      obtain ⟨s'', hs'', hend⟩ := ih (hs'.orderly hp ho) hj' hl' hq'
      exact ⟨s'', hs'.trans hs'', hend⟩

theorem exists_join (hj : s.phase = .joining) (hl : s.loop ≠ .alive) : ∃ v s', join? s = some (v, s') := by
  cases h : s.loop with
  | alive => exact absurd h hl
  | _ => simp [join?, hj, h]

theorem exists_termination (hp : p.Calm) (ho : Orderly s) (hr : Numbered s) (hrun : s.phase = .running) :
    ∃ v s', Terminates cfg p s v s' := by
  obtain ⟨s₁, h₁, hph, hn⟩ : ∃ s₁, Owned cfg p [] s s₁ ∧ s₁.phase = .running ∧ s₁.starting = none := by
    cases hs : s.starting with
    | none => exact ⟨s, .refl s, hrun, hs⟩
    | some t => exact ⟨_, .of_step (a := .start true) (start_iff.mpr ⟨t, hs, rfl⟩), hrun, rfl⟩
  have h₂ := h₁.trans (.of_step (close_iff.mpr ⟨hph, rfl⟩))
  have h₃ := h₂.trans (.of_step (lock_iff.mpr ⟨⟨rfl, by simp [State.locked, hn]⟩, rfl⟩))
  obtain ⟨pool, log, hfin, hall⟩ := exists_finish cfg p { s₁ with phase := .draining, gate := false }
  have h₄ := h₃.trans hfin
  have hnumbered : ∀ i ∈ pool.units, i < pool.next := by
    obtain ⟨as, has, -⟩ := h₄
    exact run_numbered hr has
  have hdrain : ∃ n pool', pool.drain? = some (n, pool') := by
    have hunits : pool.units.all pool.isFinished = true :=
      List.all_eq_true.mpr fun i hi => hall i (hnumbered i hi)
    simp [Pool.drain?, hunits]
  obtain ⟨n, pool', hdrain⟩ := hdrain
  have h₅ := h₄.trans (.of_step (drained_iff.mpr ⟨rfl, n, pool', hdrain, rfl⟩))
  obtain ⟨s₆, h₆, hj, hq⟩ : ∃ s₆, Owned cfg p [.close, .lock, .drained, .tell] s s₆ ∧ s₆.phase = .joining ∧
      (s₆.loop = .alive → s₆.queue = s₁.queue ++ [.stop]) :=
    ⟨_, h₅.trans (.of_step (tell_iff.mpr ⟨rfl, rfl⟩)), rfl, fun hl => if_pos hl⟩
  by_cases hl : s₆.loop = .alive
  · obtain ⟨s₇, h₇, hj₇, hl₇⟩ := exists_leave hp (h₆.orderly hp ho) hj hl (hq hl)
    obtain ⟨v, s', hs'⟩ := exists_join hj₇ hl₇
    exact ⟨v, s', .joined (h₆.trans h₇) hs'⟩
  · obtain ⟨v, s', hs'⟩ := exists_join hj hl
    exact ⟨v, s', .joined h₆ hs'⟩

end End

def Fallen (s : State σ) : Prop :=
  s.phase = .running ∧ s.loop = .stopped

theorem step_fallen (hp : p.Calm) (ho : Orderly s) (hf : Fallen s) (h : step? cfg p a s = some s') (hc : a ≠ .close) :
    Fallen s' ∧ ¬ Starts cfg p a s ∧ contactsOf cfg p a s s' = [] := by
  have ho' := step_orderly hp ho h
  have hrun := step_running h hf.1 hc
  cases step_kind hp h with
  | starts hst _ _ _ => cases hf.1.symm.trans hst.2.1
  | turn _ _ alive _ _ => cases hf.2.symm.trans alive
  | beside _ _ idle hb =>
    refine ⟨⟨hrun, ?_⟩, idle, ?_⟩
    · cases hl : s'.loop with
      | stopped => rfl
      | alive => cases hf.2.symm.trans (hb.loop.mp hl)
      | absent => cases hrun.symm.trans (ho'.loop.mp hl)
      | crashed => exact absurd hl ho'.no_crash
    · obtain ⟨es, hlog, hes⟩ := hb.log
      rw [contactsOf, hlog, List.drop_left]
      refine List.eq_nil_iff_forall_not_mem.mpr fun c hc => ?_
      cases hf.1.symm.trans (contacts_aloof hes c hc).2

theorem run_fallen {s₀ : State σ} (hp : p.Calm) (ho : Orderly s) (hf : Fallen s) (hl : Lull cfg p s₀ s)
    (h : run? cfg p as s = some s') (hc : .close ∉ as) :
    Fallen s' ∧ Lull cfg p s₀ s' ∧ contacts cfg p as s = [] := by
  induction as generalizing s with
  | nil =>
    obtain rfl := Option.some.inj h
    exact ⟨hf, hl, rfl⟩
  | cons a as ih =>
    obtain ⟨s₁, h₁, h₂⟩ := Option.bind_eq_some_iff.mp h
    obtain ⟨ha, hc⟩ := not_or.mp (mt List.mem_cons.mpr hc)
    obtain ⟨hf₁, hn, hnone⟩ := step_fallen hp ho hf h₁ (Ne.symm ha)
    obtain ⟨hf', hl', hcs⟩ := ih (step_orderly hp ho h₁) hf₁ (.step hl h₁ hn) h₂ hc
    exact ⟨hf', hl', by simp [contacts, h₁, hnone, hcs]⟩

structure Balanced (cfg : Config) (p : Provider σ) (as : List Action) (b : σ) (s : State σ) : Prop where
  flag : s.gate = s.isRunning
  connected : (contacts cfg p as { provider := b }).foldlM Contact.next? false = some (s.loop == .alive)
  counts : (contacts cfg p as { provider := b }).countP Contact.isClient =
    (contacts cfg p as { provider := b }).count .stopped + (contacts cfg p as { provider := b }).count .abandoned +
      if s.loop = .alive then 1 else 0
  abandoned : (∀ reason, .init (some reason) ∉ as) → .abandoned ∉ contacts cfg p as { provider := b }
  init_running : s.phase = .running → ∀ refusal, init cfg p refusal s = (.ok (), s)
  init_refused : s.phase = .idle → (p.connect cfg.interface s.provider).outcome ≠ .ok → ∀ refusal,
    contacts cfg p [.init refusal] s = [.refused] ∧ ∃ fault, init cfg p refusal s =
      (.error fault, { s with
        provider := p.drop (p.connect cfg.interface s.provider).state
        log := s.log ++ [.connect cfg.interface] })
  init_abandoned : s.phase = .idle → (p.connect cfg.interface s.provider).outcome = .ok → ∀ reason,
    contacts cfg p [.init (some reason)] s = [.abandoned] ∧ init cfg p (some reason) s =
      (.error (loopNotStarted reason), { s with
        provider := p.drop (p.connect cfg.interface s.provider).state
        log := s.log ++ [.connect cfg.interface] })
  init_connects : s.phase = .idle → (p.connect cfg.interface s.provider).outcome = .ok →
    contacts cfg p [.init none] s = [.connected] ∧ init cfg p none s =
      (.ok (), { s with
        phase := .running
        gate := true
        loop := .alive
        queue := (p.connect cfg.interface s.provider).posts.map .event
        provider := (p.connect cfg.interface s.provider).state
        log := s.log ++ [.connect cfg.interface] })
  terminate_idle : s.phase = .idle → ∀ v s', Terminates cfg p s v s' → v = .ok () ∧ s' = s
  terminate_running : s.phase = .running → (∃ v s', Terminates cfg p s v s') ∧
    ∀ v s', Terminates cfg p s v s' → v = .ok () ∧ s'.phase = .idle ∧ s'.gate = false ∧ s'.loop = .absent
  falls : s.phase = .running → ∀ item rest s', s.queue = item :: rest → step? cfg p .handle s = some s' →
    if (Taken.of cfg p s.provider item).ends then Fallen s' else s'.phase = .running ∧ s'.loop = .alive
  fallen : Fallen s → (∀ e, s.post e = (false, s)) ∧ ∀ as' s', run? cfg p as' s = some s' → .close ∉ as' →
    Fallen s' ∧ contacts cfg p as' s = [] ∧ Lost s s'

theorem contacts_init (hi : s.phase = .idle) (refusal : Option String) :
    contacts cfg p [.init refusal] s = [attempt cfg p (.init refusal) s] := by
  have hlog : (init cfg p refusal s).2.log = s.log ++ [.connect cfg.interface] := by
    cases ho : (p.connect cfg.interface s.provider).outcome <;> cases refusal <;>
      simp [init, hi, ho, State.note, State.accept]
  change contactsOf cfg p (.init refusal) s (init cfg p refusal s).2 ++ [] = _
  rw [List.append_nil, contactsOf, hlog, List.drop_left]
  rfl

theorem session_balanced (hp : p.Calm) {b : σ} (h : run? cfg p as { provider := b } = some s) :
    Balanced cfg p as b s := by
  have hr := run_recorded hp (recorded_fresh cfg b) h
  have ho := hr.orderly
  have hnumbered := run_numbered (numbered_fresh b) h
  have hcontacts := run_contacts hp (orderly_fresh b) h
  constructor
  case flag => rw [Bool.eq_iff_iff, ho.gate, State.isRunning, beq_iff_eq]
  case connected => exact hcontacts
  case counts =>
    refine (count_contacts (b := false) hcontacts).trans ?_
    cases s.loop <;> rfl
  case abandoned => exact not_abandoned
  case init_running =>
    intro hrun refusal
    simp [init, hrun]
  case init_refused =>
    intro hi ho refusal
    cases hc : (p.connect cfg.interface s.provider).outcome with
    | ok => exact absurd hc ho
    | error m | panic =>
      refine ⟨?_, _, by simp [init, hi, hc, State.note]; rfl⟩
      rw [contacts_init hi]
      simp [attempt, hc]
  case init_abandoned =>
    intro hi hc reason
    constructor
    · rw [contacts_init hi]
      simp [attempt, hc]
    · simp [init, hi, hc, State.note]
  case init_connects =>
    intro hi hc
    have hloop : s.loop ≠ .alive := by simp [ho.loop.mpr hi]
    have hq := (hr.spent hloop).1
    constructor
    · rw [contacts_init hi]
      simp [attempt, hc]
    · simp [init, hi, hc, State.note, State.accept, hq]
  case terminate_idle => exact fun hi v s' ht => terminates_idle hi ht
  case terminate_running =>
    intro hrun
    refine ⟨exists_termination hp ho hnumbered hrun, fun v s' ht => ?_⟩
    obtain ⟨hv, hi, ho'⟩ := terminates_running hp ho hrun ht
    exact ⟨hv, hi, ho'.gate_closed (by simp [hi]), ho'.loop.mpr hi⟩
  case falls =>
    intro hrun item rest s' hq hs
    have hphase : s'.phase = .running := (step_other hs rfl).trans hrun
    obtain ⟨-, item', rest', hq', ht⟩ := handle_takes hp hs
    obtain ⟨rfl, rfl⟩ := List.cons.inj (hq.symm.trans hq')
    split
    next he => exact ⟨hphase, (ht.leaves he).1⟩
    next he => exact ⟨hphase, (ht.goes (by simpa using he)).1⟩
  case fallen =>
    intro hf
    have hloop : s.loop ≠ .alive := by simp [hf.2]
    refine ⟨fun e => if_neg hloop, fun as' s' hs hc => ?_⟩
    obtain ⟨hf', hl, hcs⟩ := run_fallen hp ho hf (.refl s) hs hc
    exact ⟨hf', hcs, lull_lost hp hloop hr.spent hl⟩

-- No thread can be started at first. Then a session falls, ignores what comes, is terminated and starts again.
def fallAndRestart : List Action :=
  [.init (some "out of threads"), .init none, .handle, .handle, .post (.client (.failure "lost")), .handle, .init none,
    .post (.browse (.new studio)), .reap, .close, .lock, .drained, .tell, .join, .init none, .handle]

theorem session_balanced_restart :
    ∃ s, run? wiredConfig Mdns.provider fallAndRestart { provider := {} } = some s ∧
      contacts wiredConfig Mdns.provider fallAndRestart { provider := {} } =
        [.abandoned, .connected, .asked, .stopped, .connected] ∧
      s.isRunning = true ∧ s.loop = .alive ∧
      Balanced wiredConfig Mdns.provider fallAndRestart {} s :=
  ⟨_, rfl, rfl, rfl, rfl, session_balanced (mdns_calm _) rfl⟩

def Paired (cfg : Config) (p : Provider σ) (b : σ) : Prop :=
  ∀ as s, run? cfg p as { provider := b } = some s →
    (contacts cfg p as { provider := b }).countP Contact.isClient =
      (contacts cfg p as { provider := b }).count .stopped + if s.loop = .alive then 1 else 0

-- The client of a session whose loop has no thread is never stopped, and neither is that of a loop that ends in a panic
-- of its provider.
theorem client_not_stopped :
    ¬ Paired wiredConfig Mdns.provider {} ∧ ¬ Paired wiredConfig (Mdns.provider.answering fun _ _ => .panic) {} := by
  constructor
  · intro h
    exact absurd (h [.init (some "out of threads")] _ rfl) (by decide)
  · intro h
    exact absurd (h [.init none, .post (.browse (.new studio)), .handle, .handle, .handle] _ rfl) (by decide)

end StreamScout.Session
