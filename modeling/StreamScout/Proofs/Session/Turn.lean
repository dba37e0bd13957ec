import StreamScout.Proofs.Address.Ipv4
import StreamScout.Proofs.Session.Step

namespace StreamScout.Session

open StreamScout.Service
open StreamScout.Probe (Pool Stage Target Worker)

variable {σ : Type} {cfg : Config} {p : Provider σ} {s s' : State σ} {a : Action}

section Log

def isDescribe : Effect → Bool
  | .describe .. => true
  | _ => false

def isAdded : Effect → Bool
  | .added .. => true
  | _ => false

def Silent (s s' : State σ) : Prop :=
  ∃ es, s'.log = s.log ++ es ∧ ∀ e ∈ es, isDescribe e = false ∧ isAdded e = false

theorem Silent.of_log (h : s'.log = s.log) : Silent s s' :=
  ⟨[], by rw [h, List.append_nil], fun _ he => nomatch he⟩

theorem Silent.note {e : Effect} (h : Silent s s') (hd : isDescribe e = false) (ha : isAdded e = false) :
    Silent s (s'.note [e]) := by
  obtain ⟨es, hlog, hes⟩ := h
  refine ⟨es ++ [e], by rw [← List.append_assoc, ← hlog]; rfl, fun e' he' => ?_⟩
  rcases List.mem_append.mp he' with he' | he'
  · exact hes e' he'
  · rw [List.mem_singleton.mp he']
    exact ⟨hd, ha⟩

theorem Silent.filter_log (h : Silent s s') :
    s'.log.filter isDescribe = s.log.filter isDescribe ∧ s'.log.filter isAdded = s.log.filter isAdded := by
  obtain ⟨es, hlog, hes⟩ := h
  have hd : es.filter isDescribe = [] := List.filter_eq_nil_iff.mpr fun e he => by simp [(hes e he).1]
  have ha : es.filter isAdded = [] := List.filter_eq_nil_iff.mpr fun e he => by simp [(hes e he).2]
  rw [hlog, List.filter_append, List.filter_append, hd, ha]
  simp

end Log

def Item.target? (gate : Bool) : Item → Option Target
  | .event (.resolved _ outcome) => if gate then Target.ofResolution? outcome else none
  | _ => none

namespace State

def targets (s : State σ) : List Target :=
  s.pool.workers.map (·.target)

def admits? (s : State σ) : Option Target :=
  s.queue.head?.bind (·.target? s.gate)

end State

def admittedBy (a : Action) (s : State σ) : List Target :=
  if a = .handle then s.admits?.toList else []

def admitted (cfg : Config) (p : Provider σ) : List Action → State σ → List Target
  | [], _ => []
  | a :: as, s => admittedBy a s ++ ((step? cfg p a s).map (admitted cfg p as)).getD []

structure Keeps (s s' : State σ) : Prop where
  phase : s'.phase = s.phase
  gate : s'.gate = s.gate
  pool : s'.pool = s.pool
  silent : Silent s s'

theorem Keeps.refl (s : State σ) : Keeps s s :=
  ⟨rfl, rfl, rfl, .of_log rfl⟩

theorem keeps_note {e : Effect} (hd : isDescribe e = false) (ha : isAdded e = false) (r : Reply σ) (s : State σ) :
    Keeps s ((s.note [e]).accept r) :=
  ⟨rfl, rfl, rfl, (Silent.of_log rfl : Silent s s).note hd ha⟩

theorem react_keeps (cfg : Config) (p : Provider σ) (item : Item) (s : State σ) :
    Keeps s (react cfg p item s).2 ∧ (react cfg p item s).2.starting = (item.target? s.gate).or s.starting := by
  match item with
  | .event (.client .connecting) => exact ⟨.refl s, rfl⟩
  | .event (.client (.failure _)) => exact ⟨.refl s, rfl⟩
  | .event (.client .registering) => exact ⟨keeps_note rfl rfl _ s, rfl⟩
  | .event (.client .running) => exact ⟨keeps_note rfl rfl _ s, rfl⟩
  | .event (.client .collision) => exact ⟨keeps_note rfl rfl _ s, rfl⟩
  | .event (.browse (.new r)) => exact ⟨keeps_note rfl rfl _ s, rfl⟩
  | .event (.browse (.remove r)) => exact ⟨⟨rfl, rfl, rfl, (Silent.of_log rfl).note rfl rfl⟩, rfl⟩
  | .event (.browse .allForNow) => exact ⟨.refl s, rfl⟩
  | .event (.browse .cacheExhausted) => exact ⟨.refl s, rfl⟩
  | .event (.browse (.failure _)) => exact ⟨.refl s, rfl⟩
  | .stop => exact ⟨.refl s, rfl⟩
  | .event (.resolved r outcome) =>
    change Keeps s (onResolved outcome s) ∧
      (onResolved outcome s).starting = (if s.gate then Target.ofResolution? outcome else none).or s.starting
    unfold onResolved
    cases ht : Target.ofResolution? outcome with
    | none => simp [Keeps.refl]
    | some t =>
      cases hg : s.gate with
      | false => simp [Keeps.refl]
      | true => exact ⟨⟨rfl, hg.symm, rfl, .of_log rfl⟩, rfl⟩

theorem conclude_keeps (p : Provider σ) {f : Flow} {s₁ : State σ} (h : Keeps s s₁) :
    Keeps s (conclude p (f, s₁)) ∧ (conclude p (f, s₁)).starting = s₁.starting := by
  cases f with
  | goOn => exact ⟨h, rfl⟩
  | leave => exact ⟨⟨h.phase, h.gate, h.pool, h.silent.note rfl rfl⟩, rfl⟩
  | crash => exact ⟨⟨h.phase, h.gate, h.pool, h.silent⟩, rfl⟩

theorem handle_keeps (h : step? cfg p .handle s = some s') :
    s.starting = none ∧ s'.starting = s.admits? ∧ Keeps s s' := by
  simp only [step?, handle?] at h
  split at h
  next item rest hl hn hq =>
    obtain ⟨-, heq⟩ := Option.ite_none_left_eq_some.mp h
    obtain rfl := Option.some.inj heq
    obtain ⟨hk, hs⟩ := react_keeps cfg p item { s with queue := rest }
    have hk' : Keeps s (react cfg p item { s with queue := rest }).2 := { hk with }
    obtain ⟨hk'', hs'⟩ := conclude_keeps p (f := (react cfg p item { s with queue := rest }).1) hk'
    refine ⟨hn, ?_, hk''⟩
    have ha : s.admits? = item.target? s.gate := by simp [State.admits?, hq]
    rw [hs', hs, ha]
    simp [hn]
  next => cases h

def Aside (a : Action) : Prop :=
  a ≠ .handle ∧ (∀ ok, a ≠ .start ok) ∧ ∀ i m, a ≠ .worker i m

inductive Turn (start : String) (s s' : State σ) : Action → Prop
  | handle (before : s.starting = none) (after : s'.starting = s.admits?)
      (workers : s'.pool.workers = s.pool.workers) (silent : Silent s s') : Turn start s s' .handle
  | start (ok : Bool) (t : Target) (before : s.starting = some t) (after : s'.starting = none)
      (workers : s'.pool.workers = s.pool.workers ++ if ok then [⟨t, .spawned⟩] else [])
      (silent : Silent s s') : Turn start s s' (.start ok)
  | worker (i : Nat) (m : Probe.Move) (w : Worker) (st : Stage) (found : s.pool.workers[i]? = some w)
      (next : w.stage.next? m = some st) (starting : s'.starting = s.starting)
      (workers : s'.pool.workers = s.pool.workers.set i { w with stage := st })
      (log : s'.log = s.log ++ w.effects start m) : Turn start s s' (.worker i m)
  | aside (a : Action) (kind : Aside a) (starting : s'.starting = s.starting)
      (workers : s'.pool.workers = s.pool.workers) (silent : Silent s s') : Turn start s s' a

theorem step_turn (h : step? cfg p a s = some s') : Turn cfg.pathStart s s' a := by
  cases a with
  | init refusal =>
    have kind : Aside (.init refusal) := ⟨nofun, nofun, nofun⟩
    rcases init_cases h with ⟨-, rfl⟩ | ⟨-, rfl⟩ | ⟨-, -, rfl⟩
    · exact .aside _ kind rfl rfl (.of_log rfl)
    · exact .aside _ kind rfl rfl ((Silent.of_log rfl).note rfl rfl)
    · exact .aside _ kind rfl rfl ((Silent.of_log rfl).note rfl rfl)
  | close =>
    obtain ⟨-, rfl⟩ := close_iff.mp h
    exact .aside _ ⟨nofun, nofun, nofun⟩ rfl rfl (.of_log rfl)
  | lock =>
    obtain ⟨-, rfl⟩ := lock_iff.mp h
    exact .aside _ ⟨nofun, nofun, nofun⟩ rfl rfl (.of_log rfl)
  | drained =>
    obtain ⟨-, n, pool, hd, rfl⟩ := drained_iff.mp h
    obtain ⟨-, -, rfl⟩ := Pool.drain_cases hd
    exact .aside _ ⟨nofun, nofun, nofun⟩ rfl rfl (.of_log rfl)
  | tell =>
    obtain ⟨-, rfl⟩ := tell_iff.mp h
    exact .aside _ ⟨nofun, nofun, nofun⟩ rfl rfl (.of_log rfl)
  | join =>
    obtain ⟨v, hv⟩ := step_join.mp h
    obtain ⟨-, -, -, rfl⟩ := join_cases hv
    exact .aside _ ⟨nofun, nofun, nofun⟩ rfl rfl (.of_log rfl)
  | reap =>
    obtain ⟨-, rfl⟩ := reap_iff.mp h
    exact .aside _ ⟨nofun, nofun, nofun⟩ rfl rfl (.of_log rfl)
  | handle =>
    obtain ⟨hn, hs, hk⟩ := handle_keeps h
    exact .handle hn hs (by rw [hk.pool]) hk.silent
  | start ok =>
    obtain ⟨t, ht, rfl⟩ := start_iff.mp h
    refine .start ok t ht rfl ?_ (.of_log rfl)
    cases ok with
    | true => rfl
    | false => exact (List.append_nil _).symm
  | post e =>
    have kind : Aside (.post e) := ⟨nofun, nofun, nofun⟩
    rcases post_cases h with rfl | ⟨-, rfl⟩
    · exact .aside _ kind rfl rfl (.of_log rfl)
    · exact .aside _ kind rfl rfl (.of_log rfl)
  | worker i m =>
    obtain ⟨pool, es, hm, rfl⟩ := worker_iff.mp h
    obtain ⟨w, st, hw, hst, rfl, rfl⟩ := Pool.move_cases hm
    exact .worker i m w st hw hst rfl rfl rfl

def Accepts (s : State σ) (t : Target) : Prop :=
  s.gate = true ∧ ∃ r e rest, s.queue = .event (.resolved r (.found e)) :: rest ∧
    e.address = t.address.text ∧ e.name = t.name ∧ e.domain = t.domain ∧ e.port = t.port

theorem ofEndpoint?_eq_some_iff {e : Endpoint} {t : Target} : Target.ofEndpoint? e = some t ↔
    e.address = t.address.text ∧ e.name = t.name ∧ e.domain = t.domain ∧ e.port = t.port := by
  obtain ⟨name, domain, address, port⟩ := t
  simp only [Target.ofEndpoint?, Option.map_eq_some_iff, Ipv4.ofText?_eq_some_iff, Target.mk.injEq]
  constructor
  · rintro ⟨a, ha, hn, hd, rfl, hp⟩
    exact ⟨ha, hn, hd, hp⟩
  · rintro ⟨ha, hn, hd, hp⟩
    exact ⟨address, ha, hn, hd, rfl, hp⟩

theorem admits?_eq_some_iff {t : Target} : s.admits? = some t ↔ Accepts s t := by
  unfold State.admits? Accepts
  constructor
  · intro h
    obtain ⟨item, hitem, ht⟩ := Option.bind_eq_some_iff.mp h
    obtain ⟨rest, hq⟩ := List.head?_eq_some_iff.mp hitem
    match item with
    | .event (.resolved r outcome) =>
      obtain ⟨hg, ht⟩ := Option.ite_none_right_eq_some.mp ht
      cases outcome with
      | failure reason => cases ht
      | found e => exact ⟨hg, r, e, rest, hq, ofEndpoint?_eq_some_iff.mp ht⟩
    | .event (.client _) => cases ht
    | .event (.browse _) => cases ht
    | .stop => cases ht
  · rintro ⟨hg, r, e, rest, hq, ht⟩
    have ht' := ofEndpoint?_eq_some_iff.mpr ht
    simp [hq, Item.target?, hg, Target.ofResolution?, ht']

end StreamScout.Session
