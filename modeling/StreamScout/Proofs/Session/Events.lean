import StreamScout.Proofs.Mdns.Custody
import StreamScout.Proofs.Session.Shutdown
import StreamScout.Proofs.Session.Turn

namespace StreamScout.Service

variable {σ : Type}

def Provider.answering (f : Record → σ → Outcome) (p : Provider σ) : Provider σ :=
  { p with resolve := fun r b => { p.resolve r b with outcome := f r b } }

end StreamScout.Service

namespace StreamScout.Session

open StreamScout.Mdns.Relay (studio)
open StreamScout.Probe (Pool)
open StreamScout.Service

variable {σ : Type} {cfg : Config} {p : Provider σ} {s s' : State σ} {a : Action} {as : List Action}
  {item : Item} {rest : List Item}

namespace Item

def call? (typeDomain : String) : Item → Option Effect
  | .event (.client .registering) | .event (.client .running) | .event (.client .collision) =>
      some (.subscribe typeDomain)
  | .event (.browse (.new r)) => some (.resolve r)
  | .event (.browse (.remove r)) => some (.removed r.name r.domain)
  | _ => none

def answer? (cfg : Config) (p : Provider σ) (b : σ) : Item → Option (Reply σ)
  | .event (.client .registering) | .event (.client .running) | .event (.client .collision) =>
      some (p.subscribe cfg.typeDomain b)
  | .event (.browse (.new r)) => some (p.resolve r b)
  | _ => none

def posts (cfg : Config) (p : Provider σ) (b : σ) (item : Item) : List Item :=
  ((item.answer? cfg p b).elim [] (·.posts)).map .event

end Item

structure Taken where
  item : Item
  outcome : Option Outcome
  deriving DecidableEq, Repr

namespace Taken

def ends : Taken → Bool
  | ⟨.stop, _⟩ => true
  | ⟨.event (.client (.failure _)), _⟩ => true
  | ⟨.event (.browse (.failure _)), _⟩ => true
  | ⟨.event (.client _), some (.error _)⟩ => true
  | _ => false

def of (cfg : Config) (p : Provider σ) (b : σ) (item : Item) : Taken :=
  ⟨item, (item.answer? cfg p b).map (·.outcome)⟩

end Taken

section Turn

structure Takes (cfg : Config) (p : Provider σ) (s : State σ) (item : Item) (rest : List Item) (s' : State σ) :
    Prop where
  goes : (Taken.of cfg p s.provider item).ends = false →
    s'.loop = .alive ∧ s'.queue = rest ++ item.posts cfg p s.provider ∧
      s'.log = s.log ++ (item.call? cfg.typeDomain).toList
  leaves : (Taken.of cfg p s.provider item).ends = true →
    s'.loop = .stopped ∧ s'.queue = [] ∧ s'.starting = none ∧
      s'.log = s.log ++ (item.call? cfg.typeDomain).toList ++ [.stop]

theorem takes_subscription (hp : p.Calm) (hl : s.loop = .alive) (hs : s.starting = none)
    (hcall : item.call? cfg.typeDomain = some (.subscribe cfg.typeDomain))
    (hanswer : item.answer? cfg p s.provider = some (p.subscribe cfg.typeDomain s.provider))
    (hends : ∀ o, Taken.ends ⟨item, some o⟩ = true ↔ ∃ m, o = .error m) :
    Takes cfg p s item rest (conclude p (subscribe cfg p { s with queue := rest })) := by
  have hof : Taken.of cfg p s.provider item = ⟨item, some (p.subscribe cfg.typeDomain s.provider).outcome⟩ := by
    rw [Taken.of, hanswer]
    rfl
  cases ho : (p.subscribe cfg.typeDomain s.provider).outcome with
  | ok =>
    have hend : (Taken.of cfg p s.provider item).ends = false := by
      rw [hof, ho, Bool.eq_false_iff, ne_eq, hends]
      simp
    refine ⟨fun _ => ?_, fun h => by simp [hend] at h⟩
    simp [subscribe, conclude, ho, Flow.ofSubscription, State.accept, State.note, hl, hcall, Item.posts, hanswer]
  | error m =>
    have hend : (Taken.of cfg p s.provider item).ends = true := by
      rw [hof, ho, hends]
      exact ⟨m, rfl⟩
    refine ⟨fun h => by simp [hend] at h, fun _ => ?_⟩
    simp [subscribe, conclude, ho, Flow.ofSubscription, State.accept, State.note, hs, hcall]
  | panic => exact absurd ho (hp.subscribe _ _)

theorem takes_request (hp : p.Calm) (hl : s.loop = .alive) (r : Record) :
    Takes cfg p s (.event (.browse (.new r))) rest
      (conclude p (onBrowse p (.new r) { s with queue := rest })) := by
  refine ⟨fun _ => ?_, nofun⟩
  cases ho : (p.resolve r s.provider).outcome with
  | ok =>
    simp [onBrowse, conclude, ho, Flow.ofResolution, State.accept, State.note, hl, Item.call?, Item.posts,
      Item.answer?]
  | error m =>
    simp [onBrowse, conclude, ho, Flow.ofResolution, State.accept, State.note, hl, Item.call?, Item.posts,
      Item.answer?]
  | panic => exact absurd ho (hp.resolve _ _)

theorem takes_leaving (hs : s.starting = none) (hcall : item.call? cfg.typeDomain = none)
    (hends : (Taken.of cfg p s.provider item).ends = true) :
    Takes cfg p s item rest (conclude p (.leave, { s with queue := rest })) := by
  refine ⟨fun h => by simp [hends] at h, fun _ => ?_⟩
  simp [conclude, State.note, hs, hcall]

theorem takes_other {s₁ : State σ} (hl : s.loop = .alive) (hloop : s₁.loop = s.loop) (hqueue : s₁.queue = rest)
    (hlog : s₁.log = s.log ++ (item.call? cfg.typeDomain).toList) (hanswer : item.answer? cfg p s.provider = none)
    (hends : (Taken.of cfg p s.provider item).ends = false) : Takes cfg p s item rest s₁ := by
  refine ⟨fun _ => ?_, fun h => by simp [hends] at h⟩
  exact ⟨hloop.trans hl, by simp [Item.posts, hanswer, hqueue], hlog⟩

theorem onResolved_starts (outcome : Resolution) (s : State σ) :
    ∃ st, onResolved outcome s = { s with starting := st } := by
  unfold onResolved
  split
  · split
    · exact ⟨_, rfl⟩
    · exact ⟨s.starting, rfl⟩
  · exact ⟨s.starting, rfl⟩

theorem react_takes (hp : p.Calm) (hl : s.loop = .alive) (hs : s.starting = none) (item : Item) :
    Takes cfg p s item rest (conclude p (react cfg p item { s with queue := rest })) := by
  match item with
  | .event (.client .connecting) =>
    exact takes_other hl rfl rfl (List.append_nil _).symm rfl rfl
  | .event (.client (.failure _)) => exact takes_leaving hs rfl rfl
  | .event (.client .registering) =>
    exact takes_subscription hp hl hs rfl rfl fun o => by cases o <;> simp [Taken.ends]
  | .event (.client .running) =>
    exact takes_subscription hp hl hs rfl rfl fun o => by cases o <;> simp [Taken.ends]
  | .event (.client .collision) =>
    exact takes_subscription hp hl hs rfl rfl fun o => by cases o <;> simp [Taken.ends]
  | .event (.browse (.new r)) => exact takes_request hp hl r
  | .event (.browse (.remove r)) => exact takes_other hl rfl rfl rfl rfl rfl
  | .event (.browse .allForNow) => exact takes_other hl rfl rfl (List.append_nil _).symm rfl rfl
  | .event (.browse .cacheExhausted) => exact takes_other hl rfl rfl (List.append_nil _).symm rfl rfl
  | .event (.browse (.failure _)) => exact takes_leaving hs rfl rfl
  | .event (.resolved r outcome) =>
    obtain ⟨st, hst⟩ := onResolved_starts outcome { s with queue := rest }
    change Takes cfg p s _ rest (onResolved outcome { s with queue := rest })
    rw [hst]
    exact takes_other hl rfl rfl (List.append_nil _).symm rfl rfl
  | .stop => exact takes_leaving hs rfl rfl

theorem handle_takes (hp : p.Calm) (h : step? cfg p .handle s = some s') :
    s.loop = .alive ∧ ∃ item rest, s.queue = item :: rest ∧ Takes cfg p s item rest s' := by
  simp only [step?, handle?] at h
  split at h
  next item rest hl hs hq =>
    obtain ⟨-, heq⟩ := Option.ite_none_left_eq_some.mp h
    obtain rfl := Option.some.inj heq
    exact ⟨hl, item, rest, hq, react_takes hp hl hs item⟩
  next => cases h

end Turn

instance (cfg : Config) (p : Provider σ) (a : Action) (s : State σ) : Decidable (Starts cfg p a s) :=
  inferInstanceAs (Decidable (a = .init none ∧ s.phase = .idle ∧ (p.connect cfg.interface s.provider).outcome = .ok))

def isLoopCall : Effect → Bool
  | .subscribe _ | .resolve _ | .removed .. | .stop => true
  | _ => false

structure Tape where
  posted : List Item := []
  taken : List Taken := []
  calls : List Effect := []
  deriving DecidableEq, Repr

section Tape

def sent (cfg : Config) (p : Provider σ) (a : Action) (s : State σ) : List Item :=
  match a with
  | .post e => [.event e]
  | .tell => [.stop]
  | .handle => s.queue.head?.elim [] (·.posts cfg p s.provider)
  | _ => []

def took (cfg : Config) (p : Provider σ) (a : Action) (s : State σ) : List Taken :=
  if a = .handle then (s.queue.head?.map (Taken.of cfg p s.provider)).toList else []

namespace Tape

def next (cfg : Config) (p : Provider σ) (a : Action) (s s' : State σ) (t : Tape) : Tape where
  posted := t.posted ++ sent cfg p a s
  taken := t.taken ++ took cfg p a s
  calls := t.calls ++ (s'.log.drop s.log.length).filter isLoopCall

def ended (t : Tape) : Bool :=
  t.taken.getLast?.any Taken.ends

end Tape

def tape? (cfg : Config) (p : Provider σ) : List Action → State σ → Option Tape → Option Tape
  | [], _, t => t
  | a :: as, s, t =>
      (step? cfg p a s).elim t fun s' =>
        tape? cfg p as s' <|
          if Starts cfg p a s then
            some { posted := (p.connect cfg.interface s.provider).posts.map .event }
          else t.map (·.next cfg p a s s')

end Tape

section Follow

def Aloof (s : State σ) (e : Effect) : Prop :=
  isLoopCall e = false ∧ ((∃ i, e = .connect i) → s.phase = .idle)

structure Beside (cfg : Config) (p : Provider σ) (a : Action) (s s' : State σ) : Prop where
  loop : s'.loop = .alive ↔ s.loop = .alive
  queue : s'.queue = if s.loop = .alive then s.queue ++ sent cfg p a s else s.queue
  starting : s'.starting = s.starting ∨ s'.starting = none
  log : ∃ es, s'.log = s.log ++ es ∧ ∀ e ∈ es, Aloof s e

theorem Beside.of_same (hloop : s'.loop = s.loop) (hqueue : s'.queue = s.queue) (hsent : sent cfg p a s = [])
    (hstarting : s'.starting = s.starting ∨ s'.starting = none)
    (hlog : ∃ es, s'.log = s.log ++ es ∧ ∀ e ∈ es, Aloof s e) : Beside cfg p a s s' where
  loop := by rw [hloop]
  queue := by simp [hqueue, hsent]
  starting := hstarting
  log := hlog

theorem Beside.calls (h : Beside cfg p a s s') :
    (s'.log.drop s.log.length).filter isLoopCall = [] ∧ s'.log.filter isLoopCall = s.log.filter isLoopCall := by
  obtain ⟨es, hlog, hes⟩ := h.log
  have hnone : es.filter isLoopCall = [] := List.filter_eq_nil_iff.mpr fun e he => by simp [(hes e he).1]
  rw [hlog, List.drop_left, List.filter_append, hnone]
  exact ⟨rfl, List.append_nil _⟩

theorem effects_aloof {start : String} {w : Probe.Worker} {m : Probe.Move} (s : State σ) :
    ∀ e ∈ w.effects start m, Aloof s e := by
  intro e he
  unfold Probe.Worker.effects at he
  split at he
  · simp [List.mem_singleton.mp he, Aloof, isLoopCall]
  · split at he
    · simp [List.mem_singleton.mp he, Aloof, isLoopCall]
    · cases he
  · cases he

theorem step_beside (h : step? cfg p a s = some s') (hh : a ≠ .handle) (hn : ¬ Starts cfg p a s) :
    Beside cfg p a s s' := by
  have quiet : ∃ es, s.log = s.log ++ es ∧ ∀ e ∈ es, Aloof s e := ⟨[], (List.append_nil _).symm, nofun⟩
  cases a with
  | init refusal =>
    rcases init_cases h with ⟨-, rfl⟩ | ⟨hc, -⟩ | ⟨hi, -, rfl⟩
    · exact .of_same rfl rfl rfl (.inl rfl) quiet
    · exact absurd hc hn
    · exact .of_same rfl rfl rfl (.inl rfl) ⟨[.connect cfg.interface], rfl, by simp [Aloof, isLoopCall, hi]⟩
  | close =>
    obtain ⟨-, rfl⟩ := close_iff.mp h
    exact .of_same rfl rfl rfl (.inl rfl) quiet
  | lock =>
    obtain ⟨-, rfl⟩ := lock_iff.mp h
    exact .of_same rfl rfl rfl (.inl rfl) quiet
  | drained =>
    obtain ⟨-, n, pool, -, rfl⟩ := drained_iff.mp h
    exact .of_same rfl rfl rfl (.inl rfl) quiet
  | tell =>
    obtain ⟨-, rfl⟩ := tell_iff.mp h
    exact ⟨Iff.rfl, rfl, .inl rfl, quiet⟩
  | join =>
    obtain ⟨v, hv⟩ := step_join.mp h
    obtain ⟨-, hl, -, rfl⟩ := join_cases hv
    exact ⟨by simp [hl], by simp [hl], .inl rfl, quiet⟩
  | reap =>
    obtain ⟨-, rfl⟩ := reap_iff.mp h
    exact .of_same rfl rfl rfl (.inl rfl) quiet
  | handle => exact absurd rfl hh
  | start ok =>
    obtain ⟨t, -, rfl⟩ := start_iff.mp h
    exact .of_same rfl rfl rfl (.inr rfl) quiet
  | post e =>
    obtain rfl := Option.some.inj h
    unfold State.post
    split
    next hl => exact ⟨Iff.rfl, by simp [hl, sent], .inl rfl, quiet⟩
    next hl => exact ⟨Iff.rfl, by simp [hl], .inl rfl, quiet⟩
  | worker i m =>
    obtain ⟨pool, es, hm, rfl⟩ := worker_iff.mp h
    obtain ⟨w, st, -, -, rfl, -⟩ := Pool.move_cases hm
    exact .of_same rfl rfl rfl (.inl rfl) ⟨_, rfl, effects_aloof s⟩

inductive StepKind (cfg : Config) (p : Provider σ) (s s' : State σ) : Action → Prop
  | starts (starts : Starts cfg p (.init none) s) (loop : s'.loop = .alive)
      (queue : s'.queue = s.queue ++ (p.connect cfg.interface s.provider).posts.map .event)
      (log : s'.log = s.log ++ [.connect cfg.interface]) : StepKind cfg p s s' (.init none)
  | turn (item : Item) (rest : List Item) (alive : s.loop = .alive) (queue : s.queue = item :: rest)
      (takes : Takes cfg p s item rest s') : StepKind cfg p s s' .handle
  | beside (a : Action) (other : a ≠ .handle) (idle : ¬ Starts cfg p a s) (beside : Beside cfg p a s s') :
      StepKind cfg p s s' a

theorem step_kind (hp : p.Calm) (h : step? cfg p a s = some s') : StepKind cfg p s s' a := by
  by_cases hst : Starts cfg p a s
  · obtain rfl := hst.1
    rcases init_cases h with ⟨hc, -⟩ | ⟨-, rfl⟩ | ⟨-, hc, -⟩
    · exact absurd hst.2.1 hc
    · exact .starts hst rfl rfl rfl
    · exact absurd hst hc
  · cases a with
    | handle =>
      obtain ⟨alive, item, rest, hq, ht⟩ := handle_takes hp h
      exact .turn item rest alive hq ht
    | _ => exact .beside _ nofun hst (step_beside h nofun hst)

structure Follows (cfg : Config) (t : Tape) (s : State σ) : Prop where
  taken_first : t.taken.map (·.item) <+: t.posted
  waiting : s.loop = .alive → t.posted = t.taken.map (·.item) ++ s.queue
  onward : ∀ x ∈ t.taken.dropLast, x.ends = false
  ended : t.ended = true ↔ s.loop ≠ .alive
  calls : t.calls =
    t.taken.filterMap (·.item.call? cfg.typeDomain) ++ if t.ended then [.stop] else []

theorem follows_starts (hl : s'.loop = .alive)
    (hq : s'.queue = (p.connect cfg.interface s.provider).posts.map .event) :
    Follows cfg { posted := (p.connect cfg.interface s.provider).posts.map .event } s' :=
  ⟨List.nil_prefix, fun _ => hq.symm, nofun, by simp [Tape.ended, hl], rfl⟩

theorem follows_beside {t : Tape} (hf : Follows cfg t s) (hh : a ≠ .handle) (hb : Beside cfg p a s s') :
    Follows cfg (t.next cfg p a s s') s' := by
  have htook : took cfg p a s = [] := if_neg hh
  have htaken : (t.next cfg p a s s').taken = t.taken := by simp [Tape.next, htook]
  have hcalls : (t.next cfg p a s s').calls = t.calls := by simp [Tape.next, hb.calls.1]
  have hend : (t.next cfg p a s s').ended = t.ended := by rw [Tape.ended, htaken, Tape.ended]
  constructor
  case taken_first =>
    rw [htaken]
    exact hf.taken_first.trans (List.prefix_append _ _)
  case waiting =>
    intro ha
    have hl := hb.loop.mp ha
    rw [htaken, hb.queue, if_pos hl, ← List.append_assoc, ← hf.waiting hl]
    rfl
  case onward =>
    rw [htaken]
    exact hf.onward
  case ended => rw [hend, hf.ended, ne_eq, ne_eq, hb.loop]
  case calls => rw [hcalls, htaken, hend, hf.calls]

theorem Follows.none_ends {t : Tape} (hf : Follows cfg t s) (hl : s.loop = .alive) :
    ∀ x ∈ t.taken, x.ends = false := by
  intro x hx
  have hend : t.ended = false := by
    rw [Bool.eq_false_iff, ne_eq, hf.ended]
    exact not_not_intro hl
  rcases List.eq_nil_or_concat t.taken with hn | ⟨front, last, ht⟩
  · rw [hn] at hx
    cases hx
  · rw [List.concat_eq_append] at ht
    rw [ht] at hx
    rcases List.mem_append.mp hx with hx | hx
    · exact hf.onward x (by simpa [ht] using hx)
    · obtain rfl := List.mem_singleton.mp hx
      simpa [Tape.ended, ht] using hend

theorem follows_turn {t : Tape} (hf : Follows cfg t s) (hl : s.loop = .alive) (hq : s.queue = item :: rest)
    (htakes : Takes cfg p s item rest s') : Follows cfg (t.next cfg p .handle s s') s' := by
  have hposted : (t.next cfg p .handle s s').posted =
      t.taken.map (·.item) ++ item :: (rest ++ item.posts cfg p s.provider) := by
    simp [Tape.next, sent, hq, hf.waiting hl]
  have htaken : (t.next cfg p .handle s s').taken = t.taken ++ [.of cfg p s.provider item] := by
    simp [Tape.next, took, hq]
  have hend : (t.next cfg p .handle s s').ended = (Taken.of cfg p s.provider item).ends := by
    simp [Tape.ended, htaken]
  have hitems : (t.next cfg p .handle s s').taken.map (·.item) = t.taken.map (·.item) ++ [item] := by
    simp [htaken, Taken.of]
  have hfirst : (t.next cfg p .handle s s').taken.map (·.item) <+: (t.next cfg p .handle s s').posted := by
    rw [hitems, hposted]
    exact ⟨_, List.append_assoc _ _ _⟩
  have honward : ∀ x ∈ (t.next cfg p .handle s s').taken.dropLast, x.ends = false := by
    rw [htaken, List.dropLast_concat]
    exact hf.none_ends hl
  have hold : t.calls = t.taken.filterMap (·.item.call? cfg.typeDomain) := by
    have hnot : t.ended ≠ true := fun he => hf.ended.mp he hl
    simpa [hnot] using hf.calls
  have hasked : (t.next cfg p .handle s s').taken.filterMap (·.item.call? cfg.typeDomain) =
      t.taken.filterMap (·.item.call? cfg.typeDomain) ++ (item.call? cfg.typeDomain).toList := by
    rw [htaken, List.filterMap_append]
    cases hc : item.call? cfg.typeDomain <;> simp [Taken.of, hc]
  have hcall : (item.call? cfg.typeDomain).toList.filter isLoopCall = (item.call? cfg.typeDomain).toList := by
    unfold Item.call?
    split <;> rfl
  cases he : (Taken.of cfg p s.provider item).ends with
  | false =>
    obtain ⟨hl', hq', hlog⟩ := htakes.goes he
    refine ⟨hfirst, fun _ => ?_, honward, by simp [hend, he, hl'], ?_⟩
    · rw [hposted, hitems, hq', List.append_assoc, List.singleton_append]
    · rw [hend, he, hasked, Tape.next, hlog, List.drop_left, hcall, hold]
      simp
  | true =>
    obtain ⟨hl', -, -, hlog⟩ := htakes.leaves he
    refine ⟨hfirst, fun ha => by simp [hl'] at ha, honward, by simp [hend, he, hl'], ?_⟩
    rw [hend, he, hasked, Tape.next, hlog, List.append_assoc, List.drop_left, List.filter_append, hcall, hold,
      List.append_assoc]
    rfl

/-- Nothing is left for a loop that is gone. -/
def Spent (s : State σ) : Prop :=
  s.loop ≠ .alive → s.queue = [] ∧ s.starting = none

theorem step_spent (hp : p.Calm) (hs : Spent s) (h : step? cfg p a s = some s') : Spent s' := by
  intro hl
  cases step_kind hp h with
  | starts _ loop _ _ => exact absurd loop hl
  | turn item rest _ _ takes =>
    cases he : (Taken.of cfg p s.provider item).ends with
    | false => exact absurd (takes.goes he).1 hl
    | true => exact ⟨(takes.leaves he).2.1, (takes.leaves he).2.2.1⟩
  | beside _ _ _ hb =>
    have hl' : s.loop ≠ .alive := fun ha => hl (hb.loop.mpr ha)
    obtain ⟨hq, hn⟩ := hs hl'
    refine ⟨by rw [hb.queue, if_neg hl', hq], ?_⟩
    rcases hb.starting with hb | hb
    · rw [hb, hn]
    · exact hb

structure Lost (s s' : State σ) : Prop where
  loop : s'.loop ≠ .alive
  queue : s'.queue = []
  starting : s'.starting = none
  calls : s'.log.filter isLoopCall = s.log.filter isLoopCall
  probes : s'.pool.next = s.pool.next

theorem step_lost (hp : p.Calm) {s'' : State σ} (hl : Lost s s') (h : step? cfg p a s' = some s'')
    (hn : ¬ Starts cfg p a s') : Lost s s'' := by
  cases step_kind hp h with
  | starts hst _ _ _ => exact absurd hst hn
  | turn _ _ alive _ _ => exact absurd alive hl.loop
  | beside _ _ _ hb =>
    constructor
    case loop => exact fun ha => hl.loop (hb.loop.mp ha)
    case queue => rw [hb.queue, if_neg hl.loop, hl.queue]
    case starting =>
      rcases hb.starting with hs | hs
      · rw [hs, hl.starting]
      · exact hs
    case calls => rw [hb.calls.2, hl.calls]
    case probes => rw [(step_unstarted h hl.starting).1, hl.probes]

theorem lull_lost (hp : p.Calm) (hl : s.loop ≠ .alive) (hs : Spent s) (h : Lull cfg p s s') : Lost s s' := by
  induction h with
  | refl => exact ⟨hl, (hs hl).1, (hs hl).2, rfl, rfl⟩
  | step _ h₁ hn ih => exact step_lost hp ih h₁ hn

structure Recorded (cfg : Config) (t : Option Tape) (s : State σ) : Prop where
  orderly : Orderly s
  spent : Spent s
  begun : s.phase ≠ .idle → t.isSome = true
  follows : ∀ u ∈ t, Follows cfg u s

theorem recorded_fresh (cfg : Config) (b : σ) : Recorded cfg none ({ provider := b } : State σ) where
  orderly := orderly_fresh b
  spent _ := ⟨rfl, rfl⟩
  begun h := absurd rfl h
  follows := nofun

theorem step_recorded {t : Option Tape} (hp : p.Calm) (hr : Recorded cfg t s) (h : step? cfg p a s = some s') :
    Recorded cfg
      (if Starts cfg p a s then
        some { posted := (p.connect cfg.interface s.provider).posts.map .event }
      else t.map (·.next cfg p a s s')) s' := by
  refine ⟨step_orderly hp hr.orderly h, step_spent hp hr.spent h, ?begun, ?follows⟩
  case begun =>
    split
    next => exact fun _ => rfl
    next hst =>
      intro hi
      rw [Option.isSome_map]
      refine hr.begun fun hc => hi ?_
      exact (step_idle hp hr.orderly hc h hst).1
  case follows =>
    cases step_kind hp h with
    | starts hst loop queue _ =>
      have hloop : s.loop ≠ .alive := by simp [hr.orderly.loop.mpr hst.2.1]
      rw [if_pos hst]
      intro u hu
      obtain rfl := Option.some.inj hu
      refine follows_starts loop ?_
      rw [queue, (hr.spent hloop).1, List.nil_append]
    | turn item rest alive queue takes =>
      rw [if_neg fun hst => by cases hst.1]
      intro u hu
      obtain ⟨u₀, hu₀, rfl⟩ := Option.map_eq_some_iff.mp hu
      exact follows_turn (hr.follows u₀ hu₀) alive queue takes
    | beside _ other idle hb =>
      rw [if_neg idle]
      intro u hu
      obtain ⟨u₀, hu₀, rfl⟩ := Option.map_eq_some_iff.mp hu
      exact follows_beside (hr.follows u₀ hu₀) other hb

theorem run_recorded {t : Option Tape} (hp : p.Calm) (hr : Recorded cfg t s) (h : run? cfg p as s = some s') :
    Recorded cfg (tape? cfg p as s t) s' := by
  induction as generalizing s t with
  | nil => exact Option.some.inj h ▸ hr
  | cons a as ih =>
    obtain ⟨s₁, h₁, h₂⟩ := Option.bind_eq_some_iff.mp h
    rw [tape?, h₁]
    exact ih (step_recorded hp hr h₁) h₂

end Follow

section Requests

variable {f : Record → σ → Outcome}

theorem react_answering (hp : p.Calm) (hf : ∀ r b, f r b ≠ .panic) (item : Item) (s : State σ) :
    react cfg (p.answering f) item s = react cfg p item s := by
  match item with
  | .event (.browse (.new r)) =>
    have goes (o : Outcome) (ho : o ≠ .panic) : Flow.ofResolution o = .goOn := by
      cases o with
      | panic => exact absurd rfl ho
      | _ => rfl
    change (Flow.ofResolution (f r s.provider), _) = (Flow.ofResolution (p.resolve r s.provider).outcome, _)
    rw [goes _ (hf r s.provider), goes _ (hp.resolve r s.provider)]
    rfl
  | .event (.browse (.remove _)) | .event (.browse .allForNow) | .event (.browse .cacheExhausted)
  | .event (.browse (.failure _)) | .event (.client _) | .event (.resolved _ _) | .stop => rfl

theorem step_answering (hp : p.Calm) (hf : ∀ r b, f r b ≠ .panic) (a : Action) (s : State σ) :
    step? cfg (p.answering f) a s = step? cfg p a s := by
  cases a with
  | handle =>
    change handle? cfg (p.answering f) s = handle? cfg p s
    unfold handle?
    split
    next item rest _ _ _ =>
      rw [react_answering hp hf]
      rfl
    next => rfl
  | _ => rfl

theorem run_answering (hp : p.Calm) (hf : ∀ r b, f r b ≠ .panic) (as : List Action) (s : State σ) :
    run? cfg (p.answering f) as s = run? cfg p as s := by
  induction as generalizing s with
  | nil => rfl
  | cons a as ih =>
    change (step? cfg (p.answering f) a s).bind _ = (step? cfg p a s).bind _
    rw [step_answering hp hf]
    exact Option.bind_congr fun s₁ _ => ih s₁

end Requests

theorem exists_handle (hl : s.loop = .alive) (hn : s.starting = none) (hq : s.queue = item :: rest)
    (hr : needsRegistry item = true → s.phase ≠ .draining) : ∃ s', step? cfg p .handle s = some s' := by
  have hlock : (needsRegistry item && s.locked) = false := by
    cases hi : needsRegistry item with
    | false => rfl
    | true => simp [State.locked, hr hi, hn]
  simp [step?, handle?, hl, hn, hq, hlock]

structure TakesInOrder (cfg : Config) (p : Provider σ) (as : List Action) (b : σ) (s : State σ) : Prop where
  recorded : s.phase ≠ .idle → (tape? cfg p as { provider := b } none).isSome = true
  follows : ∀ t ∈ tape? cfg p as { provider := b } none, Follows cfg t s
  next : ∀ item rest, s.loop = .alive → s.queue = item :: rest →
    (s.starting = none → (needsRegistry item = true → s.phase ≠ .draining) →
      ∃ s', step? cfg p .handle s = some s') ∧
    (s.starting ≠ none → ∃ s', step? cfg p (.start true) s = some s' ∧ s'.starting = none ∧ s'.queue = s.queue)
  lost : s.loop ≠ .alive → (∀ e, s.post e = (false, s)) ∧ ∀ s', Lull cfg p s s' → Lost s s'
  requests : ∀ f : Record → σ → Outcome, (∀ r c, f r c ≠ .panic) →
    run? cfg (p.answering f) as { provider := b } = some s

theorem loop_takes_in_order (hp : p.Calm) {b : σ} (h : run? cfg p as { provider := b } = some s) :
    TakesInOrder cfg p as b s := by
  have hr := run_recorded hp (recorded_fresh cfg b) h
  constructor
  case recorded => exact hr.begun
  case follows => exact hr.follows
  case next =>
    intro item rest hl hq
    refine ⟨fun hn hreg => exists_handle hl hn hq hreg, fun hn => ?_⟩
    obtain ⟨t, ht⟩ := Option.ne_none_iff_exists'.mp hn
    exact ⟨_, start_iff.mpr ⟨t, ht, rfl⟩, rfl, rfl⟩
  case lost =>
    intro hl
    exact ⟨fun e => if_neg hl, fun s' h' => lull_lost hp hl hr.spent h'⟩
  case requests =>
    intro f hf
    rw [run_answering hp hf, h]

def failureBetween : List Action :=
  [.init none, .post (.browse (.new studio)), .post (.browse (.remove studio)), .post (.browse (.failure "gone")),
    .post (.browse (.new studio)), .handle, .handle, .handle, .handle, .handle, .post (.browse (.remove studio))]

def failureTape : Tape where
  posted := [.event (.client .connecting), .event (.client .running), .event (.browse (.new studio)),
    .event (.browse (.remove studio)), .event (.browse (.failure "gone")), .event (.browse (.new studio)),
    .event (.browse (.remove studio))]
  taken := [⟨.event (.client .connecting), none⟩, ⟨.event (.client .running), some .ok⟩,
    ⟨.event (.browse (.new studio)), some .ok⟩, ⟨.event (.browse (.remove studio)), none⟩,
    ⟨.event (.browse (.failure "gone")), none⟩]
  calls := [.subscribe "_rtsp._tcp.local.", .resolve studio, .removed "studio" "local", .stop]

theorem loop_takes_in_order_failure :
    ∃ s, run? wiredConfig Mdns.provider failureBetween { provider := {} } = some s ∧
      tape? wiredConfig Mdns.provider failureBetween { provider := {} } none = some failureTape ∧
      TakesInOrder wiredConfig Mdns.provider failureBetween {} s :=
  ⟨_, rfl, rfl, loop_takes_in_order (mdns_calm _) rfl⟩

end StreamScout.Session
