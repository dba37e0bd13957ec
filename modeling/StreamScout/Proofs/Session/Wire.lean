import StreamScout.Mdns.Client
import StreamScout.Proofs.Mdns.Forwarding
import StreamScout.Proofs.Session.Turn

namespace StreamScout.Session

open StreamScout.Service
open StreamScout.Mdns (Announcement Client Forwarder Genuine Hands Heard Matched Search announce announce_heard)
open StreamScout.Probe (Target)
open scoped List

/-- One move is one access to the resolve table, one post or one event taken by the loop. What a request brings back
stays with the loop until it is posted, and the loop takes no event in between; the events of an announcement stay with
their forwarder. -/
structure Wire where
  client : Client := {}
  pocket : List (Event Record) := []
  hands : Hands (Event Record) := []
  deriving DecidableEq

def Wire.table (w : Wire) : Resolve.Table Record :=
  match w.client.forwarder with
  | some f => f.table
  | none => {}

namespace Wire

def connect (interface : String) (w : Wire) : Reply Wire :=
  let r := w.client.connect none interface
  ⟨r.outcome, { w with client := r.state }, r.posts⟩

-- each subscription starts a forwarder
def subscribe (search : Search) (typeDomain : String) (w : Wire) : Reply Wire :=
  let r := w.client.subscribe search typeDomain
  ⟨r.outcome, { w with client := r.state, hands := if r.outcome = .ok then w.hands ++ [[]] else w.hands }, r.posts⟩

-- what a request brings back is not posted yet
def resolve (x : Record) (w : Wire) : Reply Wire :=
  let r := w.client.resolve x
  ⟨r.outcome, { w with client := r.state, pocket := r.posts }, []⟩

def stop (w : Wire) : Wire :=
  { w with client := w.client.stop, pocket := [] }

end Wire

def wire (search : Search) : Provider Wire where
  connect := Wire.connect
  subscribe := Wire.subscribe search
  resolve := Wire.resolve
  stop := Wire.stop
  drop := Wire.stop

def launched (cfg : Config) : State Wire :=
  (init cfg (wire .begun) none { provider := {} }).2

inductive Move where
  | session (a : Action) (search : Search)
  | flush
  | access (k : Nat) (a : Announcement)
  | post (k : Nat)
  deriving DecidableEq, Repr

def Move.turn : Move :=
  .session .handle .begun

def Move.probe : Move :=
  .session (.start true) .begun

def Action.isInner : Action → Bool
  | .init _ => false
  | .post _ => false
  | _ => true

def flush? (s : State Wire) : Option (State Wire) :=
  match s.provider.pocket with
  | [] => none
  | e :: es => some { (s.post e).2 with provider := { s.provider with pocket := es } }

def access? (k : Nat) (a : Announcement) (s : State Wire) : Option (State Wire) :=
  s.provider.client.forwarder.bind fun f =>
    let heard := announce f.interface a f.table
    (s.provider.hands.fill? k heard.2).map fun hands =>
      { s with provider := { s.provider with
          client := { s.provider.client with forwarder := some { f with table := heard.1 } }
          hands } }

def relay? (k : Nat) (s : State Wire) : Option (State Wire) :=
  (s.provider.hands.post? k).map fun (e, hands) =>
    { (s.post e).2 with provider := { s.provider with hands } }

def advance? (cfg : Config) (m : Move) (s : State Wire) : Option (State Wire) :=
  match m with
  | .session a search =>
      if a.isInner ∧ (a = .handle → s.provider.pocket = []) then step? cfg (wire search) a s else none
  | .flush => flush? s
  | .access k a => access? k a s
  | .post k => relay? k s

inductive Mark where
  | appeared (r : Record)
  | vanished (r : Record)
  | probed (t : Target)
  deriving DecidableEq, Repr

def Item.mark? : Item → Option Mark
  | .event (.browse (.new r)) => some (.appeared r)
  | .event (.browse (.remove r)) => some (.vanished r)
  | _ => none

def marks (m : Move) (s : State Wire) : List Mark :=
  match m with
  | .session .handle _ => (s.queue.head?.bind Item.mark?).toList
  | .session (.start true) _ => s.starting.toList.map .probed
  | _ => []

def follow? (cfg : Config) : List Move → State Wire → Option (State Wire × List Mark)
  | [], s => some (s, [])
  | m :: ms, s =>
      (advance? cfg m s).bind fun s' => (follow? cfg ms s').map fun (s'', later) => (s'', marks m s ++ later)

section Loop

variable {cfg : Config} {s s' : State Wire} {rest : List Item} {search : Search}

def Item.subscribes : Item → Bool
  | .event (.client .registering) => true
  | .event (.client .running) => true
  | .event (.client .collision) => true
  | _ => false

theorem wire_subscribe (search : Search) (ty : String) (w : Wire) :
    (∃ m, (w.subscribe search ty).outcome = .error m ∧ (w.subscribe search ty).state.stop = w.stop) ∨
      (w.subscribe search ty).outcome = .ok ∧ (w.subscribe search ty).posts = [] ∧
        ∃ c, c.forwarder = w.client.forwarder ∧
          (w.subscribe search ty).state = { w with client := c, hands := w.hands ++ [[]] } := by
  have hstop : ∀ w' : Wire, w'.hands = w.hands → w'.stop = w.stop := by
    intro w' hw
    simp [Wire.stop, Client.stop, hw]
  cases hf : w.client.forwarder with
  | none => refine .inl ⟨Mdns.notStarted, ?_, hstop _ ?_⟩ <;> simp [Wire.subscribe, Client.subscribe, hf]
  | some f =>
    cases search with
    | begun =>
      refine .inr ⟨?_, ?_, { w.client with browsing := some ty, searching := some ty }, ?_, ?_⟩ <;>
        simp [Wire.subscribe, Client.subscribe, hf]
    | refused reason =>
      refine .inl ⟨"Failed to browse " ++ ty ++ ": " ++ reason, ?_, hstop _ ?_⟩ <;>
        simp [Wire.subscribe, Client.subscribe, hf]
    | unheard reason =>
      refine .inl ⟨"Failed to spawn mDNS browse thread: " ++ reason, ?_, hstop _ ?_⟩ <;>
        simp [Wire.subscribe, Client.subscribe, hf]

theorem wire_resolve (r : Record) (w : Wire) : (w.resolve r).outcome ≠ .panic := by
  cases hf : w.client.forwarder <;> simp [Wire.resolve, Client.resolve, hf]

inductive Handled (s s' : State Wire) (rest : List Item) : Item → Prop
  | left (item : Item) (loop : s'.loop = .stopped) (queue : s'.queue = [])
      (provider : s'.provider = s.provider.stop) : Handled s s' rest item
  | passed (item : Item) (loop : s'.loop = s.loop) (queue : s'.queue = rest)
      (provider : s'.provider = s.provider) : Handled s s' rest item
  | subscribed (item : Item) (c : Client) (asks : item.subscribes = true) (loop : s'.loop = s.loop)
      (queue : s'.queue = rest) (forwarder : c.forwarder = s.provider.client.forwarder)
      (provider : s'.provider = { s.provider with client := c, hands := s.provider.hands ++ [[]] }) :
      Handled s s' rest item
  | requested (r : Record) (loop : s'.loop = s.loop) (queue : s'.queue = rest)
      (provider : s'.provider = (s.provider.resolve r).state) : Handled s s' rest (.event (.browse (.new r)))

theorem subscribe_handled {item : Item} (h : item.subscribes = true) :
    Handled s (conclude (wire search) (subscribe cfg (wire search) { s with queue := rest })) rest item := by
  rcases wire_subscribe search cfg.typeDomain s.provider with ⟨m, ho, hstop⟩ | ⟨ho, hp, c, hc, hst⟩
  · refine .left item ?_ ?_ ?_ <;> simp [subscribe, wire, ho, Flow.ofSubscription, conclude, State.accept, State.note, hstop]
  · refine .subscribed item c h ?_ ?_ hc ?_ <;>
      simp [subscribe, wire, ho, Flow.ofSubscription, conclude, State.accept, State.note, hp, hst]

theorem request_handled (r : Record) :
    Handled s (conclude (wire search) (onBrowse (wire search) (.new r) { s with queue := rest })) rest
      (.event (.browse (.new r))) := by
  have hflow : Flow.ofResolution (s.provider.resolve r).outcome = .goOn := by
    cases ho : (s.provider.resolve r).outcome with
    | ok => rfl
    | error m => rfl
    | panic => exact absurd ho (wire_resolve r s.provider)
  refine .requested r ?_ ?_ ?_ <;> simp [onBrowse, wire, hflow, conclude, State.accept, State.note]
  rfl

theorem onResolved_keeps {σ : Type} (outcome : Resolution) (s : State σ) :
    (onResolved outcome s).loop = s.loop ∧ (onResolved outcome s).queue = s.queue ∧
      (onResolved outcome s).provider = s.provider := by
  unfold onResolved
  cases Target.ofResolution? outcome <;> cases s.gate <;> exact ⟨rfl, rfl, rfl⟩

theorem react_handled (item : Item) :
    Handled s (conclude (wire search) (react cfg (wire search) item { s with queue := rest })) rest item := by
  match item with
  | .event (.client .connecting) => exact .passed _ rfl rfl rfl
  | .event (.client (.failure _)) => exact .left _ rfl rfl rfl
  | .event (.client .registering) => exact subscribe_handled rfl
  | .event (.client .running) => exact subscribe_handled rfl
  | .event (.client .collision) => exact subscribe_handled rfl
  | .event (.browse (.new r)) => exact request_handled r
  | .event (.browse (.remove r)) => exact .passed _ rfl rfl rfl
  | .event (.browse .allForNow) => exact .passed _ rfl rfl rfl
  | .event (.browse .cacheExhausted) => exact .passed _ rfl rfl rfl
  | .event (.browse (.failure _)) => exact .left _ rfl rfl rfl
  | .stop => exact .left _ rfl rfl rfl
  | .event (.resolved r outcome) =>
    obtain ⟨hloop, hqueue, hprovider⟩ := onResolved_keeps outcome { s with queue := rest }
    exact .passed _ hloop hqueue hprovider

theorem handle_wire (h : step? cfg (wire search) .handle s = some s') :
    ∃ item rest, s.queue = item :: rest ∧ s.loop = .alive ∧ Handled s s' rest item := by
  simp only [step?, handle?] at h
  split at h
  next item rest hl hn hq =>
    obtain ⟨-, heq⟩ := Option.ite_none_left_eq_some.mp h
    obtain rfl := Option.some.inj heq
    exact ⟨item, rest, hq, hl, react_handled item⟩
  next => cases h

end Loop

section Advance

variable {cfg : Config} {s s' : State Wire} {m : Move}

structure Posted (e : Event Record) (s s' : State Wire) : Prop where
  queue : s'.queue = s.queue ++ if s.loop = .alive then [.event e] else []
  loop : s'.loop = s.loop
  starting : s'.starting = s.starting

inductive Advanced (s s' : State Wire) : Move → Prop
  | handled (search : Search) (item : Item) (rest : List Item) (queue : s.queue = item :: rest) (alive : s.loop = .alive)
      (pocket : s.provider.pocket = []) (before : s.starting = none) (after : s'.starting = s.admits?)
      (handled : Handled s s' rest item) : Advanced s s' (.session .handle search)
  | started (search : Search) (ok : Bool) (t : Target) (before : s.starting = some t) (after : s'.starting = none)
      (loop : s'.loop = s.loop) (queue : s'.queue = s.queue) (provider : s'.provider = s.provider) :
      Advanced s s' (.session (.start ok) search)
  | aside (search : Search) (a : Action) (other : a ≠ .handle ∧ ∀ ok, a ≠ .start ok) (starting : s'.starting = s.starting)
      (loop : s'.loop = .alive → s.loop = .alive) (queue : s'.queue = s.queue ∨ s'.queue = s.queue ++ [.stop])
      (provider : s'.provider = s.provider) : Advanced s s' (.session a search)
  | flushed (e : Event Record) (es : List (Event Record)) (pocket : s.provider.pocket = e :: es)
      (posted : Posted e s s') (provider : s'.provider = { s.provider with pocket := es }) : Advanced s s' .flush
  | heard (k : Nat) (a : Announcement) (f : Forwarder Record) (t : Resolve.Table Record) (es : List (Event Record))
      (forwarder : s.provider.client.forwarder = some f)
      (client : s'.provider.client.forwarder = some { f with table := t })
      (heard : Heard f.interface f.table a t es) (fill : s.provider.hands.fill? k es = some s'.provider.hands)
      (pocket : s'.provider.pocket = s.provider.pocket) (queue : s'.queue = s.queue) (loop : s'.loop = s.loop)
      (starting : s'.starting = s.starting) : Advanced s s' (.access k a)
  | relayed (k : Nat) (e : Event Record) (hands : Hands (Event Record))
      (take : s.provider.hands.post? k = some (e, hands)) (posted : Posted e s s')
      (provider : s'.provider = { s.provider with hands }) : Advanced s s' (.post k)

theorem posted_post (e : Event Record) (w : Wire) (s : State Wire) :
    Posted e s { (s.post e).2 with provider := w } := by
  unfold State.post
  split
  next h => exact ⟨by simp [h], rfl, rfl⟩
  next h => exact ⟨by simp [h], rfl, rfl⟩

theorem advance_aside {a : Action} {search : Search} (ha : a.isInner = true)
    (other : a ≠ .handle ∧ ∀ ok, a ≠ .start ok) (h : step? cfg (wire search) a s = some s') :
    Advanced s s' (.session a search) := by
  cases a with
  | init _ => cases ha
  | post e => cases ha
  | handle => exact absurd rfl other.1
  | start ok => exact absurd rfl (other.2 ok)
  | close =>
    obtain ⟨-, rfl⟩ := close_iff.mp h
    exact .aside _ _ other rfl id (.inl rfl) rfl
  | lock =>
    obtain ⟨-, rfl⟩ := lock_iff.mp h
    exact .aside _ _ other rfl id (.inl rfl) rfl
  | drained =>
    obtain ⟨-, n, pool, -, rfl⟩ := drained_iff.mp h
    exact .aside _ _ other rfl id (.inl rfl) rfl
  | tell =>
    obtain ⟨-, rfl⟩ := tell_iff.mp h
    refine .aside _ _ other rfl id ?_ rfl
    by_cases hl : s.loop = .alive
    · exact .inr (if_pos hl)
    · exact .inl (if_neg hl)
  | join =>
    obtain ⟨v, hv⟩ := step_join.mp h
    obtain ⟨-, -, -, rfl⟩ := join_cases hv
    exact .aside _ _ other rfl nofun (.inl rfl) rfl
  | reap =>
    obtain ⟨-, rfl⟩ := reap_iff.mp h
    exact .aside _ _ other rfl id (.inl rfl) rfl
  | worker i w =>
    obtain ⟨pool, es, -, rfl⟩ := worker_iff.mp h
    exact .aside _ _ other rfl id (.inl rfl) rfl

theorem advance_cases (h : advance? cfg m s = some s') : Advanced s s' m := by
  cases m with
  | session a search =>
    obtain ⟨⟨hinner, hpocket⟩, h⟩ := Option.ite_none_right_eq_some.mp h
    by_cases hh : a = .handle
    · subst hh
      obtain ⟨hbefore, hafter, -⟩ := handle_keeps h
      obtain ⟨item, rest, hq, hl, hhandled⟩ := handle_wire h
      exact .handled search item rest hq hl (hpocket rfl) hbefore hafter hhandled
    · by_cases hs : ∃ ok, a = .start ok
      · obtain ⟨ok, rfl⟩ := hs
        obtain ⟨t, ht, rfl⟩ := start_iff.mp h
        exact .started search ok t ht rfl rfl rfl rfl
      · exact advance_aside hinner ⟨hh, fun ok heq => hs ⟨ok, heq⟩⟩ h
  | flush =>
    simp only [advance?, flush?] at h
    split at h
    next => cases h
    next e es hp =>
      cases h
      exact .flushed e es hp (posted_post e _ s) rfl
  | access k a =>
    obtain ⟨f, hf, h⟩ := Option.bind_eq_some_iff.mp h
    obtain ⟨hands, hfill, rfl⟩ := Option.map_eq_some_iff.mp h
    exact .heard k a f _ _ hf rfl (announce_heard _ _ _) hfill rfl rfl rfl rfl
  | post k =>
    obtain ⟨⟨e, hands⟩, htake, rfl⟩ := Option.map_eq_some_iff.mp h
    exact .relayed k e hands htake (posted_post e _ s) rfl

end Advance

section Underway

variable {s s' : State Wire} {m : Move} {e : Event Record} {item : Item} {rest : List Item}

def Item.event? : Item → Option (Event Record)
  | .event e => some e
  | .stop => none

namespace State

def waiting (s : State Wire) : List (Event Record) :=
  s.queue.filterMap Item.event?

def underway (s : State Wire) : List (Event Record) :=
  s.provider.pocket ++ (s.provider.hands.flatten ++ s.waiting)

end State

theorem waiting_posted (h : Posted e s s') :
    s'.waiting = s.waiting ++ if s.loop = .alive then [e] else [] := by
  rw [State.waiting, h.queue, List.filterMap_append]
  split <;> rfl

theorem waiting_cons (h : s.queue = item :: rest) :
    s.waiting = item.event?.toList ++ rest.filterMap Item.event? := by
  rw [State.waiting, h]
  cases item <;> rfl

theorem waiting_aside (h : s'.queue = s.queue ∨ s'.queue = s.queue ++ [.stop]) : s'.waiting = s.waiting := by
  rcases h with h | h
  · rw [State.waiting, h, State.waiting]
  · rw [State.waiting, h, List.filterMap_append, State.waiting]
    exact List.append_nil _

theorem underway_head (h : s.queue = .event e :: rest) : e ∈ s.underway := by
  refine List.mem_append_right _ (List.mem_append_right _ ?_)
  rw [waiting_cons h]
  exact List.mem_cons_self

theorem underway_congr (hw : s'.waiting = s.waiting) (hp : s'.provider = s.provider) : s'.underway = s.underway := by
  rw [State.underway, hw, hp, State.underway]

theorem underway_posted (h : Posted e s s')
    (taken : s.provider.pocket ++ s.provider.hands.flatten ~
      e :: (s'.provider.pocket ++ s'.provider.hands.flatten)) : s'.underway <+~ s.underway := by
  refine List.subperm_ext_iff.mpr fun x _ => ?_
  have hcount := taken.count_eq x
  simp only [State.underway, waiting_posted h, List.count_append, List.count_cons] at hcount ⊢
  split
  next => simp only [List.count_singleton]; omega
  next => simp only [List.count_nil]; omega

theorem underway_flushed {es : List (Event Record)} (hp : s.provider.pocket = e :: es) (h : Posted e s s')
    (provider : s'.provider = { s.provider with pocket := es }) : s'.underway <+~ s.underway := by
  refine underway_posted h ?_
  rw [hp, provider]
  exact .refl _

theorem underway_relayed {k : Nat} {hands : Hands (Event Record)} (htake : s.provider.hands.post? k = some (e, hands))
    (h : Posted e s s') (provider : s'.provider = { s.provider with hands }) : s'.underway <+~ s.underway := by
  refine underway_posted h ?_
  rw [provider]
  exact ((Hands.flatten_post htake).append_left _).trans List.perm_middle

theorem underway_heard {k : Nat} {es : List (Event Record)} (hfill : s.provider.hands.fill? k es = some s'.provider.hands)
    (hp : s'.provider.pocket = s.provider.pocket) (hq : s'.queue = s.queue) : s'.underway ~ es ++ s.underway := by
  refine List.perm_iff_count.mpr fun x => ?_
  have hcount := (Hands.flatten_fill hfill).count_eq x
  simp only [State.underway, State.waiting, hp, hq, List.count_append] at hcount ⊢
  omega

def brought (answer : Option (Record × Endpoint)) : List (Event Record) :=
  answer.toList.map fun (x, e) => .resolved x (.found e)

theorem resolve_cases (r : Record) (w : Wire) :
    (w.resolve r).state.table = w.table ∧ (w.resolve r).state.pocket = [] ∨
      ∃ answer, w.table.request r.fullname r = ((w.resolve r).state.table, answer) ∧
        (w.resolve r).state.pocket = brought answer := by
  cases hf : w.client.forwarder with
  | none => exact .inl (by simp [Wire.resolve, Client.resolve, Wire.table, hf])
  | some f =>
    refine .inr ⟨(f.table.request r.fullname r).2, ?_⟩
    simp only [Wire.resolve, Client.resolve, Forwarder.request, Wire.table, hf, brought]
    exact ⟨trivial, trivial⟩

theorem Handled.goes (hp : s.provider.pocket = []) (h : Handled s s' rest item) :
    s'.loop = .stopped ∧ s'.queue = [] ∧ s'.provider = s.provider.stop ∨
      s'.queue = rest ∧ s'.provider.hands.flatten = s.provider.hands.flatten ∧
        (s'.provider.table = s.provider.table ∧ s'.provider.pocket = [] ∨
          ∃ r answer, item = .event (.browse (.new r)) ∧
            s.provider.table.request r.fullname r = (s'.provider.table, answer) ∧
            s'.provider.pocket = brought answer) := by
  cases h with
  | left _ loop queue provider => exact .inl ⟨loop, queue, provider⟩
  | passed _ loop queue provider =>
    rw [provider]
    exact .inr ⟨queue, rfl, .inl ⟨rfl, hp⟩⟩
  | subscribed _ c asks loop queue forwarder provider =>
    rw [provider]
    refine .inr ⟨queue, by simp, .inl ⟨?_, hp⟩⟩
    rw [Wire.table, Wire.table, forwarder]
  | requested r loop queue provider =>
    have hhands : (s.provider.resolve r).state.hands = s.provider.hands := rfl
    rw [provider]
    refine .inr ⟨queue, by rw [hhands], (resolve_cases r s.provider).imp_right ?_⟩
    rintro ⟨answer, hreq, hpocket⟩
    exact ⟨r, answer, rfl, hreq, hpocket⟩

theorem underway_handled (hq : s.queue = item :: rest) (hp : s.provider.pocket = []) (h : Handled s s' rest item) :
    (s'.provider.table = s.provider.table ∨ s'.provider.table = {}) ∧
        item.event?.toList ++ s'.underway <+~ s.underway ∨
      ∃ r answer, item = .event (.browse (.new r)) ∧
        s.provider.table.request r.fullname r = (s'.provider.table, answer) ∧
        item.event?.toList ++ s'.underway ~ brought answer ++ s.underway := by
  have htake : item.event?.toList ++ (s.provider.hands.flatten ++ rest.filterMap Item.event?) ~ s.underway := by
    rw [State.underway, hp, waiting_cons hq]
    exact List.perm_append_comm_assoc _ _ _
  rcases h.goes hp with ⟨-, hqueue, hprovider⟩ | ⟨hqueue, hhands, ⟨htable, hpocket⟩ | ⟨r, answer, hitem, hreq, hpocket⟩⟩
  · refine .inl ⟨.inr (by rw [hprovider]; rfl), ?_⟩
    have hless : s'.underway.Sublist (s.provider.hands.flatten ++ rest.filterMap Item.event?) := by
      rw [State.underway, State.waiting, hqueue, hprovider]
      simp [Wire.stop]
    exact (hless.append_left _).subperm.trans htake.subperm
  · refine .inl ⟨.inl htable, ?_⟩
    rw [State.underway, State.waiting, hqueue, hhands, hpocket]
    exact htake.subperm
  · refine .inr ⟨r, answer, hitem, hreq, ?_⟩
    rw [State.underway, State.waiting, hqueue, hhands, hpocket]
    exact (List.perm_append_comm_assoc _ _ _).trans (htake.append_left _)

end Underway

section Faithful

variable {cfg : Config} {s s' : State Wire} {m : Move}

/-- The table and all events belong to the type that the session browses. -/
structure Faithful (cfg : Config) (s : State Wire) : Prop where
  interface : ∀ f, s.provider.client.forwarder = some f → f.interface = cfg.interface
  matched : Matched id cfg.typeDomain cfg.interface s.provider.table
  genuine : ∀ ev ∈ s.underway, Genuine id cfg.typeDomain cfg.interface ev

theorem faithful_launched (cfg : Config) : Faithful cfg (launched cfg) := by
  constructor
  case interface =>
    intro f hf
    cases hf
    rfl
  case matched => exact Mdns.matched_empty id cfg.typeDomain cfg.interface
  case genuine =>
    intro ev hev
    have hinit : (launched cfg).underway = [.client .connecting, .client .running] := rfl
    rw [hinit] at hev
    rcases List.mem_pair.mp hev with rfl | rfl <;> trivial

theorem advance_interface (h : Advanced s s' m) {f' : Forwarder Record}
    (hf : s'.provider.client.forwarder = some f') :
    ∃ f, s.provider.client.forwarder = some f ∧ f.interface = f'.interface := by
  cases h with
  | handled _ item rest queue alive pocket before after handled =>
    cases handled with
    | left _ loop queue provider =>
      rw [provider] at hf
      cases hf
    | passed _ loop queue provider => exact ⟨f', provider ▸ hf, rfl⟩
    | subscribed _ c asks loop queue forwarder provider =>
      rw [provider] at hf
      exact ⟨f', forwarder ▸ hf, rfl⟩
    | requested r loop queue provider =>
      rw [provider] at hf
      cases hc : s.provider.client.forwarder with
      | none => simp [Wire.resolve, Client.resolve, hc] at hf
      | some f =>
        refine ⟨f, rfl, ?_⟩
        simp only [Wire.resolve, Client.resolve, Forwarder.request, hc, Option.some.injEq] at hf
        rw [← hf]
  | started _ ok t before after loop queue provider => exact ⟨f', provider ▸ hf, rfl⟩
  | aside _ a other starting loop queue provider => exact ⟨f', provider ▸ hf, rfl⟩
  | flushed e es pocket posted provider =>
    rw [provider] at hf
    exact ⟨f', hf, rfl⟩
  | relayed k e hands take posted provider =>
    rw [provider] at hf
    exact ⟨f', hf, rfl⟩
  | heard k a f t es forwarder client heard fill pocket queue loop starting =>
    rw [client] at hf
    cases hf
    exact ⟨f, forwarder, rfl⟩

theorem Faithful.request (hty : EndsInOneDot cfg.typeDomain) (hf : Faithful cfg s) {r : Record}
    {t : Resolve.Table Record} {answer : Option (Record × Endpoint)} (hnew : .browse (.new r) ∈ s.underway)
    (hreq : s.provider.table.request r.fullname r = (t, answer)) :
    Matched id cfg.typeDomain cfg.interface t ∧ ∀ x e, answer = some (x, e) → x = r ∧ Mdns.Answers e r := by
  obtain ⟨k, hk⟩ : ∃ k, Record.ofFullname? k cfg.typeDomain cfg.interface = some r := hf.genuine _ hnew
  obtain ⟨hm, hanswer⟩ := Mdns.request_matched hty hf.matched hk
  rw [id, hreq] at hm hanswer
  exact ⟨hm, hanswer⟩

theorem Faithful.heard (hf : Faithful cfg s) {a : Announcement} {f : Forwarder Record} {t : Resolve.Table Record}
    {es : List (Event Record)} (forwarder : s.provider.client.forwarder = some f)
    (heard : Heard f.interface f.table a t es) : Heard cfg.interface s.provider.table a t es := by
  rw [← hf.interface f forwarder, Wire.table, forwarder]
  exact heard

theorem advance_faithful (hty : EndsInOneDot cfg.typeDomain)
    (ha : ∀ k a, m = .access k a → a.Carries cfg.typeDomain) (hf : Faithful cfg s) (h : Advanced s s' m) :
    Faithful cfg s' := by
  have hi : ∀ f', s'.provider.client.forwarder = some f' → f'.interface = cfg.interface := by
    intro f' hf'
    obtain ⟨f, hsome, heq⟩ := advance_interface h hf'
    rw [← heq]
    exact hf.interface f hsome
  -- Most moves leave the table alone and add no event.
  have hmono : s'.provider.table = s.provider.table → s'.underway ⊆ s.underway → Faithful cfg s' :=
    fun htable hsub => ⟨hi, htable ▸ hf.matched, fun ev hev => hf.genuine ev (hsub hev)⟩
  cases h with
  | handled _ item rest queue alive pocket before after handled =>
    rcases underway_handled queue pocket handled with ⟨htable, hsub⟩ | ⟨r, answer, rfl, hreq, hmove⟩
    · have hless : s'.underway ⊆ s.underway := fun ev hev => hsub.subset (List.mem_append_right _ hev)
      rcases htable with htable | htable
      · exact hmono htable hless
      · refine ⟨hi, ?_, fun ev hev => hf.genuine ev (hless hev)⟩
        rw [htable]
        exact Mdns.matched_empty id cfg.typeDomain cfg.interface
    · obtain ⟨hm, hanswer⟩ := hf.request hty (underway_head queue) hreq
      refine ⟨hi, hm, fun ev hev => ?_⟩
      rcases List.mem_append.mp (hmove.subset (List.mem_append_right _ hev)) with hev | hev
      · obtain ⟨⟨x, e⟩, hxe, rfl⟩ := List.mem_map.mp hev
        obtain ⟨rfl, hans⟩ := hanswer x e (Option.mem_toList.mp hxe)
        exact hans
      · exact hf.genuine ev hev
  | started _ ok t before after loop queue provider =>
    exact hmono (by rw [provider]) (List.Perm.of_eq (underway_congr (by rw [State.waiting, queue]; rfl) provider)).subset
  | aside _ a other starting loop queue provider =>
    exact hmono (by rw [provider]) (List.Perm.of_eq (underway_congr (waiting_aside queue) provider)).subset
  | flushed e es pocket posted provider =>
    exact hmono (by rw [provider]; rfl) (underway_flushed pocket posted provider).subset
  | relayed k e hands take posted provider =>
    exact hmono (by rw [provider]; rfl) (underway_relayed take posted provider).subset
  | heard k a f t es forwarder client heard fill pocket queue loop starting =>
    have htable : s'.provider.table = t := by rw [Wire.table, client]
    obtain ⟨hm, hgen⟩ := (hf.heard forwarder heard).matched (ha k a rfl) hf.matched
    refine ⟨hi, htable ▸ hm, fun ev hev => ?_⟩
    exact (List.mem_append.mp ((underway_heard fill pocket queue).subset hev)).elim (hgen ev) (hf.genuine ev)

end Faithful

end StreamScout.Session
