import StreamScout.Proofs.Session.Appearance

namespace StreamScout.Session

open StreamScout.Service
open StreamScout.Mdns (Announcement Client Forwarder Hands Heard Matched resolver?)
open StreamScout.Probe (Target)
open scoped List

variable {cfg : Config} {s s' : State Wire} {m : Move} {ms past : List Move} {all : List Mark}
  {x : String × String} {b : Bool} {e ev : Event Record} {es fs : List (Event Record)}

section Reading

def gone (x : String × String) (all : List Mark) : Bool :=
  all.foldl (fun b m => (b || m.vanishes x) && !m.appears x) false

def announces (x : String × String) : Event Record → Bool
  | .browse (.new r) => isFor x r
  | _ => false

def removes (x : String × String) : Event Record → Bool
  | .browse (.remove r) => isFor x r
  | _ => false

def settle (x : String × String) (b : Bool) (ev : Event Record) : Bool :=
  (b || removes x ev) && !announces x ev

/-- Read in order, no endpoint of the instance comes while it is gone. -/
def Safe (x : String × String) : Bool → List (Event Record) → Prop
  | _, [] => True
  | b, ev :: es => (finds x ev = true → b = false) ∧ Safe x (settle x b ev) es

theorem isFor_iff {r : Record} : isFor x r = true ↔ (r.name, r.domain) = x := by
  simp [isFor]

theorem safe_append : Safe x b (es ++ fs) ↔ Safe x b es ∧ Safe x (es.foldl (settle x) b) fs := by
  induction es generalizing b with
  | nil => simp [Safe]
  | cons ev es ih => simp [Safe, ih, and_assoc]

theorem safe_of_quiet (h : ∀ ev ∈ es, finds x ev = false) : Safe x b es := by
  induction es generalizing b with
  | nil => trivial
  | cons ev es ih =>
    refine ⟨fun hf => ?_, ih fun ev' hev => h ev' (List.mem_cons_of_mem _ hev)⟩
    rw [h ev List.mem_cons_self] at hf
    cases hf

theorem settle_resolver (h : (resolver? ev).isSome = true) (b : Bool) : settle x b ev = b := by
  match ev with
  | .resolved _ _ => simp [settle, removes, announces]
  | .client _ => cases h
  | .browse _ => cases h

theorem removes_resolver (h : (resolver? ev).isSome = true) : removes x ev = false := by
  match ev with
  | .resolved _ _ => rfl
  | .client _ => rfl
  | .browse _ => cases h

theorem foldl_settle_resolvers (h : ∀ ev ∈ es, (resolver? ev).isSome = true) : es.foldl (settle x) b = b := by
  induction es generalizing b with
  | nil => rfl
  | cons ev es ih =>
    rw [List.foldl_cons, settle_resolver (h ev List.mem_cons_self)]
    exact ih fun ev' hev => h ev' (List.mem_cons_of_mem _ hev)

theorem settle_kept (h : removes x ev = false) : settle x false ev = false := by
  simp [settle, h]

theorem foldl_settle_kept (h : ∀ ev ∈ es, removes x ev = false) : es.foldl (settle x) false = false := by
  induction es with
  | nil => rfl
  | cons ev es ih =>
    rw [List.foldl_cons, settle_kept (h ev List.mem_cons_self)]
    exact ih fun ev' hev => h ev' (List.mem_cons_of_mem _ hev)

theorem safe_of_resolvers (h : ∀ ev ∈ es, (resolver? ev).isSome = true ∧ (finds x ev = true → b = false)) :
    Safe x b es := by
  induction es with
  | nil => trivial
  | cons ev es ih =>
    obtain ⟨hres, hfinds⟩ := h ev List.mem_cons_self
    refine ⟨hfinds, ?_⟩
    rw [settle_resolver hres]
    exact ih fun ev' hev => h ev' (List.mem_cons_of_mem _ hev)

theorem gone_handled (x : String × String) (all : List Mark) (item : Item) :
    gone x (all ++ item.mark?.toList) = item.event?.toList.foldl (settle x) (gone x all) := by
  unfold gone
  rw [List.foldl_append]
  generalize List.foldl _ false all = b
  match item with
  | .event (.browse (.new r)) => simp [Item.mark?, Item.event?, settle, removes, announces, Mark.vanishes, Mark.appears]
  | .event (.browse (.remove r)) =>
    simp [Item.mark?, Item.event?, settle, removes, announces, Mark.vanishes, Mark.appears]
  | .event (.browse .allForNow) => simp [Item.mark?, Item.event?, settle, removes, announces]
  | .event (.browse .cacheExhausted) => simp [Item.mark?, Item.event?, settle, removes, announces]
  | .event (.browse (.failure _)) => simp [Item.mark?, Item.event?, settle, removes, announces]
  | .event (.client _) => simp [Item.mark?, Item.event?, settle, removes, announces]
  | .event (.resolved _ _) => simp [Item.mark?, Item.event?, settle, removes, announces]
  | .stop => rfl

theorem gone_probed (x : String × String) (all : List Mark) (ts : List Target) :
    gone x (all ++ ts.map .probed) = gone x all := by
  unfold gone
  rw [List.foldl_append]
  generalize List.foldl _ false all = b
  induction ts with
  | nil => rfl
  | cons t ts ih => simpa [Mark.vanishes, Mark.appears] using ih

end Reading

section Found

def Move.reports (f : String) (b : Bool) : Move → Bool
  | .access _ (.found _ g) => b || g == f
  | .access _ (.removed _ g) => b && g != f
  | _ => b

def stands (f : String) (ms : List Move) : Bool :=
  ms.foldl (Move.reports f) false

theorem stands_snoc (f : String) (ms : List Move) (m : Move) : stands f (ms ++ [m]) = m.reports f (stands f ms) := by
  rw [stands, List.foldl_append]
  rfl

end Found

section Alone

/-- There is one forwarder at most, and clients' states come from connecting alone. -/
structure Alone (s : State Wire) : Prop where
  one : s.queue.countP Item.subscribes + s.provider.hands.length ≤ 1
  quiet : ∀ ev, ev ∈ s.provider.pocket ∨ ev ∈ s.provider.hands.flatten → ∀ c, ev ≠ .client c

theorem alone_launched (cfg : Config) : Alone (launched cfg) :=
  ⟨Nat.le_refl 1, fun _ hev => hev.elim nofun nofun⟩

theorem countP_posted (h : Posted e s s') (he : ∀ c, e ≠ .client c) :
    s'.queue.countP Item.subscribes = s.queue.countP Item.subscribes := by
  have hno : (Item.event e).subscribes = false := by
    match e with
    | .client c => exact absurd rfl (he c)
    | .browse _ => rfl
    | .resolved _ _ => rfl
  rw [h.queue, List.countP_append]
  split
  next => rw [List.countP_singleton, hno]; rfl
  next => rfl

theorem not_client_brought {answer : Option (Record × Endpoint)} : ∀ ev ∈ brought answer, ∀ c, ev ≠ .client c := by
  intro ev hev c hc
  obtain ⟨a, -, heq⟩ := List.mem_map.mp hev
  rw [hc] at heq
  cases heq

theorem Handled.forwarders {item : Item} {rest : List Item} (h : Handled s s' rest item) :
    s'.queue.countP Item.subscribes + s'.provider.hands.length ≤
      (item :: rest).countP Item.subscribes + s.provider.hands.length := by
  rw [List.countP_cons]
  cases h with
  | left _ loop queue provider =>
    rw [queue, provider]
    exact Nat.add_le_add_right (Nat.zero_le _) _
  | passed _ loop queue provider =>
    rw [queue, provider]
    omega
  | subscribed _ c asks loop queue forwarder provider =>
    rw [queue, provider, if_pos asks, List.length_append, List.length_singleton]
    omega
  | requested r loop queue provider =>
    have hhands : s'.provider.hands = s.provider.hands := by rw [provider]; rfl
    rw [queue, hhands]
    omega

theorem advance_alone (ha : Alone s) (h : Advanced s s' m) : Alone s' := by
  have hone := ha.one
  cases h with
  | handled _ item rest queue alive pocket before after handled =>
    have hforwarders := handled.forwarders
    rw [← queue] at hforwarders
    refine ⟨by omega, fun ev hev => ?_⟩
    rcases handled.goes pocket with ⟨-, -, hp⟩ | ⟨-, hhands, ⟨-, hpocket⟩ | ⟨r, answer, -, -, hpocket⟩⟩
    · rw [hp] at hev
      exact hev.elim (fun h => absurd h List.not_mem_nil) fun h => ha.quiet ev (.inr h)
    · rw [hhands, hpocket] at hev
      exact hev.elim (fun h => absurd h List.not_mem_nil) fun h => ha.quiet ev (.inr h)
    · rw [hhands, hpocket] at hev
      exact hev.elim (not_client_brought ev) fun h => ha.quiet ev (.inr h)
  | started _ ok t before after loop queue provider =>
    exact ⟨by rw [queue, provider]; exact hone, by rw [provider]; exact ha.quiet⟩
  | aside _ a other starting loop queue provider =>
    refine ⟨?_, by rw [provider]; exact ha.quiet⟩
    rcases queue with queue | queue
    · rwa [queue, provider]
    · rwa [queue, provider, List.countP_append]
  | flushed e es pocket posted provider =>
    have hcount := countP_posted posted (ha.quiet e (.inl (by rw [pocket]; exact List.mem_cons_self)))
    refine ⟨by rw [hcount, provider]; exact hone, fun ev hev => ha.quiet ev ?_⟩
    rw [provider] at hev
    rw [pocket]
    exact hev.imp_left (List.mem_cons_of_mem _)
  | relayed k e hands take posted provider =>
    obtain ⟨hflat, hlen⟩ := Hands.post_alone take (by omega)
    have hcount := countP_posted posted (ha.quiet e (.inr (by rw [hflat]; exact List.mem_cons_self)))
    refine ⟨?_, fun ev hev => ha.quiet ev ?_⟩
    · rw [hcount, provider]
      change _ + hands.length ≤ 1
      omega
    · rw [provider] at hev
      rw [hflat]
      exact hev.imp_right (List.mem_cons_of_mem _)
  | heard k a f t es forwarder client heard fill pocket queue loop starting =>
    obtain ⟨-, hflat, hlen⟩ := Hands.fill_alone fill (by omega)
    refine ⟨by rw [queue]; omega, fun ev hev => ?_⟩
    rw [pocket, hflat] at hev
    exact hev.elim (fun h => ha.quiet ev (.inl h)) (heard.not_client ev)

end Alone

section Order

def State.ahead (s : State Wire) : List (Event Record) :=
  s.waiting ++ s.provider.hands.flatten

/-- When the loop has taken what waits for it, the instance is not gone, and no forwarder is about to remove it. -/
structure Present (x : String × String) (b : Bool) (s : State Wire) : Prop where
  here : s.waiting.foldl (settle x) b = false
  kept : ∀ ev ∈ s.provider.hands.flatten, removes x ev = false

/-- The order of what is on its way to the loop, which has left the instance gone or not. -/
structure InOrder (cfg : Config) (x : String × String) (past : List Move) (b : Bool) (s : State Wire) : Prop where
  safe : Safe x b s.ahead
  pocket : ∀ ev ∈ s.provider.pocket, (resolver? ev).isSome = true ∧ (finds x ev = true → Present x b s)
  known : ∀ k e, (k, e) ∈ s.provider.table.resolved → (e.name, e.domain) = x → Present x b s
  found : ∀ k r, Record.ofFullname? k cfg.typeDomain cfg.interface = some r → isFor x r = true →
    stands k past = true → s.ahead.foldl (settle x) b = false

theorem inOrder_launched (cfg : Config) (x : String × String) : InOrder cfg x [] false (launched cfg) :=
  ⟨⟨nofun, nofun, trivial⟩, nofun, nofun, nofun⟩

theorem request_brings {t t' : Resolve.Table Record} {r : Record} {answer : Option (Record × Endpoint)}
    (h : t.request r.fullname r = (t', answer)) :
    t'.resolved = t.resolved ∧
      ∀ ev ∈ brought answer, ∃ k e, (k, e) ∈ t.resolved ∧ ev = .resolved r (.found e) := by
  unfold Resolve.Table.request at h
  split at h
  next e he =>
    cases h
    exact ⟨rfl, fun ev hev => ⟨r.fullname, e, Keyed.mem_of_get? he, List.mem_singleton.mp hev⟩⟩
  next =>
    cases h
    exact ⟨rfl, List.forall_mem_nil _⟩

/-- A step keeps the order if it reads on in what lies ahead and the loop brings back only what was known. -/
theorem InOrder.carry {b' : Bool} (ho : InOrder cfg x past b s) (hsafe : Safe x b' s'.ahead)
    (hlast : s'.ahead.foldl (settle x) b' = s.ahead.foldl (settle x) b) (hpresent : Present x b s → Present x b' s')
    (hpocket : ∀ ev ∈ s'.provider.pocket, ev ∈ s.provider.pocket ∨
      ∃ r k e, (k, e) ∈ s.provider.table.resolved ∧ ev = .resolved r (.found e))
    (hknown : s'.provider.table.resolved = s.provider.table.resolved) : InOrder cfg x past b' s' := by
  refine ⟨hsafe, fun ev hev => ?_, fun k e hk hx => hpresent (ho.known k e (hknown ▸ hk) hx), ?_⟩
  · rcases hpocket ev hev with hold | ⟨r, k, e, hk, rfl⟩
    · exact (ho.pocket ev hold).imp_right fun h hf => hpresent (h hf)
    · exact ⟨rfl, fun hf => hpresent (ho.known k e hk (beq_iff_eq.mp hf))⟩
  · rw [hlast]
    exact ho.found

theorem InOrder.handled {item : Item} {rest : List Item} (ho : InOrder cfg x past b s) (hq : s.queue = item :: rest)
    (hp : s.provider.pocket = []) (alive : s'.loop = .alive) (h : Handled s s' rest item) :
    InOrder cfg x past (item.event?.toList.foldl (settle x) b) s' := by
  rcases h.goes hp with ⟨stopped, -⟩ | ⟨hqueue, hhands, hrest⟩
  · rw [stopped] at alive
    cases alive
  have hw : s.waiting = item.event?.toList ++ s'.waiting := by rw [waiting_cons hq, ← hqueue, State.waiting]
  have hahead : s.ahead = item.event?.toList ++ s'.ahead := by
    rw [State.ahead, hw, ← hhands, List.append_assoc, State.ahead]
  have hsafe := ho.safe
  rw [hahead, safe_append] at hsafe
  refine ho.carry hsafe.2 (by rw [hahead, List.foldl_append]) (fun hpresent => ⟨?_, hhands ▸ hpresent.kept⟩) ?_ ?_
  · rw [← List.foldl_append, ← hw]
    exact hpresent.here
  · intro ev hev
    rcases hrest with ⟨-, hpocket⟩ | ⟨r, answer, -, hreq, hpocket⟩
    · rw [hpocket] at hev
      cases hev
    · rw [hpocket] at hev
      exact .inr ⟨r, (request_brings hreq).2 ev hev⟩
  · rcases hrest with ⟨htable, -⟩ | ⟨r, answer, -, hreq, -⟩
    · rw [htable]
    · exact (request_brings hreq).1

theorem InOrder.same (ho : InOrder cfg x past b s) (hw : s'.waiting = s.waiting) (hp : s'.provider = s.provider) :
    InOrder cfg x past b s' := by
  have hahead : s'.ahead = s.ahead := by rw [State.ahead, hw, hp, State.ahead]
  refine ho.carry (hahead ▸ ho.safe) (by rw [hahead]) (fun h => ⟨hw ▸ h.here, hp ▸ h.kept⟩) ?_ (by rw [hp])
  rw [hp]
  exact fun _ hev => .inl hev

theorem InOrder.flushed (ho : InOrder cfg x past b s) (alive : s.loop = .alive) (hp : s.provider.pocket = e :: es)
    (h : Posted e s s') (provider : s'.provider = { s.provider with pocket := es }) : InOrder cfg x past b s' := by
  obtain ⟨hres, hfinds⟩ := ho.pocket e (hp ▸ List.mem_cons_self)
  have hw : s'.waiting = s.waiting ++ [e] := by rw [waiting_posted h, if_pos alive]
  have hhands : s'.provider.hands = s.provider.hands := by rw [provider]
  have hlast : s'.waiting.foldl (settle x) b = s.waiting.foldl (settle x) b := by
    rw [hw, List.foldl_append, List.foldl_cons, settle_resolver hres]
    rfl
  obtain ⟨hsafe, hsafe'⟩ := safe_append.mp ho.safe
  refine ho.carry (safe_append.mpr ⟨?_, ?_⟩) ?_ (fun h => ⟨hlast ▸ h.here, hhands ▸ h.kept⟩) (fun ev hev => .inl ?_)
    (by rw [provider]; rfl)
  · rw [hw]
    exact safe_append.mpr ⟨hsafe, fun hf => (hfinds hf).here, trivial⟩
  · rw [hlast, hhands]
    exact hsafe'
  · rw [State.ahead, List.foldl_append, hlast, hhands, ← List.foldl_append, State.ahead]
  · rw [provider] at hev
    rw [hp]
    exact List.mem_cons_of_mem _ hev

theorem InOrder.relayed {k : Nat} {hands : Hands (Event Record)} (ho : InOrder cfg x past b s) (alive : s.loop = .alive)
    (ha : Alone s) (take : s.provider.hands.post? k = some (e, hands)) (h : Posted e s s')
    (provider : s'.provider = { s.provider with hands }) : InOrder cfg x past b s' := by
  have hone := ha.one
  obtain ⟨hflat, -⟩ := Hands.post_alone take (by omega)
  have hhands : s'.provider.hands = hands := by rw [provider]
  have hw : s'.waiting = s.waiting ++ [e] := by rw [waiting_posted h, if_pos alive]
  have hahead : s'.ahead = s.ahead := by
    rw [State.ahead, hw, hhands, State.ahead, hflat, List.append_assoc]
    rfl
  refine ho.carry (hahead ▸ ho.safe) (by rw [hahead]) (fun hp => ?_) ?_ (by rw [provider]; rfl)
  · have hkept := hp.kept
    rw [hflat] at hkept
    constructor
    · rw [hw, List.foldl_append, hp.here]
      exact settle_kept (hkept e List.mem_cons_self)
    · rw [hhands]
      exact fun ev hev => hkept ev (List.mem_cons_of_mem _ hev)
  · rw [provider]
    exact fun _ hev => .inl hev

structure Fits (cfg : Config) (x : String × String) (past : List Move) (last : Bool) (pocket es : List (Event Record))
    (t : Resolve.Table Record) : Prop where
  safe : Safe x last es
  pocket : ∀ ev ∈ pocket, finds x ev = true → ∀ ev ∈ es, removes x ev = false
  known : ∀ k e, (k, e) ∈ t.resolved → (e.name, e.domain) = x → last = false ∧ ∀ ev ∈ es, removes x ev = false
  found : ∀ k r, Record.ofFullname? k cfg.typeDomain cfg.interface = some r → isFor x r = true →
    stands k past = true → es.foldl (settle x) last = false

theorem Fits.of_resolvers {last : Bool} {pocket : List (Event Record)} {t : Resolve.Table Record}
    (hres : ∀ ev ∈ es, (resolver? ev).isSome = true ∧ (finds x ev = true → last = false))
    (hknown : ∀ k e, (k, e) ∈ t.resolved → (e.name, e.domain) = x → last = false)
    (hfound : ∀ k r, Record.ofFullname? k cfg.typeDomain cfg.interface = some r → isFor x r = true →
      stands k past = true → last = false) : Fits cfg x past last pocket es t := by
  have hkept : ∀ ev ∈ es, removes x ev = false := fun ev hev => removes_resolver (hres ev hev).1
  refine ⟨safe_of_resolvers hres, fun _ _ _ => hkept, fun k e hk hx => ⟨hknown k e hk hx, hkept⟩,
    fun k r hr hx hk => ?_⟩
  rw [foldl_settle_resolvers fun ev hev => (hres ev hev).1]
  exact hfound k r hr hx hk

theorem InOrder.heard {k : Nat} {past' : List Move} (ho : InOrder cfg x past b s) (ha : Alone s)
    (fill : s.provider.hands.fill? k es = some s'.provider.hands) (hp : s'.provider.pocket = s.provider.pocket)
    (hq : s'.queue = s.queue)
    (hfits : Fits cfg x past' (s.waiting.foldl (settle x) b) s.provider.pocket es s'.provider.table) :
    InOrder cfg x past' b s' := by
  have hone := ha.one
  obtain ⟨hempty, hflat, -⟩ := Hands.fill_alone fill (by omega)
  have hw : s'.waiting = s.waiting := by rw [State.waiting, hq, State.waiting]
  have hahead : s'.ahead = s.ahead ++ es := by rw [State.ahead, hw, hflat, State.ahead, hempty, List.append_nil]
  have hthis : s.ahead = s.waiting := by rw [State.ahead, hempty, List.append_nil]
  constructor
  case safe =>
    rw [hahead, safe_append, hthis]
    exact ⟨hthis ▸ ho.safe, hfits.safe⟩
  case pocket =>
    rw [hp]
    refine fun ev hev => (ho.pocket ev hev).imp_right fun hfinds hf => ⟨hw ▸ (hfinds hf).here, ?_⟩
    rw [hflat]
    exact hfits.pocket ev hev hf
  case known =>
    intro k e hk hx
    obtain ⟨hlast, hkept⟩ := hfits.known k e hk hx
    refine ⟨hw ▸ hlast, ?_⟩
    rw [hflat]
    exact hkept
  case found =>
    intro k r hr hx hk
    rw [hahead, List.foldl_append, hthis]
    exact hfits.found k r hr hx hk

theorem fullname_unique {f g : String} {r r' : Record} (hf : Record.ofFullname? f cfg.typeDomain cfg.interface = some r)
    (hg : Record.ofFullname? g cfg.typeDomain cfg.interface = some r') (hr : isFor x r = true)
    (hr' : isFor x r' = true) : f = g := by
  have hkey : (r.name, r.domain) = (r'.name, r'.domain) := (isFor_iff.mp hr).trans (isFor_iff.mp hr').symm
  exact Record.fullname_eq_of_name hf hg (congrArg Prod.fst hkey)

theorem isFor_of_answers {r : Record} {e : Endpoint} (h : Mdns.Answers e r) (hx : (e.name, e.domain) = x) :
    isFor x r = true := by
  rw [isFor_iff, ← h.1, ← h.2]
  exact hx

theorem mem_withdrawn {g ty i : String} {parked : Option Record}
    (h : ev ∈ Mdns.release (.failure Mdns.removedFirst) parked ++
      ((Record.ofFullname? g ty i).map fun r => .browse (.remove r)).toList) :
    finds x ev = false ∧ (removes x ev = true → ∃ r, Record.ofFullname? g ty i = some r ∧ isFor x r = true) := by
  rcases List.mem_append.mp h with h | h
  · obtain ⟨r, -, rfl⟩ := Mdns.mem_release h
    exact ⟨rfl, fun h => absurd h Bool.false_ne_true⟩
  · obtain ⟨r, hr, rfl⟩ := Option.map_eq_some_iff.mp (Option.mem_toList.mp h)
    exact ⟨rfl, fun h => ⟨r, hr, h⟩⟩

section Fitting

variable {last : Bool} {pocket : List (Event Record)} {t : Resolve.Table Record}
  (hknown : ∀ k e, (k, e) ∈ t.resolved → (e.name, e.domain) = x → last = false)
  (hfound : ∀ k r, Record.ofFullname? k cfg.typeDomain cfg.interface = some r → isFor x r = true →
    stands k past = true → last = false)

include hknown hfound

theorem fits_found {g : String} {r : Record} (read : Record.ofFullname? g cfg.typeDomain cfg.interface = some r)
    (k : Nat) : Fits cfg x (past ++ [.access k (.found cfg.typeDomain g)]) last pocket [.browse (.new r)] t := by
  have hkept : ∀ ev ∈ [Event.browse (.new r)], removes x ev = false := by
    intro ev hev
    rw [List.mem_singleton.mp hev]
    rfl
  refine ⟨⟨fun h => absurd h Bool.false_ne_true, trivial⟩, fun _ _ _ => hkept,
    fun k e hk hx => ⟨hknown k e hk hx, hkept⟩, fun g' r' hr hx hk => ?_⟩
  rw [stands_snoc, Move.reports, Bool.or_eq_true, beq_iff_eq] at hk
  rcases hk with hk | rfl
  · rw [hfound g' r' hr hx hk]
    rfl
  · obtain rfl : r = r' := Option.some.inj (read.symm.trans hr)
    simp [settle, announces, hx]

-- Only what was found and not removed since is resolved, so the instance is there.
theorem fits_known {info : Mdns.Instance} {r : Record} {e : Endpoint}
    (read : Record.ofFullname? info.fullname cfg.typeDomain cfg.interface = some r)
    (reached : info.endpoint? r = some e) (hstands : stands info.fullname past = true) (k : Nat) :
    Fits cfg x (past ++ [.access k (.resolved info)]) last pocket
      (Mdns.release (.found e) (t.pending.get? info.fullname))
      ⟨t.pending.drop info.fullname, t.resolved.put info.fullname e⟩ := by
  have hans := Mdns.answers_endpoint? reached
  have hlast : (e.name, e.domain) = x → last = false :=
    fun hx => hfound info.fullname r read (isFor_of_answers hans hx) hstands
  refine .of_resolvers (fun ev hev => ?_) (fun k e' hk hx => ?_) fun g r' hr hx hk => ?_
  · obtain ⟨h, -, rfl⟩ := Mdns.mem_release hev
    exact ⟨rfl, fun hf => hlast (beq_iff_eq.mp hf)⟩
  · rcases Keyed.mem_put hk with heq | hk
    · cases heq
      exact hlast hx
    · exact hknown k e' hk hx
  · rw [stands_snoc] at hk
    exact hfound g r' hr hx hk

theorem fits_removed {g : String} (hm : Matched id cfg.typeDomain cfg.interface t)
    (hheld : ∀ r, Record.ofFullname? g cfg.typeDomain cfg.interface = some r →
      ∀ ev ∈ pocket, finds (r.name, r.domain) ev = false) (k : Nat) :
    Fits cfg x (past ++ [.access k (.removed cfg.typeDomain g)]) last pocket
      (Mdns.release (.failure Mdns.removedFirst) (t.pending.get? g) ++
        ((Record.ofFullname? g cfg.typeDomain cfg.interface).map fun r => .browse (.remove r)).toList)
      ⟨t.pending.drop g, t.resolved.drop g⟩ := by
  have hevents := fun ev => @mem_withdrawn x ev g cfg.typeDomain cfg.interface (t.pending.get? g)
  -- Under another full name stands another instance, which this withdrawal leaves alone.
  have hother : ∀ k r, Record.ofFullname? k cfg.typeDomain cfg.interface = some r → isFor x r = true → k ≠ g →
      ∀ ev ∈ Mdns.release (.failure Mdns.removedFirst) (t.pending.get? g) ++
        ((Record.ofFullname? g cfg.typeDomain cfg.interface).map fun r => .browse (.remove r)).toList,
        removes x ev = false := by
    intro k r hr hx hk ev hev
    refine Bool.eq_false_iff.mpr fun hrem => hk ?_
    obtain ⟨r', hr', hx'⟩ := (hevents ev hev).2 hrem
    exact fullname_unique hr hr' hx hx'
  constructor
  case safe => exact safe_of_quiet fun ev hev => (hevents ev hev).1
  case pocket =>
    -- The loop would hold the endpoint of the instance that is withdrawn.
    refine fun ev hev hf ev' hev' => Bool.eq_false_iff.mpr fun hrem => ?_
    obtain ⟨r, hr, hx⟩ := (hevents ev' hev').2 hrem
    have hnot := hheld r hr ev hev
    rw [isFor_iff.mp hx, hf] at hnot
    cases hnot
  case known =>
    intro k e hk hx
    obtain ⟨hk, hne⟩ := Keyed.mem_drop.mp hk
    obtain ⟨r, hr, hans⟩ := hm.known k e hk
    exact ⟨hknown k e hk hx, hother k r hr (isFor_of_answers hans hx) hne⟩
  case found =>
    intro k r hr hx hk
    rw [stands_snoc, Move.reports, Bool.and_eq_true, bne_iff_ne] at hk
    rw [hfound k r hr hx hk.1]
    exact foldl_settle_kept (hother k r hr hx (Ne.symm hk.2))

end Fitting

theorem heard_fits {a : Announcement} {t : Resolve.Table Record} (ho : InOrder cfg x past b s)
    (hempty : s.provider.hands.flatten = []) (hm : Matched id cfg.typeDomain cfg.interface s.provider.table)
    (heard : Heard cfg.interface s.provider.table a t es)
    (hcarries : a.Carries cfg.typeDomain) (hstands : ∀ info, a = .resolved info → stands info.fullname past = true)
    (hheld : ∀ ty g r, a = .removed ty g → Record.ofFullname? g ty cfg.interface = some r →
      ∀ ev ∈ s.provider.pocket, finds (r.name, r.domain) ev = false) (k : Nat) :
    Fits cfg x (past ++ [.access k a]) (s.waiting.foldl (settle x) b) s.provider.pocket es t := by
  have hknown : ∀ k e, (k, e) ∈ s.provider.table.resolved → (e.name, e.domain) = x →
      s.waiting.foldl (settle x) b = false :=
    fun k e hk hx => (ho.known k e hk hx).here
  have hfound : ∀ k r, Record.ofFullname? k cfg.typeDomain cfg.interface = some r → isFor x r = true →
      stands k past = true → s.waiting.foldl (settle x) b = false := by
    have hlast := ho.found
    rwa [State.ahead, hempty, List.append_nil] at hlast
  cases heard with
  | ignored _ unread kept =>
    refine .of_resolvers (List.forall_mem_nil _) hknown fun g r hr hx hk => hfound g r hr hx ?_
    rw [stands_snoc] at hk
    cases a with
    | found ty g' =>
      -- A full name that no record is read off is not the name of this instance.
      obtain rfl : ty = cfg.typeDomain := hcarries
      have hne : g' ≠ g := by
        rintro rfl
        rw [unread cfg.typeDomain g' rfl] at hr
        cases hr
      simpa [Move.reports, hne] using hk
    | removed ty g' => exact absurd rfl (kept ty g')
    | _ => exact hk
  | found ty g r read =>
    obtain rfl : ty = cfg.typeDomain := hcarries
    exact fits_found hknown hfound read k
  | known info r e read reached =>
    have hty : info.typeDomain = cfg.typeDomain := hcarries
    rw [hty] at read
    exact fits_known hknown hfound read reached (hstands info rfl) k
  | nowhere info =>
    refine .of_resolvers (fun ev hev => ?_) hknown fun g r' hr hx hk => ?_
    · obtain ⟨h, -, rfl⟩ := Mdns.mem_release hev
      exact ⟨rfl, fun hf => absurd hf Bool.false_ne_true⟩
    · rw [stands_snoc] at hk
      exact hfound g r' hr hx hk
  | removed ty g =>
    obtain rfl : ty = cfg.typeDomain := hcarries
    exact fits_removed hknown hfound hm (fun r => hheld cfg.typeDomain g r rfl) k

end Order

end StreamScout.Session
