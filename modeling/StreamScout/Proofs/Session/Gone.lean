import StreamScout.Proofs.Session.Order

namespace StreamScout.Session

open StreamScout.Service
open StreamScout.Mdns (Announcement Hands studioFound studioRemoved studioResolved)
open StreamScout.Probe (Target)

variable {cfg : Config} {s s' : State Wire} {m : Move} {ms past : List Move} {all : List Mark}
  {x : String × String} {b : Bool}

/-- The daemon reports the browsed type and resolves what it has found and not removed since, and no instance is
withdrawn while the loop holds its endpoint. -/
def fair (cfg : Config) (past : List Move) (s : State Wire) : Move → Bool
  | .access _ (.found ty _) => ty == cfg.typeDomain
  | .access _ (.resolved info) => info.typeDomain == cfg.typeDomain && stands info.fullname past
  | .access _ (.removed ty f) =>
      ty == cfg.typeDomain && (Record.ofFullname? f ty cfg.interface).all fun r =>
        s.provider.pocket.all fun ev => !finds (r.name, r.domain) ev
  | _ => true

def fairRun (cfg : Config) (past : List Move) : List Move → State Wire → Bool
  | [], _ => true
  | m :: ms, s => fair cfg past s m && (advance? cfg m s).all (fairRun cfg (past ++ [m]) ms)

theorem carries_of_fair {k : Nat} {a : Announcement} (h : fair cfg past s (.access k a) = true) :
    a.Carries cfg.typeDomain := by
  cases a with
  | found ty f => exact beq_iff_eq.mp h
  | resolved info => exact beq_iff_eq.mp (Bool.and_eq_true_iff.mp h).1
  | removed ty f => exact beq_iff_eq.mp (Bool.and_eq_true_iff.mp h).1
  | searchStarted => trivial
  | searchStopped => trivial

theorem stands_of_fair {k : Nat} {info : Mdns.Instance} (h : fair cfg past s (.access k (.resolved info)) = true) :
    stands info.fullname past = true :=
  (Bool.and_eq_true_iff.mp h).2

theorem not_held_of_fair {k : Nat} {ty f : String} {r : Record} (h : fair cfg past s (.access k (.removed ty f)) = true)
    (hr : Record.ofFullname? f ty cfg.interface = some r) :
    ∀ ev ∈ s.provider.pocket, finds (r.name, r.domain) ev = false := by
  have hall := (Bool.and_eq_true_iff.mp h).2
  rw [hr, Option.all_some, List.all_eq_true] at hall
  exact fun ev hev => by simpa using hall ev hev

structure Watched (cfg : Config) (x : String × String) (past : List Move) (all : List Mark) (s : State Wire) :
    Prop where
  alone : Alone s
  faithful : Faithful cfg s
  starting : ∀ t, s.starting = some t → (t.name, t.domain) = x → gone x all = false
  order : s.loop = .alive → InOrder cfg x past (gone x all) s

theorem watched_launched (cfg : Config) (x : String × String) : Watched cfg x [] [] (launched cfg) :=
  ⟨alone_launched cfg, faithful_launched cfg, nofun, fun _ => inOrder_launched cfg x⟩

theorem InOrder.snoc (ho : InOrder cfg x past b s) (hm : ∀ f b, m.reports f b = b) :
    InOrder cfg x (past ++ [m]) b s := by
  refine ⟨ho.safe, ho.pocket, ho.known, fun k r hr hx hk => ho.found k r hr hx ?_⟩
  rwa [stands_snoc, hm] at hk

theorem InOrder.admits {item : Item} {rest : List Item} {t : Target} (ho : InOrder cfg x past b s)
    (hq : s.queue = item :: rest) (ht : s.admits? = some t) (hx : (t.name, t.domain) = x) :
    item.event?.toList.foldl (settle x) b = false := by
  obtain ⟨-, r, e, rest', hq', -, hname, hdomain, -⟩ := admits?_eq_some_iff.mp ht
  rw [hq] at hq'
  cases hq'
  have hsafe := ho.safe
  rw [State.ahead, waiting_cons hq] at hsafe
  have hb : b = false := hsafe.1 (by simp [finds, hname, hdomain, hx])
  rw [hb]
  rfl

theorem advance_watched (hty : EndsInOneDot cfg.typeDomain) (hfair : fair cfg past s m = true)
    (hw : Watched cfg x past all s) (h : Advanced s s' m) : Watched cfg x (past ++ [m]) (all ++ marks m s) s' := by
  have halone := advance_alone hw.alone h
  have hfaithful := advance_faithful hty (fun k a hm => carries_of_fair (hm ▸ hfair)) hw.faithful h
  cases h with
  | handled _ item rest queue alive pocket before after handled =>
    rw [marks_handle queue]
    refine ⟨halone, hfaithful, fun t ht hx => ?_, fun hl => ?_⟩
    · rw [gone_handled]
      exact (hw.order alive).admits queue (after ▸ ht) hx
    · rw [gone_handled]
      exact ((hw.order alive).handled queue pocket hl handled).snoc fun _ _ => rfl
  | started search ok t before after loop queue provider =>
    have hgone : gone x (all ++ marks (.session (.start ok) search) s) = gone x all := by
      cases ok with
      | true => exact gone_probed x all _
      | false => exact congrArg (gone x) (List.append_nil all)
    refine ⟨halone, hfaithful, fun t' ht => ?_, fun hl => ?_⟩
    · rw [after] at ht
      cases ht
    · have hwait : s'.waiting = s.waiting := by rw [State.waiting, queue, State.waiting]
      rw [hgone]
      exact ((hw.order (loop ▸ hl)).same hwait provider).snoc fun _ _ => rfl
  | aside _ a other starting loop queue provider =>
    rw [marks_aside other, List.append_nil]
    refine ⟨halone, hfaithful, starting ▸ hw.starting, fun hl => ?_⟩
    exact ((hw.order (loop hl)).same (waiting_aside queue) provider).snoc fun _ _ => rfl
  | flushed e es pocket posted provider =>
    have hnone : marks .flush s = [] := rfl
    rw [hnone, List.append_nil]
    refine ⟨halone, hfaithful, posted.starting ▸ hw.starting, fun hl => ?_⟩
    have alive := posted.loop ▸ hl
    exact ((hw.order alive).flushed alive pocket posted provider).snoc fun _ _ => rfl
  | relayed k e hands take posted provider =>
    have hnone : marks (.post k) s = [] := rfl
    rw [hnone, List.append_nil]
    refine ⟨halone, hfaithful, posted.starting ▸ hw.starting, fun hl => ?_⟩
    have alive := posted.loop ▸ hl
    exact ((hw.order alive).relayed alive hw.alone take posted provider).snoc fun _ _ => rfl
  | heard k a f t es forwarder client heard fill pocket queue loop starting =>
    have hone := hw.alone.one
    have htable : s'.provider.table = t := by rw [Wire.table, client]
    have hnone : marks (.access k a) s = [] := rfl
    rw [hnone, List.append_nil]
    refine ⟨halone, hfaithful, starting ▸ hw.starting, fun hl => ?_⟩
    have ho := hw.order (loop ▸ hl)
    refine ho.heard hw.alone fill pocket queue ?_
    rw [htable]
    refine heard_fits ho (Hands.fill_alone fill (by omega)).1 hw.faithful.matched (hw.faithful.heard forwarder heard)
      (carries_of_fair hfair) (fun info ha => stands_of_fair (ha ▸ hfair)) (fun ty g r ha => ?_) k
    exact not_held_of_fair (ha ▸ hfair)

theorem marks_cases (m : Move) (s : State Wire) :
    marks m s = [] ∨ ∃ mk, marks m s = [mk] ∧ ∀ t, mk = .probed t → s.starting = some t := by
  unfold marks
  split
  next =>
    cases hi : s.queue.head?.bind Item.mark? with
    | none => exact .inl rfl
    | some mk =>
      refine .inr ⟨mk, rfl, fun t hmk => ?_⟩
      obtain ⟨item, -, hitem⟩ := Option.bind_eq_some_iff.mp hi
      subst hmk
      unfold Item.mark? at hitem
      split at hitem <;> cases hitem
  next =>
    cases hs : s.starting with
    | none => exact .inl rfl
    | some t => exact .inr ⟨.probed t, rfl, fun t' ht => by cases ht; rfl⟩
  next => exact .inl rfl

def Founded (x : String × String) (all : List Mark) : Prop :=
  ∀ front t back, all = front ++ .probed t :: back → (t.name, t.domain) = x → gone x front = false

theorem advance_founded (hw : Watched cfg x past all s) (hf : Founded x all) (m : Move) :
    Founded x (all ++ marks m s) := by
  intro front t back heq hx
  rcases marks_cases m s with hnone | ⟨mk, hone, hstart⟩
  · rw [hnone, List.append_nil] at heq
    exact hf front t back heq hx
  · rw [hone] at heq
    rcases snoc_eq_append_cons heq with ⟨-, rfl, hmk⟩ | ⟨mid, -, hall⟩
    · exact hw.starting t (hstart t hmk) hx
    · exact hf front t mid hall hx

theorem follow_watched {later : List Mark} (hty : EndsInOneDot cfg.typeDomain)
    (hfair : fairRun cfg past ms s = true) (hw : Watched cfg x past all s) (hf : Founded x all)
    (h : follow? cfg ms s = some (s', later)) :
    Watched cfg x (past ++ ms) (all ++ later) s' ∧ Founded x (all ++ later) := by
  induction ms generalizing past all s later with
  | nil =>
    cases h
    rw [List.append_nil, List.append_nil]
    exact ⟨hw, hf⟩
  | cons m ms ih =>
    obtain ⟨s₁, rest, h₁, h₂, rfl⟩ := follow_cons h
    obtain ⟨hm, hrest⟩ := Bool.and_eq_true_iff.mp hfair
    rw [h₁, Option.all_some] at hrest
    have hnext := ih hrest (advance_watched hty hm hw (advance_cases h₁)) (advance_founded hw hf m) h₂
    rwa [List.append_assoc, List.append_assoc] at hnext

theorem gone_of_vanished {pre mid : List Mark} {r : Record} (hr : isFor x r = true)
    (hmid : ∀ r', .appeared r' ∈ mid → isFor x r' = false) : gone x (pre ++ .vanished r :: mid) = true := by
  have hkeeps : ∀ b, ((b || Mark.vanishes x (.vanished r)) && !Mark.appears x (.vanished r)) = true := by
    intro b
    simp [Mark.vanishes, Mark.appears, hr]
  unfold gone
  rw [List.foldl_append, List.foldl_cons, hkeeps]
  induction mid with
  | nil => rfl
  | cons mk mid ih =>
    have hno : mk.appears x = false := by
      cases mk with
      | appeared r' => exact hmid r' List.mem_cons_self
      | vanished r' => rfl
      | probed t => rfl
    rw [List.foldl_cons, hno, Bool.true_or, Bool.not_false, Bool.and_true]
    exact ih fun r' hr' => hmid r' (List.mem_cons_of_mem _ hr')

theorem no_probe_while_gone (hty : EndsInOneDot cfg.typeDomain) (hfair : fairRun cfg [] ms (launched cfg) = true)
    (h : follow? cfg ms (launched cfg) = some (s, all)) (pre mid post : List Mark) (r : Record) (t : Target)
    (hall : all = pre ++ .vanished r :: mid ++ .probed t :: post) (hr : isFor (t.name, t.domain) r = true) :
    ∃ r', .appeared r' ∈ mid ∧ isFor (t.name, t.domain) r' = true := by
  have hfresh : Founded (t.name, t.domain) [] := fun front t back heq => by simp at heq
  obtain ⟨-, hfounded⟩ := follow_watched hty hfair (watched_launched cfg (t.name, t.domain)) hfresh h
  have hnot := hfounded _ t post hall rfl
  by_contra hnone
  have hmid : ∀ r', .appeared r' ∈ mid → isFor (t.name, t.domain) r' = false :=
    fun r' hr' => Bool.eq_false_iff.mpr fun hfor => hnone ⟨r', hr', hfor⟩
  rw [gone_of_vanished hr hmid] at hnot
  cases hnot

def studioRecord : Record := ⟨"studio", "_rtsp._tcp", "local", "eth0", .inet⟩

def studioTarget : Target := ⟨"studio", "local", ⟨10, 0, 0, 5⟩, 8554⟩

def twoLives : List Move :=
  let appears : List Move := [.access 0 studioFound, .post 0, .turn, .access 0 studioResolved, .post 0,
    .turn, .probe]
  [.turn, .turn] ++ appears ++ [.access 0 studioRemoved, .post 0, .turn] ++ appears

theorem no_probe_while_gone_twice :
    ∃ s, EndsInOneDot studioConfig.typeDomain ∧ fairRun studioConfig [] twoLives (launched studioConfig) = true ∧
      follow? studioConfig twoLives (launched studioConfig) = some (s, [.appeared studioRecord, .probed studioTarget,
        .vanished studioRecord, .appeared studioRecord, .probed studioTarget]) ∧
      ∃ r', .appeared r' ∈ [Mark.appeared studioRecord] ∧ isFor ("studio", "local") r' = true := by
  have hty : EndsInOneDot studioConfig.typeDomain := ⟨"_rtsp._tcp.local".toList, by decide, by decide⟩
  have hfair : fairRun studioConfig [] twoLives (launched studioConfig) = true := rfl
  exact ⟨_, hty, hfair, rfl, no_probe_while_gone hty hfair rfl [.appeared studioRecord, .probed studioTarget]
    [.appeared studioRecord] [] studioRecord studioTarget rfl rfl⟩

/-- The loop holds the known endpoint while the instance is withdrawn, and posts it behind the removal. -/
def heldTooLong : List Move :=
  [.turn, .turn, .access 0 studioFound, .post 0, .access 0 studioResolved, .turn,
    .access 0 studioRemoved, .post 0, .flush, .turn, .turn, .probe]

theorem probe_while_gone :
    ¬ ∀ ms s all, (∀ k a, .access k a ∈ ms → a.Carries studioConfig.typeDomain) →
      follow? studioConfig ms (launched studioConfig) = some (s, all) →
      ∀ pre r mid t post, all = pre ++ .vanished r :: mid ++ .probed t :: post →
        isFor (t.name, t.domain) r = true → ∃ r', .appeared r' ∈ mid ∧ isFor (t.name, t.domain) r' = true := by
  intro h
  have hcarries : ∀ k a, .access k a ∈ heldTooLong → a.Carries studioConfig.typeDomain := by
    intro k a hk
    simp only [heldTooLong, Move.turn, Move.probe, List.mem_cons, reduceCtorEq, false_or, or_false, Move.access.injEq,
      List.not_mem_nil] at hk
    rcases hk with ⟨-, rfl⟩ | ⟨-, rfl⟩ | ⟨-, rfl⟩ <;> rfl
  obtain ⟨r', hmem, -⟩ := h heldTooLong _ _ hcarries rfl [.appeared studioRecord] studioRecord [] studioTarget [] rfl
    (by decide)
  cases hmem

end StreamScout.Session
