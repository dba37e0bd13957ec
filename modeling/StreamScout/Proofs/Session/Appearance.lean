import Mathlib.Data.List.DropRight
import StreamScout.Proofs.Session.Wire

namespace StreamScout.Session

open StreamScout.Service
open StreamScout.Mdns (Forwarder Genuine Search resolver? studioFound studioRemoved studioResolved)
open StreamScout.Probe (Target)
open scoped List

variable {cfg : Config} {s s' : State Wire} {m : Move} {ms : List Move} {x : String × String}

def isFor (x : String × String) (r : Record) : Bool :=
  (r.name, r.domain) == x

namespace Mark

def appears (x : String × String) : Mark → Bool
  | .appeared r => isFor x r
  | _ => false

def vanishes (x : String × String) : Mark → Bool
  | .vanished r => isFor x r
  | _ => false

def probes (x : String × String) : Mark → Bool
  | .probed t => (t.name, t.domain) == x
  | _ => false

end Mark

def finds (x : String × String) : Event Record → Bool
  | .resolved _ (.found e) => (e.name, e.domain) == x
  | _ => false

def sinceRemoval (x : String × String) (marks : List Mark) : List Mark :=
  marks.rtakeWhile fun m => !m.vanishes x

namespace State

def parked (s : State Wire) : List Record :=
  s.provider.table.pending.values

/-- The probes of an instance that can come from what has happened so far. -/
def outstanding (x : String × String) (s : State Wire) : Nat :=
  s.parked.countP (isFor x) + s.underway.countP (finds x) +
    s.starting.toList.countP fun t => (t.name, t.domain) == x

end State

section Step

theorem answers_finds {r : Record} {e : Endpoint} (h : Mdns.Answers e r) (y : Record) (x : String × String) :
    finds x (.resolved y (.found e)) = isFor x r := by
  rw [finds, isFor, h.1, h.2]

theorem countP_finds_le {ty i : String} {es : List (Event Record)} (h : ∀ ev ∈ es, Genuine id ty i ev)
    (x : String × String) : es.countP (finds x) ≤ (es.filterMap resolver?).countP (isFor x) := by
  induction es with
  | nil => exact Nat.le_refl 0
  | cons ev es ih =>
    have hes := ih fun ev' hev => h ev' (List.mem_cons_of_mem _ hev)
    match ev with
    | .resolved r (.found e) =>
      have hans : Mdns.Answers e r := h _ List.mem_cons_self
      have hcons : (Event.resolved r (.found e) :: es).filterMap resolver? = r :: es.filterMap resolver? := rfl
      rw [hcons, List.countP_cons, List.countP_cons, answers_finds hans]
      omega
    | .resolved r (.failure m) =>
      have hcons : (Event.resolved r (.failure m) :: es).filterMap resolver? = r :: es.filterMap resolver? := rfl
      rw [hcons, List.countP_cons_of_neg (by exact nofun), List.countP_cons]
      omega
    | .client c => rwa [List.filterMap_cons_none rfl, List.countP_cons_of_neg (by exact nofun)]
    | .browse b => rwa [List.filterMap_cons_none rfl, List.countP_cons_of_neg (by exact nofun)]

theorem countP_admits_le {item : Item} {rest : List Item} (h : s.queue = item :: rest) (x : String × String) :
    (s.admits?.toList.countP fun t => (t.name, t.domain) == x) ≤ item.event?.toList.countP (finds x) := by
  cases ht : s.admits? with
  | none => exact Nat.zero_le _
  | some t =>
    obtain ⟨-, r, e, rest', hq, -, hname, hdomain, -⟩ := admits?_eq_some_iff.mp ht
    rw [h] at hq
    cases hq
    simp [Item.event?, finds, hname, hdomain]

theorem parked_congr (h : s'.provider.table = s.provider.table) : s'.parked = s.parked := by
  rw [State.parked, h, State.parked]

theorem marks_handle {search : Search} {item : Item} {rest : List Item} (h : s.queue = item :: rest) :
    marks (.session .handle search) s = item.mark?.toList := by
  rw [marks, h]
  rfl

theorem countP_probes_mark (item : Item) (x : String × String) : item.mark?.toList.countP (·.probes x) = 0 := by
  match item with
  | .event (.browse (.new _)) | .event (.browse (.remove _)) | .event (.browse .allForNow)
  | .event (.browse .cacheExhausted) | .event (.browse (.failure _)) | .event (.client _) | .event (.resolved _ _)
  | .stop => rfl

theorem marks_aside {a : Action} {search : Search} (h : a ≠ .handle ∧ ∀ ok, a ≠ .start ok) :
    marks (.session a search) s = [] := by
  cases a with
  | handle => exact absurd rfl h.1
  | start ok => exact absurd rfl (h.2 ok)
  | _ => rfl

theorem countP_request_le {r : Record} {t t' : Resolve.Table Record} {answer : Option (Record × Endpoint)}
    (hd : t.pending.Distinct) (hreq : t.request r.fullname r = (t', answer))
    (hans : ∀ y e, answer = some (y, e) → y = r ∧ Mdns.Answers e r) (x : String × String) :
    t'.pending.values.countP (isFor x) + (brought answer).countP (finds x) ≤
      t.pending.values.countP (isFor x) + if isFor x r then 1 else 0 := by
  unfold Resolve.Table.request at hreq
  split at hreq
  next e he =>
    cases hreq
    have hfinds := answers_finds (hans r e rfl).2 r x
    simp [brought, List.countP_cons, hfinds]
  next =>
    cases hreq
    have hput := (Keyed.values_put (v := r) (k := r.fullname) hd).countP_eq (isFor x)
    have hdrop := (Keyed.values_drop (k := r.fullname) hd).countP_eq (isFor x)
    rw [List.countP_cons] at hput
    rw [List.countP_append] at hdrop
    simp only [brought, Option.toList_none, List.map_nil, List.countP_nil]
    omega

-- The event that the loop takes pays for the probe that it admits.
theorem outstanding_handled {item : Item} {rest : List Item} (hty : EndsInOneDot cfg.typeDomain) (hf : Faithful cfg s)
    (queue : s.queue = item :: rest) (pocket : s.provider.pocket = []) (before : s.starting = none)
    (after : s'.starting = s.admits?) (handled : Handled s s' rest item) (x : String × String) :
    s'.outstanding x ≤ s.outstanding x + item.mark?.toList.countP (·.appears x) := by
  have hadmits := countP_admits_le queue x
  simp only [State.outstanding, before, after, Option.toList_none, List.countP_nil]
  rcases underway_handled queue pocket handled with ⟨htable, hsub⟩ | ⟨r, answer, rfl, hreq, hmove⟩
  · have hparked : s'.parked.countP (isFor x) ≤ s.parked.countP (isFor x) := by
      rcases htable with htable | htable
      · rw [parked_congr htable]
      · rw [State.parked, htable]
        exact Nat.zero_le _
    have hunder := hsub.countP_le (finds x)
    rw [List.countP_append] at hunder
    omega
  · obtain ⟨-, hanswer⟩ := hf.request hty (underway_head queue) hreq
    have hparked := countP_request_le hf.matched.distinct hreq hanswer x
    have hunder := hmove.countP_eq (finds x)
    have hone : (Item.event (.browse (.new r))).mark?.toList.countP (·.appears x) = if isFor x r then 1 else 0 := by
      rw [Item.mark?, Option.toList_some, List.countP_singleton]
      rfl
    rw [List.countP_append, List.countP_append] at hunder
    rw [hone, State.parked, State.parked]
    omega

theorem advance_outstanding (hty : EndsInOneDot cfg.typeDomain)
    (ha : ∀ k a, m = .access k a → a.Carries cfg.typeDomain) (hf : Faithful cfg s) (h : Advanced s s' m)
    (x : String × String) :
    s'.outstanding x + (marks m s).countP (·.probes x) ≤ s.outstanding x + (marks m s).countP (·.appears x) := by
  cases h with
  | handled _ item rest queue alive pocket before after handled =>
    rw [marks_handle queue, countP_probes_mark]
    exact outstanding_handled hty hf queue pocket before after handled x
  | started _ ok t before after loop queue provider =>
    have hunder : s'.underway = s.underway := underway_congr (by rw [State.waiting, queue]; rfl) provider
    have hparked : s'.parked = s.parked := parked_congr (by rw [provider])
    simp only [State.outstanding, hunder, hparked, before, after, Option.toList_none, List.countP_nil]
    cases ok with
    | true => simp [marks, before, Mark.probes]
    | false => simp [marks]
  | aside _ a other starting loop queue provider =>
    have hunder := underway_congr (waiting_aside queue) provider
    have hparked : s'.parked = s.parked := parked_congr (by rw [provider])
    rw [marks_aside other, State.outstanding, State.outstanding, hunder, hparked, starting]
    exact Nat.le_refl _
  | flushed e es pocket posted provider =>
    have hunder := (underway_flushed pocket posted provider).countP_le (finds x)
    have hparked : s'.parked = s.parked := parked_congr (by rw [provider]; rfl)
    rw [State.outstanding, State.outstanding, hparked, posted.starting]
    simp only [marks, List.countP_nil]
    omega
  | relayed k e hands take posted provider =>
    have hunder := (underway_relayed take posted provider).countP_le (finds x)
    have hparked : s'.parked = s.parked := parked_congr (by rw [provider]; rfl)
    rw [State.outstanding, State.outstanding, hparked, posted.starting]
    simp only [marks, List.countP_nil]
    omega
  | heard k a f t es forwarder client heard fill pocket queue loop starting =>
    -- A resolver that leaves the table comes back in one event.
    have hheard := hf.heard forwarder heard
    have hunder := (underway_heard fill pocket queue).countP_eq (finds x)
    have hparked := (hheard.resolvers hf.matched.distinct).countP_eq (isFor x)
    have hfinds := countP_finds_le (hheard.matched (ha k a rfl) hf.matched).2 x
    have hnext : s'.parked = t.pending.values := by rw [State.parked, Wire.table, client]
    rw [List.countP_append] at hunder hparked
    simp only [State.outstanding, hnext, starting, marks, List.countP_nil]
    rw [State.parked]
    omega

end Step

theorem follow_cons {m : Move} {all : List Mark} (h : follow? cfg (m :: ms) s = some (s', all)) :
    ∃ s₁ later, advance? cfg m s = some s₁ ∧ follow? cfg ms s₁ = some (s', later) ∧ all = marks m s ++ later := by
  obtain ⟨s₁, h₁, h⟩ := Option.bind_eq_some_iff.mp h
  obtain ⟨⟨s₂, later⟩, h₂, heq⟩ := Option.map_eq_some_iff.mp h
  cases heq
  exact ⟨s₁, later, h₁, h₂, rfl⟩

theorem follow_outstanding {all : List Mark} (hty : EndsInOneDot cfg.typeDomain)
    (ha : ∀ k a, .access k a ∈ ms → a.Carries cfg.typeDomain) (hf : Faithful cfg s)
    (h : follow? cfg ms s = some (s', all)) (x : String × String) :
    Faithful cfg s' ∧ s'.outstanding x + all.countP (·.probes x) ≤ s.outstanding x + all.countP (·.appears x) := by
  induction ms generalizing s all with
  | nil =>
    cases h
    exact ⟨hf, Nat.le_refl _⟩
  | cons m ms ih =>
    obtain ⟨s₁, later, h₁, h₂, rfl⟩ := follow_cons h
    have hadv := advance_cases h₁
    have hcarries : ∀ k a, m = .access k a → a.Carries cfg.typeDomain :=
      fun k a heq => ha k a (heq ▸ List.mem_cons_self)
    have hstep := advance_outstanding hty hcarries hf hadv x
    obtain ⟨hf', hrest⟩ := ih (fun k a hk => ha k a (List.mem_cons_of_mem _ hk))
      (advance_faithful hty hcarries hf hadv) h₂
    refine ⟨hf', ?_⟩
    rw [List.countP_append, List.countP_append]
    omega

theorem probes_le_appearances {before after : List Move} {s₁ s₂ : State Wire} {past since : List Mark}
    (hty : EndsInOneDot cfg.typeDomain) (ha : ∀ k a, .access k a ∈ before ++ after → a.Carries cfg.typeDomain)
    (hb : follow? cfg before (launched cfg) = some (s₁, past)) (hs : follow? cfg after s₁ = some (s₂, since))
    (x : String × String) :
    past.countP (·.probes x) + s₁.outstanding x ≤ past.countP (·.appears x) ∧
      since.countP (·.probes x) ≤ since.countP (·.appears x) + s₁.outstanding x := by
  obtain ⟨hf, hpast⟩ := follow_outstanding hty (fun k a hk => ha k a (List.mem_append_left _ hk))
    (faithful_launched cfg) hb x
  obtain ⟨-, hsince⟩ := follow_outstanding hty (fun k a hk => ha k a (List.mem_append_right _ hk)) hf hs x
  have hzero : (launched cfg).outstanding x = 0 := rfl
  omega

def studioConfig : Config :=
  { interface := "eth0" }

/-- The instance is gone again before the loop asks for it, so the request is parked. The next appearance is resolved
before the loop handles the removal. -/
def lateRequest : List Move :=
  [.turn, .turn, .access 0 studioFound, .post 0, .access 0 studioRemoved, .post 0,
    .turn, .access 0 studioFound, .post 0, .access 0 studioResolved, .post 0, .turn]

def answeredTwice : List Move :=
  [.turn, .flush, .turn, .probe, .turn, .probe]

theorem studio_carries (k : Nat) (a : Mdns.Announcement) (h : .access k a ∈ lateRequest ++ answeredTwice) :
    a.Carries studioConfig.typeDomain := by
  simp only [lateRequest, answeredTwice, Move.turn, Move.probe, List.cons_append, List.nil_append, List.mem_cons,
    reduceCtorEq, false_or, or_false, Move.access.injEq, List.not_mem_nil] at h
  rcases h with ⟨-, rfl⟩ | ⟨-, rfl⟩ | ⟨-, rfl⟩ | ⟨-, rfl⟩ <;> rfl

theorem probes_le_appearances_parked :
    ∃ s₁ s₂ past since, follow? studioConfig lateRequest (launched studioConfig) = some (s₁, past) ∧
      follow? studioConfig answeredTwice s₁ = some (s₂, since) ∧
      since.countP (·.probes ("studio", "local")) = 2 ∧ since.countP (·.appears ("studio", "local")) = 1 ∧
      s₁.outstanding ("studio", "local") = 1 ∧
      since.countP (·.probes ("studio", "local")) ≤
        since.countP (·.appears ("studio", "local")) + s₁.outstanding ("studio", "local") := by
  have hty : EndsInOneDot studioConfig.typeDomain := ⟨"_rtsp._tcp.local".toList, by decide, by decide⟩
  exact ⟨_, _, _, _, rfl, rfl, rfl, rfl, rfl, (probes_le_appearances hty studio_carries rfl rfl _).2⟩

theorem two_probes_one_appearance :
    ¬ ∀ ms s all, (∀ k a, .access k a ∈ ms → a.Carries studioConfig.typeDomain) →
      follow? studioConfig ms (launched studioConfig) = some (s, all) →
      ∀ x, (sinceRemoval x all).countP (·.probes x) ≤ (sinceRemoval x all).countP (·.appears x) := by
  intro h
  have hle := h (lateRequest ++ answeredTwice) _ _ studio_carries rfl ("studio", "local")
  revert hle
  decide

end StreamScout.Session
