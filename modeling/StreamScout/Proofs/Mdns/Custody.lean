import Mathlib.Data.List.Nodup
import StreamScout.Mdns.Client
import StreamScout.Proofs.Mdns.Forwarding
import StreamScout.Proofs.Resolve.Table

namespace StreamScout.Mdns

open StreamScout.Service
open StreamScout.Resolve (Table)
open scoped List

variable {η : Type}

structure Relay (η : Type) where
  forwarder : Forwarder η
  pocket : List (Event η) := []
  hands : Hands (Event η) := []
  posted : List (Event η) := []
  requested : List η := []
  superseded : List (η × η) := []
  dropped : List η := []
  deriving DecidableEq

namespace Relay

def request? [DecidableEq η] (recordOf : η → Record) (h : η) (r : Relay η) : Option (Relay η) :=
  if r.pocket = [] ∧ h ∉ r.requested ∧ .browse (.new (recordOf h)) ∈ r.posted then
    if r.forwarder.stopping then
      some { r with requested := r.requested ++ [h], dropped := r.dropped ++ [h] }
    else
      match r.forwarder.request (recordOf h).fullname h with
      | (f, some (h', e)) =>
          some { r with
            forwarder := f
            pocket := [.resolved h' (.found e)]
            requested := r.requested ++ [h] }
      | (f, none) =>
          let before := r.forwarder.table.pending.get? (recordOf h).fullname
          some { r with
            forwarder := f
            requested := r.requested ++ [h]
            superseded := r.superseded ++ before.toList.map (·, h) }
  else none

def access? (k : Nat) (a : Announcement) (r : Relay η) : Option (Relay η) :=
  let heard := announce r.forwarder.interface a r.forwarder.table
  (r.hands.fill? k heard.2).map fun hands => { r with forwarder := { r.forwarder with table := heard.1 }, hands }

def post? (k : Nat) (r : Relay η) : Option (Relay η) :=
  (r.hands.post? k).map fun (e, hands) => { r with hands, posted := r.posted ++ [e] }

def stop? [DecidableEq η] (r : Relay η) : Option (Relay η) :=
  if r.pocket = [] then
    some { r with
      forwarder := r.forwarder.stop
      dropped := r.dropped ++ r.forwarder.table.pending.values }
  else none

inductive Action (η : Type) where
  | spawn
  | request (h : η)
  | flush
  | access (k : Nat) (a : Announcement)
  | post (k : Nat)
  | stop
  deriving DecidableEq

variable [DecidableEq η]

def step? (recordOf : η → Record) (a : Action η) (r : Relay η) : Option (Relay η) :=
  match a with
  | .spawn => some { r with hands := r.hands ++ [[]] }
  | .request h => r.request? recordOf h
  | .flush => some { r with pocket := [], posted := r.posted ++ r.pocket }
  | .access k a => r.access? k a
  | .post k => r.post? k
  | .stop => r.stop?

def run? (recordOf : η → Record) : List (Action η) → Relay η → Option (Relay η)
  | [], r => some r
  | a :: as, r => (step? recordOf a r).bind (run? recordOf as)

def places (r : Relay η) : List η :=
  r.forwarder.table.pending.values ++ (r.pocket ++ r.hands.flatten).filterMap resolver? ++
    r.posted.filterMap resolver? ++ r.superseded.map (·.1) ++ r.dropped

variable {recordOf : η → Record} {ty i : String} {r r' : Relay η} {a : Action η} {as : List (Action η)} {x : η}

section Request

inductive Requested (recordOf : η → Record) (x : η) (r : Relay η) : Relay η → Prop
  | late (stopping : r.forwarder.stopping = true) :
      Requested recordOf x r { r with requested := r.requested ++ [x], dropped := r.dropped ++ [x] }
  | answered (e : Endpoint) (stopping : r.forwarder.stopping = false)
      (known : r.forwarder.table.request (recordOf x).fullname x = (r.forwarder.table, some (x, e))) :
      Requested recordOf x r { r with pocket := [.resolved x (.found e)], requested := r.requested ++ [x] }
  | parked (t : Table η) (stopping : r.forwarder.stopping = false)
      (unknown : r.forwarder.table.request (recordOf x).fullname x = (t, none))
      (pending : t.pending = r.forwarder.table.pending.put (recordOf x).fullname x) :
      Requested recordOf x r { r with
        forwarder := { r.forwarder with table := t }
        requested := r.requested ++ [x]
        superseded := r.superseded ++
          (r.forwarder.table.pending.get? (recordOf x).fullname).toList.map (·, x) }

theorem request_cases (h : r.request? recordOf x = some r') :
    (r.pocket = [] ∧ x ∉ r.requested ∧ .browse (.new (recordOf x)) ∈ r.posted) ∧ Requested recordOf x r r' := by
  obtain ⟨hguard, h⟩ := Option.ite_none_right_eq_some.mp h
  refine ⟨hguard, ?_⟩
  cases hs : r.forwarder.stopping with
  | true =>
    rw [hs, if_pos rfl] at h
    cases h
    exact .late hs
  | false =>
    rw [hs, if_neg Bool.false_ne_true] at h
    cases hk : r.forwarder.table.resolved.get? (recordOf x).fullname with
    | some e =>
      have hreq : r.forwarder.table.request (recordOf x).fullname x = (r.forwarder.table, some (x, e)) :=
        Table.request_known hk
      rw [Forwarder.request, hreq] at h
      cases h
      exact .answered e hs hreq
    | none =>
      have hreq : r.forwarder.table.request (recordOf x).fullname x =
          ({ r.forwarder.table with
            pending := r.forwarder.table.pending.put (recordOf x).fullname x }, none) :=
        Table.request_unknown hk
      rw [Forwarder.request, hreq] at h
      cases h
      exact .parked _ hs hreq rfl

/-- The access and the post of a request are together what the client does when it resolves. -/
theorem request?_resolve {r r' : Relay Record} {c : Client} {x : Record} (hc : c.forwarder = some r.forwarder)
    (hs : r.forwarder.stopping = false) (h : r.request? id x = some r') :
    c.resolve x = ⟨.ok, { c with forwarder := some r'.forwarder }, r'.pocket⟩ := by
  obtain ⟨⟨hp, -, -⟩, hreq⟩ := request_cases h
  cases hreq with
  | late stopping => simp [hs] at stopping
  | answered e stopping known =>
    rw [id] at known
    simp [Client.resolve, hc, Forwarder.request, known]
  | parked t stopping unknown pending =>
    rw [id] at unknown
    simp [Client.resolve, hc, Forwarder.request, unknown, hp]

end Request

section Invariant

theorem count_places (r : Relay η) (x : η) :
    r.places.count x = r.forwarder.table.pending.values.count x + (r.pocket.filterMap resolver?).count x +
      (r.hands.flatten.filterMap resolver?).count x + (r.posted.filterMap resolver?).count x +
      (r.superseded.map (·.1)).count x + r.dropped.count x := by
  simp only [places, List.filterMap_append, List.count_append, Nat.add_assoc]

structure Kept (recordOf : η → Record) (ty i : String) (r : Relay η) : Prop where
  interface : r.forwarder.interface = i
  matched : Matched recordOf ty i r.forwarder.table
  genuine : ∀ ev, ev ∈ r.pocket ∨ ev ∈ r.hands.flatten ∨ ev ∈ r.posted → Genuine recordOf ty i ev
  origin : ∀ h ∈ r.requested, ∃ f, Record.ofFullname? f ty i = some (recordOf h)
  fresh : r.requested.Nodup
  placed : r.places ~ r.requested
  superseded : ∀ old new, (old, new) ∈ r.superseded →
    (recordOf old).fullname = (recordOf new).fullname ∧ [old, new].Sublist r.requested
  dropped : r.dropped ≠ [] → r.forwarder.stopping = true

omit [DecidableEq η] in
theorem kept_fresh (recordOf : η → Record) (ty i : String) :
    Kept recordOf ty i ({ forwarder := { interface := i } } : Relay η) :=
  ⟨rfl, matched_empty recordOf ty i, by simp, nofun, List.nodup_nil, .refl _, nofun, absurd rfl⟩

/-- A request brings its resolver into one more place and loses none. -/
theorem Requested.places (h : Requested recordOf x r r') (hpocket : r.pocket = [])
    (distinct : r.forwarder.table.pending.Distinct) : r'.places ~ r.places ++ [x] := by
  refine List.perm_iff_count.mpr fun y => ?_
  cases h with
  | late stopping =>
    simp only [count_places, List.count_append]
    omega
  | answered e stopping known =>
    have hone : ([.resolved x (.found e)] : List (Event η)).filterMap resolver? = [x] := rfl
    simp only [count_places, List.count_append, hone, hpocket, List.filterMap_nil, List.count_nil]
    omega
  | parked t stopping unknown pending =>
    -- What stood under the full name is superseded, and the new resolver takes its place.
    have hput := (Keyed.values_put (v := x) (k := (recordOf x).fullname) distinct).count_eq y
    have hdrop := (Keyed.values_drop (k := (recordOf x).fullname) distinct).count_eq y
    have hfst : ((r.forwarder.table.pending.get? (recordOf x).fullname).toList.map (·, x)).map (·.1) =
        (r.forwarder.table.pending.get? (recordOf x).fullname).toList := by simp [Function.comp_def]
    rw [← pending] at hput
    simp only [List.count_append, List.count_cons] at hput hdrop
    simp only [count_places, List.count_append, List.map_append, hfst, List.count_singleton]
    omega

theorem Kept.request (hk : Kept recordOf ty i r) (hty : EndsInOneDot ty) (h : r.request? recordOf x = some r') :
    Kept recordOf ty i r' := by
  obtain ⟨⟨hpocket, hnew, hannounced⟩, hreq⟩ := request_cases h
  obtain ⟨f, hf⟩ : ∃ f, Record.ofFullname? f ty i = some (recordOf x) := hk.genuine _ (.inr (.inr hannounced))
  have horigin : ∀ h ∈ r.requested ++ [x], ∃ f, Record.ofFullname? f ty i = some (recordOf h) := by
    intro h hh
    rcases List.mem_append.mp hh with hh | hh
    · exact hk.origin h hh
    · rw [List.mem_singleton.mp hh]
      exact ⟨f, hf⟩
  have hfresh : (r.requested ++ [x]).Nodup := by
    rw [← List.concat_eq_append]
    exact List.Nodup.concat hnew hk.fresh
  have hsuper : ∀ old new, (old, new) ∈ r.superseded →
      (recordOf old).fullname = (recordOf new).fullname ∧ [old, new].Sublist (r.requested ++ [x]) :=
    fun old new hon => (hk.superseded old new hon).imp_right (·.trans (List.sublist_append_left _ _))
  have hplaced : r'.places ~ r.requested ++ [x] :=
    (hreq.places hpocket hk.matched.distinct).trans (hk.placed.append_right [x])
  obtain ⟨hm, hanswer⟩ := request_matched hty hk.matched hf
  cases hreq with
  | late stopping =>
    exact ⟨hk.interface, hk.matched, hk.genuine, horigin, hfresh, hplaced, hsuper, fun _ => stopping⟩
  | answered e stopping known =>
    have hgenuine : Genuine recordOf ty i (.resolved x (.found e)) := (hanswer x e (by rw [known])).2
    refine ⟨hk.interface, hk.matched, fun ev hev => ?_, horigin, hfresh, hplaced, hsuper, hk.dropped⟩
    rcases hev with hev | hev
    · rw [List.mem_singleton.mp hev]
      exact hgenuine
    · exact hk.genuine ev (.inr hev)
  | parked t stopping unknown pending =>
    rw [unknown] at hm
    refine ⟨hk.interface, hm, hk.genuine, horigin, hfresh, hplaced, fun old new hon => ?_, hk.dropped⟩
    rcases List.mem_append.mp hon with hon | hon
    · exact hsuper old new hon
    · obtain ⟨h, hh, heq⟩ := List.mem_map.mp hon
      cases heq
      have hmem := Keyed.mem_of_get? (Option.mem_toList.mp hh)
      have hold : old ∈ r.requested := by
        refine hk.placed.subset ?_
        have hval : old ∈ r.forwarder.table.pending.values := List.mem_map_of_mem hmem
        simp [places, hval]
      have hname := Record.fullname_ofFullname? hty (hk.matched.parked _ old hmem)
      exact ⟨hname, (List.singleton_sublist.mpr hold).append (.refl [x])⟩

omit [DecidableEq η] in
theorem access_cases {k : Nat} {a : Announcement} (h : r.access? k a = some r') :
    ∃ t es hands, Heard r.forwarder.interface r.forwarder.table a t es ∧ r.hands.fill? k es = some hands ∧
      r' = { r with forwarder := { r.forwarder with table := t }, hands } := by
  obtain ⟨hands, hfill, rfl⟩ := Option.map_eq_some_iff.mp h
  exact ⟨_, _, hands, announce_heard _ _ _, hfill, rfl⟩

theorem Kept.access (hk : Kept recordOf ty i r) {k : Nat} {a : Announcement} (ha : a.Carries ty)
    (h : r.access? k a = some r') : Kept recordOf ty i r' := by
  obtain ⟨t, es, hands, hheard, hfill, rfl⟩ := access_cases h
  rw [hk.interface] at hheard
  obtain ⟨hm, hgenuine⟩ := hheard.matched ha hk.matched
  have hflat := Hands.flatten_fill hfill
  refine ⟨hk.interface, hm, fun ev hev => ?_, hk.origin, hk.fresh, ?_, hk.superseded, hk.dropped⟩
  · rcases hev with hev | hev | hev
    · exact hk.genuine ev (.inl hev)
    · rcases List.mem_append.mp (hflat.subset hev) with hev | hev
      · exact hgenuine ev hev
      · exact hk.genuine ev (.inr (.inl hev))
    · exact hk.genuine ev (.inr (.inr hev))
  · refine List.perm_iff_count.mpr fun y => ?_
    have hcount := hk.placed.count_eq y
    have h₁ := (hheard.resolvers hk.matched.distinct).count_eq y
    have h₂ := (hflat.filterMap resolver?).count_eq y
    simp only [count_places, List.filterMap_append, List.count_append] at hcount h₁ h₂ ⊢
    omega

theorem Kept.moved (hk : Kept recordOf ty i r) {pocket posted : List (Event η)} {hands : Hands (Event η)}
    (h : pocket ++ (hands.flatten ++ posted) ~ r.pocket ++ (r.hands.flatten ++ r.posted)) :
    Kept recordOf ty i { r with pocket, hands, posted } := by
  refine ⟨hk.interface, hk.matched, fun ev hev => hk.genuine ev ?_, hk.origin, hk.fresh, ?_, hk.superseded, hk.dropped⟩
  · have hmem : ev ∈ pocket ++ (hands.flatten ++ posted) := by simpa using hev
    simpa using h.subset hmem
  · refine List.perm_iff_count.mpr fun y => ?_
    have hcount := hk.placed.count_eq y
    have hmoved := (h.filterMap resolver?).count_eq y
    simp only [count_places, List.filterMap_append, List.count_append] at hcount hmoved ⊢
    omega

theorem Kept.post (hk : Kept recordOf ty i r) {k : Nat} (h : r.post? k = some r') : Kept recordOf ty i r' := by
  obtain ⟨⟨e, hands⟩, hpost, rfl⟩ := Option.map_eq_some_iff.mp h
  refine hk.moved (List.Perm.append_left _ ?_)
  rw [← List.append_assoc]
  exact (List.perm_append_singleton e _).trans ((Hands.flatten_post hpost).symm.append_right _)

theorem Kept.stop (hk : Kept recordOf ty i r) (h : r.stop? = some r') : Kept recordOf ty i r' := by
  obtain ⟨-, heq⟩ := Option.ite_none_right_eq_some.mp h
  obtain rfl := Option.some.inj heq
  refine ⟨hk.interface, matched_empty recordOf ty i, hk.genuine, hk.origin, hk.fresh, ?_, hk.superseded, fun _ => rfl⟩
  refine List.perm_iff_count.mpr fun y => ?_
  have hcount := hk.placed.count_eq y
  have hnil : (r.forwarder.stop.table.pending.values).count y = 0 := rfl
  simp only [count_places, List.count_append, hnil] at hcount ⊢
  omega

theorem step_kept (hty : EndsInOneDot ty) (ha : ∀ k b, a = .access k b → b.Carries ty)
    (hk : Kept recordOf ty i r) (h : step? recordOf a r = some r') : Kept recordOf ty i r' := by
  cases a with
  | spawn =>
    obtain rfl := Option.some.inj h
    exact hk.moved (by rw [List.flatten_append, List.flatten_singleton, List.append_nil])
  | request x => exact hk.request hty h
  | flush =>
    obtain rfl := Option.some.inj h
    refine hk.moved ?_
    rw [List.nil_append, ← List.append_assoc]
    exact List.perm_append_comm
  | access k b => exact hk.access (ha k b rfl) h
  | post k => exact hk.post h
  | stop => exact hk.stop h

theorem run_kept (hty : EndsInOneDot ty) (ha : ∀ k b, .access k b ∈ as → b.Carries ty)
    (hk : Kept recordOf ty i r) (h : run? recordOf as r = some r') : Kept recordOf ty i r' := by
  induction as generalizing r with
  | nil => exact Option.some.inj h ▸ hk
  | cons a as ih =>
    obtain ⟨r₁, h₁, h₂⟩ := Option.bind_eq_some_iff.mp h
    have hhead : ∀ k b, a = .access k b → b.Carries ty := fun k b heq => ha k b (heq ▸ List.mem_cons_self)
    exact ih (fun k b hb => ha k b (List.mem_cons_of_mem _ hb)) (step_kept hty hhead hk h₁) h₂

end Invariant

structure UsedOnce (recordOf : η → Record) (r : Relay η) : Prop where
  placed : r.places ~ r.requested
  distinct : r.places.Nodup
  postedOnce : (r.posted.filterMap resolver?).Nodup
  parked : ∀ k h, (k, h) ∈ r.forwarder.table.pending → k = (recordOf h).fullname
  keys : r.forwarder.table.pending.Distinct
  superseded : ∀ old new, (old, new) ∈ r.superseded →
    (recordOf old).fullname = (recordOf new).fullname ∧ [old, new].Sublist r.requested
  dropped : r.dropped ≠ [] → r.forwarder.stopping = true
  answered : ∀ h e, .resolved h (.found e) ∈ r.posted → e.name = (recordOf h).name ∧ e.domain = (recordOf h).domain
  removed : ∀ h ∈ r.requested, ∀ x, .browse (.remove x) ∈ r.posted →
    x.fullname = (recordOf h).fullname → x = recordOf h

theorem resolvers_used_once (hty : EndsInOneDot ty) (ha : ∀ k b, .access k b ∈ as → b.Carries ty)
    (h : run? recordOf as { forwarder := { interface := i } } = some r) : UsedOnce recordOf r := by
  have hk := run_kept hty ha (kept_fresh recordOf ty i) h
  have hdistinct : r.places.Nodup := hk.placed.nodup_iff.mpr hk.fresh
  constructor
  case placed => exact hk.placed
  case distinct => exact hdistinct
  case postedOnce =>
    refine hdistinct.sublist ?_
    exact ((List.sublist_append_right _ _).trans (List.sublist_append_left _ _)).trans (List.sublist_append_left _ _)
  case parked => exact fun k h hmem => (Record.fullname_ofFullname? hty (hk.matched.parked k h hmem)).symm
  case keys => exact hk.matched.distinct
  case superseded => exact hk.superseded
  case dropped => exact hk.dropped
  case answered => exact fun h e hmem => hk.genuine _ (.inr (.inr hmem))
  case removed =>
    intro h hh x hx hname
    obtain ⟨f, hf⟩ := hk.origin h hh
    obtain ⟨f', hf'⟩ : ∃ f', Record.ofFullname? f' ty i = some x := hk.genuine _ (.inr (.inr hx))
    rw [Record.fullname_ofFullname? hty hf, Record.fullname_ofFullname? hty hf'] at hname
    rw [hname, hf] at hf'
    exact (Option.some.inj hf').symm

def studio : Record := ⟨"studio", "_rtsp._tcp", "local", "eth0", .inet⟩

def fiveRequests : List (Action (Nat × Record)) :=
  [.spawn, .spawn, .access 0 studioFound, .post 0, .request (1, studio), .flush, .request (2, studio), .flush,
    .access 1 studioResolved, .request (3, studio), .access 0 studioRemoved, .post 0, .post 1, .flush,
    .request (4, studio), .flush, .stop, .request (5, studio)]

theorem resolvers_used_once_studio :
    ∃ r, run? Prod.snd fiveRequests { forwarder := { interface := "eth0" } } = some r ∧
      r.posted.filterMap resolver? = [(2, studio), (3, studio)] ∧
      r.superseded = [((1, studio), (2, studio))] ∧ r.dropped = [(4, studio), (5, studio)] ∧
      EndsInOneDot "_rtsp._tcp.local." ∧ (∀ k b, .access k b ∈ fiveRequests → b.Carries "_rtsp._tcp.local.") ∧
      UsedOnce Prod.snd r := by
  have hty : EndsInOneDot "_rtsp._tcp.local." := ⟨"_rtsp._tcp.local".toList, by decide, by decide⟩
  have ha : ∀ k b, .access k b ∈ fiveRequests → b.Carries "_rtsp._tcp.local." := by
    intro k b hb
    simp only [fiveRequests, List.mem_cons, reduceCtorEq, false_or, or_false, Action.access.injEq,
      List.not_mem_nil] at hb
    rcases hb with ⟨-, rfl⟩ | ⟨-, rfl⟩ | ⟨-, rfl⟩ <;> rfl
  exact ⟨_, rfl, rfl, rfl, rfl, hty, ha, resolvers_used_once (i := "eth0") hty ha rfl⟩

end Relay

end StreamScout.Mdns
