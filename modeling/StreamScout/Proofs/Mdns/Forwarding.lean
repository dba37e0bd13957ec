import StreamScout.Mdns.Forwarder
import StreamScout.Proofs.Keyed
import StreamScout.Proofs.Lists
import StreamScout.Proofs.Service.Record

namespace StreamScout.Mdns

open StreamScout.Service
open StreamScout.Resolve (Table)
open scoped List

section Hands

variable {α : Type} {k : Nat} {e : α} {es : List α}

abbrev Hands (α : Type) := List (List α)

namespace Hands

def fill? (k : Nat) (es : List α) (hs : Hands α) : Option (Hands α) :=
  match hs[k]? with
  | some [] => some (hs.set k es)
  | _ => none

def post? (k : Nat) (hs : Hands α) : Option (α × Hands α) :=
  match hs[k]? with
  | some (e :: es) => some (e, hs.set k es)
  | _ => none

variable {hs hs' : Hands α}

theorem fill_cases (h : fill? k es hs = some hs') :
    ∃ front back, hs = front ++ [] :: back ∧ hs' = front ++ es :: back := by
  unfold fill? at h
  split at h
  next hk =>
    cases h
    obtain ⟨front, back, rfl, hset⟩ := exists_set_split hk
    exact ⟨front, back, rfl, hset es⟩
  next => cases h

theorem post_cases (h : post? k hs = some (e, hs')) :
    ∃ front es back, hs = front ++ (e :: es) :: back ∧ hs' = front ++ es :: back := by
  unfold post? at h
  split at h
  next e' es hk =>
    cases h
    obtain ⟨front, back, rfl, hset⟩ := exists_set_split hk
    exact ⟨front, es, back, rfl, hset es⟩
  next => cases h

theorem flatten_fill (h : fill? k es hs = some hs') : hs'.flatten ~ es ++ hs.flatten := by
  obtain ⟨front, back, rfl, rfl⟩ := fill_cases h
  rw [List.flatten_append, List.flatten_append, List.flatten_cons, List.flatten_cons, List.nil_append]
  exact List.perm_append_comm_assoc front.flatten es back.flatten

theorem flatten_post (h : post? k hs = some (e, hs')) : hs.flatten ~ e :: hs'.flatten := by
  obtain ⟨front, es, back, rfl, rfl⟩ := post_cases h
  rw [List.flatten_append, List.flatten_append, List.flatten_cons, List.flatten_cons]
  exact List.perm_middle

theorem fill_alone (h : fill? k es hs = some hs') (one : hs.length ≤ 1) :
    hs.flatten = [] ∧ hs'.flatten = es ∧ hs'.length = hs.length := by
  obtain ⟨front, back, rfl, rfl⟩ := fill_cases h
  rw [List.length_append, List.length_cons] at one
  obtain rfl : front = [] := List.length_eq_zero_iff.mp (by omega)
  obtain rfl : back = [] := List.length_eq_zero_iff.mp (by omega)
  exact ⟨rfl, List.append_nil es, rfl⟩

theorem post_alone (h : post? k hs = some (e, hs')) (one : hs.length ≤ 1) :
    hs.flatten = e :: hs'.flatten ∧ hs'.length = hs.length := by
  obtain ⟨front, es, back, rfl, rfl⟩ := post_cases h
  rw [List.length_append, List.length_cons] at one
  obtain rfl : front = [] := List.length_eq_zero_iff.mp (by omega)
  exact ⟨rfl, rfl⟩

end Hands

end Hands

section Matching

variable {η : Type} {recordOf : η → Record} {ty i : String} {t t' : Table η} {a : Announcement}
  {es : List (Event η)}

def Announcement.Carries (ty : String) : Announcement → Prop
  | .found typeDomain _ => typeDomain = ty
  | .resolved info => info.typeDomain = ty
  | .removed typeDomain _ => typeDomain = ty
  | .searchStarted | .searchStopped => True

def Answers (e : Endpoint) (r : Record) : Prop :=
  e.name = r.name ∧ e.domain = r.domain

/-- Under every full name of the table stands what belongs to the record that is read off it. -/
structure Matched (recordOf : η → Record) (ty i : String) (t : Table η) : Prop where
  distinct : t.pending.Distinct
  parked : ∀ k h, (k, h) ∈ t.pending → Record.ofFullname? k ty i = some (recordOf h)
  known : ∀ k e, (k, e) ∈ t.resolved → ∃ r, Record.ofFullname? k ty i = some r ∧ Answers e r

/-- A record is announced under its full name, and an endpoint comes to a resolver of its record. -/
def Genuine (recordOf : η → Record) (ty i : String) : Event η → Prop
  | .browse (.new r) => ∃ f, Record.ofFullname? f ty i = some r
  | .browse (.remove r) => ∃ f, Record.ofFullname? f ty i = some r
  | .resolved h (.found e) => Answers e (recordOf h)
  | _ => True

def resolver? : Event η → Option η
  | .resolved h _ => some h
  | _ => none

theorem answers_endpoint? {info : Instance} {r : Record} {e : Endpoint} (h : info.endpoint? r = some e) :
    Answers e r := by
  obtain ⟨address, -, rfl⟩ := Option.map_eq_some_iff.mp h
  exact ⟨rfl, rfl⟩

theorem matched_empty (recordOf : η → Record) (ty i : String) : Matched recordOf ty i {} :=
  ⟨List.nodup_nil, nofun, nofun⟩

theorem resolver?_release (outcome : Resolution) (parked : Option η) :
    (release outcome parked).filterMap resolver? = parked.toList := by
  cases parked <;> rfl

theorem mem_release {outcome : Resolution} {parked : Option η} {ev : Event η} (h : ev ∈ release outcome parked) :
    ∃ r, parked = some r ∧ ev = .resolved r outcome := by
  cases parked with
  | none => cases h
  | some r => exact ⟨r, rfl, List.mem_singleton.mp h⟩

theorem Matched.drop_pending (hm : Matched recordOf ty i t) (k : String) :
    Matched recordOf ty i { t with pending := t.pending.drop k } :=
  ⟨Keyed.distinct_drop hm.distinct, fun k' h hk => hm.parked k' h (Keyed.mem_drop.mp hk).1, hm.known⟩

inductive Heard (i : String) (t : Table η) : Announcement → Table η → List (Event η) → Prop
  | ignored (a : Announcement) (unread : ∀ ty f, a = .found ty f → Record.ofFullname? f ty i = none)
      (kept : ∀ ty f, a ≠ .removed ty f) : Heard i t a t []
  | found (ty f : String) (r : Record) (read : Record.ofFullname? f ty i = some r) :
      Heard i t (.found ty f) t [.browse (.new r)]
  | known (info : Instance) (r : Record) (e : Endpoint)
      (read : Record.ofFullname? info.fullname info.typeDomain i = some r) (reached : info.endpoint? r = some e) :
      Heard i t (.resolved info) ⟨t.pending.drop info.fullname, t.resolved.put info.fullname e⟩
        (release (.found e) (t.pending.get? info.fullname))
  | nowhere (info : Instance) : Heard i t (.resolved info) { t with pending := t.pending.drop info.fullname }
      (release (.failure noAddress) (t.pending.get? info.fullname))
  | removed (ty f : String) : Heard i t (.removed ty f) ⟨t.pending.drop f, t.resolved.drop f⟩
      (release (.failure removedFirst) (t.pending.get? f) ++
        ((Record.ofFullname? f ty i).map fun r => .browse (.remove r)).toList)

theorem announce_heard (i : String) (a : Announcement) (t : Table η) :
    Heard i t a (announce i a t).1 (announce i a t).2 := by
  cases a with
  | searchStarted => exact .ignored _ nofun nofun
  | searchStopped => exact .ignored _ nofun nofun
  | found ty f =>
    cases hr : Record.ofFullname? f ty i with
    | none =>
      simp only [announce, hr]
      refine .ignored _ (fun ty' f' heq => ?_) nofun
      cases heq
      exact hr
    | some r =>
      simp only [announce, hr]
      exact .found ty f r hr
  | resolved info =>
    cases hr : Record.ofFullname? info.fullname info.typeDomain i with
    | none =>
      simp only [announce, hr]
      exact .ignored _ nofun nofun
    | some r =>
      cases he : info.endpoint? r with
      | none =>
        simp only [announce, hr, he, Table.giveUp]
        exact .nowhere info
      | some e =>
        simp only [announce, hr, he, Table.resolve]
        exact .known info r e hr he
  | removed ty f => exact .removed ty f

theorem Heard.matched (h : Heard i t a t' es) (ha : a.Carries ty) (hm : Matched recordOf ty i t) :
    Matched recordOf ty i t' ∧ ∀ ev ∈ es, Genuine recordOf ty i ev := by
  cases h with
  | ignored _ unread kept => exact ⟨hm, nofun⟩
  | found ty' f r read =>
    obtain rfl : ty' = ty := ha
    refine ⟨hm, fun ev hev => ?_⟩
    rw [List.mem_singleton.mp hev]
    exact ⟨f, read⟩
  | known info r e read reached =>
    obtain rfl : info.typeDomain = ty := ha
    have hdrop := hm.drop_pending info.fullname
    refine ⟨⟨hdrop.distinct, hdrop.parked, fun k e' hk => ?_⟩, fun ev hev => ?_⟩
    · rcases Keyed.mem_put hk with heq | hk
      · cases heq
        exact ⟨r, read, answers_endpoint? reached⟩
      · exact hm.known k e' hk
    · obtain ⟨h, hh, rfl⟩ := mem_release hev
      have hrec := hm.parked _ h (Keyed.mem_of_get? hh)
      obtain rfl : r = recordOf h := Option.some.inj (read.symm.trans hrec)
      exact answers_endpoint? reached
  | nowhere info =>
    refine ⟨hm.drop_pending info.fullname, fun ev hev => ?_⟩
    obtain ⟨h, -, rfl⟩ := mem_release hev
    trivial
  | removed ty' f =>
    obtain rfl : ty' = ty := ha
    have hdrop := hm.drop_pending f
    refine ⟨⟨hdrop.distinct, hdrop.parked, fun k e hk => hm.known k e (Keyed.mem_drop.mp hk).1⟩, fun ev hev => ?_⟩
    rcases List.mem_append.mp hev with hev | hev
    · obtain ⟨h, -, rfl⟩ := mem_release hev
      trivial
    · obtain ⟨r, hr, rfl⟩ := Option.map_eq_some_iff.mp (Option.mem_toList.mp hev)
      exact ⟨f, hr⟩

theorem Heard.resolvers (h : Heard i t a t' es) (hd : t.pending.Distinct) :
    t.pending.values ~ es.filterMap resolver? ++ t'.pending.values := by
  cases h with
  | ignored _ unread kept => exact .refl _
  | found ty f r read => exact .refl _
  | known info r e read reached =>
    rw [resolver?_release]
    exact Keyed.values_drop hd
  | nowhere info =>
    rw [resolver?_release]
    exact Keyed.values_drop hd
  | removed ty f =>
    have hnone : ((Record.ofFullname? f ty i).map fun r => .browse (.remove r)).toList.filterMap
        (@resolver? η) = [] := by
      cases Record.ofFullname? f ty i <;> rfl
    rw [List.filterMap_append, resolver?_release, hnone, List.append_nil]
    exact Keyed.values_drop hd

theorem Heard.not_client (h : Heard i t a t' es) : ∀ ev ∈ es, ∀ c, ev ≠ .client c := by
  intro ev hev c hc
  subst hc
  cases h with
  | ignored _ unread kept => cases hev
  | found ty f r read => cases List.mem_singleton.mp hev
  | known info r e read reached =>
    obtain ⟨h, -, heq⟩ := mem_release hev
    cases heq
  | nowhere info =>
    obtain ⟨h, -, heq⟩ := mem_release hev
    cases heq
  | removed ty f =>
    rcases List.mem_append.mp hev with hev | hev
    · obtain ⟨h, -, heq⟩ := mem_release hev
      cases heq
    · obtain ⟨r, -, heq⟩ := Option.map_eq_some_iff.mp (Option.mem_toList.mp hev)
      cases heq

theorem request_matched {h : η} {f : String} (hty : EndsInOneDot ty) (hm : Matched recordOf ty i t)
    (hf : Record.ofFullname? f ty i = some (recordOf h)) :
    Matched recordOf ty i (t.request (recordOf h).fullname h).1 ∧
      ∀ x e, (t.request (recordOf h).fullname h).2 = some (x, e) → x = h ∧ Answers e (recordOf h) := by
  have hname : (recordOf h).fullname = f := Record.fullname_ofFullname? hty hf
  rw [hname, Table.request]
  split
  next e he =>
    refine ⟨hm, fun x e' heq => ?_⟩
    cases heq
    obtain ⟨r, hr, ha⟩ := hm.known f e (Keyed.mem_of_get? he)
    obtain rfl : r = recordOf h := Option.some.inj (hr.symm.trans hf)
    exact ⟨rfl, ha⟩
  next =>
    refine ⟨⟨Keyed.distinct_put hm.distinct, fun k h' hk => ?_, hm.known⟩, nofun⟩
    rcases Keyed.mem_put hk with heq | hk
    · cases heq
      exact hf
    · exact hm.parked k h' hk

end Matching

section Studio

def studioFound : Announcement :=
  .found "_rtsp._tcp.local." "studio._rtsp._tcp.local."

def studioResolved : Announcement :=
  .resolved ⟨"_rtsp._tcp.local.", "studio._rtsp._tcp.local.", "studio.local.", [.v4 ⟨10, 0, 0, 5⟩], 8554⟩

def studioRemoved : Announcement :=
  .removed "_rtsp._tcp.local." "studio._rtsp._tcp.local."

end Studio

end StreamScout.Mdns
