import Mathlib.Data.Finset.Basic
import StreamScout.Mdns.Forwarder
import StreamScout.Proofs.Address.Ipv6
import StreamScout.Proofs.Session.Resolution

namespace StreamScout.Mdns

open StreamScout.Service
open StreamScout.Probe (Target)
open StreamScout.Resolve (Table)
open StreamScout.Session (Reaches resolution)

variable {σ η : Type} {info : Instance} {r : Record} {e : Endpoint} {x : Ipv4} {t : Target} {i : String}

theorem address?_eq_none_iff : info.address? = none ↔ info.addresses = [] := by
  unfold Instance.address?
  rw [Option.or_eq_none_iff]
  constructor
  · rintro ⟨-, hhead⟩
    exact List.head?_eq_none_iff.mp hhead
  · intro hnil
    simp [hnil]

theorem address?_eq_v4 (h : info.address? = some (.v4 x)) : .v4 x ∈ info.addresses := by
  rcases Option.or_eq_some_iff.mp h with hfind | ⟨-, hhead⟩
  · exact List.mem_of_find?_eq_some hfind
  · exact List.mem_of_head? hhead

theorem exists_address?_v4 (h : .v4 x ∈ info.addresses) : ∃ y, info.address? = some (.v4 y) := by
  have hsome : (info.addresses.find? (·.isV4)).isSome = true := List.find?_isSome.mpr ⟨.v4 x, h, rfl⟩
  obtain ⟨a, ha⟩ := Option.isSome_iff_exists.mp hsome
  have hfirst : info.address? = some a := by simp [Instance.address?, ha]
  have hfamily : a.isV4 = true := List.find?_some ha
  cases a with
  | v4 y => exact ⟨y, hfirst⟩
  | v6 y => cases hfamily

theorem endpoint?_eq_none_iff : info.endpoint? r = none ↔ info.addresses = [] := by
  rw [Instance.endpoint?, Option.map_eq_none_iff, address?_eq_none_iff]

theorem reaches_endpoint (h : info.endpoint? r = some e) :
    Reaches (.found e) t ↔ info.address? = some (.v4 t.address) ∧
      t.name = r.name ∧ t.domain = r.domain ∧ t.port = info.port := by
  obtain ⟨a, ha, rfl⟩ := Option.map_eq_some_iff.mp h
  have hquad : Ipv4.DottedQuad a.text t.address ↔ a = .v4 t.address := by
    rw [← Ipv4.ofText?_eq_some_iff_quad, Address.ofText?_text_eq_some_iff]
  rw [ha, Option.some_inj, ← hquad]
  constructor
  · rintro ⟨e, heq, haddress, hname, hdomain, hport⟩
    cases heq
    exact ⟨haddress, hname, hdomain, hport⟩
  · rintro ⟨haddress, hname, hdomain, hport⟩
    exact ⟨_, rfl, haddress, hname, hdomain, hport⟩

theorem exists_reaches_iff (h : info.endpoint? r = some e) :
    (∃ t, Reaches (.found e) t) ↔ ∃ x, .v4 x ∈ info.addresses := by
  constructor
  · rintro ⟨t, ht⟩
    exact ⟨t.address, address?_eq_v4 ((reaches_endpoint h).mp ht).1⟩
  · rintro ⟨x, hx⟩
    obtain ⟨y, hy⟩ := exists_address?_v4 hx
    exact ⟨⟨r.name, r.domain, y, info.port⟩, (reaches_endpoint h).mpr ⟨hy, rfl, rfl, rfl⟩⟩

theorem announce_resolved (accepted : Record.ofFullname? info.fullname info.typeDomain i = some r) (tbl : Table η)
    {h : η} (parked : tbl.pending.get? info.fullname = some h) : (announce i (.resolved info) tbl).2 =
      [.resolved h ((info.endpoint? r).elim (.failure noAddress) .found)] := by
  cases he : info.endpoint? r with
  | none => simp [announce, accepted, he, Table.giveUp, parked, release]
  | some e => simp [announce, accepted, he, Table.resolve, parked, release]

structure ProbedAt (S : Finset Address) (info : Instance) (r : Record) (e : Endpoint) (s : Session.State σ) : Prop where
  probed : (∃ n, (resolution true (.found e) s).pool.units = s.pool.units ++ [n]) ↔ ∃ x, Address.v4 x ∈ S
  target : (∃ x, Address.v4 x ∈ S) → ∃ t, resolution true (.found e) s = { s with pool := s.pool.register t } ∧
    .v4 t.address ∈ S ∧ t.port = info.port ∧ t.name = r.name ∧ t.domain = r.domain
  unprobed : (∀ a ∈ S, a.isV4 = false) → resolution true (.found e) s = s

theorem probedAt {S : Finset Address} (visited : ∀ a, a ∈ info.addresses ↔ a ∈ S) (he : info.endpoint? r = some e)
    {s : Session.State σ} (idle : s.starting = none) (gate : s.gate = true) : ProbedAt S info r e s := by
  have hiff : (∃ t, Reaches (.found e) t) ↔ ∃ x, Address.v4 x ∈ S := by
    rw [exists_reaches_iff he]
    exact exists_congr fun x => visited (.v4 x)
  have hunchanged (hx : ¬ ∃ x, Address.v4 x ∈ S) : resolution true (.found e) s = s :=
    Session.resolution_refused idle fun h => hx (hiff.mp h.1)
  constructor
  case probed =>
    constructor
    · rintro ⟨n, hn⟩
      by_contra hx
      rw [hunchanged hx] at hn
      simp at hn
    · intro hx
      obtain ⟨t, ht⟩ := hiff.mpr hx
      exact ⟨s.pool.next, by rw [Session.resolution_admitted idle ht gate]; rfl⟩
  case target =>
    intro hx
    obtain ⟨t, ht⟩ := hiff.mpr hx
    obtain ⟨haddress, hname, hdomain, hport⟩ := (reaches_endpoint he).mp ht
    exact ⟨t, Session.resolution_admitted idle ht gate, (visited _).mp (address?_eq_v4 haddress), hport, hname, hdomain⟩
  case unprobed =>
    intro hall
    apply hunchanged
    rintro ⟨x, hx⟩
    cases hall _ hx

theorem probed_at_ipv4 (S : Finset Address) (info : Instance) (i : String) (r : Record)
    (visited : ∀ a, a ∈ info.addresses ↔ a ∈ S)
    (accepted : Record.ofFullname? info.fullname info.typeDomain i = some r) :
    (S = ∅ → info.endpoint? r = none ∧ ∀ (tbl : Table η) h, tbl.pending.get? info.fullname = some h →
      (announce i (.resolved info) tbl).2 = [.resolved h (.failure noAddress)]) ∧
    (S.Nonempty → ∃ e, info.endpoint? r = some e ∧
      (∀ (tbl : Table η) h, tbl.pending.get? info.fullname = some h →
        (announce i (.resolved info) tbl).2 = [.resolved h (.found e)]) ∧
      ∀ s : Session.State σ, s.starting = none → s.gate = true → ProbedAt S info r e s) := by
  constructor
  · rintro rfl
    have hnone : info.endpoint? r = none := by
      apply endpoint?_eq_none_iff.mpr
      exact List.eq_nil_iff_forall_not_mem.mpr fun a ha => by simpa using (visited a).mp ha
    refine ⟨hnone, fun tbl h parked => ?_⟩
    rw [announce_resolved accepted tbl parked, hnone]
    rfl
  · rintro ⟨a, ha⟩
    have hsome : info.endpoint? r ≠ none := by
      intro hnone
      have hmem := (visited a).mpr ha
      rw [endpoint?_eq_none_iff.mp hnone] at hmem
      cases hmem
    obtain ⟨e, he⟩ := Option.ne_none_iff_exists'.mp hsome
    refine ⟨e, he, fun tbl h parked => ?_, fun s idle gate => probedAt visited he idle gate⟩
    rw [announce_resolved accepted tbl parked, he]
    rfl

def mixedStudio : Instance where
  typeDomain := "_rtsp._tcp.local."
  fullname := "studio._rtsp._tcp.local."
  host := "studio.local."
  addresses := [.v6 ⟨[0, 0, 0, 0, 0, 0xFFFF, 0x0A00, 9]⟩, .v4 ⟨10, 0, 0, 5⟩, .v6 ⟨[0xFE80, 0, 0, 0, 0, 0, 0, 1]⟩]
  port := 8554

theorem probed_at_ipv4_mapped :
    let r : Record := ⟨"studio", "_rtsp._tcp", "local", "eth0", .inet⟩
    let s : Session.State Unit := { provider := (), gate := true }
    Record.ofFullname? mixedStudio.fullname mixedStudio.typeDomain "eth0" = some r ∧
      (∃ e, mixedStudio.endpoint? r = some e ∧ ProbedAt mixedStudio.addresses.toFinset mixedStudio r e s) ∧
      (mixedStudio.endpoint? r).map (fun e => (resolution true (.found e) s).targets) =
        some [⟨"studio", "local", ⟨10, 0, 0, 5⟩, 8554⟩] := by
  intro r s
  have accepted : Record.ofFullname? mixedStudio.fullname mixedStudio.typeDomain "eth0" = some r := by decide +kernel
  have hne : mixedStudio.addresses.toFinset.Nonempty := ⟨.v4 ⟨10, 0, 0, 5⟩, by decide⟩
  obtain ⟨e, he, -, hprobed⟩ := (probed_at_ipv4 (η := Record) (σ := Unit) mixedStudio.addresses.toFinset mixedStudio
    "eth0" r (fun _ => List.mem_toFinset.symm) accepted).2 hne
  exact ⟨accepted, ⟨e, he, hprobed s rfl rfl⟩, by decide +kernel⟩

end StreamScout.Mdns
