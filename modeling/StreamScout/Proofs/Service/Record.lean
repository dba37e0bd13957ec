import Mathlib.Data.List.Count
import StreamScout.Proofs.Text.Blank
import StreamScout.Service.Record

namespace StreamScout.Service

open StreamScout.Text (cutAt dropEnd)

variable {cs tail name front back service domain : List Char} {fullname typeDomain interface : String} {r : Record}

def EndsInOneDot (typeDomain : String) : Prop :=
  ∃ body, typeDomain.toList = body ++ ['.'] ∧ body.getLast? ≠ some '.'

theorem instanceName?_eq_some_iff : instanceName? cs tail = some name ↔ cs = name ++ '.' :: tail ∧ name ≠ [] := by
  simp only [instanceName?, Option.filter_eq_some_iff, Option.bind_eq_some_iff, Text.before?_eq_some_iff]
  constructor
  · rintro ⟨⟨rest, rfl, rfl⟩, hne⟩
    exact ⟨by simp, by simpa using hne⟩
  · rintro ⟨rfl, hne⟩
    exact ⟨⟨name ++ ['.'], by simp, rfl⟩, by simpa using hne⟩

theorem cutAt_dot : cutAt (· == '.') cs = some (front, back) ↔ cs = front ++ '.' :: back ∧ '.' ∉ front := by
  rw [Text.cutAt_eq_some]
  constructor
  · rintro ⟨c, rfl, hc, hfront⟩
    obtain rfl : c = '.' := by simpa using hc
    exact ⟨rfl, fun hmem => by simpa using hfront '.' hmem⟩
  · rintro ⟨rfl, hfront⟩
    refine ⟨'.', rfl, rfl, ?_⟩
    intro c hc
    apply beq_eq_false_iff_ne.mpr
    rintro rfl
    exact hfront hc

theorem exists_first_dot (h : 1 ≤ cs.count '.') : ∃ front back, cs = front ++ '.' :: back ∧ '.' ∉ front ∧
    cs.count '.' = back.count '.' + 1 := by
  obtain ⟨front, back, rfl, hfront⟩ := List.eq_append_cons_of_mem (List.count_pos_iff.mp h)
  refine ⟨front, back, rfl, hfront, ?_⟩
  rw [List.count_append, List.count_cons_self, List.count_eq_zero_of_not_mem hfront, Nat.zero_add]

theorem count_one_dot (hfront : '.' ∉ front) (hback : '.' ∉ back) : (front ++ '.' :: back).count '.' = 1 := by
  rw [List.count_append, List.count_cons_self, List.count_eq_zero_of_not_mem hfront,
    List.count_eq_zero_of_not_mem hback]

theorem splitTypeDomain?_eq_some_iff : splitTypeDomain? cs = some (service, domain) ↔
    dropEnd (· == '.') cs = service ++ '.' :: domain ∧ service.count '.' = 1 := by
  simp only [splitTypeDomain?, Option.bind_eq_bind, Option.bind_eq_some_iff, Option.some.injEq]
  constructor
  · rintro ⟨⟨first, rest⟩, hfirst, ⟨transport, domain'⟩, hrest, heq⟩
    cases heq
    obtain ⟨hcut, hnone⟩ := cutAt_dot.mp hfirst
    obtain ⟨rfl, hnone'⟩ := cutAt_dot.mp hrest
    exact ⟨by rw [hcut, List.append_assoc, List.cons_append], count_one_dot hnone hnone'⟩
  · rintro ⟨hcut, hone⟩
    obtain ⟨first, transport, rfl, hnone, hcount⟩ := exists_first_dot (Nat.le_of_eq hone.symm)
    have hnone' : '.' ∉ transport := List.count_eq_zero.mp (by omega)
    rw [List.append_assoc, List.cons_append] at hcut
    exact ⟨(first, transport ++ '.' :: domain), cutAt_dot.mpr ⟨hcut, hnone⟩, (transport, domain),
      cutAt_dot.mpr ⟨rfl, hnone'⟩, rfl⟩

theorem ofFullname?_eq_some_iff : Record.ofFullname? fullname typeDomain interface = some r ↔
    (fullname.toList = r.name.toList ++ '.' :: typeDomain.toList ∧ r.name.toList ≠ []) ∧
      (dropEnd (· == '.') typeDomain.toList = r.serviceType.toList ++ '.' :: r.domain.toList ∧
        r.serviceType.toList.count '.' = 1) ∧ r.interface = interface ∧ r.family = .inet := by
  rw [← instanceName?_eq_some_iff, ← splitTypeDomain?_eq_some_iff]
  simp only [Record.ofFullname?, Option.bind_eq_bind, Option.bind_eq_some_iff, Option.some.injEq]
  constructor
  · rintro ⟨name, hname, ⟨service, domain⟩, hsplit, rfl⟩
    simp only [String.toList_ofList]
    exact ⟨hname, hsplit, trivial, trivial⟩
  · rintro ⟨hname, hsplit, hinterface, hfamily⟩
    refine ⟨r.name.toList, hname, (r.serviceType.toList, r.domain.toList), hsplit, ?_⟩
    simp only [String.ofList_toList, ← hinterface, ← hfamily]

theorem EndsInOneDot.dropEnd (h : EndsInOneDot typeDomain) :
    typeDomain.toList = Text.dropEnd (· == '.') typeDomain.toList ++ ['.'] := by
  obtain ⟨body, hty, hlast⟩ := h
  have hbody : Text.dropEnd (· == '.') typeDomain.toList = body := by
    refine Text.dropEnd_eq_iff.mpr ⟨['.'], hty, by simp, ?_⟩
    intro c hc
    apply beq_eq_false_iff_ne.mpr
    rintro rfl
    exact hlast hc
  rw [hbody]
  exact hty

theorem Record.fullname_toList (r : Record) : r.fullname.toList = r.name.toList ++ '.' :: r.typeDomain.toList := by
  simp [fullname, typeDomain, String.toList_append]

theorem Record.fullname_ofFullname? (hty : EndsInOneDot typeDomain)
    (h : Record.ofFullname? fullname typeDomain interface = some r) : r.fullname = fullname := by
  obtain ⟨⟨hname, -⟩, ⟨hdots, -⟩, -⟩ := ofFullname?_eq_some_iff.mp h
  apply String.toList_inj.mp
  rw [hname, hty.dropEnd, hdots]
  simp [Record.fullname, String.toList_append]

theorem Record.fullname_eq_of_name {fullname' : String} {r' : Record}
    (h : Record.ofFullname? fullname typeDomain interface = some r)
    (h' : Record.ofFullname? fullname' typeDomain interface = some r') (hname : r.name = r'.name) :
    fullname = fullname' := by
  obtain ⟨⟨hfull, -⟩, -⟩ := ofFullname?_eq_some_iff.mp h
  obtain ⟨⟨hfull', -⟩, -⟩ := ofFullname?_eq_some_iff.mp h'
  apply String.toList_inj.mp
  rw [hfull, hfull', hname]

end StreamScout.Service
