import StreamScout.Proofs.Service.Record

namespace StreamScout.Service

open StreamScout.Text (dropEnd)

variable {cs : List Char} {fullname typeDomain interface : String} {r : Record}

theorem splitTypeDomain?_isSome_iff : (splitTypeDomain? cs).isSome = true ↔ 2 ≤ (dropEnd (· == '.') cs).count '.' := by
  constructor
  · intro h
    obtain ⟨⟨service, domain⟩, hsplit⟩ := Option.isSome_iff_exists.mp h
    obtain ⟨hcut, hone⟩ := splitTypeDomain?_eq_some_iff.mp hsplit
    rw [hcut, List.count_append, List.count_cons_self, hone]
    omega
  · intro h
    obtain ⟨first, rest, hcut, hnone, hcount⟩ := exists_first_dot (Nat.le_of_succ_le h)
    obtain ⟨transport, domain, rfl, hnone', -⟩ := exists_first_dot (by omega : 1 ≤ rest.count '.')
    have hsplit : splitTypeDomain? cs = some (first ++ '.' :: transport, domain) := by
      apply splitTypeDomain?_eq_some_iff.mpr
      exact ⟨by rw [hcut, List.append_assoc, List.cons_append], count_one_dot hnone hnone'⟩
    exact Option.isSome_iff_exists.mpr ⟨_, hsplit⟩

theorem ofFullname?_isSome_iff : (Record.ofFullname? fullname typeDomain interface).isSome = true ↔
    (∃ name, fullname.toList = name ++ '.' :: typeDomain.toList ∧ name ≠ []) ∧
      2 ≤ (dropEnd (· == '.') typeDomain.toList).count '.' := by
  rw [← splitTypeDomain?_isSome_iff]
  simp only [← instanceName?_eq_some_iff, ← Option.isSome_iff_exists, Record.ofFullname?]
  cases instanceName? fullname.toList typeDomain.toList with
  | none => simp
  | some name => cases splitTypeDomain? typeDomain.toList <;> simp

theorem dropEnd_typeDomain : dropEnd (· == '.') r.typeDomain.toList = r.serviceType.toList ++ '.' :: r.domain.toList ↔
    r.domain.toList ≠ [] ∧ r.domain.toList.getLast? ≠ some '.' := by
  have hdots : r.typeDomain.toList = (r.serviceType.toList ++ '.' :: r.domain.toList) ++ ['.'] := by
    simp [Record.typeDomain, String.toList_append]
  rw [Text.dropEnd_eq_iff]
  constructor
  · rintro ⟨tail, -, -, hlast⟩
    constructor
    · intro hnil
      exact absurd (hlast '.' (by simp [hnil])) (by decide)
    · intro hdot
      exact absurd (hlast '.' (by simp [List.getLast?_append, List.getLast?_cons, hdot])) (by decide)
  · rintro ⟨hne, hlast⟩
    refine ⟨['.'], hdots, by simp, ?_⟩
    intro c hc
    have hend : r.domain.toList.getLast? = some c := by
      simpa [List.getLast?_append, List.getLast?_cons_of_ne_nil hne, hne] using hc
    apply beq_eq_false_iff_ne.mpr
    rintro rfl
    exact hlast hend

theorem exists_record (h : EndsInOneDot typeDomain) : (∃ r, Record.ofFullname? fullname typeDomain interface = some r) ↔
    (∃ name, name ≠ "" ∧ fullname = name ++ "." ++ typeDomain) ∧
      ∃ body, typeDomain = body ++ "." ∧ 2 ≤ body.toList.count '.' := by
  have hends := h.dropEnd
  rw [← Option.isSome_iff_exists, ofFullname?_isSome_iff]
  refine and_congr ⟨?_, ?_⟩ ⟨?_, ?_⟩
  · rintro ⟨name, hname, hne⟩
    exact ⟨String.ofList name, by simpa using hne, String.toList_inj.mp (by simp [hname, String.toList_append])⟩
  · rintro ⟨name, hne, rfl⟩
    exact ⟨name.toList, by simp [String.toList_append], by simpa using hne⟩
  · intro hcount
    exact ⟨String.ofList (dropEnd (· == '.') typeDomain.toList),
      String.toList_inj.mp (by simpa [String.toList_append] using hends), by simpa using hcount⟩
  · rintro ⟨body, rfl, hcount⟩
    rw [String.toList_append] at hends ⊢
    have hbody : dropEnd (· == '.') (body.toList ++ ".".toList) = body.toList := List.append_cancel_right hends.symm
    rwa [hbody]

theorem fullname_conversion :
    (∀ fullname typeDomain interface, EndsInOneDot typeDomain →
      (∀ r, Record.ofFullname? fullname typeDomain interface = some r → r.fullname = fullname) ∧
      ((∃ r, Record.ofFullname? fullname typeDomain interface = some r) ↔
        (∃ name, name ≠ "" ∧ fullname = name ++ "." ++ typeDomain) ∧
          ∃ body, typeDomain = body ++ "." ∧ 2 ≤ body.toList.count '.')) ∧
    ∀ r : Record, Record.ofFullname? r.fullname (r.serviceType ++ "." ++ r.domain ++ ".") r.interface = some r ↔
      r.name ≠ "" ∧ r.serviceType.toList.count '.' = 1 ∧
        (r.domain ≠ "" ∧ r.domain.toList.getLast? ≠ some '.') ∧ r.family = .inet := by
  refine ⟨fun fullname typeDomain interface hty => ⟨fun r => Record.fullname_ofFullname? hty, exists_record hty⟩, ?_⟩
  intro r
  change Record.ofFullname? r.fullname r.typeDomain r.interface = some r ↔ _
  rw [ofFullname?_eq_some_iff, r.fullname_toList, dropEnd_typeDomain, ne_eq r.name.toList, ne_eq r.domain.toList,
    String.toList_eq_nil_iff, String.toList_eq_nil_iff]
  constructor
  · rintro ⟨⟨-, hname⟩, ⟨hdomain, hone⟩, -, hfamily⟩
    exact ⟨hname, hone, hdomain, hfamily⟩
  · rintro ⟨hname, hone, hdomain, hfamily⟩
    exact ⟨⟨rfl, hname⟩, ⟨hdomain, hone⟩, rfl, hfamily⟩

theorem fullname_conversion_type_in_name :
    let typeDomain := "_rtsp._tcp.local."
    let r : Record := ⟨"Mic 2._rtsp._tcp.local.", "_rtsp._tcp", "local", "eth0", .inet⟩
    let dotted : Record := ⟨"studio", "_rtsp._tcp", "local.", "eth0", .inet⟩
    EndsInOneDot typeDomain ∧
      (Record.ofFullname? "Mic 2._rtsp._tcp.local.._rtsp._tcp.local." typeDomain "eth0" = some r ∧
        r.fullname = "Mic 2._rtsp._tcp.local.._rtsp._tcp.local.") ∧
      Record.ofFullname? dotted.fullname (dotted.serviceType ++ "." ++ dotted.domain ++ ".") dotted.interface ≠
        some dotted := by
  intro typeDomain r dotted
  have hty : EndsInOneDot typeDomain := ⟨"_rtsp._tcp.local".toList, by decide +kernel, by decide +kernel⟩
  have hread : Record.ofFullname? "Mic 2._rtsp._tcp.local.._rtsp._tcp.local." typeDomain "eth0" = some r := by
    decide +kernel
  have hdotted := (fullname_conversion.2 dotted).not.mpr fun h => h.2.2.1.2 (by decide +kernel)
  exact ⟨hty, ⟨hread, (fullname_conversion.1 _ typeDomain "eth0" hty).1 r hread⟩, hdotted⟩

end StreamScout.Service
