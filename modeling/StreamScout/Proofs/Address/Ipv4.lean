import StreamScout.Address.Ipv4
import StreamScout.Proofs.Text.Numeral

namespace StreamScout.Ipv4

open StreamScout.Numeral (IsDigit continued)

variable {cs : List Char} {o : UInt8} {a : Ipv4} {s : String}

theorem octet?_octetChars (o : UInt8) : octet? (octetChars o) = some o := by
  have hall : ∀ n < 256, octet? (Nat.toDigits 10 n) = some (UInt8.ofNat n) := by decide +kernel
  have ho := hall o.toNat o.toNat_lt
  rwa [UInt8.ofNat_toNat] at ho

theorem dot_not_mem_octetChars (o : UInt8) : '.' ∉ octetChars o := by
  have hall : ∀ n < 256, '.' ∉ Nat.toDigits 10 n := by decide +kernel
  exact hall o.toNat o.toNat_lt

theorem exists_digitChar {c : Char} (hc : IsDigit c) : ∃ d < 10, c = Nat.digitChar d := by
  have hlow : 48 ≤ c.toNat := hc.1
  have hhigh : c.toNat ≤ 57 := hc.2
  have hall : ∀ n < 10, Nat.digitChar n = Char.ofNat (n + 48) := by decide
  refine ⟨c.toNat - 48, by omega, ?_⟩
  rw [hall _ (by omega), Nat.sub_add_cancel hlow, Char.ofNat_toNat]

theorem octet?_digits (h : octet? cs = some o) : (∀ c ∈ cs, IsDigit c) ∧ cs.length ≤ 3 := by
  unfold octet? at h
  split at h
  · cases h
  · simp [IsDigit]
  · cases h
  · rename_i hnil hzero hlead
    obtain ⟨hlen, hread⟩ := Option.ite_none_right_eq_some.mp h
    split at hread
    · rename_i n hn
      exact ⟨((Numeral.readDigits_ok_iff (by decide)).mp hn).1, hlen⟩
    · cases hread

def Rereads (cs : List Char) : Bool :=
  (octet? cs).all fun o => octetChars o == cs

theorem rereads_digits (hdigits : ∀ c ∈ cs, IsDigit c) (hlen : cs.length ≤ 3) : Rereads cs = true := by
  -- at most three digits leave few enough texts to look at each of them
  have one : ∀ a < 10, Rereads [Nat.digitChar a] = true := by decide +kernel
  have two : ∀ a < 10, ∀ b < 10, Rereads [Nat.digitChar a, Nat.digitChar b] = true := by
    decide +kernel
  have three : ∀ a < 10, ∀ b < 10, ∀ c < 10,
      Rereads [Nat.digitChar a, Nat.digitChar b, Nat.digitChar c] = true := by decide +kernel
  match cs with
  | [] => rfl
  | [x] =>
    obtain ⟨a, ha, rfl⟩ := exists_digitChar (hdigits x (by simp))
    exact one a ha
  | [x, y] =>
    obtain ⟨a, ha, rfl⟩ := exists_digitChar (hdigits x (by simp))
    obtain ⟨b, hb, rfl⟩ := exists_digitChar (hdigits y (by simp))
    exact two a ha b hb
  | [x, y, z] =>
    obtain ⟨a, ha, rfl⟩ := exists_digitChar (hdigits x (by simp))
    obtain ⟨b, hb, rfl⟩ := exists_digitChar (hdigits y (by simp))
    obtain ⟨c, hc, rfl⟩ := exists_digitChar (hdigits z (by simp))
    exact three a ha b hb c hc
  | _ :: _ :: _ :: _ :: _ =>
    simp only [List.length_cons] at hlen
    omega

theorem eq_octetChars (h : octet? cs = some o) : cs = octetChars o := by
  obtain ⟨hdigits, hlen⟩ := octet?_digits h
  have hre := rereads_digits hdigits hlen
  rw [Rereads, h] at hre
  exact (beq_iff_eq.mp hre).symm

theorem toChars_eq_intercalate (a : Ipv4) :
    a.toChars = ['.'].intercalate [octetChars a.a, octetChars a.b, octetChars a.c, octetChars a.d] := by
  simp [toChars, List.intercalate]

theorem ofChars?_eq_some_iff : ofChars? cs = some a ↔ cs = a.toChars := by
  constructor
  · intro h
    unfold ofChars? at h
    split at h
    · rename_i w x y z hsplit
      simp only [Option.bind_eq_bind, Option.bind_eq_some_iff, Option.some.injEq] at h
      obtain ⟨ow, hw, ox, hx, oy, hy, oz, hz, rfl⟩ := h
      have hjoin := @List.intercalate_splitOn _ cs _ _ '.'
      rw [hsplit, eq_octetChars hw, eq_octetChars hx, eq_octetChars hy, eq_octetChars hz] at hjoin
      rw [toChars_eq_intercalate, hjoin]
    · cases h
  · rintro rfl
    have hsplit : a.toChars.splitOn '.' =
        [octetChars a.a, octetChars a.b, octetChars a.c, octetChars a.d] := by
      rw [toChars_eq_intercalate]
      refine List.splitOn_intercalate '.' ?_ (by simp)
      simp [dot_not_mem_octetChars]
    simp [ofChars?, hsplit, octet?_octetChars]

theorem ofText?_eq_some_iff : ofText? s = some a ↔ s = a.text := by
  rw [ofText?, ofChars?_eq_some_iff, text, ← String.toList_inj, String.toList_ofList]

structure IsOctet (cs : List Char) (o : UInt8) : Prop where
  present : cs ≠ []
  digits : ∀ c ∈ cs, IsDigit c
  value : continued 0 cs = o.toNat
  plain : cs.head? = some '0' → cs = ['0']

def DottedQuad (s : String) (a : Ipv4) : Prop :=
  ∃ w x y z, s.toList = w ++ '.' :: x ++ '.' :: y ++ '.' :: z ∧
    IsOctet w a.a ∧ IsOctet x a.b ∧ IsOctet y a.c ∧ IsOctet z a.d

/-- Four digits without a leading zero make at least a thousand. -/
theorem IsOctet.length_le (h : IsOctet cs o) : cs.length ≤ 3 := by
  by_contra hlong
  obtain ⟨a, b, c, d, rest, rfl⟩ : ∃ a b c d rest, cs = a :: b :: c :: d :: rest := by
    rcases cs with _ | ⟨a, _ | ⟨b, _ | ⟨c, _ | ⟨d, rest⟩⟩⟩⟩
    case cons.cons.cons.cons => exact ⟨a, b, c, d, rest, rfl⟩
    all_goals simp at hlong
  have hlow : 48 ≤ a.toNat := (h.digits a (by simp)).1
  have hne : a.toNat ≠ 48 := by
    intro hzero
    obtain rfl : a = '0' := by rw [← Char.ofNat_toNat a, hzero]
    cases h.plain rfl
  have hzero : '0'.toNat = 48 := rfl
  have hvalue := h.value
  simp only [continued, List.foldl_cons, hzero] at hvalue
  have hle := Numeral.le_continued ((((0 * 10 + (a.toNat - 48)) * 10 + (b.toNat - 48)) * 10 + (c.toNat - 48)) * 10 +
    (d.toNat - 48)) rest
  simp only [continued, hzero] at hle
  have hbound := o.toNat_lt
  omega

theorem octet?_eq_some_iff : octet? cs = some o ↔ IsOctet cs o := by
  constructor
  · intro h
    unfold octet? at h
    split at h
    · cases h
    · cases h
      exact ⟨by simp, by simp [IsDigit], rfl, fun _ => rfl⟩
    · cases h
    · rename_i hnil hzero hlead
      obtain ⟨-, hread⟩ := Option.ite_none_right_eq_some.mp h
      split at hread
      · rename_i n hn
        cases hread
        obtain ⟨hdigits, hvalue, hlt⟩ := (Numeral.readDigits_ok_iff (by decide)).mp hn
        refine ⟨hnil, hdigits, by rw [hvalue, UInt8.toNat_ofNat_of_lt' hlt], fun hhead => ?_⟩
        obtain ⟨rest, rfl⟩ := List.head?_eq_some_iff.mp hhead
        exact absurd rfl (hlead rest)
      · cases hread
  · intro h
    have hread : Numeral.readDigits 256 cs 0 = .ok o.toNat :=
      (Numeral.readDigits_ok_iff (by decide)).mpr ⟨h.digits, h.value, o.toNat_lt⟩
    unfold octet?
    split
    · exact absurd rfl h.present
    · have hzero : o = 0 := UInt8.toNat_inj.mp h.value.symm
      rw [hzero]
    · rename_i hne
      exact absurd (h.plain rfl) (by simpa using hne)
    · rw [if_pos h.length_le, hread]
      simp

theorem ofText?_eq_some_iff_quad : ofText? s = some a ↔ DottedQuad s a := by
  rw [ofText?_eq_some_iff, ← String.toList_inj, text, String.toList_ofList]
  constructor
  · intro h
    exact ⟨_, _, _, _, h, octet?_eq_some_iff.mp (octet?_octetChars _), octet?_eq_some_iff.mp (octet?_octetChars _),
      octet?_eq_some_iff.mp (octet?_octetChars _), octet?_eq_some_iff.mp (octet?_octetChars _)⟩
  · rintro ⟨w, x, y, z, h, hw, hx, hy, hz⟩
    rw [h, eq_octetChars (octet?_eq_some_iff.mpr hw), eq_octetChars (octet?_eq_some_iff.mpr hx),
      eq_octetChars (octet?_eq_some_iff.mpr hy), eq_octetChars (octet?_eq_some_iff.mpr hz)]
    rfl

end StreamScout.Ipv4
