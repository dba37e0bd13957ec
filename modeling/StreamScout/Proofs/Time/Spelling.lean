import Mathlib.Algebra.Ring.Nat
import StreamScout.Proofs.Text.Blank
import StreamScout.Proofs.Text.Numeral
import StreamScout.Time.Spelling

namespace StreamScout.Numeral

theorem isDigit_iff {c : Char} : IsDigit c ↔ c.isDigit = true := by
  simp [IsDigit, Char.isDigit, Char.le_def]

theorem digit?_of_isDigit {c : Char} (h : IsDigit c) : digit? c = some (c.toNat - '0'.toNat) :=
  digit?_eq_some.mpr ⟨h, rfl⟩

theorem continued_eq (n : Nat) (ds : List Char) : continued n ds = Nat.ofDigitChars 10 ds n := by
  induction ds generalizing n with
  | nil => exact Nat.ofDigitChars_nil.symm
  | cons c ds ih =>
    rw [Nat.ofDigitChars_cons, Nat.mul_comm 10 n]
    exact ih (n * 10 + (c.toNat - '0'.toNat))

end StreamScout.Numeral

namespace StreamScout.Time

open StreamScout.Numeral (IsDigit continued digit? digit?_of_isDigit le_continued)

variable {n width room low high : Nat} {ds cs rest : List Char}

section Digits

theorem isDigit_padded : ∀ c ∈ padded width n, IsDigit c := by
  intro c hc
  rcases List.mem_append.mp hc with hzero | hdigit
  · rw [(List.mem_replicate.mp hzero).2]
    exact ⟨Char.le_refl _, by decide⟩
  · exact Numeral.isDigit_iff.mpr (Nat.isDigit_of_mem_toDigits (by decide) (by decide) hdigit)

theorem continued_padded (width n : Nat) : continued 0 (padded width n) = n := by
  rw [Numeral.continued_eq, padded, Nat.ofDigitChars_append, Nat.ofDigitChars_replicate_zero, Nat.mul_zero,
    Nat.ofDigitChars_ten_toDigits]

theorem length_padded (hw : 0 < width) (hn : n < 10 ^ width) : (padded width n).length = width := by
  have hlen : (Nat.toDigits 10 n).length ≤ width := (Nat.length_toDigits_le_iff (by decide) hw).mpr hn
  rw [padded, List.length_append, List.length_replicate]
  omega

theorem padded_ne_nil (width n : Nat) : padded width n ≠ [] :=
  List.append_ne_nil_of_right_ne_nil _ Nat.toDigits_ne_nil

def Stops (cs : List Char) : Prop :=
  ∀ c ∈ cs.head?, digit? c = none

theorem digitsFrom_digits (hd : ∀ c ∈ ds, IsDigit c) (hroom : ds.length ≤ room)
    (hstop : ds.length = room ∨ Stops rest) (hlt : continued n ds < Numeral.signed64) :
    digitsFrom room n (ds ++ rest) = .ok (continued n ds, rest) := by
  induction ds generalizing room n with
  | nil =>
    cases room with
    | zero => rfl
    | succ room =>
      have hstop : Stops rest := hstop.resolve_left nofun
      cases rest with
      | nil => rfl
      | cons c rest =>
        have hc : digit? c = none := hstop c rfl
        simp only [List.nil_append, digitsFrom, hc]
        rfl
  | cons c ds ih =>
    cases room with
    | zero => cases hroom
    | succ room =>
      have hc := digit?_of_isDigit (hd c List.mem_cons_self)
      have hstep : continued n (c :: ds) = continued (n * 10 + (c.toNat - '0'.toNat)) ds := rfl
      have hle := le_continued (n * 10 + (c.toNat - '0'.toNat)) ds
      rw [hstep] at hlt ⊢
      simp only [List.cons_append, digitsFrom, hc, if_pos (Nat.lt_of_le_of_lt hle hlt)]
      refine ih (fun c' hc' => hd c' (List.mem_cons_of_mem _ hc')) (Nat.le_of_succ_le_succ hroom) ?_ hlt
      exact hstop.imp_left Nat.succ.inj

theorem number_digits (hne : ds ≠ []) (hd : ∀ c ∈ ds, IsDigit c) (hroom : ds.length ≤ room)
    (hstop : ds.length = room ∨ Stops rest) (hlt : continued 0 ds < Numeral.signed64) :
    number room (ds ++ rest) = .ok (continued 0 ds, rest) := by
  cases ds with
  | nil => exact absurd rfl hne
  | cons c ds =>
    have hc := digit?_of_isDigit (hd c List.mem_cons_self)
    rw [List.cons_append, number, hc, Option.isSome_some, if_pos rfl]
    exact digitsFrom_digits hd hroom hstop hlt

theorem number_padded (hw : 0 < width) (hn : n < 10 ^ width) (hlt : n < Numeral.signed64) (rest : List Char) :
    number width (padded width n ++ rest) = .ok (n, rest) := by
  have hlen := length_padded hw hn
  have hread : number width (padded width n ++ rest) = .ok (continued 0 (padded width n), rest) :=
    number_digits (padded_ne_nil width n) isDigit_padded (Nat.le_of_eq hlen) (.inl hlen) (by rwa [continued_padded])
  rwa [continued_padded] at hread

theorem exists_padded (width n : Nat) (rest : List Char) :
    ∃ c cs, padded width n ++ rest = c :: cs ∧ IsDigit c := by
  cases h : padded width n with
  | nil => exact absurd h (padded_ne_nil width n)
  | cons c cs => exact ⟨c, cs ++ rest, rfl, isDigit_padded c (h ▸ List.mem_cons_self)⟩

theorem trimLeft_padded (width n : Nat) (rest : List Char) :
    Text.trimLeft (padded width n ++ rest) = padded width n ++ rest := by
  obtain ⟨c, cs, heq, hc⟩ := exists_padded width n rest
  have hblank := Text.not_isBlank_of_isDigit (Numeral.isDigit_iff.mp hc)
  rw [heq, Text.trimLeft, List.dropWhile_cons_of_neg (by simp [hblank])]

end Digits

section Parts

theorem field_padded (hlow : low ≤ n) (hhigh : n ≤ high) (hn : n < 100) (rest : List Char) :
    field low high (padded 2 n ++ rest) = .ok (n, rest) := by
  have hlt : n < Numeral.signed64 := Nat.lt_trans hn (by decide)
  rw [field, trimLeft_padded, number_padded (by decide) hn hlt]
  exact if_pos ⟨hlow, hhigh⟩

theorem mark_cons {m : Char} (h : Text.isBlank m = false) (rest : List Char) : mark m (m :: rest) = .ok ((), rest) := by
  rw [mark, Text.trimLeft, List.dropWhile_cons_of_neg (by simp [h])]
  exact if_pos rfl

theorem stops_cons {c : Char} (h : digit? c = none) (rest : List Char) : Stops (c :: rest) := by
  rintro c' ⟨⟩
  exact h

theorem number_signed {c : Char} (hc : digit? c = none) (hlt : n < Numeral.signed64) :
    number (padded width n ++ c :: rest).length (padded width n ++ c :: rest) = .ok (n, c :: rest) := by
  have hread : number (padded width n ++ c :: rest).length (padded width n ++ c :: rest) =
      .ok (continued 0 (padded width n), c :: rest) :=
    number_digits (padded_ne_nil width n) isDigit_padded (by simp) (.inr (stops_cons hc rest))
      (by rwa [continued_padded])
  rwa [continued_padded] at hread

theorem year_written {y : Int} (hlow : firstYear ≤ y) (hhigh : y ≤ lastYear) (rest : List Char) :
    year (yearText y ++ '-' :: rest) = .ok (y, '-' :: rest) := by
  have hmark : digit? '-' = none := by decide
  have hfirst : firstYear = -262143 := rfl
  have hlast : lastYear = 262142 := rfl
  have hrange : -(Numeral.signed32 : Int) ≤ y ∧ y < Numeral.signed32 := by
    have h32 : Numeral.signed32 = 2147483648 := rfl
    omega
  have hlt : y.natAbs < Numeral.signed64 := by
    have h64 : Numeral.signed64 = 9223372036854775808 := rfl
    omega
  unfold yearText
  split
  next hfour =>
    have hn : y.toNat < 10 ^ 4 := by omega
    have hread := number_padded (by decide : 0 < 4) hn (Nat.lt_trans hn (by decide)) ('-' :: rest)
    have hy : (y.toNat : Int) = y := Int.toNat_of_nonneg hfour.1
    obtain ⟨c, cs, heq, hc⟩ := exists_padded 4 y.toNat ('-' :: rest)
    have hminus : c ≠ '-' := by
      rintro rfl
      exact absurd (digit?_of_isDigit hc) (by simp [hmark])
    have hplus : c ≠ '+' := by
      rintro rfl
      exact Numeral.not_isDigit_plus hc
    rw [year, trimLeft_padded]
    rw [heq] at hread ⊢
    split
    next h => exact absurd (List.cons.inj h).1 hminus
    next h => exact absurd (List.cons.inj h).1 hplus
    next =>
      simp only [hread, Except.map, Bind.bind, Except.bind, hy, if_pos hrange]
      rfl
  next hfour =>
    split
    next hneg =>
      have hread : number _ (padded 4 y.natAbs ++ '-' :: rest) = _ := number_signed hmark hlt
      have hy : -(y.natAbs : Int) = y := by omega
      have htrim : Text.trimLeft ('-' :: (padded 4 y.natAbs ++ '-' :: rest)) =
          '-' :: (padded 4 y.natAbs ++ '-' :: rest) := rfl
      rw [year, List.cons_append, htrim]
      simp only [hread, Except.map, Bind.bind, Except.bind, hy, if_pos hrange]
      rfl
    next hpos =>
      have hread : number _ (padded 4 y.natAbs ++ '-' :: rest) = _ := number_signed hmark hlt
      have hy : (y.natAbs : Int) = y := by omega
      have htrim : Text.trimLeft ('+' :: (padded 4 y.natAbs ++ '-' :: rest)) =
          '+' :: (padded 4 y.natAbs ++ '-' :: rest) := rfl
      rw [year, List.cons_append, htrim]
      simp only [hread, Except.map, Bind.bind, Except.bind, hy, if_pos hrange]
      rfl

theorem fraction_group (hw : 0 < width) (hroom : width ≤ 9) (hn : n < 10 ^ width) (rest : List Char) :
    fraction ('.' :: padded width n ++ 'Z' :: rest) = .ok (n * Nat.pow 10 (9 - width), 'Z' :: rest) := by
  have hstop : digit? 'Z' = none := by decide
  have hskip : ('Z' :: rest).dropWhile (fun c => (digit? c).isSome) = 'Z' :: rest := rfl
  have hlen := length_padded hw hn
  have hlt : n < Numeral.signed64 :=
    calc n < 10 ^ width := hn
      _ ≤ 10 ^ 9 := Nat.pow_le_pow_right (by decide) hroom
      _ ≤ Numeral.signed64 := by decide
  have hread : number 9 (padded width n ++ 'Z' :: rest) = .ok (continued 0 (padded width n), 'Z' :: rest) :=
    number_digits (padded_ne_nil width n) isDigit_padded (by omega) (.inr (stops_cons hstop rest))
      (by rwa [continued_padded])
  have hcut : (padded width n ++ 'Z' :: rest).length - ('Z' :: rest).length = width := by
    rw [List.length_append, hlen]
    omega
  rw [continued_padded] at hread
  rw [List.cons_append, fraction]
  simp only [hread, Bind.bind, Except.bind, pure, Except.pure, hskip, hcut]

theorem fraction_written (hn : n < billion) (rest : List Char) :
    fraction (fractionText n ++ 'Z' :: rest) = .ok (n, 'Z' :: rest) := by
  have hbillion : billion = 1000000000 := rfl
  unfold fractionText
  split
  next hzero =>
    rw [hzero]
    rfl
  next =>
    split
    next hmilli =>
      have hvalue : n / 1000000 * Nat.pow 10 (9 - 3) = n := by
        change n / 1000000 * 1000000 = n
        omega
      rw [fraction_group (by decide) (by decide) (by omega), hvalue]
    next =>
      split
      next hmicro =>
        have hvalue : n / 1000 * Nat.pow 10 (9 - 6) = n := by
          change n / 1000 * 1000 = n
          omega
        rw [fraction_group (by decide) (by decide) (by omega), hvalue]
      next =>
        have hvalue : n * Nat.pow 10 (9 - 9) = n := Nat.mul_one n
        rw [fraction_group (by decide) (by decide) (by omega), hvalue]

end Parts

section Whole

variable {t : Timestamp}

theorem daysIn_le (y : Int) (m : Nat) : daysIn y m ≤ 31 := by
  unfold daysIn
  split
  · split <;> decide
  all_goals decide

theorem valid_iff : t.valid = true ↔ t.date.valid = true ∧ t.second < 86400 ∧ t.nano < 2 * billion := by
  simp [Timestamp.valid, and_assoc]

def Timestamp.regular (t : Timestamp) : Bool :=
  t.valid && (t.nano < billion || t.second % 60 == 59)

theorem regular_iff : t.regular = true ↔
    t.date.valid = true ∧ t.second < 86400 ∧
      (t.nano < billion ∨ t.nano < 2 * billion ∧ t.second % 60 = 59) := by
  have hbillion : billion = 1000000000 := rfl
  simp only [Timestamp.regular, Bool.and_eq_true, Bool.or_eq_true, valid_iff, decide_eq_true_eq, beq_iff_eq, and_assoc]
  refine and_congr_right fun _ => and_congr_right fun _ => ?_
  omega

theorem leap_second (hs : t.nano < billion ∨ t.nano < 2 * billion ∧ t.second % 60 = 59) :
    (if t.second % 60 + t.nano / billion == 60 then 59 else t.second % 60 + t.nano / billion) = t.second % 60 ∧
      (if t.second % 60 + t.nano / billion == 60 then t.nano % billion + billion else t.nano % billion) = t.nano := by
  have hbillion : billion = 1000000000 := rfl
  have hlt : t.second % 60 < 60 := Nat.mod_lt _ (by decide)
  rcases Nat.lt_or_ge t.nano billion with hplain | hleap
  · have hzero : t.nano / billion = 0 := Nat.div_eq_of_lt hplain
    have hne : (t.second % 60 == 60) = false := beq_eq_false_iff_ne.mpr (by omega)
    rw [hzero, Nat.add_zero, hne, Nat.mod_eq_of_lt hplain]
    exact ⟨rfl, rfl⟩
  · obtain ⟨hless, hlast⟩ := hs.resolve_left (by omega)
    have hone : t.nano / billion = 1 := by
      rw [hbillion] at hless hleap ⊢
      omega
    have hwhole := Nat.div_add_mod t.nano billion
    rw [hone, Nat.mul_one] at hwhole
    rw [hone, hlast]
    exact ⟨rfl, (Nat.add_comm _ _).trans hwhole⟩

theorem parts_written (h : t.regular = true) : parts t.toChars = .ok ((t, 0), []) := by
  obtain ⟨hdate, hsecond, hnano⟩ := regular_iff.mp h
  have hbillion : billion = 1000000000 := rfl
  simp only [Date.valid, Bool.and_eq_true, decide_eq_true_eq] at hdate
  obtain ⟨⟨⟨⟨⟨hfirst, hlast⟩, hmonth⟩, hmonth'⟩, hday⟩, hday'⟩ := hdate
  have hdays := Nat.le_trans hday' (daysIn_le t.date.year t.date.month)
  have month := field_padded hmonth hmonth' (by omega)
  have day := field_padded hday hdays (by omega)
  have hour := field_padded (Nat.zero_le (t.second / 3600)) (by omega : t.second / 3600 ≤ 23) (by omega)
  have minute := field_padded (Nat.zero_le (t.second / 60 % 60)) (by omega : t.second / 60 % 60 ≤ 59) (by omega)
  have hsixty : t.second % 60 + t.nano / billion ≤ 60 := by
    rw [hbillion] at hnano ⊢
    omega
  have second := field_padded (Nat.zero_le (t.second % 60 + t.nano / billion)) hsixty (by omega)
  have nano := fraction_written (Nat.mod_lt t.nano (by decide : 0 < billion)) []
  have dash : ∀ rest, mark '-' ('-' :: rest) = .ok ((), rest) := mark_cons (by decide)
  have colon : ∀ rest, mark ':' (':' :: rest) = .ok ((), rest) := mark_cons (by decide)
  have gap : ∀ rest, dateTimeGap ('T' :: rest) = .ok ((), rest) := fun _ => rfl
  have zone : offset (Text.trimLeft ['Z']) = .ok (0, []) := rfl
  obtain ⟨hsec, hnan⟩ := leap_second hnano
  simp only [Timestamp.toChars, List.append_assoc, List.cons_append, parts, Bind.bind, Except.bind,
    year_written hfirst hlast, dash, month, day, gap, hour, colon, minute, second, nano, zone, hsec, hnan, pure,
    Except.pure]
  have hclock : t.second / 3600 * 3600 + t.second / 60 % 60 * 60 + t.second % 60 = t.second := by omega
  rw [hclock]

theorem ofChars_regular (h : t.regular = true) : Timestamp.ofChars t.toChars = .ok t := by
  obtain ⟨hdate, hsecond, -⟩ := regular_iff.mp h
  have hutc : t.utc 0 = t := by
    have hlow : ¬ (t.second : Int) < 0 := by omega
    have hhigh : ¬ 86400 ≤ (t.second : Int) := by omega
    simp only [Timestamp.utc, Int.sub_zero, if_neg hlow, if_neg hhigh, Int.toNat_natCast]
  simp [Timestamp.ofChars, parts_written h, Bind.bind, Except.bind, hdate, hutc, Text.trimLeft, pure, Except.pure]

/-- The time that the text gives. A leap second inside a minute is written like the second after it. -/
def Timestamp.told (t : Timestamp) : Timestamp :=
  if t.nano < billion ∨ t.second % 60 = 59 then t else ⟨t.date, t.second + 1, t.nano - billion⟩

theorem told_regular (h : t.valid = true) : t.told.regular = true := by
  obtain ⟨hdate, hsecond, hnano⟩ := valid_iff.mp h
  have hbillion : billion = 1000000000 := rfl
  rw [regular_iff, Timestamp.told]
  split
  next hplain => exact ⟨hdate, hsecond, hplain.imp_right fun hlast => ⟨hnano, hlast⟩⟩
  next hleap => exact ⟨hdate, by dsimp only; omega, .inl (by dsimp only; omega)⟩

theorem toChars_told (h : t.valid = true) : t.told.toChars = t.toChars := by
  obtain ⟨-, -, hnano⟩ := valid_iff.mp h
  have hbillion : billion = 1000000000 := rfl
  rw [Timestamp.told]
  split
  next => rfl
  next hleap =>
    have hhour : (t.second + 1) / 3600 = t.second / 3600 := by omega
    have hminute : (t.second + 1) / 60 % 60 = t.second / 60 % 60 := by omega
    have hwhole : (t.second + 1) % 60 + (t.nano - billion) / billion = t.second % 60 + t.nano / billion := by
      rw [hbillion] at hleap ⊢
      omega
    have hfraction : (t.nano - billion) % billion = t.nano % billion := by
      rw [hbillion] at hleap ⊢
      omega
    simp only [Timestamp.toChars, hhour, hminute, hwhole, hfraction]

end Whole

end StreamScout.Time
