import StreamScout.Text.Utf8

namespace StreamScout.Utf8

theorem toNat_ofNat {n : Nat} (h : n.isValidChar) : (Char.ofNat n).toNat = n := by
  rw [Char.ofNat, dif_pos h]
  rfl

theorem encode_one {c : Char} (h : c.toNat ≤ 0x7F) :
    String.utf8EncodeChar c = [UInt8.ofNat c.toNat] := by
  simp only [String.utf8EncodeChar, Char.toNat_val]
  rw [if_pos h]

theorem encode_two {c : Char} (h : 0x7F < c.toNat) (h' : c.toNat ≤ 0x7FF) :
    String.utf8EncodeChar c =
      [UInt8.ofNat (c.toNat / 64 % 0x20 + 0xC0), UInt8.ofNat (c.toNat % 0x40 + 0x80)] := by
  simp only [String.utf8EncodeChar, Char.toNat_val]
  rw [if_neg (by omega), if_pos h']

theorem encode_three {c : Char} (h : 0x7FF < c.toNat) (h' : c.toNat ≤ 0xFFFF) :
    String.utf8EncodeChar c =
      [UInt8.ofNat (c.toNat / 4096 % 0x10 + 0xE0), UInt8.ofNat (c.toNat / 64 % 0x40 + 0x80),
        UInt8.ofNat (c.toNat % 0x40 + 0x80)] := by
  simp only [String.utf8EncodeChar, Char.toNat_val]
  rw [if_neg (by omega), if_neg (by omega), if_pos h']

theorem encode_four {c : Char} (h : 0xFFFF < c.toNat) :
    String.utf8EncodeChar c =
      [UInt8.ofNat (c.toNat / 262144 % 0x08 + 0xF0), UInt8.ofNat (c.toNat / 4096 % 0x40 + 0x80),
        UInt8.ofNat (c.toNat / 64 % 0x40 + 0x80), UInt8.ofNat (c.toNat % 0x40 + 0x80)] := by
  simp only [String.utf8EncodeChar, Char.toNat_val]
  rw [if_neg (by omega), if_neg (by omega), if_neg (by omega)]

def Unfinished.complete? : Unfinished → List UInt8 → Option Char
  | _, [] => none
  | u, b :: bs =>
      match u.push b.toNat with
      | none => none
      | some (.inl c) => if bs = [] then some c else none
      | some (.inr u') => complete? u' bs

theorem decodeFrom_unfinished {bs : List UInt8} {i : Nat} {u : Unfinished} {acc cs : List Char} :
    decodeFrom bs i (some u) acc = .ok cs ↔
      ∃ tail rest c, bs = tail ++ rest ∧ u.complete? tail = some c ∧
        decodeFrom rest (i + tail.length) none (c :: acc) = .ok cs := by
  induction bs generalizing i u with
  | nil =>
    simp only [decodeFrom, reduceCtorEq, false_iff]
    rintro ⟨tail, rest, c, hnil, hc, -⟩
    obtain ⟨rfl, rfl⟩ := List.nil_eq_append_iff.mp hnil
    simp [Unfinished.complete?] at hc
  | cons b bs ih =>
    have hsplit : (∃ tail rest c, b :: bs = tail ++ rest ∧ u.complete? tail = some c ∧
          decodeFrom rest (i + tail.length) none (c :: acc) = .ok cs) ↔
        ∃ tail rest c, bs = tail ++ rest ∧ u.complete? (b :: tail) = some c ∧
          decodeFrom rest (i + 1 + tail.length) none (c :: acc) = .ok cs := by
      constructor
      · rintro ⟨tail, rest, c, hb, hc, hd⟩
        cases tail with
        | nil => simp [Unfinished.complete?] at hc
        | cons b' tail =>
          obtain ⟨rfl, rfl⟩ := List.cons.inj hb
          exact ⟨tail, rest, c, rfl, hc, by rwa [Nat.add_assoc, Nat.add_comm 1]⟩
      · rintro ⟨tail, rest, c, rfl, hc, hd⟩
        exact ⟨b :: tail, rest, c, rfl, hc, by rwa [List.length_cons, Nat.add_comm tail.length, ← Nat.add_assoc]⟩
    rw [hsplit, decodeFrom]
    cases hp : u.push b.toNat with
    | none => simp [Unfinished.complete?, hp]
    | some r =>
      cases r with
      | inl c =>
        simp only [Unfinished.complete?, hp, Option.ite_none_right_eq_some, Option.some.injEq]
        constructor
        · intro h
          exact ⟨[], bs, c, rfl, ⟨rfl, rfl⟩, h⟩
        · rintro ⟨tail, rest, c', rfl, ⟨rfl, rfl⟩, h⟩
          exact h
      | inr u' => simp only [Unfinished.complete?, hp, ih]

theorem complete_one {i t lo hi v : Nat} {tail : List UInt8} {c : Char} :
    Unfinished.complete? ⟨i, t, 1, lo, hi, v⟩ tail = some c ↔
      ∃ x, tail = [x] ∧ (lo ≤ x.toNat ∧ x.toNat ≤ hi) ∧ Char.ofNat (v * 64 + (x.toNat - 0x80)) = c := by
  cases tail with
  | nil => simp [Unfinished.complete?]
  | cons x xs =>
    by_cases hx : lo ≤ x.toNat ∧ x.toNat ≤ hi
    · by_cases hn : xs = []
      · subst hn; simp [Unfinished.complete?, Unfinished.push, hx]
      · simp [Unfinished.complete?, Unfinished.push, hx, hn]
    · have hp : Unfinished.push ⟨i, t, 1, lo, hi, v⟩ x.toNat = none := by simp [Unfinished.push, hx]
      simp only [Unfinished.complete?, hp, reduceCtorEq, false_iff]
      rintro ⟨y, hy, hr, -⟩
      exact hx ((List.cons.inj hy).1 ▸ hr)

theorem complete_more {i t n lo hi v : Nat} {tail : List UInt8} {c : Char} :
    Unfinished.complete? ⟨i, t, n + 2, lo, hi, v⟩ tail = some c ↔
      ∃ x xs, tail = x :: xs ∧ (lo ≤ x.toNat ∧ x.toNat ≤ hi) ∧
        Unfinished.complete? ⟨i, t + 1, n + 1, 0x80, 0xBF, v * 64 + (x.toNat - 0x80)⟩ xs = some c := by
  cases tail with
  | nil => simp [Unfinished.complete?]
  | cons x xs =>
    have hpush : Unfinished.push ⟨i, t, n + 2, lo, hi, v⟩ x.toNat =
        if lo ≤ x.toNat ∧ x.toNat ≤ hi then
          some (.inr ⟨i, t + 1, n + 1, 0x80, 0xBF, v * 64 + (x.toNat - 0x80)⟩) else none := by
      simp [Unfinished.push]
    by_cases hx : lo ≤ x.toNat ∧ x.toNat ≤ hi
    · rw [if_pos hx] at hpush
      simp only [Unfinished.complete?, hpush]
      constructor
      · exact fun h => ⟨x, xs, rfl, hx, h⟩
      · rintro ⟨y, ys, hy, -, h⟩
        obtain ⟨rfl, rfl⟩ := List.cons.inj hy
        exact h
    · rw [if_neg hx] at hpush
      simp only [Unfinished.complete?, hpush, reduceCtorEq, false_iff]
      rintro ⟨y, ys, hy, hr, -⟩
      exact hx ((List.cons.inj hy).1 ▸ hr)

theorem ofLead_two {i b : Nat} (h : 0xC2 ≤ b ∧ b ≤ 0xDF) :
    Unfinished.ofLead? i b = some ⟨i, 1, 1, 0x80, 0xBF, b - 0xC0⟩ := by
  unfold Unfinished.ofLead?
  rw [if_neg (by omega), if_pos (by omega)]

theorem ofLead_three {i b : Nat} (h : 0xE0 ≤ b ∧ b ≤ 0xEF) :
    Unfinished.ofLead? i b =
      some ⟨i, 1, 2, if b = 0xE0 then 0xA0 else 0x80, if b = 0xED then 0x9F else 0xBF, b - 0xE0⟩ := by
  unfold Unfinished.ofLead?
  rw [if_neg (by omega), if_neg (by omega)]
  by_cases h₀ : b = 0xE0
  · subst h₀; rfl
  by_cases h₁ : b = 0xED
  · subst h₁; rfl
  rw [if_neg h₀, if_neg h₁, if_pos (by omega), if_neg h₀, if_neg h₁]

theorem ofLead_four {i b : Nat} (h : 0xF0 ≤ b ∧ b ≤ 0xF4) :
    Unfinished.ofLead? i b =
      some ⟨i, 1, 3, if b = 0xF0 then 0x90 else 0x80, if b = 0xF4 then 0x8F else 0xBF, b - 0xF0⟩ := by
  unfold Unfinished.ofLead?
  rw [if_neg (by omega), if_neg (by omega), if_neg (by omega), if_neg (by omega), if_neg (by omega)]
  by_cases h₀ : b = 0xF0
  · subst h₀; rfl
  by_cases h₁ : b = 0xF4
  · subst h₁; rfl
  rw [if_neg h₀, if_pos (by omega), if_neg h₀, if_neg h₁]

theorem ofLead_none {i b : Nat} (h : b < 0xC2 ∨ 0xF4 < b) : Unfinished.ofLead? i b = none := by
  unfold Unfinished.ofLead?
  by_cases h₀ : b < 0xC2
  · rw [if_pos h₀]
  rw [if_neg h₀, if_neg (by omega), if_neg (by omega), if_neg (by omega), if_neg (by omega), if_neg (by omega),
    if_neg (by omega), if_neg (by omega)]

theorem eq_ofNat {b : UInt8} {n : Nat} (h : n = b.toNat) : b = UInt8.ofNat n := by
  rw [h, UInt8.ofNat_toNat]

theorem encode_of_complete {b : UInt8} {i : Nat} {u : Unfinished} {tail : List UInt8} {c : Char}
    (hu : Unfinished.ofLead? i b.toNat = some u) (hc : u.complete? tail = some c) :
    String.utf8EncodeChar c = b :: tail := by
  by_cases h₂ : 0xC2 ≤ b.toNat ∧ b.toNat ≤ 0xDF
  · obtain rfl := Option.some.inj ((ofLead_two h₂).symm.trans hu)
    obtain ⟨x, rfl, hx, rfl⟩ := complete_one.mp hc
    generalize hn : (b.toNat - 0xC0) * 64 + (x.toNat - 0x80) = n
    have hv : n.isValidChar := .inl (by omega)
    rw [encode_two (by rw [toNat_ofNat hv]; omega) (by rw [toNat_ofNat hv]; omega), toNat_ofNat hv,
      ← eq_ofNat (b := b) (by omega), ← eq_ofNat (b := x) (by omega)]
  by_cases h₃ : 0xE0 ≤ b.toNat ∧ b.toNat ≤ 0xEF
  · obtain rfl := Option.some.inj ((ofLead_three h₃).symm.trans hu)
    obtain ⟨x, _, rfl, hx, hrest⟩ := complete_more.mp hc
    obtain ⟨y, rfl, hy, rfl⟩ := complete_one.mp hrest
    -- after 0xE0 the second byte rules out shorter encodings, after 0xED surrogates
    have hr : (0x80 ≤ x.toNat ∧ x.toNat ≤ 0xBF) ∧ (b.toNat = 0xE0 → 0xA0 ≤ x.toNat) ∧
        (b.toNat = 0xED → x.toNat ≤ 0x9F) := by
      split at hx <;> split at hx <;> omega
    generalize hn : ((b.toNat - 0xE0) * 64 + (x.toNat - 0x80)) * 64 + (y.toNat - 0x80) = n
    have hv : n.isValidChar := by
      rcases Nat.lt_or_ge 0xED b.toNat with hg | hl
      · exact .inr ⟨by omega, by omega⟩
      · exact .inl (by omega)
    rw [encode_three (by rw [toNat_ofNat hv]; omega) (by rw [toNat_ofNat hv]; omega), toNat_ofNat hv,
      ← eq_ofNat (b := b) (by omega), ← eq_ofNat (b := x) (by omega), ← eq_ofNat (b := y) (by omega)]
  by_cases h₄ : 0xF0 ≤ b.toNat ∧ b.toNat ≤ 0xF4
  · obtain rfl := Option.some.inj ((ofLead_four h₄).symm.trans hu)
    obtain ⟨x, _, rfl, hx, hrest⟩ := complete_more.mp hc
    obtain ⟨y, _, rfl, hy, hrest⟩ := complete_more.mp hrest
    obtain ⟨z, rfl, hz, rfl⟩ := complete_one.mp hrest
    -- after 0xF0 it rules out shorter encodings, after 0xF4 what lies beyond the last code point
    have hr : (0x80 ≤ x.toNat ∧ x.toNat ≤ 0xBF) ∧ (b.toNat = 0xF0 → 0x90 ≤ x.toNat) ∧
        (b.toNat = 0xF4 → x.toNat ≤ 0x8F) := by
      split at hx <;> split at hx <;> omega
    generalize hn : (((b.toNat - 0xF0) * 64 + (x.toNat - 0x80)) * 64 + (y.toNat - 0x80)) * 64 +
      (z.toNat - 0x80) = n
    have hv : n.isValidChar := .inr ⟨by omega, by omega⟩
    rw [encode_four (by rw [toNat_ofNat hv]; omega), toNat_ofNat hv, ← eq_ofNat (b := b) (by omega),
      ← eq_ofNat (b := x) (by omega), ← eq_ofNat (b := y) (by omega), ← eq_ofNat (b := z) (by omega)]
  · rw [ofLead_none (by omega)] at hu
    cases hu

theorem complete_of_encode (i : Nat) {c : Char} (h : 0x7F < c.toNat) :
    ∃ b tail u, String.utf8EncodeChar c = b :: tail ∧ 0x80 ≤ b.toNat ∧
      Unfinished.ofLead? i b.toNat = some u ∧ u.complete? tail = some c := by
  have hv : c.toNat < 0xD800 ∨ 0xDFFF < c.toNat ∧ c.toNat < 0x110000 := c.valid
  generalize hn : c.toNat = n at h hv
  have hc : Char.ofNat n = c := hn ▸ Char.ofNat_toNat c
  have hlast : (UInt8.ofNat (n % 0x40 + 0x80)).toNat = n % 0x40 + 0x80 := by
    rw [UInt8.toNat_ofNat']; omega
  by_cases h₂ : n ≤ 0x7FF
  · have hb : (UInt8.ofNat (n / 64 % 0x20 + 0xC0)).toNat = n / 64 + 0xC0 := by
      rw [UInt8.toNat_ofNat']; omega
    refine ⟨_, _, _, hn ▸ encode_two (hn ▸ h) (hn ▸ h₂), by omega, ofLead_two (by omega),
      complete_one.mpr ⟨_, rfl, by omega, ?_⟩⟩
    rw [hb, hlast, show (n / 64 + 0xC0 - 0xC0) * 64 + (n % 0x40 + 0x80 - 0x80) = n by omega, hc]
  by_cases h₃ : n ≤ 0xFFFF
  · have hb : (UInt8.ofNat (n / 4096 % 0x10 + 0xE0)).toNat = n / 4096 + 0xE0 := by
      rw [UInt8.toNat_ofNat']; omega
    have hx : (UInt8.ofNat (n / 64 % 0x40 + 0x80)).toNat = n / 64 % 0x40 + 0x80 := by
      rw [UInt8.toNat_ofNat']; omega
    refine ⟨_, _, _, hn ▸ encode_three (by omega) (hn ▸ h₃), by omega, ofLead_three (by omega),
      complete_more.mpr ⟨_, _, rfl, ?_, complete_one.mpr ⟨_, rfl, by omega, ?_⟩⟩⟩
    · rw [hb, hx]
      constructor <;> split <;> omega
    · rw [hb, hx, hlast, show ((n / 4096 + 0xE0 - 0xE0) * 64 + (n / 64 % 0x40 + 0x80 - 0x80)) * 64 +
        (n % 0x40 + 0x80 - 0x80) = n by omega, hc]
  · have hb : (UInt8.ofNat (n / 262144 % 0x08 + 0xF0)).toNat = n / 262144 + 0xF0 := by
      rw [UInt8.toNat_ofNat']; omega
    have hx : (UInt8.ofNat (n / 4096 % 0x40 + 0x80)).toNat = n / 4096 % 0x40 + 0x80 := by
      rw [UInt8.toNat_ofNat']; omega
    have hy : (UInt8.ofNat (n / 64 % 0x40 + 0x80)).toNat = n / 64 % 0x40 + 0x80 := by
      rw [UInt8.toNat_ofNat']; omega
    refine ⟨_, _, _, hn ▸ encode_four (by omega), by omega, ofLead_four (by omega),
      complete_more.mpr ⟨_, _, rfl, ?_, complete_more.mpr ⟨_, _, rfl, by omega,
        complete_one.mpr ⟨_, rfl, by omega, ?_⟩⟩⟩⟩
    · rw [hb, hx]
      constructor <;> split <;> omega
    · rw [hb, hx, hy, hlast, show (((n / 262144 + 0xF0 - 0xF0) * 64 + (n / 4096 % 0x40 + 0x80 - 0x80)) * 64 +
        (n / 64 % 0x40 + 0x80 - 0x80)) * 64 + (n % 0x40 + 0x80 - 0x80) = n by omega, hc]

theorem encode_cons (c : Char) (cs : List Char) :
    encode (c :: cs) = String.utf8EncodeChar c ++ encode cs := rfl

theorem length_le_encode (cs : List Char) : cs.length ≤ (encode cs).length := by
  induction cs with
  | nil => exact Nat.le_refl 0
  | cons c cs ih =>
    have hc : 0 < (String.utf8EncodeChar c).length := by
      rw [String.length_utf8EncodeChar]
      exact c.utf8Size_pos
    rw [encode_cons, List.length_cons, List.length_append]
    omega

theorem decodeFrom_encode (cs : List Char) (i : Nat) (acc : List Char) :
    decodeFrom (encode cs) i none acc = .ok (acc.reverse ++ cs) := by
  induction cs generalizing i acc with
  | nil => simp [encode, decodeFrom]
  | cons c cs ih =>
    rw [encode_cons]
    by_cases h : c.toNat ≤ 0x7F
    · have hb : (UInt8.ofNat c.toNat).toNat = c.toNat := by
        rw [UInt8.toNat_ofNat']; omega
      rw [encode_one h, List.singleton_append, decodeFrom, hb, if_pos (by omega), Char.ofNat_toNat, ih]
      simp
    · obtain ⟨b, tail, u, he, hb, hu, hc⟩ := complete_of_encode i (Nat.lt_of_not_le h)
      rw [he, List.cons_append, decodeFrom, if_neg (by omega), hu]
      refine decodeFrom_unfinished.mpr ⟨tail, _, c, rfl, hc, ?_⟩
      rw [ih]
      simp

theorem encode_of_decodeFrom {bs : List UInt8} {i : Nat} {acc cs : List Char}
    (h : decodeFrom bs i none acc = .ok cs) : ∃ ds, bs = encode ds ∧ cs = acc.reverse ++ ds := by
  match bs with
  | [] =>
    simp only [decodeFrom, Except.ok.injEq] at h
    exact ⟨[], rfl, by simp [h]⟩
  | b :: bs =>
    rw [decodeFrom] at h
    split at h
    next hb =>
      obtain ⟨ds, rfl, rfl⟩ := encode_of_decodeFrom h
      have hc : (Char.ofNat b.toNat).toNat = b.toNat := toNat_ofNat (.inl (by omega))
      refine ⟨Char.ofNat b.toNat :: ds, ?_, by simp⟩
      rw [encode_cons, encode_one (by omega), hc, UInt8.ofNat_toNat, List.singleton_append]
    next hb =>
      split at h
      next => cases h
      next u hu =>
        obtain ⟨tail, rest, c, rfl, hc, hrest⟩ := decodeFrom_unfinished.mp h
        obtain ⟨ds, rfl, rfl⟩ := encode_of_decodeFrom hrest
        refine ⟨c :: ds, ?_, by simp⟩
        rw [encode_cons, encode_of_complete hu hc, List.cons_append]
termination_by bs.length

theorem decode_ok_iff {bs : List UInt8} {cs : List Char} : decode bs = .ok cs ↔ bs = encode cs := by
  constructor
  · intro h
    obtain ⟨ds, rfl, rfl⟩ := encode_of_decodeFrom h
    simp
  · rintro rfl
    exact decodeFrom_encode cs 0 []

theorem ne_encode_of_error {bs : List UInt8} {e : Fault} (h : decode bs = .error e) (cs : List Char) :
    bs ≠ encode cs := by
  intro heq
  rw [decode_ok_iff.mpr heq] at h
  cases h

theorem encode_injective {cs ds : List Char} (h : encode cs = encode ds) : cs = ds := by
  have hd : decode (encode cs) = .ok ds := decode_ok_iff.mpr h
  have hc : decode (encode cs) = .ok cs := decode_ok_iff.mpr rfl
  exact Except.ok.inj (hc.symm.trans hd)

theorem bytes_injective {a b : String} (h : bytes a = bytes b) : a = b :=
  String.toList_inj.mp (encode_injective h)

end StreamScout.Utf8
