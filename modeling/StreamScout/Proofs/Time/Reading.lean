import StreamScout.Proofs.Sequence
import StreamScout.Proofs.Time.Spelling

namespace StreamScout.Time

variable {room n m low high : Nat} {cs rest : List Char} {t : Timestamp} {off : Int}

theorem digit?_lt {c : Char} {d : Nat} (h : Numeral.digit? c = some d) : d < 10 := by
  obtain ⟨hc, rfl⟩ := Numeral.digit?_eq_some.mp h
  have hbounds : 48 ≤ c.toNat ∧ c.toNat ≤ 57 := Char.isDigit_iff_toNat.mp (Numeral.isDigit_iff.mp hc)
  have hzero : '0'.toNat = 48 := rfl
  omega

theorem digitsFrom_bounds (h : digitsFrom room n cs = .ok (m, rest)) :
    ∃ k ≤ room, cs.length = rest.length + k ∧ m < (n + 1) * 10 ^ k := by
  induction room generalizing n cs with
  | zero =>
    cases h
    exact ⟨0, Nat.le_refl 0, rfl, by omega⟩
  | succ room ih =>
    cases cs with
    | nil =>
      cases h
      exact ⟨0, Nat.zero_le _, rfl, by omega⟩
    | cons c cs =>
      rw [digitsFrom] at h
      split at h
      next =>
        cases h
        exact ⟨0, Nat.zero_le _, rfl, by omega⟩
      next d hd =>
        split at h
        next =>
          have hd := digit?_lt hd
          obtain ⟨k, hk, hlen, hm⟩ := ih h
          refine ⟨k + 1, Nat.succ_le_succ hk, by rw [List.length_cons, hlen]; omega, Nat.lt_of_lt_of_le hm ?_⟩
          calc (n * 10 + d + 1) * 10 ^ k ≤ ((n + 1) * 10) * 10 ^ k := Nat.mul_le_mul_right _ (by omega)
            _ = (n + 1) * 10 ^ (k + 1) := by rw [Nat.mul_assoc, ← Nat.pow_succ']
        next => cases h

theorem number_bounds (h : number room cs = .ok (n, rest)) :
    ∃ k ≤ room, cs.length = rest.length + k ∧ n < 10 ^ k := by
  cases cs with
  | nil => cases h
  | cons c cs =>
    rw [number] at h
    split at h
    next =>
      obtain ⟨k, hk, hlen, hn⟩ := digitsFrom_bounds h
      exact ⟨k, hk, hlen, by simpa using hn⟩
    next => cases h

theorem field_bounds (h : field low high cs = .ok (n, rest)) : low ≤ n ∧ n ≤ high := by
  unfold field at h
  split at h
  next => cases h
  next =>
    split at h
    next hbounds =>
      cases h
      exact hbounds
    next => cases h

theorem fraction_lt (h : fraction cs = .ok (n, rest)) : n < billion := by
  unfold fraction at h
  split at h
  next rest' =>
    obtain ⟨⟨n', r⟩, hnumber, h⟩ := exists_of_bind h
    cases h
    obtain ⟨k, hk, hlen, hn⟩ := number_bounds hnumber
    rw [hlen, Nat.add_sub_cancel_left]
    calc n' * 10 ^ (9 - k) < 10 ^ k * 10 ^ (9 - k) := Nat.mul_lt_mul_of_pos_right hn (Nat.pow_pos (by decide))
      _ = 10 ^ 9 := by rw [← Nat.pow_add, Nat.add_sub_cancel' hk]
  next =>
    cases h
    decide

theorem offsetSize_minutes (h : offsetSize cs = .ok (n, rest)) : n % 60 = 0 := by
  obtain ⟨⟨⟨h1, h2⟩, cs₁⟩, -, h⟩ := exists_of_bind h
  obtain ⟨⟨⟨m1, m2⟩, cs₂⟩, -, h⟩ := exists_of_bind h
  dsimp only at h
  split at h
  next =>
    cases h
    omega
  next => cases h

theorem signed_minutes (sign : Nat → Int) (hsign : ∀ n, n % 60 = 0 → sign n % 60 = 0)
    (h : ((offsetSize cs).map fun (n, r) => (sign n, r)) = .ok (off, rest)) : off % 60 = 0 := by
  obtain ⟨⟨n, r⟩, hsize, heq⟩ := exists_of_map h
  cases heq
  exact hsign n (offsetSize_minutes hsize)

theorem offset_minutes (h : offset cs = .ok (off, rest)) : off % 60 = 0 := by
  unfold offset at h
  split at h
  next => cases h; rfl
  next => cases h; rfl
  next => exact signed_minutes (fun n => (n : Int)) (by omega) h
  next => exact signed_minutes (fun n => -(n : Int)) (by omega) h
  next => exact signed_minutes (fun n => -(n : Int)) (by omega) h
  next => cases h
  next =>
    split at h
    next => cases h; rfl
    next => cases h

theorem parts_bounds (h : parts cs = .ok ((t, off), rest)) :
    t.second < 86400 ∧ (t.nano < billion ∨ t.nano < 2 * billion ∧ t.second % 60 = 59) ∧ off % 60 = 0 := by
  obtain ⟨⟨y, cs₁⟩, hyear, h⟩ := exists_of_bind h
  obtain ⟨⟨_, cs₂⟩, hdash, h⟩ := exists_of_bind h
  obtain ⟨⟨month, cs₃⟩, hmonth, h⟩ := exists_of_bind h
  obtain ⟨⟨_, cs₄⟩, hdash', h⟩ := exists_of_bind h
  obtain ⟨⟨day, cs₅⟩, hday, h⟩ := exists_of_bind h
  obtain ⟨⟨_, cs₆⟩, hgap, h⟩ := exists_of_bind h
  obtain ⟨⟨hour, cs₇⟩, hhour, h⟩ := exists_of_bind h
  obtain ⟨⟨_, cs₈⟩, hcolon, h⟩ := exists_of_bind h
  obtain ⟨⟨minute, cs₉⟩, hminute, h⟩ := exists_of_bind h
  obtain ⟨⟨_, cs₁₀⟩, hcolon', h⟩ := exists_of_bind h
  obtain ⟨⟨second, cs₁₁⟩, hsecond, h⟩ := exists_of_bind h
  obtain ⟨⟨nano, cs₁₂⟩, hnano, h⟩ := exists_of_bind h
  obtain ⟨⟨zone, cs₁₃⟩, hzone, h⟩ := exists_of_bind h
  cases h
  have hhour := (field_bounds hhour).2
  have hminute := (field_bounds hminute).2
  have hsecond := (field_bounds hsecond).2
  have hnano := fraction_lt hnano
  by_cases hleap : second = 60
  · subst hleap
    exact ⟨by simp; omega, .inr ⟨by simp; omega, by simp; omega⟩, offset_minutes hzone⟩
  · simp only [beq_iff_eq, hleap, if_false]
    exact ⟨by omega, .inl hnano, offset_minutes hzone⟩

/-- A local time is shifted by whole minutes, so that a leap second stays at the end of a minute. -/
theorem regular_utc (hsecond : t.second < 86400)
    (hnano : t.nano < billion ∨ t.nano < 2 * billion ∧ t.second % 60 = 59) (hoff : off % 60 = 0)
    (hsize : off.natAbs < 86400) (hdate : (t.utc off).date.valid = true) : (t.utc off).regular = true := by
  have hshift : (t.utc off).second < 86400 ∧ (t.utc off).second % 60 = t.second % 60 ∧ (t.utc off).nano = t.nano := by
    unfold Timestamp.utc
    dsimp only
    split
    · exact ⟨by dsimp only; omega, by dsimp only; omega, rfl⟩
    · split
      · exact ⟨by dsimp only; omega, by dsimp only; omega, rfl⟩
      · exact ⟨by dsimp only; omega, by dsimp only; omega, rfl⟩
  obtain ⟨hlt, hminute, hsame⟩ := hshift
  refine regular_iff.mpr ⟨hdate, hlt, ?_⟩
  rwa [hminute, hsame]

theorem regular_ofChars (h : Timestamp.ofChars cs = .ok t) : t.regular = true := by
  obtain ⟨⟨⟨given, off⟩, rest⟩, hparts, h⟩ := exists_of_bind h
  obtain ⟨hsecond, hnano, hoff⟩ := parts_bounds hparts
  dsimp only at h
  split at h
  next => cases h
  next =>
    split at h
    next => cases h
    next hrange =>
      split at h
      next hdate =>
        cases h
        exact regular_utc hsecond hnano hoff (by simp at hrange; omega) hdate
      next => cases h

end StreamScout.Time
