import Mathlib.Data.List.Basic
import StreamScout.Stream.Plan

namespace StreamScout.Stream

variable {limit : Nat} {b : UInt8} {bs line rest part left xs : List UInt8}

def Terminated (line : List UInt8) : Prop :=
  ∃ front, line = front ++ [lineFeed] ∧ lineFeed ∉ front

theorem takeLine_nil (limit : Nat) : takeLine limit [] = ([], []) := by
  cases limit <;> rfl

theorem takeLine_append (limit : Nat) (bs : List UInt8) :
    (takeLine limit bs).1 ++ (takeLine limit bs).2 = bs := by
  induction limit generalizing bs with
  | zero => rfl
  | succ n ih =>
    cases bs with
    | nil => rfl
    | cons b bs =>
      rw [takeLine]
      split
      · rfl
      · exact congrArg (List.cons b) (ih bs)

theorem takeLine_length (limit : Nat) (bs : List UInt8) : (takeLine limit bs).1.length ≤ limit := by
  induction limit generalizing bs with
  | zero => exact Nat.le_refl 0
  | succ n ih =>
    cases bs with
    | nil => exact Nat.zero_le _
    | cons b bs =>
      rw [takeLine]
      split
      · simp
      · exact Nat.succ_le_succ (ih bs)

theorem Terminated.cons (h : Terminated line) (hb : b ≠ lineFeed) : Terminated (b :: line) := by
  obtain ⟨front, rfl, hfront⟩ := h
  exact ⟨b :: front, rfl, by simp [hfront, Ne.symm hb]⟩

theorem takeLine_cases (limit : Nat) (bs : List UInt8) :
    Terminated (takeLine limit bs).1 ∨
      lineFeed ∉ (takeLine limit bs).1 ∧ ((takeLine limit bs).1.length = limit ∨ (takeLine limit bs).2 = []) := by
  induction limit generalizing bs with
  | zero => exact .inr ⟨by simp [takeLine], .inl rfl⟩
  | succ n ih =>
    cases bs with
    | nil => exact .inr ⟨by simp [takeLine], .inr rfl⟩
    | cons b bs =>
      rw [takeLine]
      split
      · rename_i hb
        exact .inl ⟨[], by simp [hb], by simp⟩
      · rename_i hb
        rcases ih bs with hterm | ⟨hnone, hend⟩
        · exact .inl (hterm.cons hb)
        · exact .inr ⟨by simp [hnone, Ne.symm hb], hend.imp (congrArg Nat.succ) id⟩

theorem takeLine_terminated (h : Terminated line) (hlen : line.length ≤ limit) (rest : List UInt8) :
    takeLine limit (line ++ rest) = (line, rest) := by
  obtain ⟨front, rfl, hfront⟩ := h
  induction front generalizing limit with
  | nil =>
    cases limit with
    | zero => simp at hlen
    | succ n => rfl
  | cons b front ih =>
    cases limit with
    | zero => simp at hlen
    | succ n =>
      have hb : b ≠ lineFeed := fun heq => hfront (by simp [heq])
      have hrec := @ih n (fun hmem => hfront (by simp [hmem])) (by simpa using hlen)
      simp only [List.cons_append, takeLine, if_neg hb, hrec]

theorem lineComplete_cons (hb : b ≠ lineFeed) :
    lineComplete (limit + 1) (b :: line) = lineComplete limit line := by
  cases line with
  | nil =>
    have hzero : (0 == limit) = (limit == 0) := BEq.comm
    simp [lineComplete, hb, hzero]
  | cons c line => simp [lineComplete]

theorem lineComplete_append (hnone : lineFeed ∉ part) (hlen : part.length ≤ limit) (line : List UInt8) :
    lineComplete limit (part ++ line) = lineComplete (limit - part.length) line := by
  have hlast : part.getLast? ≠ some lineFeed := fun h => hnone (List.mem_of_getLast? h)
  have hlength : part.length + line.length = limit ↔ line.length = limit - part.length := by omega
  have hend : (part ++ line).getLast? = some lineFeed ↔ line.getLast? = some lineFeed := by
    cases hline : line.getLast? with
    | none => simp [List.getLast?_append, hline, hlast]
    | some c => simp [List.getLast?_append, hline]
  rw [Bool.eq_iff_iff]
  simp only [lineComplete, Bool.or_eq_true, beq_iff_eq, List.length_append, hlength, hend]

theorem lineComplete_takeLine (h : limit ≤ bs.length) : lineComplete limit (takeLine limit bs).1 = true := by
  rcases takeLine_cases limit bs with ⟨front, hline, -⟩ | ⟨-, hfull | hend⟩
  · simp [lineComplete, hline]
  · simp [lineComplete, hfull]
  · have happend := takeLine_append limit bs
    have hshort := takeLine_length limit bs
    rw [hend, List.append_nil] at happend
    rw [happend] at hshort ⊢
    simp [lineComplete, Nat.le_antisymm hshort h]

theorem takeLine_append_of_complete (hline : takeLine limit xs = (part, left))
    (h : lineComplete limit part = true) (ys : List UInt8) : takeLine limit (xs ++ ys) = (part, left ++ ys) := by
  induction limit generalizing xs part with
  | zero =>
    cases hline
    rfl
  | succ limit ih =>
    cases xs with
    | nil =>
      cases hline
      simp [lineComplete] at h
    | cons b xs =>
      rw [takeLine] at hline
      rw [List.cons_append, takeLine]
      by_cases hb : b = lineFeed
      · rw [if_pos hb] at hline ⊢
        cases hline
        rfl
      · rw [if_neg hb] at hline ⊢
        cases hline
        rw [lineComplete_cons hb] at h
        rw [ih rfl h]

theorem takeLine_append_of_no_feed (hline : takeLine limit xs = (part, left)) (h : lineFeed ∉ part)
    (ys : List UInt8) : takeLine limit (xs ++ ys) =
      (part ++ (takeLine (limit - part.length) (left ++ ys)).1, (takeLine (limit - part.length) (left ++ ys)).2) := by
  induction limit generalizing xs part with
  | zero =>
    cases hline
    rfl
  | succ limit ih =>
    cases xs with
    | nil =>
      cases hline
      rfl
    | cons b xs =>
      rw [takeLine] at hline
      rw [List.cons_append, takeLine]
      by_cases hb : b = lineFeed
      · rw [if_pos hb] at hline
        cases hline
        simp [hb] at h
      · rw [if_neg hb] at hline ⊢
        cases hline
        rw [ih rfl fun hmem => h (List.mem_cons_of_mem b hmem)]
        simp

theorem takeLine_part (hline : takeLine limit xs = (part, left)) :
    part.getLast? = some lineFeed ∨ part.getLast? ≠ some lineFeed ∧ lineFeed ∉ part := by
  rcases takeLine_cases limit xs with ⟨front, hfront, -⟩ | ⟨hnone, -⟩
  · rw [hline] at hfront
    obtain rfl : part = front ++ [lineFeed] := hfront
    exact .inl List.getLast?_concat
  · rw [hline] at hnone
    exact .inr ⟨fun h => hnone (List.mem_of_getLast? h), hnone⟩

theorem takeLine_pos (hline : takeLine (limit + 1) (b :: xs) = (part, left)) : 0 < part.length := by
  rw [takeLine] at hline
  split at hline
  · cases hline
    exact Nat.one_pos
  · cases hline
    exact Nat.succ_pos _

end StreamScout.Stream
