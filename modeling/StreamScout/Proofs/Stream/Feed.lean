import StreamScout.Proofs.Stream.Line
import StreamScout.Stream.Feed

namespace StreamScout.Stream

variable {σ ε α : Type} {turns room : Nat} {closed : Prop} {want : Want}

def Plan.used : Plan α → List UInt8 → List UInt8
  | .answer _, _ => []
  | .line limit next, bs => (takeLine limit bs).1 ++ (next (takeLine limit bs).1).used (takeLine limit bs).2
  | .exactly count next, bs => bs.take count ++ (next (bs.take count)).used (bs.drop count)

def Plan.wants? : Plan α → List UInt8 → Option Want
  | .answer _, _ => none
  | .line limit next, bs =>
      if lineComplete limit (takeLine limit bs).1 then (next (takeLine limit bs).1).wants? (takeLine limit bs).2
      else some .line
  | .exactly count next, bs =>
      if count ≤ bs.length then (next (bs.take count)).wants? (bs.drop count) else some .exactly

namespace Feed

/-- The feed shows the bytes of a stream in their order. When none are left it shows the end of a closed stream, and
fails on an open one. -/
structure Carries (feed : Feed σ ε) (rest : σ → List UInt8) (closed : Prop) : Prop where
  shows : ∀ s, rest s ≠ [] → ∃ b bs later s', feed.fill s = (.ok (b :: bs), s') ∧ rest s = b :: bs ++ later ∧
    ∀ n ≤ (b :: bs).length, rest (feed.consume n s') = (rest s).drop n
  spent : ∀ s, rest s = [] →
    closed ∧ (∃ s', feed.fill s = (.ok [], s') ∧ rest s' = []) ∨ ¬ closed ∧ ∃ e s', feed.fill s = (.error e, s')

inductive Outcome (rest : σ → List UInt8) (closed whole : Prop) (taken left : List UInt8) :
    Except ε (List UInt8) × σ → Prop where
  | read {s : σ} (done : closed ∨ whole) (unread : rest s = left) : Outcome rest closed whole taken left (.ok taken, s)
  | waits {e : ε} {s : σ} (opened : ¬ closed) (short : ¬ whole) : Outcome rest closed whole taken left (.error e, s)

variable {feed : Feed σ ε} {rest : σ → List UInt8}

theorem Carries.readLine_outcome (h : feed.Carries rest closed) (hturns : room ≤ turns) (got : List UInt8) (s : σ) :
    Outcome rest closed (lineComplete room (takeLine room (rest s)).1 = true)
      (got.reverse ++ (takeLine room (rest s)).1) (takeLine room (rest s)).2 (feed.readLine turns room got s) := by
  induction turns generalizing room got s with
  | zero =>
    obtain rfl := Nat.le_zero.mp hturns
    rw [readLine, takeLine, List.append_nil]
    exact .read (.inr rfl) rfl
  | succ turns ih =>
    cases room with
    | zero =>
      rw [readLine, takeLine, List.append_nil]
      exact .read (.inr rfl) rfl
    | succ room =>
      by_cases hrest : rest s = []
      · rw [hrest, takeLine, List.append_nil]
        rcases h.spent s hrest with ⟨hclosed, s', hfill, hs'⟩ | ⟨hopen, e, s', hfill⟩
        · simp only [readLine, hfill]
          exact .read (.inl hclosed) hs'
        · simp only [readLine, hfill]
          exact .waits hopen (by simp [lineComplete])
      · obtain ⟨b, bs, later, s', hfill, hshown, hconsume⟩ := h.shows s hrest
        obtain ⟨part, left, hline⟩ : ∃ part left, takeLine (room + 1) (b :: bs) = (part, left) := ⟨_, _, rfl⟩
        have htaken : part ++ left = b :: bs := by
          have happend := takeLine_append (room + 1) (b :: bs)
          rwa [hline] at happend
        have hleft : rest (feed.consume part.length s') = left ++ later := by
          rw [hconsume part.length (by simp [← htaken]), hshown, ← htaken, List.append_assoc, List.drop_left]
        rw [hshown]
        rcases takeLine_part hline with hlast | ⟨hlast, hnone⟩
        · have hcomplete : lineComplete (room + 1) part = true := by
            simp [lineComplete, hlast]
          rw [takeLine_append_of_complete hline hcomplete]
          simp only [readLine, hfill, hline, hlast, beq_self_eq_true, if_true, List.reverse_append,
            List.reverse_reverse]
          exact .read (.inr hcomplete) hleft
        · -- the line goes on in what the feed shows next
          have hlen := takeLine_length (room + 1) (b :: bs)
          rw [hline] at hlen
          have hpos := takeLine_pos hline
          have hread := @ih (room + 1 - part.length) (by omega) (part.reverse ++ got) (feed.consume part.length s')
          rw [hleft, List.reverse_append, List.reverse_reverse, List.append_assoc] at hread
          rw [takeLine_append_of_no_feed hline hnone, lineComplete_append hnone hlen]
          simp only [readLine, hfill, hline, beq_iff_eq, hlast, if_false]
          exact hread

theorem Carries.readExactly_outcome (h : feed.Carries rest closed) (hturns : room ≤ turns) (got : List UInt8) (s : σ) :
    Outcome rest closed (room ≤ (rest s).length) (got.reverse ++ (rest s).take room) ((rest s).drop room)
      (feed.readExactly turns room got s) := by
  induction turns generalizing room got s with
  | zero =>
    obtain rfl := Nat.le_zero.mp hturns
    rw [readExactly, List.take_zero, List.append_nil]
    exact .read (.inr (Nat.zero_le _)) rfl
  | succ turns ih =>
    cases room with
    | zero =>
      rw [readExactly, List.take_zero, List.append_nil]
      exact .read (.inr (Nat.zero_le _)) rfl
    | succ room =>
      by_cases hrest : rest s = []
      · rw [hrest, List.take_nil, List.drop_nil, List.append_nil]
        rcases h.spent s hrest with ⟨hclosed, s', hfill, hs'⟩ | ⟨hopen, e, s', hfill⟩
        · simp only [readExactly, hfill]
          exact .read (.inl hclosed) hs'
        · simp only [readExactly, hfill]
          exact .waits hopen (by simp)
      · obtain ⟨b, bs, later, s', hfill, hshown, hconsume⟩ := h.shows s hrest
        obtain ⟨part, left, hpart, htaken⟩ : ∃ part left, (b :: bs).take (room + 1) = part ∧ part ++ left = b :: bs :=
          ⟨_, _, rfl, List.take_append_drop (room + 1) (b :: bs)⟩
        have hlen : part.length ≤ room + 1 ∧ 0 < part.length := by
          rw [← hpart, List.length_take, List.length_cons]
          omega
        have hrest : rest s = part ++ (left ++ later) := by
          rw [hshown, ← htaken, List.append_assoc]
        have hleft : rest (feed.consume part.length s') = left ++ later := by
          rw [hconsume part.length (by simp [← htaken]), hrest, List.drop_left]
        have hread := @ih (room + 1 - part.length) (by omega) (part.reverse ++ got) (feed.consume part.length s')
        rw [hleft, List.reverse_append, List.reverse_reverse, List.append_assoc] at hread
        have hwhole : room + 1 ≤ (rest s).length ↔ room + 1 - part.length ≤ (left ++ later).length := by
          rw [hrest, List.length_append]
          omega
        rw [hwhole, hrest, List.take_append, List.drop_append, List.take_of_length_le hlen.1,
          List.drop_eq_nil_of_le hlen.1, List.nil_append]
        simp only [readExactly, hfill, hpart]
        exact hread

theorem Carries.run_closed (h : feed.Carries rest closed) (hclosed : closed) (plan : Plan α) (s : σ) :
    ∃ s', feed.run plan s = (.ok (plan.run (rest s)), s') ∧ plan.used (rest s) ++ rest s' = rest s := by
  induction plan generalizing s with
  | answer v => exact ⟨s, rfl, rfl⟩
  | line limit next ih =>
    have hout := h.readLine_outcome (Nat.le_refl limit) [] s
    generalize hread : feed.readLine limit limit [] s = r at hout
    cases hout with
    | waits hopen => exact absurd hclosed hopen
    | @read s₁ _ hleft =>
      obtain ⟨s', hrun, hused⟩ := ih (takeLine limit (rest s)).1 s₁
      rw [hleft] at hrun hused
      refine ⟨s', ?_, ?_⟩
      · simp only [run, hread, List.reverse_nil, List.nil_append, hrun, Plan.run]
      · rw [Plan.used, List.append_assoc, hused, takeLine_append]
  | exactly count next ih =>
    have hout := h.readExactly_outcome (Nat.le_refl count) [] s
    generalize hread : feed.readExactly count count [] s = r at hout
    cases hout with
    | waits hopen => exact absurd hclosed hopen
    | @read s₁ _ hleft =>
      obtain ⟨s', hrun, hused⟩ := ih ((rest s).take count) s₁
      rw [hleft] at hrun hused
      refine ⟨s', ?_, ?_⟩
      · simp only [run, hread, List.reverse_nil, List.nil_append, hrun, Plan.run]
      · rw [Plan.used, List.append_assoc, hused, List.take_append_drop]

/-- What a plan comes to when no more bytes are to come and the stream stays open: its value if these decide it, else
a failure of the read that waits for more. -/
inductive Halts (plan : Plan α) (bytes : List UInt8) : Except (Want × ε) α → Prop where
  | decided {v : α} (value : plan.decided? bytes = some v) : Halts plan bytes (.ok v)
  | waits {want : Want} {e : ε} (undecided : plan.decided? bytes = none) (wants : plan.wants? bytes = some want) :
      Halts plan bytes (.error (want, e))

theorem Halts.of_eq {plan plan' : Plan α} {bytes bytes' : List UInt8} {r : Except (Want × ε) α}
    (hdecided : plan.decided? bytes = plan'.decided? bytes') (hwants : plan.wants? bytes = plan'.wants? bytes')
    (h : Halts plan' bytes' r) : Halts plan bytes r := by
  cases h with
  | decided value => exact .decided (hdecided.trans value)
  | waits undecided wants => exact .waits (hdecided.trans undecided) (hwants.trans wants)

theorem Carries.run_open (h : feed.Carries rest closed) (hopen : ¬ closed) (plan : Plan α) (s : σ) :
    Halts plan (rest s) (feed.run plan s).1 := by
  induction plan generalizing s with
  | answer v => exact .decided rfl
  | line limit next ih =>
    have hout := h.readLine_outcome (Nat.le_refl limit) [] s
    rw [run]
    generalize feed.readLine limit limit [] s = r at hout
    cases hout with
    | waits _ hshort => exact .waits (if_neg hshort) (if_neg hshort)
    | read hdone hleft =>
      refine Halts.of_eq (if_pos (hdone.resolve_left hopen)) (if_pos (hdone.resolve_left hopen)) ?_
      rw [← hleft]
      exact ih _ _
  | exactly count next ih =>
    have hout := h.readExactly_outcome (Nat.le_refl count) [] s
    rw [run]
    generalize feed.readExactly count count [] s = r at hout
    cases hout with
    | waits _ hshort => exact .waits (if_neg hshort) (if_neg hshort)
    | read hdone hleft =>
      refine Halts.of_eq (if_pos (hdone.resolve_left hopen)) (if_pos (hdone.resolve_left hopen)) ?_
      rw [← hleft]
      exact ih _ _

theorem Halts.ok_iff {plan : Plan α} {bytes : List UInt8} {r : Except (Want × ε) α} (h : Halts plan bytes r) (v : α) :
    r = .ok v ↔ plan.decided? bytes = some v := by
  cases h with
  | decided value => simp [value]
  | waits undecided => simp [undecided]

structure Keeps (feed : Feed σ ε) (good : σ → Prop) : Prop where
  fill : ∀ s bs s', good s → feed.fill s = (.ok bs, s') → good s'
  consume : ∀ n s, good s → good (feed.consume n s)

def Failure (feed : Feed σ ε) (good : σ → Prop) : Type :=
  {p : ε × σ // ∃ s, good s ∧ feed.fill s = (.error p.1, p.2)}

section Within

variable {good : σ → Prop}

def within (h : feed.Keeps good) : Feed {s // good s} (feed.Failure good) where
  fill s :=
    match hfill : feed.fill s.1 with
    | (.ok bs, s') => (.ok bs, ⟨s', h.fill s.1 bs s' s.2 hfill⟩)
    | (.error e, s') => (.error ⟨(e, s'), s.1, s.2, hfill⟩, s)
  consume n s := ⟨feed.consume n s.1, h.consume n s.1 s.2⟩

def plain : Except (feed.Failure good) α × {s // good s} → Except ε α × σ
  | (.ok v, s) => (.ok v, s.1)
  | (.error p, _) => (.error p.1.1, p.1.2)

theorem plain_fill (h : feed.Keeps good) (s : {s // good s}) : plain ((within h).fill s) = feed.fill s.1 := by
  simp only [within]
  split
  next bs s' hfill => exact hfill.symm
  next e s' hfill => exact hfill.symm

theorem within_ok (h : feed.Keeps good) {s : {s // good s}} {bs : List UInt8} {s' : σ}
    (hfill : feed.fill s.1 = (.ok bs, s')) :
    (within h).fill s = (.ok bs, ⟨s', h.fill s.1 bs s' s.2 hfill⟩) := by
  simp only [within]
  split
  next heq =>
    cases hfill.symm.trans heq
    rfl
  next heq => cases hfill.symm.trans heq

theorem within_error (h : feed.Keeps good) {s : {s // good s}} {e : ε} {s' : σ}
    (hfill : feed.fill s.1 = (.error e, s')) : ∃ p, (within h).fill s = (.error p, s) := by
  simp only [within]
  split
  next heq => cases hfill.symm.trans heq
  next heq => exact ⟨_, rfl⟩

theorem plain_readLine (h : feed.Keeps good) (turns room : Nat) (got : List UInt8) (s : {s // good s}) :
    plain ((within h).readLine turns room got s) = feed.readLine turns room got s.1 := by
  induction turns generalizing room got s with
  | zero => rfl
  | succ turns ih =>
    cases room with
    | zero => rfl
    | succ room =>
      have hfill := plain_fill h s
      rw [readLine, readLine, ← hfill]
      rcases (within h).fill s with ⟨e | bs, s'⟩
      · rfl
      · cases bs with
        | nil => rfl
        | cons b bs =>
          dsimp only [plain]
          by_cases hlast : ((takeLine (room + 1) (b :: bs)).1.getLast? == some lineFeed) = true
          · rw [if_pos hlast, if_pos hlast]
            rfl
          · rw [if_neg hlast, if_neg hlast]
            exact ih _ _ _

theorem plain_readExactly (h : feed.Keeps good) (turns room : Nat) (got : List UInt8) (s : {s // good s}) :
    plain ((within h).readExactly turns room got s) = feed.readExactly turns room got s.1 := by
  induction turns generalizing room got s with
  | zero => rfl
  | succ turns ih =>
    cases room with
    | zero => rfl
    | succ room =>
      have hfill := plain_fill h s
      rw [readExactly, readExactly, ← hfill]
      rcases (within h).fill s with ⟨e | bs, s'⟩
      · rfl
      · cases bs with
        | nil => rfl
        | cons b bs => exact ih _ _ _

def plainRun : Except (Want × feed.Failure good) α × {s // good s} → Except (Want × ε) α × σ
  | (.ok v, s) => (.ok v, s.1)
  | (.error (want, p), _) => (.error (want, p.1.1), p.1.2)

theorem plain_run (h : feed.Keeps good) (plan : Plan α) (s : {s // good s}) :
    plainRun ((within h).run plan s) = feed.run plan s.1 := by
  induction plan generalizing s with
  | answer v => rfl
  | line limit next ih =>
    have hread := plain_readLine h limit limit [] s
    rw [run, run, ← hread]
    rcases (within h).readLine limit limit [] s with ⟨e | line, s'⟩
    · rfl
    · exact ih line s'
  | exactly count next ih =>
    have hread := plain_readExactly h count count [] s
    rw [run, run, ← hread]
    rcases (within h).readExactly count count [] s with ⟨e | bs, s'⟩
    · rfl
    · exact ih bs s'

end Within

end Feed

end StreamScout.Stream
