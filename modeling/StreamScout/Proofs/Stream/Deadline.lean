import StreamScout.Proofs.Stream.Feed
import StreamScout.Stream.Deadline

namespace StreamScout.Stream

def Plan.answer? {α : Type} (plan : Plan α) (closed : Bool) (bytes : List UInt8) : Option α :=
  if closed then some (plan.run bytes) else plan.decided? bytes

section Schedule

variable {deadline t : Nat} {a : Arrival} {as later : List Arrival} {unread : List UInt8} {closes : Option Nat}

def arrivedBy (deadline : Nat) (arrivals : List Arrival) : List UInt8 :=
  (arrivals.takeWhile (·.time < deadline)).flatMap (·.bytes)

def closedBy (deadline : Nat) (arrivals : List Arrival) (closes : Option Nat) : Bool :=
  arrivals.all (·.time < deadline) && closes.any (· < deadline)

theorem arrivedBy_cons (h : a.time < deadline) : arrivedBy deadline (a :: as) = a.bytes ++ arrivedBy deadline as := by
  simp [arrivedBy, h]

theorem closedBy_cons (h : a.time < deadline) : closedBy deadline (a :: as) closes = closedBy deadline as closes := by
  simp [closedBy, h]

theorem arrivedBy_late (h : deadline ≤ a.time) : arrivedBy deadline (a :: as) = [] := by
  simp [arrivedBy, Nat.not_lt.mpr h]

theorem closedBy_late (h : deadline ≤ a.time) : closedBy deadline (a :: as) closes = false := by
  simp [closedBy, Nat.not_lt.mpr h]

theorem arrivedBy_until (h : t < deadline) (as : List Arrival) : arrivedBy deadline as =
    (as.takeWhile (·.time ≤ t)).flatMap (·.bytes) ++ arrivedBy deadline (as.dropWhile (·.time ≤ t)) := by
  induction as with
  | nil => rfl
  | cons a as ih =>
    by_cases ha : a.time ≤ t
    · simp [arrivedBy_cons (Nat.lt_of_le_of_lt ha h), ha, ih]
    · simp [ha]

theorem closedBy_until (h : t < deadline) (as : List Arrival) :
    closedBy deadline (as.dropWhile (·.time ≤ t)) closes = closedBy deadline as closes := by
  induction as with
  | nil => rfl
  | cons a as ih =>
    by_cases ha : a.time ≤ t
    · simp [closedBy_cons (Nat.lt_of_le_of_lt ha h), ha, ih]
    · simp [ha]

theorem arrivedBy_unread (h : t < deadline) :
    arrivedBy deadline (if unread.isEmpty then later else ⟨t, unread⟩ :: later) =
      unread ++ arrivedBy deadline later := by
  split
  next hnone => rw [List.isEmpty_iff.mp hnone, List.nil_append]
  next => exact arrivedBy_cons h

theorem closedBy_unread (h : t < deadline) :
    closedBy deadline (if unread.isEmpty then later else ⟨t, unread⟩ :: later) closes =
      closedBy deadline later closes := by
  split
  next => rfl
  next => exact closedBy_cons h

end Schedule

namespace Connection

variable {α : Type} {now deadline capacity : Nat} {c : Connection} {bytes : List UInt8}
  {closed : Bool}

def due (deadline : Nat) (c : Connection) : List UInt8 :=
  c.held ++ arrivedBy deadline c.arrivals

structure Early (deadline : Nat) (closed : Bool) (c : Connection) : Prop where
  time : c.now < deadline
  ends : closedBy deadline c.arrivals c.closes = closed

/-- What a fill comes to when these bytes are due. It shows bytes, or the end when no byte is left to come, and fails at
the deadline if there is neither. -/
inductive Filled (deadline : Nat) (bytes : List UInt8) (closed : Bool) :
    Except Overdue (List UInt8) × Connection → Prop where
  | shown {shown : List UInt8} {c : Connection} (early : c.Early deadline closed) (due : c.due deadline = bytes)
      (held : c.held = shown) (last : shown = [] → bytes = [] ∧ closed = true) :
      Filled deadline bytes closed (.ok shown, c)
  | overdue {c : Connection} (time : c.now = deadline) (none : bytes = []) (stays : closed = false) :
      Filled deadline bytes closed (.error .waited, c)

theorem await_filled (hcapacity : 1 ≤ capacity) (hnow : now < deadline) (closes : Option Nat)
    (arrivals : List Arrival) : Filled deadline (arrivedBy deadline arrivals) (closedBy deadline arrivals closes)
      (await deadline capacity closes now arrivals) := by
  have hlast : max now deadline = deadline := Nat.max_eq_right (Nat.le_of_lt hnow)
  induction arrivals generalizing now with
  | nil =>
    cases closes with
    | none => exact .overdue hlast rfl rfl
    | some t =>
      rw [await]
      split
      next ht =>
        have hclosed : closedBy deadline [] (some t) = true := by
          simp [closedBy]
          omega
        exact .shown ⟨ht, rfl⟩ rfl rfl fun _ => ⟨rfl, hclosed⟩
      next ht =>
        have hopen : closedBy deadline [] (some t) = false := by
          simp [closedBy]
          omega
        exact .overdue hlast rfl hopen
  | cons a as ih =>
    rw [await]
    split
    next hlate =>
      have ha : deadline ≤ a.time := by omega
      exact .overdue hlast (arrivedBy_late ha) (closedBy_late ha)
    next hearly =>
      have ht : max now a.time < deadline := Nat.not_le.mp hearly
      have ha : a.time < deadline := by omega
      rw [arrivedBy_cons ha, closedBy_cons ha]
      split
      next hempty =>
        rw [List.isEmpty_iff.mp hempty, List.nil_append]
        exact ih ht (Nat.max_eq_right (Nat.le_of_lt ht))
      next hfull =>
        -- all that is there by now is shown up to the capacity, and what does not fit stays there
        have hthere : a.bytes ++ arrivedBy deadline as =
            (a.bytes ++ (as.takeWhile (·.time ≤ max now a.time)).flatMap (·.bytes)) ++
              arrivedBy deadline (as.dropWhile (·.time ≤ max now a.time)) := by
          rw [arrivedBy_until ht as, List.append_assoc]
        have hne : a.bytes ++ (as.takeWhile (·.time ≤ max now a.time)).flatMap (·.bytes) ≠ [] :=
          List.append_ne_nil_of_left_ne_nil (by simpa using hfull) _
        dsimp only
        rw [hthere]
        generalize a.bytes ++ (as.takeWhile (·.time ≤ max now a.time)).flatMap (·.bytes) = there at hne ⊢
        refine .shown ⟨ht, ?_⟩ ?_ rfl fun hnone => ?_
        · rw [closedBy_unread ht, closedBy_until ht]
        · rw [due, arrivedBy_unread ht, ← List.append_assoc, List.take_append_drop]
        · rcases List.take_eq_nil_iff.mp hnone with hzero | hnil
          · omega
          · exact absurd hnil hne

theorem fill_filled (hcapacity : 1 ≤ capacity) (h : c.Early deadline closed) :
    Filled deadline (c.due deadline) closed (c.fill deadline capacity) := by
  rw [fill]
  split
  next hheld => exact .shown h rfl rfl fun hnil => by simp [hnil] at hheld
  next hheld =>
    have hnil : c.held = [] := by simpa using hheld
    have hwait := await_filled hcapacity h.time c.closes c.arrivals
    rw [if_neg (Nat.not_le.mpr h.time), due, hnil, List.nil_append, ← h.ends]
    exact hwait

theorem keeps_early (hcapacity : 1 ≤ capacity) (deadline : Nat) (closed : Bool) :
    (feed deadline capacity).Keeps (Early deadline closed) where
  fill c shown c' hc hfill := by
    have hfilled := fill_filled hcapacity hc
    change c.fill deadline capacity = _ at hfill
    rw [hfill] at hfilled
    cases hfilled with
    | shown early => exact early
  consume _ _ hc := ⟨hc.time, hc.ends⟩

theorem carries_early (hcapacity : 1 ≤ capacity) (deadline : Nat) (closed : Bool) :
    (Feed.within (keeps_early hcapacity deadline closed)).Carries (fun c => c.1.due deadline) (closed = true) where
  shows c hdue := by
    have hfilled := fill_filled hcapacity c.2
    cases hfill : c.1.fill deadline capacity with
    | mk r c' =>
      rw [hfill] at hfilled
      cases hfilled with
      | overdue _ hnone => exact absurd hnone hdue
      | @shown shown c' hearly hsame hheld hlast =>
        cases shown with
        | nil => exact absurd (hlast rfl).1 hdue
        | cons b bs =>
          refine ⟨b, bs, arrivedBy deadline c'.arrivals, ⟨c', hearly⟩, Feed.within_ok _ hfill, ?_, ?_⟩
          · rw [← hsame, due, hheld]
          · intro n hn
            rw [← hsame, due, due, hheld, List.drop_append_of_le_length hn, ← hheld]
            rfl
  spent c hdue := by
    have hfilled := fill_filled hcapacity c.2
    cases hfill : c.1.fill deadline capacity with
    | mk r c' =>
      rw [hfill] at hfilled
      cases hfilled with
      | overdue _ _ hopen =>
        obtain ⟨p, hp⟩ := Feed.within_error (keeps_early hcapacity deadline closed) hfill
        exact .inr ⟨by simp [hopen], p, c, hp⟩
      | @shown shown c' hearly hsame hheld hlast =>
        have hnil : shown = [] := by
          rw [hdue, due, hheld] at hsame
          exact (List.append_eq_nil_iff.mp hsame).1
        subst hnil
        exact .inl ⟨(hlast rfl).2, ⟨c', hearly⟩, Feed.within_ok _ hfill, hsame.trans hdue⟩

theorem run_answer (hcapacity : 1 ≤ capacity) (plan : Plan α) (h : c.Early deadline closed) {v : α}
    (hv : plan.answer? closed (c.due deadline) = some v) :
    ∃ c', (feed deadline capacity).run plan c = (.ok v, c') ∧ c'.now < deadline := by
  have hcarries := carries_early hcapacity deadline closed
  have hplain := Feed.plain_run (keeps_early hcapacity deadline closed) plan ⟨c, h⟩
  have hrun : ((Feed.within (keeps_early hcapacity deadline closed)).run plan ⟨c, h⟩).1 = .ok v := by
    cases closed with
    | true =>
      obtain ⟨s, hclosed, -⟩ := hcarries.run_closed rfl plan ⟨c, h⟩
      rw [hclosed]
      exact congrArg Except.ok (Option.some.inj hv)
    | false => exact ((hcarries.run_open nofun plan ⟨c, h⟩).ok_iff v).mpr hv
  generalize (Feed.within (keeps_early hcapacity deadline closed)).run plan ⟨c, h⟩ = got at hplain hrun
  obtain ⟨r, s⟩ := got
  cases hrun
  exact ⟨s.1, hplain.symm, s.2.time⟩

theorem run_overdue (hcapacity : 1 ≤ capacity) (plan : Plan α) (h : c.Early deadline closed)
    (hv : plan.answer? closed (c.due deadline) = none) :
    ∃ want c', (feed deadline capacity).run plan c = (.error (want, .waited), c') ∧
      plan.wants? (c.due deadline) = some want ∧ c'.now = deadline := by
  cases closed with
  | true => cases hv
  | false =>
    have hplain := Feed.plain_run (keeps_early hcapacity deadline false) plan ⟨c, h⟩
    have hhalts := (carries_early hcapacity deadline false).run_open nofun plan ⟨c, h⟩
    generalize (Feed.within (keeps_early hcapacity deadline false)).run plan ⟨c, h⟩ = got at hplain hhalts
    obtain ⟨r, s'⟩ := got
    cases hhalts with
    | decided value => cases hv.symm.trans value
    | @waits want p undecided wants =>
      obtain ⟨⟨e, c'⟩, s, hs, hfill⟩ := p
      have hfilled := fill_filled hcapacity hs
      change s.fill deadline capacity = _ at hfill
      rw [hfill] at hfilled
      cases hfilled with
      | overdue htime => exact ⟨want, c', hplain.symm, wants, htime⟩

end Connection

end StreamScout.Stream
