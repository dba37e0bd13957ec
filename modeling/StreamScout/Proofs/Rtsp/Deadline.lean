import StreamScout.Proofs.Rtsp.Grammar
import StreamScout.Proofs.Stream.Decided
import StreamScout.Proofs.Stream.Deadline
import StreamScout.Rtsp.Exchange

namespace StreamScout.Rtsp

open StreamScout.Stream (Plan Want Arrival Connection Overdue arrivedBy closedBy lineComplete takeLine)
open StreamScout.Utf8 (encode)

variable {room : Nat} {f : Fields} {bs : List UInt8} {text : List Char} {reply : Reply}

theorem IsLine.complete (h : IsLine text) : lineComplete lineLimit (encode text) = true := by
  obtain ⟨front, heq, -⟩ := h.terminated
  simp [lineComplete, heq]

theorem readBody_decided (h : (readBody f).run bs = .ok reply) : (readBody f).decided? bs = some (.ok reply) := by
  obtain ⟨⟨hpos, hmax⟩, body, rest, rfl, hlen, -⟩ := readBody_ok_iff.mp h
  have hlong : f.length ≤ (encode body ++ rest).length := by
    rw [List.length_append]
    omega
  unfold readBody at h ⊢
  rw [if_neg (Nat.ne_of_gt hpos), if_neg (Nat.not_lt.mpr hmax)] at h ⊢
  rw [Plan.decided?, if_pos hlong]
  exact congrArg some h

theorem decided_blank (hline : IsLine text) (hblank : Text.AllBlank text) :
    (readHeaders room f).decided? (encode text ++ bs) = (readBody f).decided? bs := by
  have hkind := ofBytes_blank_iff.mpr ⟨text, hline.lineText, hline.ne_nil, hblank⟩
  cases room with
  | zero | succ room => rw [readHeaders, Plan.decided?, hline.take, if_pos hline.complete, hkind]

theorem readHeaders_decided (h : (readHeaders room f).run bs = .ok reply) :
    (readHeaders room f).decided? bs = some (.ok reply) := by
  induction room generalizing f bs with
  | zero =>
    obtain ⟨text, rest, rfl, hline, ⟨hblank, hbody⟩ | ⟨-, room', f', hroom, -⟩⟩ := readHeaders_step.mp h
    · rw [decided_blank hline hblank]
      exact readBody_decided hbody
    · cases hroom
  | succ room ih =>
    obtain ⟨text, rest, rfl, hline, ⟨hblank, hbody⟩ | ⟨hblank, room', f', hroom, htake, hrun⟩⟩ :=
      readHeaders_step.mp h
    · rw [decided_blank hline hblank]
      exact readBody_decided hbody
    · cases hroom
      have hkind := ofBytes_header_iff.mpr ⟨text, hline.lineText, hblank, rfl⟩
      rw [readHeaders, Plan.decided?, hline.take, if_pos hline.complete, hkind]
      simp only [htake]
      exact ih hrun

theorem ofBytes_decided (h : Reply.ofBytes bs = .ok reply) : readReply.decided? bs = some (.ok reply) := by
  obtain ⟨status, rest, rfl, hline, hsucceeds, hrun⟩ := ofBytes_ok_iff.mp h
  have hheaders := readHeaders_decided hrun
  unfold readReply
  rw [Plan.decided?, hline.take]
  simp only [hline.complete, if_true, hline.lineText, checkStatus_ok_iff.mpr hsucceeds]
  exact hheaders

def verdictBy? (deadline : Nat) (arrivals : List Arrival) (closes : Option Nat) : Option Verdict :=
  readReply.answer? (closedBy deadline arrivals closes) (arrivedBy deadline arrivals)

def wantedBy (deadline : Nat) (arrivals : List Arrival) : Want :=
  (readReply.wants? (arrivedBy deadline arrivals)).getD .line

section

variable {start deadline : Nat} {arrivals : List Arrival} {closes : Option Nat} {verdict : Verdict}

theorem decided_of_verdictBy? (h : verdictBy? deadline arrivals closes = some (.ok reply)) :
    readReply.decided? (arrivedBy deadline arrivals) = some (.ok reply) := by
  unfold verdictBy? Plan.answer? at h
  split at h
  · exact ofBytes_decided (Option.some.inj h)
  · exact h

theorem readBefore_verdict (hstart : start < deadline) (hv : verdictBy? deadline arrivals closes = some verdict) :
    ∃ c, readBefore deadline ⟨start, [], arrivals, closes⟩ = (verdict.mapError .reply, c) ∧ c.now < deadline := by
  obtain ⟨c, hrun, htime⟩ := Connection.run_answer (by decide : 1 ≤ readerCapacity) readReply
    (c := ⟨start, [], arrivals, closes⟩) ⟨hstart, rfl⟩ hv
  refine ⟨c, ?_, htime⟩
  rw [readBefore, hrun]
  cases verdict with
  | ok reply => rfl
  | error e => rfl

theorem readBefore_overdue (hstart : start < deadline) (hv : verdictBy? deadline arrivals closes = none) :
    ∃ c, readBefore deadline ⟨start, [], arrivals, closes⟩ =
      (.error (@ReadError.timedOut (wantedBy deadline arrivals)), c) ∧ c.now = deadline := by
  obtain ⟨want, c, hrun, hwants, htime⟩ := Connection.run_overdue (by decide : 1 ≤ readerCapacity) readReply
    (c := ⟨start, [], arrivals, closes⟩) ⟨hstart, rfl⟩ hv
  have hwanted : wantedBy deadline arrivals = want := congrArg (·.getD .line) hwants
  exact ⟨c, by rw [readBefore, hrun, hwanted], htime⟩

theorem readBefore_late (hstart : deadline ≤ start) (arrivals : List Arrival) (closes : Option Nat) :
    readBefore deadline ⟨start, [], arrivals, closes⟩ =
      (.error (@ReadError.deadline .line), ⟨start, [], arrivals, closes⟩) := by
  have hfill : (Connection.feed deadline readerCapacity).fill ⟨start, [], arrivals, closes⟩ =
      (.error .passed, ⟨start, [], arrivals, closes⟩) := by
    simp [Connection.feed, Connection.fill, hstart]
  have hrun : (Connection.feed deadline readerCapacity).run readReply ⟨start, [], arrivals, closes⟩ =
      (.error (.line, .passed), ⟨start, [], arrivals, closes⟩) := by
    rw [readReply, Stream.Feed.run, lineLimit, Stream.Feed.readLine, hfill]
  rw [readBefore, hrun]

end

theorem reply_by_deadline (start deadline : Nat) (arrivals : List Arrival) (closes : Option Nat) :
    let read := readBefore deadline ⟨start, [], arrivals, closes⟩
    read.2.now ≤ max start deadline ∧
      (deadline ≤ start → read.1 = .error (@ReadError.deadline .line)) ∧
      (start < deadline → read.1 = match verdictBy? deadline arrivals closes with
        | some verdict => verdict.mapError .reply
        | none => .error (@ReadError.timedOut (wantedBy deadline arrivals))) ∧
      ∀ reply, read.1 = .ok reply → ∀ more, Reply.ofBytes (arrivedBy deadline arrivals ++ more) = .ok reply := by
  intro read
  rcases Nat.lt_or_ge start deadline with hstart | hstart
  · cases hv : verdictBy? deadline arrivals closes with
    | some verdict =>
      obtain ⟨c, hread, htime⟩ := readBefore_verdict hstart hv
      have hresult : read = (verdict.mapError .reply, c) := hread
      rw [hresult]
      have hby : c.now ≤ max start deadline := Nat.le_trans (Nat.le_of_lt htime) (Nat.le_max_right _ _)
      refine ⟨hby, fun hlate => by omega, fun _ => rfl, ?_⟩
      intro reply hok more
      cases verdict with
      | error e => cases hok
      | ok got =>
        cases hok
        exact Plan.run_of_decided? (Plan.decided?_append (decided_of_verdictBy? hv) more)
    | none =>
      obtain ⟨c, hread, htime⟩ := readBefore_overdue hstart hv
      have hresult : read = (.error (@ReadError.timedOut (wantedBy deadline arrivals)), c) := hread
      rw [hresult]
      exact ⟨htime ▸ Nat.le_max_right _ _, fun hlate => by omega, fun _ => rfl, nofun⟩
  · have hresult : read = (.error (@ReadError.deadline .line), ⟨start, [], arrivals, closes⟩) :=
      readBefore_late hstart arrivals closes
    rw [hresult]
    exact ⟨Nat.le_max_left _ _, fun _ => rfl, fun hearly => by omega, nofun⟩

theorem reply_by_deadline_trickle :
    let arrivals : List Arrival :=
      [⟨1, Utf8.bytes "RTSP/1.0 200 OK\r"⟩, ⟨2, Utf8.bytes "\nContent-Length"⟩, ⟨3, Utf8.bytes ": 3\r\n\r"⟩,
        ⟨4, Utf8.bytes "\nv="⟩, ⟨5, Utf8.bytes "0"⟩, ⟨9, Utf8.bytes "s=late"⟩]
    (0 < 6 ∧ (readBefore 6 ⟨0, [], arrivals, none⟩).1 = .ok ⟨none, "v=0"⟩ ∧
        Reply.ofBytes (arrivedBy 6 arrivals ++ Utf8.bytes "s=late") = .ok ⟨none, "v=0"⟩) ∧
      (0 < 5 ∧ (readBefore 5 ⟨0, [], arrivals, none⟩).1 = .error (@ReadError.timedOut .exactly) ∧
        (readBefore 5 ⟨0, [], arrivals, none⟩).2.now ≤ 5) ∧
      6 ≤ 7 ∧ (readBefore 6 ⟨7, [], arrivals, none⟩).1 = .error (@ReadError.deadline .line) := by
  intro arrivals
  have hwhole : verdictBy? 6 arrivals none = some (.ok ⟨none, "v=0"⟩) := by decide +kernel
  have hshort : verdictBy? 5 arrivals none = none := by decide +kernel
  have hbody : wantedBy 5 arrivals = .exactly := by decide +kernel
  obtain ⟨-, -, hread, hstays⟩ := reply_by_deadline 0 6 arrivals none
  obtain ⟨htime, -, hover, -⟩ := reply_by_deadline 0 5 arrivals none
  rw [hwhole] at hread
  simp only [hshort, hbody] at hover
  exact ⟨⟨by decide, hread (by decide), hstays _ (hread (by decide)) _⟩, ⟨by decide, hover (by decide), htime⟩,
    by decide, (reply_by_deadline 7 6 arrivals none).2.1 (by decide)⟩

end StreamScout.Rtsp
