import StreamScout.Proofs.Stream.Decided
import StreamScout.Proofs.Stream.Pieces
import StreamScout.Rtsp.Reply

namespace StreamScout.Rtsp

open StreamScout.Stream (Plan Pieces)
open StreamScout.Stream.Pieces (answer?)

theorem readBody_within (f : Fields) : (readBody f).Within bodyLimit := by
  unfold readBody
  split
  · exact Plan.within_answer _ _
  · split
    · exact Plan.within_answer _ _
    · rename_i hlarge
      exact (Plan.within_exactly fun _ => Plan.within_answer 0 _).mono (Nat.not_lt.mp hlarge)

theorem readHeaders_within (room : Nat) (f : Fields) :
    (readHeaders room f).Within ((room + 1) * lineLimit + bodyLimit) := by
  induction room generalizing f with
  | zero =>
    have hline : (readHeaders 0 f).Within (lineLimit + bodyLimit) := by
      refine Plan.within_line fun line => ?_
      cases HeaderLine.ofBytes line with
      | fault e => exact Plan.within_answer _ _
      | blank => exact readBody_within f
      | header text => exact Plan.within_answer _ _
    exact hline.mono (by omega)
  | succ room ih =>
    have hline : (readHeaders (room + 1) f).Within (lineLimit + ((room + 1) * lineLimit + bodyLimit)) := by
      refine Plan.within_line fun line => ?_
      cases HeaderLine.ofBytes line with
      | fault e => exact Plan.within_answer _ _
      | blank => exact (readBody_within f).mono (Nat.le_add_left _ _)
      | header text =>
        dsimp only
        cases f.take text with
        | error e => exact Plan.within_answer _ _
        | ok f' => exact ih f'
    exact hline.mono (by rw [Nat.succ_mul (room + 1)]; omega)

theorem readReply_within : readReply.Within (66 * lineLimit + bodyLimit) := by
  have hline : readReply.Within (lineLimit + ((headerLimit + 1) * lineLimit + bodyLimit)) := by
    refine Plan.within_line fun line => ?_
    cases lineText line with
    | error e => exact Plan.within_answer _ _
    | ok text =>
      dsimp only
      cases checkStatus text with
      | error e => exact Plan.within_answer _ _
      | ok u => exact readHeaders_within headerLimit {}
  exact hline.mono (by simp [headerLimit, lineLimit, bodyLimit])

theorem reply_in_pieces {capacity : Nat} (hcapacity : 1 ≤ capacity) (pieces : List (List UInt8)) :
    ∃ s, (Pieces.feed capacity).run readReply (Pieces.ofList pieces) = (.ok (Reply.ofBytes pieces.flatten), s) ∧
      readReply.used pieces.flatten ++ s.rest = pieces.flatten :=
  Pieces.run_eq hcapacity readReply pieces

theorem reply_in_pieces_cut :
    let pieces : List (List UInt8) :=
      [Utf8.bytes "RTSP/1.0 200 OK\r", Utf8.bytes "\nContent-Length: 2\r\n\r\n" ++ [0xC3], [0xA9, 0x21]]
    1 ≤ 1 ∧ ∃ s, (Pieces.feed 1).run readReply (Pieces.ofList pieces) = (.ok (.ok ⟨none, "é"⟩), s) ∧
      s.rest = [0x21] := by
  intro pieces
  obtain ⟨s, hrun, hused⟩ := reply_in_pieces (Nat.le_refl 1) pieces
  have hreply : Reply.ofBytes pieces.flatten = .ok ⟨none, "é"⟩ := by decide +kernel
  have hleft : readReply.used pieces.flatten ++ [0x21] = pieces.flatten := by decide +kernel
  rw [hreply] at hrun
  exact ⟨Nat.le_refl 1, s, hrun, List.append_cancel_left (hused.trans hleft.symm)⟩

def firstBytes (n : Nat) (stream : Nat → UInt8) : List UInt8 :=
  (List.range n).map stream

theorem firstBytes_add (n k : Nat) (stream : Nat → UInt8) :
    ∃ more, firstBytes (n + k) stream = firstBytes n stream ++ more :=
  ⟨_, by rw [firstBytes, List.range_add, List.map_append, ← firstBytes]⟩

theorem verdict_early :
    (∀ capacity capacity' pieces pieces' more verdict, 1 ≤ capacity → 1 ≤ capacity' →
      answer? capacity readReply pieces = some verdict → pieces'.flatten = pieces.flatten ++ more →
        answer? capacity' readReply pieces' = some verdict ∧ Reply.ofBytes pieces'.flatten = verdict) ∧
    (∀ capacity pieces, 1 ≤ capacity → 66 * 4096 + 65536 ≤ pieces.flatten.length →
      ∃ verdict, answer? capacity readReply pieces = some verdict) ∧
    (∀ stream : Nat → UInt8, ∃ n ≤ 66 * 4096 + 65536, ∃ verdict, ∀ capacity m pieces, 1 ≤ capacity → n ≤ m →
      pieces.flatten = firstBytes m stream → answer? capacity readReply pieces = some verdict) := by
  refine ⟨?_, ?_, ?_⟩
  · intro capacity capacity' pieces pieces' more verdict hcapacity hcapacity' hanswer hmore
    rw [Pieces.answer?_eq hcapacity] at hanswer
    have hdecided := Plan.decided?_append hanswer more
    rw [Pieces.answer?_eq hcapacity', hmore]
    exact ⟨hdecided, Plan.run_of_decided? hdecided⟩
  · intro capacity pieces hcapacity hlong
    rw [Pieces.answer?_eq hcapacity]
    exact readReply_within _ hlong
  · intro stream
    obtain ⟨verdict, hdecided⟩ := readReply_within (firstBytes (66 * lineLimit + bodyLimit) stream) (by simp [firstBytes])
    refine ⟨66 * lineLimit + bodyLimit, Nat.le_refl _, verdict, ?_⟩
    intro capacity m pieces hcapacity hm hpieces
    obtain ⟨k, rfl⟩ := Nat.exists_eq_add_of_le hm
    obtain ⟨more, hmore⟩ := firstBytes_add (66 * lineLimit + bodyLimit) k stream
    rw [Pieces.answer?_eq hcapacity, hpieces, hmore]
    exact Plan.decided?_append hdecided more

theorem verdict_early_foreign :
    let pieces : List (List UInt8) := [Utf8.bytes "HTTP/1.1 200 OK\r", Utf8.bytes "\n"]
    let pieces' : List (List UInt8) := [Utf8.bytes "HTTP/1.1 200 OK\r\nSer", Utf8.bytes "ver: x"]
    let verdict : Verdict := .error (.notRtsp "HTTP/1.1 200 OK".toList)
    (1 ≤ 1 ∧ 1 ≤ 3 ∧ answer? 1 readReply pieces = some verdict ∧
        pieces'.flatten = pieces.flatten ++ Utf8.bytes "Server: x") ∧
      (answer? 3 readReply pieces' = some verdict ∧ Reply.ofBytes pieces'.flatten = verdict) ∧
      ∃ verdict', answer? 1 readReply [List.replicate 335872 0x61] = some verdict' := by
  intro pieces pieces' verdict
  have hanswer : answer? 1 readReply pieces = some verdict := by decide +kernel
  have hmore : pieces'.flatten = pieces.flatten ++ Utf8.bytes "Server: x" := by decide +kernel
  have hlong : 66 * 4096 + 65536 ≤ [List.replicate 335872 (0x61 : UInt8)].flatten.length := by
    rewrite [List.flatten_singleton, List.length_replicate]
    decide
  exact ⟨⟨by decide, by decide, hanswer, hmore⟩,
    verdict_early.1 1 3 pieces pieces' _ verdict (by decide) (by decide) hanswer hmore,
    verdict_early.2.1 1 _ (by decide) hlong⟩

end StreamScout.Rtsp
