import StreamScout.Proofs.Stream.Line
import StreamScout.Proofs.Text.Blank
import StreamScout.Proofs.Text.Utf8
import StreamScout.Rtsp.Reply

namespace StreamScout.Rtsp

open StreamScout.Stream (takeLine Terminated)
open StreamScout.Text (AllBlank NoBlank EndsWord trimRight)
open StreamScout.Utf8 (encode)

variable {bs line : List UInt8} {text header : List Char}

structure IsLine (text : List Char) : Prop where
  terminated : Terminated (encode text)
  short : (encode text).length ≤ 4096

def Succeeds (status : List Char) : Prop :=
  ∃ front version gap tail, status = front ++ ("RTSP/".toList ++ version) ++ (gap ++ "200".toList ++ tail) ∧
    AllBlank front ∧ NoBlank version ∧ AllBlank gap ∧ gap ≠ [] ∧ EndsWord tail

theorem lineText_ok_iff : lineText line = .ok text ↔
    line = encode text ∧ ¬ (lineLimit ≤ line.length ∧ line.getLast? ≠ some Stream.lineFeed) := by
  unfold lineText
  cases hdecode : Utf8.decode line with
  | error e =>
    have hne := Utf8.ne_encode_of_error hdecode text
    simp [hne]
  | ok cs =>
    have hcs := Utf8.decode_ok_iff.mp hdecode
    have htext : line = encode text ↔ cs = text := by
      rw [hcs]
      exact ⟨fun h => Utf8.encode_injective h, fun h => h ▸ rfl⟩
    simp only [htext]
    split
    · rename_i h
      simp [h]
    · rename_i h
      simp [h]

theorem line_cases (h : lineText (takeLine lineLimit bs).1 = .ok text) :
    IsLine text ∧ bs = encode text ++ (takeLine lineLimit bs).2 ∨ (takeLine lineLimit bs).2 = [] := by
  obtain ⟨hline, hlimit⟩ := lineText_ok_iff.mp h
  have hbs := Stream.takeLine_append lineLimit bs
  rcases Stream.takeLine_cases lineLimit bs with hterm | ⟨hnone, hlength | hend⟩
  · have hshort := Stream.takeLine_length lineLimit bs
    rw [hline] at hterm hshort hbs
    exact .inl ⟨⟨hterm, hshort⟩, hbs.symm⟩
  · refine absurd ⟨Nat.le_of_eq hlength.symm, fun hlast => ?_⟩ hlimit
    exact hnone (List.mem_of_getLast? hlast)
  · exact .inr hend

theorem IsLine.take (h : IsLine text) (rest : List UInt8) :
    takeLine lineLimit (encode text ++ rest) = (encode text, rest) :=
  Stream.takeLine_terminated h.terminated h.short rest

theorem IsLine.lineText (h : IsLine text) : lineText (encode text) = .ok text := by
  refine lineText_ok_iff.mpr ⟨rfl, fun hbad => ?_⟩
  obtain ⟨front, heq, -⟩ := h.terminated
  exact hbad.2 (by simp [heq])

theorem IsLine.ne_nil (h : IsLine text) : text ≠ [] := by
  rintro rfl
  obtain ⟨front, heq, -⟩ := h.terminated
  simp [Utf8.encode] at heq

theorem checkStatus_words : checkStatus text = .ok () ↔
    ∃ version more, Text.words text = ("RTSP/".toList ++ version) :: "200".toList :: more := by
  have hok : checkStatus text = .ok () ↔
      (Text.after? "RTSP/".toList ((Text.words text).headD [])).isSome = true ∧
        (Text.words text).tail.headD [] = "200".toList := by
    simp only [checkStatus]
    generalize (Text.words text).headD [] = version, (Text.words text).tail.headD [] = code
    cases Text.after? "RTSP/".toList version with
    | none => simp
    | some _ => by_cases hcode : code = "200".toList <;> simp [hcode]
  rw [hok, Text.after?_isSome]
  constructor
  · rintro ⟨⟨version, hversion⟩, hcode⟩
    cases hwords : Text.words text with
    | nil =>
      rw [hwords] at hversion
      cases hversion
    | cons w ws =>
      rw [hwords] at hversion hcode
      cases ws with
      | nil => cases hcode
      | cons code more =>
        cases hversion
        cases hcode
        exact ⟨version, more, rfl⟩
  · rintro ⟨version, more, hwords⟩
    rw [hwords]
    exact ⟨⟨version, rfl⟩, rfl⟩

theorem noBlank_append {a b : List Char} : NoBlank (a ++ b) ↔ NoBlank a ∧ NoBlank b := by
  simp [NoBlank, or_imp, forall_and]

theorem noBlank_of_all {w : List Char} (h : w.all (fun c => !Text.isBlank c) = true) : NoBlank w :=
  fun c hc => by simpa using List.all_eq_true.mp h c hc

theorem checkStatus_ok_iff : checkStatus text = .ok () ↔ Succeeds text := by
  rw [checkStatus_words]
  constructor
  · rintro ⟨version, more, hwords⟩
    obtain ⟨front, after, rfl, hfront, hversion, -, hends, hafter⟩ := Text.words_eq_cons_iff.mp hwords
    obtain ⟨gap, tail, rfl, hgap, -, -, htail, -⟩ := Text.words_eq_cons_iff.mp hafter
    refine ⟨front, version, gap, tail, rfl, hfront, (noBlank_append.mp hversion).2, hgap, ?_, htail⟩
    -- without a gap the code would belong to the first word
    rintro rfl
    exact absurd (hends '2' rfl) (by decide)
  · rintro ⟨front, version, gap, tail, rfl, hfront, hversion, hgap, hne, htail⟩
    have hrtsp : NoBlank "RTSP/".toList := noBlank_of_all rfl
    have hcode : NoBlank "200".toList := noBlank_of_all rfl
    have hends : EndsWord (gap ++ "200".toList ++ tail) := by
      intro c hc
      obtain ⟨g, gap, rfl⟩ := List.exists_cons_of_ne_nil hne
      cases hc
      exact hgap _ (by simp)
    refine ⟨version, Text.words tail, ?_⟩
    rw [Text.words_word hfront (noBlank_append.mpr ⟨hrtsp, hversion⟩) (by simp) hends,
      Text.words_word hgap hcode (by simp) htail]

theorem ofBytes_blank_iff : HeaderLine.ofBytes line = .blank ↔
    ∃ text, lineText line = .ok text ∧ text ≠ [] ∧ AllBlank text := by
  unfold HeaderLine.ofBytes
  cases hline : lineText line with
  | error e => simp
  | ok text =>
    cases text with
    | nil => simp
    | cons c cs =>
      simp only [Except.ok.injEq, exists_eq_left', ← Text.trimRight_isEmpty]
      split <;> simp_all

theorem ofBytes_header_iff : HeaderLine.ofBytes line = .header header ↔
    ∃ text, lineText line = .ok text ∧ ¬ AllBlank text ∧ trimRight text = header := by
  unfold HeaderLine.ofBytes
  cases hline : lineText line with
  | error e => simp
  | ok text =>
    cases text with
    | nil => simp [AllBlank]
    | cons c cs =>
      simp only [Except.ok.injEq, exists_eq_left', ← Text.trimRight_isEmpty]
      split <;> simp_all

end StreamScout.Rtsp
