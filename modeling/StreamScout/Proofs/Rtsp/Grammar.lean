import StreamScout.Proofs.Rtsp.Header
import StreamScout.Proofs.Rtsp.Line

namespace StreamScout.Rtsp

open StreamScout.Stream (Plan takeLine)
open StreamScout.Text (AllBlank trimRight)
open StreamScout.Utf8 (encode)

variable {room : Nat} {f f' : Fields} {bs rest : List UInt8} {text : List Char} {reply : Reply}

structure Parts where
  status : List Char
  headers : List (List Char)
  blank : List Char
  body : List Char
  rest : List UInt8

def Parts.bytes (p : Parts) : List UInt8 :=
  encode p.status ++ (p.headers.flatMap encode ++ encode p.blank ++ (encode p.body ++ p.rest))

structure Parts.Valid (p : Parts) : Prop where
  status_line : IsLine p.status
  header_lines : ∀ header ∈ p.headers, IsLine header
  blank_line : IsLine p.blank
  succeeds : Succeeds p.status
  room : p.headers.length ≤ 64
  headers_not_blank : ∀ header ∈ p.headers, ¬ AllBlank header
  blank : AllBlank p.blank
  measured : Measured p.headers
  length : ∃ value, LastGiven "content-length" p.headers value ∧
    Numeral.Says Numeral.word64 value (encode p.body).length
  bounds : 1 ≤ (encode p.body).length ∧ (encode p.body).length ≤ 65536

structure Parts.Yields (p : Parts) (reply : Reply) : Prop where
  body : reply.body.toList = p.body
  base : Settled "content-base" ReadsBase none p.headers reply.contentBase

theorem finish_ok_iff : finish f bs = .ok reply ↔
    f.length ≤ bs.length ∧ ∃ body, bs = encode body ∧ reply = ⟨f.base, String.ofList body⟩ := by
  unfold finish
  by_cases hlen : bs.length < f.length
  · simp [hlen, Nat.not_le.mpr hlen]
  · simp only [hlen, if_false, Nat.not_lt.mp hlen, true_and]
    cases hdecode : Utf8.decode bs with
    | error e =>
      have hne := Utf8.ne_encode_of_error hdecode
      simp [hne]
    | ok cs =>
      rw [Utf8.decode_ok_iff.mp hdecode]
      constructor
      · intro h
        exact ⟨cs, rfl, (Except.ok.inj h).symm⟩
      · rintro ⟨body, heq, rfl⟩
        rw [Utf8.encode_injective heq]

theorem readBody_ok_iff : (readBody f).run bs = .ok reply ↔
    (1 ≤ f.length ∧ f.length ≤ bodyLimit) ∧ ∃ body rest, bs = encode body ++ rest ∧
      (encode body).length = f.length ∧ reply = ⟨f.base, String.ofList body⟩ := by
  unfold readBody
  by_cases hzero : f.length = 0
  · simp [hzero, Plan.run]
  by_cases hlarge : bodyLimit < f.length
  · simp [hzero, hlarge, Plan.run, Nat.not_le.mpr hlarge]
  have hbounds : 1 ≤ f.length ∧ f.length ≤ bodyLimit := ⟨Nat.pos_of_ne_zero hzero, Nat.not_lt.mp hlarge⟩
  simp only [hzero, hlarge, if_false, Plan.run, finish_ok_iff, hbounds, and_self, true_and]
  constructor
  · rintro ⟨hlen, body, htake, rfl⟩
    refine ⟨body, bs.drop f.length, by rw [← htake, List.take_append_drop], ?_, rfl⟩
    rw [List.length_take] at hlen
    rw [← htake, List.length_take]
    omega
  · rintro ⟨body, rest, rfl, hlen, rfl⟩
    have htake : (encode body ++ rest).take f.length = encode body := by
      rw [← hlen, List.take_left]
    rw [htake]
    exact ⟨Nat.le_of_eq hlen.symm, body, rfl, rfl⟩

theorem readBody_nil : (readBody f).run [] ≠ .ok reply := by
  intro h
  obtain ⟨⟨hpos, -⟩, body, rest, heq, hlen, -⟩ := readBody_ok_iff.mp h
  obtain ⟨hbody, -⟩ := List.append_eq_nil_iff.mp heq.symm
  rw [hbody] at hlen
  simp at hlen
  omega

theorem readHeaders_nil : (readHeaders room f).run [] ≠ .ok reply := by
  have hline : HeaderLine.ofBytes [] = .fault .closedInHeaders := rfl
  cases room <;> simp [readHeaders, Plan.run, Stream.takeLine_nil, hline]

theorem run_fault {e : ReplyError} (h : HeaderLine.ofBytes (takeLine lineLimit bs).1 = .fault e) :
    (readHeaders room f).run bs = .error e := by
  cases room <;> simp only [readHeaders, Plan.run, h]

theorem run_blank (h : HeaderLine.ofBytes (takeLine lineLimit bs).1 = .blank) :
    (readHeaders room f).run bs = (readBody f).run (takeLine lineLimit bs).2 := by
  cases room <;> simp only [readHeaders, Plan.run, h]

theorem run_header {header : List Char} (h : HeaderLine.ofBytes (takeLine lineLimit bs).1 = .header header) :
    (readHeaders room f).run bs = .ok reply ↔ ∃ room' f', room = room' + 1 ∧ f.take header = .ok f' ∧
      (readHeaders room' f').run (takeLine lineLimit bs).2 = .ok reply := by
  cases room with
  | zero => simp [readHeaders, Plan.run, h]
  | succ room =>
    simp only [readHeaders, Plan.run, h]
    cases f.take header with
    | error e => simp [Plan.run]
    | ok f' => simp

def Continues (room : Nat) (f : Fields) (text : List Char) (rest : List UInt8) (reply : Reply) : Prop :=
  AllBlank text ∧ (readBody f).run rest = .ok reply ∨
    ¬ AllBlank text ∧ ∃ room' f', room = room' + 1 ∧ f.take (trimRight text) = .ok f' ∧
      (readHeaders room' f').run rest = .ok reply

theorem not_continues_nil : ¬ Continues room f text [] reply := by
  rintro (⟨-, h⟩ | ⟨-, room', f', -, -, h⟩)
  · exact readBody_nil h
  · exact readHeaders_nil h

theorem run_continues (htext : lineText (takeLine lineLimit bs).1 = .ok text) (hne : text ≠ []) :
    (readHeaders room f).run bs = .ok reply ↔ Continues room f text (takeLine lineLimit bs).2 reply := by
  by_cases hblank : AllBlank text
  · rw [run_blank (ofBytes_blank_iff.mpr ⟨text, htext, hne, hblank⟩)]
    simp [Continues, hblank]
  · rw [run_header (ofBytes_header_iff.mpr ⟨text, htext, hblank, rfl⟩)]
    simp [Continues, hblank]

theorem whole_line (htext : lineText (takeLine lineLimit bs).1 = .ok text) (hne : text ≠ [])
    (h : (readHeaders room f).run bs = .ok reply) :
    ∃ text rest, bs = encode text ++ rest ∧ IsLine text ∧ Continues room f text rest reply := by
  have hcont := (run_continues htext hne).mp h
  rcases line_cases htext with ⟨hline, hbs⟩ | hend
  · exact ⟨text, _, hbs, hline, hcont⟩
  · -- the stream ended in this line, and neither a body nor a further line follows
    rw [hend] at hcont
    exact absurd hcont not_continues_nil

theorem readHeaders_step : (readHeaders room f).run bs = .ok reply ↔
    ∃ text rest, bs = encode text ++ rest ∧ IsLine text ∧ Continues room f text rest reply := by
  constructor
  · intro h
    cases hkind : HeaderLine.ofBytes (takeLine lineLimit bs).1 with
    | fault e =>
      rw [run_fault hkind] at h
      cases h
    | blank =>
      obtain ⟨text, htext, hne, -⟩ := ofBytes_blank_iff.mp hkind
      exact whole_line htext hne h
    | header header =>
      obtain ⟨text, htext, hblank, -⟩ := ofBytes_header_iff.mp hkind
      exact whole_line htext (fun hnil => hblank (by simp [hnil, AllBlank])) h
  · rintro ⟨text, rest, rfl, hline, hcont⟩
    have htake := hline.take rest
    have htext := hline.lineText
    rw [run_continues (by rw [htake]; exact htext) hline.ne_nil, htake]
    exact hcont

structure Headed (room : Nat) (f f' : Fields) (headers : List (List Char)) (blank : List Char) : Prop where
  room : headers.length ≤ room
  header_lines : ∀ header ∈ headers, IsLine header ∧ ¬ AllBlank header
  blank_line : IsLine blank ∧ AllBlank blank
  fields : takeAll f headers = .ok f'

theorem readHeaders_splits (h : (readHeaders room f).run bs = .ok reply) :
    ∃ headers blank rest f', bs = headers.flatMap encode ++ encode blank ++ rest ∧
      Headed room f f' headers blank ∧ (readBody f').run rest = .ok reply := by
  induction room generalizing f bs with
  | zero =>
    obtain ⟨text, rest, rfl, hline, ⟨hblank, hbody⟩ | ⟨-, room', f', hroom, -⟩⟩ := readHeaders_step.mp h
    · exact ⟨[], text, rest, f, rfl, ⟨Nat.le_refl 0, by simp, ⟨hline, hblank⟩, rfl⟩, hbody⟩
    · cases hroom
  | succ room ih =>
    obtain ⟨text, rest, rfl, hline, ⟨hblank, hbody⟩ | ⟨hblank, room', g, hroom, htake, hrun⟩⟩ :=
      readHeaders_step.mp h
    · exact ⟨[], text, rest, f, rfl, ⟨Nat.zero_le _, by simp, ⟨hline, hblank⟩, rfl⟩, hbody⟩
    · cases hroom
      obtain ⟨headers, blank, rest', f', rfl, ⟨hlen, hheaders, hb, hfields⟩, hbody⟩ := ih hrun
      refine ⟨text :: headers, blank, rest', f', by simp, ⟨Nat.succ_le_succ hlen, ?_, hb, ?_⟩, hbody⟩
      · intro header hmem
        rcases List.mem_cons.mp hmem with rfl | hmem
        · exact ⟨hline, hblank⟩
        · exact hheaders header hmem
      · exact takeAll_cons.mpr ⟨g, htake, hfields⟩

theorem readHeaders_joins {headers : List (List Char)} {blank : List Char}
    (h : Headed room f f' headers blank) (hbody : (readBody f').run rest = .ok reply) :
    (readHeaders room f).run (headers.flatMap encode ++ encode blank ++ rest) = .ok reply := by
  obtain ⟨hroom, hheaders, ⟨hline, hblank⟩, hfields⟩ := h
  induction headers generalizing room f with
  | nil =>
    cases hfields
    exact readHeaders_step.mpr ⟨blank, rest, rfl, hline, .inl ⟨hblank, hbody⟩⟩
  | cons header headers ih =>
    obtain ⟨g, htake, hrest⟩ := takeAll_cons.mp hfields
    cases room with
    | zero => cases hroom
    | succ room =>
      have hheader := hheaders header (by simp)
      have hrun := ih (Nat.le_of_succ_le_succ hroom) (fun x hx => hheaders x (by simp [hx])) hrest
      exact readHeaders_step.mpr
        ⟨header, _, by simp, hheader.1, .inr ⟨hheader.2, room, g, rfl, htake, hrun⟩⟩

theorem ofBytes_ok_iff : Reply.ofBytes bs = .ok reply ↔ ∃ status rest, bs = encode status ++ rest ∧
    IsLine status ∧ Succeeds status ∧ (readHeaders headerLimit {}).run rest = .ok reply := by
  unfold Reply.ofBytes readReply
  rw [Plan.run]
  constructor
  · intro h
    cases htext : lineText (takeLine lineLimit bs).1 with
    | error e =>
      rw [htext] at h
      cases h
    | ok status =>
      simp only [htext] at h
      cases hstatus : checkStatus status with
      | error e =>
        rw [hstatus] at h
        cases h
      | ok =>
        simp only [hstatus] at h
        rcases line_cases htext with ⟨hline, hbs⟩ | hend
        · exact ⟨status, _, hbs, hline, checkStatus_ok_iff.mp hstatus, h⟩
        · rw [hend] at h
          exact absurd h readHeaders_nil
  · rintro ⟨status, rest, rfl, hline, hstatus, h⟩
    simp only [hline.take, hline.lineText, checkStatus_ok_iff.mpr hstatus, h]

theorem reply_grammar (bs : List UInt8) (reply : Reply) :
    Reply.ofBytes bs = .ok reply ↔ ∃ p : Parts, p.bytes = bs ∧ p.Valid ∧ p.Yields reply := by
  rw [ofBytes_ok_iff]
  constructor
  · rintro ⟨status, rest, rfl, hstatus, hsucceeds, h⟩
    obtain ⟨headers, blank, rest, f, rfl, ⟨hroom, hheaders, hblank, hfields⟩, hbody⟩ := readHeaders_splits h
    obtain ⟨hbounds, body, rest, rfl, hlen, rfl⟩ := readBody_ok_iff.mp hbody
    obtain ⟨hmeasured, hlength, hbase⟩ := takeAll_ok_iff.mp hfields
    rw [← hlen] at hbounds hlength
    refine ⟨⟨status, headers, blank, body, rest⟩, rfl, ?_, ⟨String.toList_ofList, hbase⟩⟩
    exact
      { status_line := hstatus
        header_lines := fun header hmem => (hheaders header hmem).1
        blank_line := hblank.1
        succeeds := hsucceeds
        room := hroom
        headers_not_blank := fun header hmem => (hheaders header hmem).2
        blank := hblank.2
        measured := hmeasured
        length := hlength.resolve_right fun hnone => absurd hnone.2 (Nat.ne_of_gt hbounds.1)
        bounds := hbounds }
  · rintro ⟨p, rfl, hvalid, hbody, hbase⟩
    have hlearned : Learned p.headers ⟨(encode p.body).length, reply.contentBase⟩ :=
      ⟨hvalid.measured, .inl hvalid.length, hbase⟩
    have hheaded : Headed headerLimit {} ⟨(encode p.body).length, reply.contentBase⟩ p.headers p.blank :=
      { room := hvalid.room
        header_lines := fun header hmem => ⟨hvalid.header_lines header hmem, hvalid.headers_not_blank header hmem⟩
        blank_line := ⟨hvalid.blank_line, hvalid.blank⟩
        fields := takeAll_ok_iff.mpr hlearned }
    have hreply : reply = ⟨reply.contentBase, String.ofList p.body⟩ := by
      rw [← hbody, String.ofList_toList]
    have hread : (readBody ⟨(encode p.body).length, reply.contentBase⟩).run (encode p.body ++ p.rest) = .ok reply :=
      readBody_ok_iff.mpr ⟨hvalid.bounds, p.body, p.rest, rfl, rfl, hreply⟩
    exact ⟨p.status, _, rfl, hvalid.status_line, hvalid.succeeds, readHeaders_joins hheaded hread⟩

end StreamScout.Rtsp
