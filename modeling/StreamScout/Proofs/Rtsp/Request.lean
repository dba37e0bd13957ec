import Mathlib.Data.List.Infix
import StreamScout.Probe.Target
import StreamScout.Proofs.Rtsp.Line
import StreamScout.Rtsp.Exchange
import StreamScout.Service.Record

namespace StreamScout.Rtsp

open StreamScout.Probe (Target)
open StreamScout.Stream (Arrival)
open StreamScout.Text (NoBlank)

def crlf : List Char := ['\r', '\n']

/-- What a peer takes for the end of a line: the two characters together, or each of them by itself as well. -/
inductive LineEnds where
  | together
  | each
  deriving DecidableEq, Repr

def LineEnds.Breaks : LineEnds → List Char → Prop
  | .together, line => crlf <:+: line
  | .each, line => '\r' ∈ line ∨ '\n' ∈ line

structure RequestLines where
  first : List Char
  cseq : List Char
  agent : List Char
  accept : List Char

namespace RequestLines

def headers (r : RequestLines) : List (List Char) :=
  [r.cseq, r.agent, r.accept]

def text (r : RequestLines) : List Char :=
  (r.first :: r.headers ++ [[]]).flatMap (· ++ crlf)

structure WellFormed (ends : LineEnds) (r : RequestLines) : Prop where
  unbroken : ∀ line ∈ r.first :: r.headers, ¬ ends.Breaks line
  words : ∃ uri, r.first.splitOn ' ' = ["DESCRIBE".toList, uri, "RTSP/1.0".toList] ∧ "rtsp://".toList <+: uri
  cseq : "CSeq:".toList <+: r.cseq
  agent : "User-Agent:".toList <+: r.agent
  accept : "Accept:".toList <+: r.accept

end RequestLines

def OneRequest (ends : LineEnds) (text : List Char) : Prop :=
  ∃ r : RequestLines, text = r.text ∧ r.WellFormed ends

variable {a b line line' x y : List Char} {c : Char} {ends : LineEnds} {r r' : RequestLines} {url start : String}

theorem infix_append_left (h : c ∉ a) : c :: x <:+: a ++ b ↔ c :: x <:+: b := by
  induction a with
  | nil => rfl
  | cons d a ih =>
    have hd : ¬ c :: x <+: d :: (a ++ b) := by
      intro hprefix
      obtain ⟨hcd, -⟩ := List.cons_prefix_cons.mp hprefix
      exact h (hcd ▸ List.mem_cons_self)
    rw [List.cons_append, List.infix_cons_iff, ih fun hmem => h (List.mem_cons_of_mem d hmem)]
    exact or_iff_right hd

theorem infix_append_right (h : c ∉ a) : x ++ [c] <:+: b ++ a ↔ x ++ [c] <:+: b := by
  rw [← List.reverse_infix, List.reverse_append, List.reverse_append, List.reverse_singleton, List.singleton_append,
    infix_append_left (by simpa using h)]
  have hb : c :: x.reverse = (x ++ [c]).reverse := by simp
  rw [hb, List.reverse_infix]

theorem breaks_append_left (hr : '\r' ∉ a) (hn : '\n' ∉ a) : ends.Breaks (a ++ b) ↔ ends.Breaks b := by
  cases ends with
  | together => exact infix_append_left hr
  | each => simp [LineEnds.Breaks, hr, hn]

theorem breaks_append_right (hr : '\r' ∉ a) (hn : '\n' ∉ a) : ends.Breaks (b ++ a) ↔ ends.Breaks b := by
  cases ends with
  | together => exact @infix_append_right a b ['\r'] '\n' hn
  | each => simp [LineEnds.Breaks, hr, hn]

theorem breaks_of_crlf (h : crlf <:+: line) : ends.Breaks line := by
  cases ends with
  | together => exact h
  | each => exact .inl (h.subset (by simp [crlf]))

theorem crlf_append_cases (h : y ++ crlf = x ++ crlf ++ a) : a = [] ∨ crlf <:+: a := by
  rcases List.eq_nil_or_concat a with rfl | ⟨front, d, rfl⟩
  · exact .inl rfl
  · right
    rcases List.eq_nil_or_concat front with rfl | ⟨front, d', rfl⟩
    · have hlong : (y ++ ['\r']) ++ ['\n'] = (x ++ crlf) ++ [d] := by simpa [crlf] using h
      obtain ⟨hfront, -⟩ := List.append_inj' hlong rfl
      have hshort : y ++ ['\r'] = (x ++ ['\r']) ++ ['\n'] := by simpa [crlf] using hfront
      obtain ⟨-, hlast⟩ := List.append_inj' hshort rfl
      cases hlast
    · have hlong : y ++ crlf = (x ++ crlf ++ front) ++ [d', d] := by simpa using h
      obtain ⟨-, hlast⟩ := List.append_inj' hlong rfl
      exact ⟨front, [], by simp [hlast]⟩

theorem last_line_unique (h : x ++ crlf ++ line = y ++ crlf ++ line') (hline : ¬ crlf <:+: line)
    (hline' : ¬ crlf <:+: line') : x = y ∧ line = line' := by
  rcases List.append_eq_append_iff.mp h with ⟨a, hy, rfl⟩ | ⟨a, hx, rfl⟩
  · rcases crlf_append_cases hy with rfl | hcrlf
    · rw [List.append_nil] at hy
      exact ⟨(List.append_cancel_right hy).symm, rfl⟩
    · exact absurd (hcrlf.trans (List.prefix_append a line').isInfix) hline
  · rcases crlf_append_cases hx with rfl | hcrlf
    · rw [List.append_nil] at hx
      exact ⟨List.append_cancel_right hx, rfl⟩
    · exact absurd (hcrlf.trans (List.prefix_append a line).isInfix) hline'

namespace RequestLines

theorem text_eq (r : RequestLines) :
    r.text = r.first ++ crlf ++ r.cseq ++ crlf ++ r.agent ++ crlf ++ r.accept ++ crlf ++ crlf := by
  simp [text, headers]

theorem text_injective (h : r.text = r'.text) (hr : ∀ line ∈ r.headers, ¬ crlf <:+: line)
    (hr' : ∀ line ∈ r'.headers, ¬ crlf <:+: line) : r = r' := by
  obtain ⟨first, cseq, agent, accept⟩ := r
  obtain ⟨first', cseq', agent', accept'⟩ := r'
  simp only [headers, List.forall_mem_cons] at hr hr'
  obtain ⟨hcseq, hagent, haccept, -⟩ := hr
  obtain ⟨hcseq', hagent', haccept', -⟩ := hr'
  rw [text_eq, text_eq] at h
  have hheads := List.append_cancel_right (List.append_cancel_right h)
  -- the lines are read off from the end, where the headers are
  obtain ⟨hheads, rfl⟩ := last_line_unique hheads haccept haccept'
  obtain ⟨hheads, rfl⟩ := last_line_unique hheads hagent hagent'
  obtain ⟨rfl, rfl⟩ := last_line_unique hheads hcseq hcseq'
  rfl

end RequestLines

def requestLines (url : List Char) : RequestLines where
  first := "DESCRIBE".toList ++ ' ' :: url ++ ' ' :: "RTSP/1.0".toList
  cseq := "CSeq: 1".toList
  agent := "User-Agent: ".toList ++ userAgent.toList
  accept := "Accept: application/sdp".toList

theorem requestLines_text (url : List Char) : (requestLines url).text =
    "DESCRIBE".toList ++ ' ' :: url ++ ' ' :: "RTSP/1.0".toList ++ crlf ++ "CSeq: 1".toList ++ crlf ++
      ("User-Agent: ".toList ++ userAgent.toList) ++ crlf ++ "Accept: application/sdp".toList ++ crlf ++ crlf :=
  RequestLines.text_eq (requestLines url)

theorem describeRequest_toList (url : String) : (describeRequest url).toList = (requestLines url.toList).text := by
  rw [requestLines_text]
  simp [describeRequest, crlf]

theorem requestLines_headers (url : List Char) :
    ∀ line ∈ (requestLines url).headers, '\r' ∉ line ∧ '\n' ∉ line := by
  have hclosed : ∀ line ∈ (requestLines []).headers, '\r' ∉ line ∧ '\n' ∉ line := by decide
  exact hclosed

theorem not_breaks (h : '\r' ∉ line ∧ '\n' ∉ line) : ¬ ends.Breaks line := by
  cases ends with
  | together => exact fun hcrlf => h.1 (hcrlf.subset (by simp [crlf]))
  | each => exact fun heach => heach.elim h.1 h.2

theorem splitOn_eq_one : x.splitOn c = [y] ↔ c ∉ x ∧ x = y := by
  constructor
  · intro hone
    have hc : c ∉ x := by
      intro hmem
      obtain ⟨front, rest, rfl⟩ := List.append_of_mem hmem
      rw [List.splitOn_append_cons_self, List.append_eq_singleton_iff] at hone
      rcases hone with ⟨hnil, -⟩ | ⟨-, hnil⟩
      · exact List.splitOn_ne_nil c front hnil
      · exact List.splitOn_ne_nil c rest hnil
    rw [List.splitOn_eq_singleton hc] at hone
    exact ⟨hc, by simpa using hone⟩
  · rintro ⟨hc, rfl⟩
    exact List.splitOn_eq_singleton hc

theorem splitOn_three (hx : c ∉ x) (hy : c ∉ y) :
    (x ++ c :: a ++ c :: y).splitOn c = [x, b, y] ↔ c ∉ a ∧ a = b := by
  rw [List.append_assoc, List.cons_append, List.splitOn_append_cons_self_of_not_mem hx, List.splitOn_append_cons_self,
    List.splitOn_eq_singleton hy, ← splitOn_eq_one]
  constructor
  · intro h
    obtain ⟨-, hrest⟩ := List.cons.inj h
    exact List.append_cancel_right hrest
  · intro h
    rw [h]
    rfl

theorem breaks_between (hx : '\r' ∉ x ∧ '\n' ∉ x) (hy : '\r' ∉ y ∧ '\n' ∉ y) :
    ends.Breaks (x ++ ' ' :: a ++ ' ' :: y) ↔ ends.Breaks a := by
  have hspace : x ++ ' ' :: a ++ ' ' :: y = (x ++ [' ']) ++ (a ++ ' ' :: y) := by simp
  rw [hspace, breaks_append_left (by simpa using hx.1) (by simpa using hx.2),
    breaks_append_right (by simpa using hy.1) (by simpa using hy.2)]

theorem oneRequest_iff : OneRequest ends (describeRequest url).toList ↔
    ' ' ∉ url.toList ∧ "rtsp://".toList <+: url.toList ∧ ¬ ends.Breaks url.toList := by
  have hdescribe : ' ' ∉ "DESCRIBE".toList ∧ '\r' ∉ "DESCRIBE".toList ∧ '\n' ∉ "DESCRIBE".toList := by decide
  have hversion : ' ' ∉ "RTSP/1.0".toList ∧ '\r' ∉ "RTSP/1.0".toList ∧ '\n' ∉ "RTSP/1.0".toList := by decide
  have hbreaks : ends.Breaks (requestLines url.toList).first ↔ ends.Breaks url.toList :=
    breaks_between hdescribe.2 hversion.2
  have hheaders := requestLines_headers url.toList
  constructor
  · rintro ⟨r, htext, hr⟩
    have hown : ∀ line ∈ (requestLines url.toList).headers, ¬ LineEnds.together.Breaks line :=
      fun line hline => not_breaks (hheaders line hline)
    have heq : requestLines url.toList = r := by
      refine RequestLines.text_injective (describeRequest_toList url ▸ htext) hown ?_
      exact fun line hline hcrlf => hr.unbroken line (List.mem_cons_of_mem _ hline) (breaks_of_crlf hcrlf)
    subst heq
    obtain ⟨uri, hwords, hscheme⟩ := hr.words
    obtain ⟨hspace, rfl⟩ := (splitOn_three hdescribe.1 hversion.1).mp hwords
    exact ⟨hspace, hscheme, fun hurl => hr.unbroken _ List.mem_cons_self (hbreaks.mpr hurl)⟩
  · rintro ⟨hspace, hscheme, hurl⟩
    refine ⟨requestLines url.toList, describeRequest_toList url, ?_, ?_, ?_, ?_, ?_⟩
    · intro line hline
      rcases List.mem_cons.mp hline with rfl | hheader
      · exact mt hbreaks.mp hurl
      · exact not_breaks (hheaders line hheader)
    · exact ⟨url.toList, (splitOn_three hdescribe.1 hversion.1).mpr ⟨hspace, rfl⟩, hscheme⟩
    · have hcseq : "CSeq:".toList <+: "CSeq: 1".toList := by decide
      exact hcseq
    · have hagent : "User-Agent:".toList <+: "User-Agent: ".toList := by decide
      exact List.prefix_append_of_prefix hagent
    · have haccept : "Accept:".toList <+: "Accept: application/sdp".toList := by decide
      exact haccept

theorem noBlank_decimal (n : Nat) : NoBlank (Nat.toDigits 10 n) :=
  fun _ hc => Text.not_isBlank_of_isDigit (Nat.isDigit_of_mem_toDigits (by decide) (by decide) hc)

theorem noBlank_hostPort (address : Ipv4) (port : Nat) : NoBlank (hostPort address port).toList := by
  have hdot : NoBlank ['.'] := noBlank_of_all rfl
  have hcolon : NoBlank ":".toList := noBlank_of_all rfl
  have haddress : NoBlank address.toChars := by
    have hnext : ∀ o, NoBlank ('.' :: Ipv4.octetChars o) := fun o =>
      (@noBlank_append ['.'] _).mpr ⟨hdot, noBlank_decimal o.toNat⟩
    have htwo := noBlank_append.mpr ⟨noBlank_decimal address.a.toNat, hnext address.b⟩
    exact noBlank_append.mpr ⟨noBlank_append.mpr ⟨htwo, hnext address.c⟩, hnext address.d⟩
  have hport : NoBlank (toString port).toList := by
    rw [Nat.toString_eq_repr, Nat.toList_repr]
    exact noBlank_decimal port
  have hparts : (hostPort address port).toList = address.toChars ++ ":".toList ++ (toString port).toList := by
    rw [← @String.toList_ofList address.toChars, ← String.toList_append, ← String.toList_append]
    rfl
  rw [hparts]
  exact noBlank_append.mpr ⟨noBlank_append.mpr ⟨haddress, hcolon⟩, hport⟩

theorem streamUrl_toList (path : String) (address : Ipv4) (port : Nat) : (streamUrl path address port).toList =
    "rtsp://".toList ++ (hostPort address port).toList ++ path.toList := by
  rw [streamUrl, String.toList_append, String.toList_append]

theorem streamUrl_name (t : Target) (start : String) : (streamUrl (t.path start) t.address t.port).toList =
    (streamUrl start t.address t.port).toList ++ t.name.toList := by
  rw [streamUrl_toList, streamUrl_toList, Target.path, String.toList_append, List.append_assoc _ start.toList]

theorem noBlank_streamUrl (hstart : NoBlank start.toList) (address : Ipv4) (port : Nat) :
    NoBlank (streamUrl start address port).toList := by
  have hscheme : NoBlank "rtsp://".toList := noBlank_of_all rfl
  rw [streamUrl_toList]
  exact noBlank_append.mpr ⟨noBlank_append.mpr ⟨hscheme, noBlank_hostPort address port⟩, hstart⟩

theorem oneRequest_name_iff (hstart : NoBlank start.toList) (t : Target) :
    OneRequest ends (describeRequest (streamUrl (t.path start) t.address t.port)).toList ↔
      ' ' ∉ t.name.toList ∧ ¬ ends.Breaks t.name.toList := by
  have hscheme : "rtsp://".toList <+: (streamUrl (t.path start) t.address t.port).toList := by
    rw [streamUrl_toList, List.append_assoc]
    exact List.prefix_append _ _
  have hfront : ∀ c, Text.isBlank c = true → c ∉ (streamUrl start t.address t.port).toList := by
    intro c hblank hmem
    rw [noBlank_streamUrl hstart t.address t.port c hmem] at hblank
    cases hblank
  rw [oneRequest_iff, and_iff_right hscheme, streamUrl_name, List.mem_append, or_iff_right (hfront ' ' (by decide)),
    breaks_append_left (hfront _ (by decide)) (hfront _ (by decide))]

theorem describe_request {limits : Limits} (hconnect : limits.connect ≠ 0) (path : String) (address : Ipv4)
    (port : Nat) (arrivals : List Arrival) (closes : Option Nat) :
    (describe limits path address port (.answers arrivals closes)).request =
      some (describeRequest (streamUrl path address port)) := by
  rw [describe, if_neg hconnect]
  split <;> rfl

theorem describe_sends_one_request {limits : Limits} (hconnect : limits.connect ≠ 0) (hstart : NoBlank start.toList)
    (t : Target) (arrivals : List Arrival) (closes : Option Nat) (ends : LineEnds) :
    ∃ sent, (describe limits (t.path start) t.address t.port (.answers arrivals closes)).request = some sent ∧
      (OneRequest ends sent.toList ↔ ' ' ∉ t.name.toList ∧ ¬ ends.Breaks t.name.toList) := by
  refine ⟨_, describe_request hconnect (t.path start) t.address t.port arrivals closes, ?_⟩
  exact oneRequest_name_iff hstart t

def desk (name : String) : Target := ⟨name, "local", ⟨10, 0, 0, 5⟩, 8554⟩

def deskRequest (name : String) : Option String :=
  (describe ⟨5000, 5000⟩ ((desk name).path Service.defaultPathStart) (desk name).address (desk name).port
    (.answers [] none)).request

theorem noBlank_defaultPathStart : NoBlank Service.defaultPathStart.toList :=
  noBlank_of_all rfl

theorem describe_sends_one_request_studio :
    ∃ sent, deskRequest "studio-1" = some sent ∧ OneRequest .each sent.toList := by
  have hconnect : (⟨5000, 5000⟩ : Limits).connect ≠ 0 := by decide
  have hname : ' ' ∉ "studio-1".toList ∧ ¬ ('\r' ∈ "studio-1".toList ∨ '\n' ∈ "studio-1".toList) := by decide
  obtain ⟨sent, hsent, hone⟩ :=
    describe_sends_one_request hconnect noBlank_defaultPathStart (desk "studio-1") [] none .each
  exact ⟨sent, hsent, hone.mpr hname⟩

theorem deskRequest_broken {name : String} (hname : ' ' ∈ name.toList ∨ crlf <:+: name.toList) :
    ∃ sent, deskRequest name = some sent ∧ ¬ OneRequest .together sent.toList := by
  refine ⟨_, describe_request (by decide) _ _ _ _ _, fun hone => ?_⟩
  obtain ⟨hspace, hbreak⟩ := (oneRequest_name_iff noBlank_defaultPathStart (desk name)).mp hone
  exact hname.elim hspace hbreak

theorem advertised_names_break_requests :
    (Service.Record.ofFullname? "Desk Mic 2.0._rtsp._tcp.local." Service.defaultTypeDomain "eth0" =
        some ⟨"Desk Mic 2.0", "_rtsp._tcp", "local", "eth0", .inet⟩ ∧
      ∃ sent, deskRequest "Desk Mic 2.0" = some sent ∧ ¬ OneRequest .together sent.toList) ∧
    Service.Record.ofFullname? "desk\r\nX-Mic:2._rtsp._tcp.local." Service.defaultTypeDomain "eth0" =
        some ⟨"desk\r\nX-Mic:2", "_rtsp._tcp", "local", "eth0", .inet⟩ ∧
      ∃ sent, deskRequest "desk\r\nX-Mic:2" = some sent ∧ ¬ OneRequest .together sent.toList := by
  have hbreak : crlf <:+: "desk\r\nX-Mic:2".toList := ⟨"desk".toList, "X-Mic:2".toList, by decide⟩
  refine ⟨⟨by decide +kernel, deskRequest_broken (.inl (by decide))⟩, by decide +kernel, ?_⟩
  exact deskRequest_broken (.inr hbreak)

end StreamScout.Rtsp
