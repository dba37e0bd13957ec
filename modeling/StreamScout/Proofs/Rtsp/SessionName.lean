import StreamScout.Proofs.Text.Blank
import StreamScout.Rtsp.Description

namespace StreamScout.Rtsp

open StreamScout.Text (AllBlank Trimmed after? closeLine linesFrom trim)

variable {front cs line rest t tail : List Char} {url sdp sdp' : String}

def said? (line : List Char) : Option (List Char) :=
  (after? ['s', '='] line).map trim

theorem said?_eq_some_iff : said? line = some t ↔ ∃ rest, line = ['s', '='] ++ rest ∧ Trimmed rest t := by
  simp only [said?, Option.map_eq_some_iff, Text.after?_eq_some_iff, Text.trim_eq_iff]

theorem said?_eq_none_iff : said? line = none ↔ ¬ ['s', '='] <+: line := by
  rw [said?, Option.map_eq_none_iff, Option.eq_none_iff_forall_ne_some]
  constructor
  · rintro h ⟨rest, hrest⟩
    exact h rest (Text.after?_eq_some_iff.mpr hrest.symm)
  · intro h rest hrest
    exact h ⟨rest, (Text.after?_eq_some_iff.mp hrest).symm⟩

theorem trim_append_blank (h : AllBlank tail) (cs : List Char) : trim (cs ++ tail) = trim cs := by
  obtain ⟨front, back, hcs, hfront, hback, hends⟩ := Text.trim_eq_iff.mp (rfl : trim cs = trim cs)
  refine Text.trim_eq_iff.mpr ⟨front, back ++ tail, ?_, hfront, ?_, hends⟩
  · rw [← List.append_assoc, ← hcs]
  · intro c hc
    exact (List.mem_append.mp hc).elim (hback c) (h c)

theorem said?_return (line : List Char) : said? (line ++ ['\r']) = said? line := by
  have hblank : AllBlank ['\r'] := by
    intro c hc
    rw [List.mem_singleton.mp hc]
    decide
  cases hline : after? ['s', '='] line with
  | some rest =>
    obtain rfl := Text.after?_eq_some_iff.mp hline
    have hlong : after? ['s', '='] (['s', '='] ++ rest ++ ['\r']) = some (rest ++ ['\r']) :=
      Text.after?_eq_some_iff.mpr (List.append_assoc _ _ _)
    rw [said?, said?, hline, hlong, Option.map_some, Option.map_some, trim_append_blank hblank]
  | none =>
    cases hlong : after? ['s', '='] (line ++ ['\r']) with
    | none => rw [said?, said?, hline, hlong]
    | some rest =>
      have heq := Text.after?_eq_some_iff.mp hlong
      rcases List.eq_nil_or_concat rest with rfl | ⟨rest, c, rfl⟩
      · have hlast := congrArg List.getLast? heq
        simp at hlast
      · rw [List.concat_eq_append, ← List.append_assoc] at heq
        have hsession := Text.after?_eq_some_iff.mpr (List.append_inj_left' heq rfl)
        rw [hline] at hsession
        cases hsession

theorem said?_closeLine (acc : List Char) : said? (closeLine acc) = said? acc.reverse := by
  unfold closeLine
  split
  · rw [List.reverse_cons, said?_return]
  · rfl

def firstSaid? (front cs : List Char) : Option (List Char) :=
  ((cs.splitOn '\n').modifyHead (front ++ ·)).findSome? said?

theorem modifyHead_nil_append (lines : List (List Char)) : lines.modifyHead ([] ++ ·) = lines := by
  cases lines <;> rfl

theorem firstSaid?_nil (front : List Char) : firstSaid? front [] = said? front := by
  simp [firstSaid?]

theorem firstSaid?_feed (front cs : List Char) :
    firstSaid? front ('\n' :: cs) = (said? front).or (firstSaid? [] cs) := by
  rw [firstSaid?, List.splitOn_cons_eq_if_modifyHead, if_pos (beq_self_eq_true '\n'), firstSaid?,
    modifyHead_nil_append, List.modifyHead_cons, List.append_nil, List.findSome?_cons]
  cases said? front <;> rfl

theorem firstSaid?_cons {c : Char} (hc : c ≠ '\n') (front cs : List Char) :
    firstSaid? front (c :: cs) = firstSaid? (front ++ [c]) cs := by
  have hhead : (front ++ ·) ∘ List.cons c = (front ++ [c] ++ ·) := by
    funext line
    simp
  rw [firstSaid?, List.splitOn_cons_eq_if_modifyHead, if_neg (by simpa using hc), List.modifyHead_modifyHead, hhead,
    firstSaid?]

theorem firstSaid?_lines (cs acc : List Char) : (linesFrom cs acc).findSome? said? = firstSaid? acc.reverse cs := by
  induction cs generalizing acc with
  | nil =>
    rw [firstSaid?_nil]
    cases acc with
    | nil => rfl
    | cons c acc => simp [linesFrom]
  | cons c cs ih =>
    rw [linesFrom]
    split
    next hc =>
      rw [hc, firstSaid?_feed, List.findSome?_cons, said?_closeLine, ih]
      cases said? acc.reverse <;> rfl
    next hc => rw [ih, firstSaid?_cons hc, List.reverse_cons]

theorem sessionLine?_eq (cs : List Char) : sessionLine? cs = firstSaid? [] cs := by
  rw [sessionLine?, List.map_findSome?]
  exact firstSaid?_lines cs []

def plainFeeds : List Char → List Char
  | '\r' :: '\n' :: cs => '\n' :: plainFeeds cs
  | c :: cs => c :: plainFeeds cs
  | [] => []

theorem firstSaid?_plainFeeds (front cs : List Char) : firstSaid? front (plainFeeds cs) = firstSaid? front cs := by
  induction cs using plainFeeds.induct generalizing front with
  | case1 cs ih =>
    rw [plainFeeds, firstSaid?_feed, firstSaid?_cons (by decide), firstSaid?_feed, said?_return, ih]
  | case2 c cs hnot ih =>
    rw [plainFeeds]
    by_cases hc : c = '\n'
    · rw [hc, firstSaid?_feed, firstSaid?_feed, ih]
    · rw [firstSaid?_cons hc, firstSaid?_cons hc, ih]
    exact hnot
  | case3 => rfl

theorem firstSaid?_append (hline : '\n' ∉ line) (front cs : List Char) :
    firstSaid? front (line ++ cs) = firstSaid? (front ++ line) cs := by
  induction line generalizing front with
  | nil => rw [List.nil_append, List.append_nil]
  | cons c line ih =>
    obtain ⟨hc, hrest⟩ := not_or.mp fun h => hline (List.mem_cons.mpr h)
    rw [List.cons_append, firstSaid?_cons (Ne.symm hc), ih hrest, List.append_assoc, List.singleton_append]

theorem firstSaid?_session (hrest : '\n' ∉ rest) (later : List Char) :
    firstSaid? [] (['s', '='] ++ rest ++ '\n' :: later) = firstSaid? [] (['s', '='] ++ rest) := by
  have hline : '\n' ∉ ['s', '='] ++ rest := by simp [hrest]
  have hlast := firstSaid?_append hline [] []
  have hsaid : (said? (['s', '='] ++ rest)).isSome = true := by
    rw [said?, Option.isSome_map, Text.after?_isSome]
    exact ⟨rest, rfl⟩
  rw [firstSaid?_append hline, firstSaid?_feed, List.nil_append, Option.or_of_isSome hsaid]
  rw [List.append_nil, List.nil_append, firstSaid?_nil] at hlast
  exact hlast.symm

theorem firstSaid?_skip {lines : List (List Char)} (h : ∀ line ∈ lines, '\n' ∉ line ∧ ¬ ['s', '='] <+: line)
    (cs : List Char) : firstSaid? [] (lines.flatMap (· ++ ['\n']) ++ cs) = firstSaid? [] cs := by
  induction lines with
  | nil => rfl
  | cons line lines ih =>
    obtain ⟨hfeed, hnot⟩ := h line List.mem_cons_self
    have hrest := ih fun line hline => h line (List.mem_cons_of_mem _ hline)
    rw [List.flatMap_cons, List.append_assoc, List.append_assoc, firstSaid?_append hfeed, List.singleton_append,
      firstSaid?_feed, List.nil_append, said?_eq_none_iff.mpr hnot, Option.none_or, hrest]

theorem feed_not_mem_said? (hline : '\n' ∉ line) (h : said? line = some t) : '\n' ∉ t := by
  obtain ⟨rest, rfl, front, back, rfl, -⟩ := said?_eq_some_iff.mp h
  exact fun ht => hline (by simp [ht])

theorem feed_not_mem_firstSaid? (hfront : '\n' ∉ front) (h : firstSaid? front cs = some t) : '\n' ∉ t := by
  induction cs generalizing front with
  | nil =>
    rw [firstSaid?_nil] at h
    exact feed_not_mem_said? hfront h
  | cons c cs ih =>
    by_cases hc : c = '\n'
    · rw [hc, firstSaid?_feed] at h
      rcases Option.or_eq_some_iff.mp h with hsaid | ⟨-, hlater⟩
      · exact feed_not_mem_said? hfront hsaid
      · exact ih List.not_mem_nil hlater
    · rw [firstSaid?_cons hc] at h
      exact ih (by simp [hfront, Ne.symm hc]) h

def FirstSession (cs rest : List Char) : Prop :=
  ∃ before after, cs.splitOn '\n' = before ++ (['s', '='] ++ rest) :: after ∧
    ∀ line ∈ before, ¬ ['s', '='] <+: line

theorem firstSaid?_eq_some_iff : firstSaid? [] cs = some t ↔ ∃ rest, FirstSession cs rest ∧ Trimmed rest t := by
  simp only [firstSaid?, modifyHead_nil_append, List.findSome?_eq_some_iff, said?_eq_some_iff, said?_eq_none_iff]
  constructor
  · rintro ⟨before, line, after, hcs, ⟨rest, rfl, htrim⟩, hbefore⟩
    exact ⟨rest, ⟨before, after, hcs, hbefore⟩, htrim⟩
  · rintro ⟨rest, ⟨before, after, hcs, hbefore⟩, htrim⟩
    exact ⟨before, _, after, hcs, ⟨rest, rfl, htrim⟩, hbefore⟩

theorem sessionName_eq_some_iff {t : String} : (Description.ofSdp url sdp).sessionName = some t ↔
    firstSaid? [] sdp.toList = some t.toList ∧ t ≠ "" ∧ t ≠ "-" := by
  have hname : (Description.ofSdp url sdp).sessionName = some t ↔ sessionName? sdp.toList = some t.toList := by
    rw [Description.ofSdp, Option.map_eq_some_iff]
    constructor
    · rintro ⟨cs, hcs, rfl⟩
      rwa [String.toList_ofList]
    · intro hcs
      exact ⟨t.toList, hcs, String.ofList_toList⟩
  have hempty : t.toList ≠ [] ↔ t ≠ "" := String.toList_eq_nil_iff.not
  have hdash : t.toList ≠ "-".toList ↔ t ≠ "-" := String.toList_inj.not
  rw [hname, sessionName?, sessionLine?_eq, Option.filter_eq_some_iff, ← hempty, ← hdash]
  simp

theorem sessionName_congr (h : firstSaid? [] sdp.toList = firstSaid? [] sdp'.toList) :
    (Description.ofSdp url sdp).sessionName = (Description.ofSdp url sdp').sessionName := by
  simp only [Description.ofSdp, sessionName?, sessionLine?_eq, h]

theorem session_name_from_first_line (url : String) :
    (∀ sdp t, (Description.ofSdp url sdp).sessionName = some t ↔
      ∃ rest, FirstSession sdp.toList rest ∧ Trimmed rest t.toList ∧ t ≠ "" ∧ t ≠ "-") ∧
    (∀ rest later, '\n' ∉ rest.toList → (Description.ofSdp url ("s=" ++ rest ++ "\n" ++ later)).sessionName =
      (Description.ofSdp url ("s=" ++ rest)).sessionName) ∧
    (∀ sdp t, (Description.ofSdp url sdp).sessionName = some t → '\n' ∉ t.toList ∧
      ∀ c, t.toList.head? = some c ∨ t.toList.getLast? = some c → Text.isBlank c = false) ∧
    (∀ sdp, (Description.ofSdp url (String.ofList (plainFeeds sdp.toList))).sessionName =
      (Description.ofSdp url sdp).sessionName) ∧
    ∀ (lines : List (List Char)) sdp, (∀ line ∈ lines, '\n' ∉ line ∧ ¬ ['s', '='] <+: line) →
      (Description.ofSdp url (String.ofList (lines.flatMap (· ++ ['\n'])) ++ sdp)).sessionName =
        (Description.ofSdp url sdp).sessionName := by
  refine ⟨?_, ?_, ?_, ?_, ?_⟩
  · intro sdp t
    rw [sessionName_eq_some_iff, firstSaid?_eq_some_iff]
    constructor
    · rintro ⟨⟨rest, hfirst, htrim⟩, hname⟩
      exact ⟨rest, hfirst, htrim, hname⟩
    · rintro ⟨rest, hfirst, htrim, hname⟩
      exact ⟨⟨rest, hfirst, htrim⟩, hname⟩
  · intro rest later hrest
    apply sessionName_congr
    simp only [String.toList_append, List.append_assoc]
    have hsession := firstSaid?_session hrest later.toList
    rwa [List.append_assoc] at hsession
  · intro sdp t h
    obtain ⟨hsaid, -⟩ := sessionName_eq_some_iff.mp h
    obtain ⟨rest, -, front, back, -, -, -, hends⟩ := firstSaid?_eq_some_iff.mp hsaid
    exact ⟨feed_not_mem_firstSaid? List.not_mem_nil hsaid, hends⟩
  · intro sdp
    apply sessionName_congr
    rw [String.toList_ofList]
    exact firstSaid?_plainFeeds [] sdp.toList
  · intro lines sdp h
    apply sessionName_congr
    rw [String.toList_append, String.toList_ofList]
    exact firstSaid?_skip h sdp.toList

theorem session_name_from_first_line_dash :
    ('\n' ∉ " -\r".toList ∧
      (Description.ofSdp "rtsp://x" ("s=" ++ " -\r" ++ "\n" ++ "s=Later\r\n")).sessionName =
        (Description.ofSdp "rtsp://x" ("s=" ++ " -\r")).sessionName ∧
      (Description.ofSdp "rtsp://x" ("s=" ++ " -\r")).sessionName = none) ∧
    ((Description.ofSdp "rtsp://x" "s=\u2003Studio One \r\r\n").sessionName = some "Studio One" ∧
      '\n' ∉ "Studio One".toList) ∧
    ((∀ line ∈ ["v=0\r".toList, "\rs=No".toList], '\n' ∉ line ∧ ¬ ['s', '='] <+: line) ∧
      (Description.ofSdp "rtsp://x" (String.ofList (["v=0\r".toList, "\rs=No".toList].flatMap (· ++ ['\n'])) ++
        "s=Studio One")).sessionName = (Description.ofSdp "rtsp://x" "s=Studio One").sessionName) := by
  have hfeed : '\n' ∉ " -\r".toList := by decide +kernel
  have hname : (Description.ofSdp "rtsp://x" "s=\u2003Studio One \r\r\n").sessionName = some "Studio One" := by
    decide +kernel
  have hlines : ∀ line ∈ ["v=0\r".toList, "\rs=No".toList], '\n' ∉ line ∧ ¬ ['s', '='] <+: line := by
    decide +kernel
  obtain ⟨-, hlater, hends, -, hskip⟩ := session_name_from_first_line "rtsp://x"
  exact ⟨⟨hfeed, hlater _ _ hfeed, by decide +kernel⟩, ⟨hname, (hends _ _ hname).1⟩, hlines, hskip _ _ hlines⟩

end StreamScout.Rtsp
