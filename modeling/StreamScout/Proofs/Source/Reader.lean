import StreamScout.Proofs.Json.Strings
import StreamScout.Proofs.Time.Spelling
import StreamScout.Source.Reader

namespace StreamScout.Json

open StreamScout.Schema (Mismatch)

variable {rest : List Char} {expected : String}

theorem skipGap_cons {c : Char} (h : isGap c = false) (cs : List Char) : skipGap (c :: cs) = c :: cs :=
  List.dropWhile_cons_of_neg (by simp [h])

theorem stringValue_written (s : String) : stringValue expected (string s ++ rest) = .ok (s, rest) := by
  rw [string_append, stringValue, skipGap_cons (by decide)]
  exact readString_written s rest

theorem nullableString_written (s : Option String) : nullableString expected (nullable s ++ rest) = .ok (s, rest) := by
  cases s with
  | none => rfl
  | some s =>
    have hread : stringValue expected ('"' :: (s.toList.flatMap escapedChar ++ '"' :: rest)) = .ok (s, rest) := by
      rw [← string_append]
      exact stringValue_written s
    have hquote : nullableString expected ('"' :: (s.toList.flatMap escapedChar ++ '"' :: rest)) =
        (stringValue expected ('"' :: (s.toList.flatMap escapedChar ++ '"' :: rest))).map fun x => (some x.1, x.2) := rfl
    rw [nullable, string_append, hquote, hread]
    rfl

theorem joined_cons (x : List Char) (xs : List (List Char)) : joined (x :: xs) = x ++ xs.flatMap (',' :: ·) := by
  induction xs generalizing x with
  | nil => simp [joined]
  | cons y xs ih =>
    change x ++ ',' :: joined (y :: xs) = _
    rw [ih y, List.flatMap_cons, List.cons_append]

theorem nextKey_first (k : String) (rest : List Char) : nextKey true (string k ++ rest) = .ok (some k, rest) := by
  have hquote (cs : List Char) : nextKey true ('"' :: cs) = (readString cs).map fun x => (some x.1, x.2) := rfl
  rw [string_append, hquote, readString_written]
  rfl

theorem nextKey_later (k : String) (rest : List Char) :
    nextKey false (',' :: (string k ++ rest)) = .ok (some k, rest) := by
  have hquote (cs : List Char) : nextKey false (',' :: '"' :: cs) = (readString cs).map fun x => (some x.1, x.2) := rfl
  rw [string_append, hquote, readString_written]
  rfl

theorem colon_cons (rest : List Char) : colon (':' :: rest) = .ok rest :=
  rfl

end StreamScout.Json

namespace StreamScout.RemoteSource

open StreamScout.Json
open StreamScout.Time (Timestamp)

variable {d : Draft} {f : Field} {fields : List Field} {rest : List Char} {s : RemoteSource}

theorem timeValue_written {t : Timestamp} (h : t.regular = true) : timeValue (string t.text ++ rest) = .ok (t, rest) := by
  have hchars : Timestamp.ofChars t.text.toList = .ok t := by
    rw [Timestamp.text, String.toList_ofList, Time.ofChars_regular h]
  simp only [timeValue, stringValue_written, Bind.bind, Except.bind, hchars, pure, Except.pure]

theorem ofKey?_key (f : Field) : Field.ofKey? f.key = some f := by
  cases f <;> decide

def fieldText (s : RemoteSource) : Field → List Char
  | .name => string s.name
  | .domain => string s.domain
  | .url => string s.url
  | .sdp => string s.sdp
  | .sessionName => nullable s.sessionName
  | .firstSeen => string s.firstSeen.text
  | .lastSeen => string s.lastSeen.text

def Draft.fill (s : RemoteSource) (d : Draft) : Field → Draft
  | .name => { d with name := some s.name }
  | .domain => { d with domain := some s.domain }
  | .url => { d with url := some s.url }
  | .sdp => { d with sdp := some s.sdp }
  | .sessionName => { d with sessionName := some s.sessionName }
  | .firstSeen => { d with firstSeen := some s.firstSeen }
  | .lastSeen => { d with lastSeen := some s.lastSeen }

theorem Draft.has_fill {g : Field} (h : g ≠ f) : (d.fill s f).has g = d.has g := by
  cases f <;> cases g <;> first | rfl | exact absurd rfl h

theorem Draft.complete_fill (s : RemoteSource) : (Field.all.foldl (Draft.fill s) {}).complete = .ok s :=
  rfl

def Timed (s : RemoteSource) : Prop :=
  s.firstSeen.regular = true ∧ s.lastSeen.regular = true

theorem Draft.read_written (hs : Timed s) (f : Field) (rest : List Char) :
    d.read f (fieldText s f ++ rest) = .ok (d.fill s f, rest) := by
  cases f with
  | name | domain | url | sdp => simp only [Draft.read, fieldText, stringValue_written, Except.map, Draft.fill]
  | sessionName => simp only [Draft.read, fieldText, nullableString_written, Except.map, Draft.fill]
  | firstSeen => simp only [Draft.read, fieldText, timeValue_written hs.1, Except.map, Draft.fill]
  | lastSeen => simp only [Draft.read, fieldText, timeValue_written hs.2, Except.map, Draft.fill]

theorem member_written (hs : Timed s) (free : d.has f = false) (rest : List Char) :
    member f.key d (':' :: (fieldText s f ++ rest)) = .ok (d.fill s f, rest) := by
  have hread := Draft.read_written (d := d) hs f rest
  simp only [member, ofKey?_key, free, colon_cons, Bind.bind, Except.bind, hread]
  rfl

def tail (s : RemoteSource) (fields : List Field) (rest : List Char) : List Char :=
  fields.flatMap (fun f => ',' :: (string f.key ++ ':' :: fieldText s f)) ++ '\x7d' :: rest

theorem tail_cons (f : Field) (fields : List Field) (rest : List Char) :
    tail s (f :: fields) rest = ',' :: (string f.key ++ ':' :: (fieldText s f ++ tail s fields rest)) := by
  simp [tail]

theorem length_tail (fields : List Field) (rest : List Char) : fields.length < (tail s fields rest).length := by
  induction fields with
  | nil => exact Nat.succ_pos _
  | cons f fields ih =>
    rw [tail_cons]
    simp only [List.length_cons, List.length_append]
    omega

theorem free_later (s : RemoteSource) (hnew : (f :: fields).Nodup) (free : ∀ g ∈ f :: fields, d.has g = false) :
    ∀ g ∈ fields, (d.fill s f).has g = false := by
  intro g hg
  have hne : g ≠ f := by
    rintro rfl
    exact (List.nodup_cons.mp hnew).1 hg
  rw [Draft.has_fill hne]
  exact free g (List.mem_cons_of_mem _ hg)

theorem members_written (hs : Timed s) {turns : Nat} (hturns : fields.length < turns) (hnew : fields.Nodup)
    (free : ∀ f ∈ fields, d.has f = false) (rest : List Char) :
    members turns false d (tail s fields rest) = .ok (fields.foldl (Draft.fill s) d, '\x7d' :: rest) := by
  induction fields generalizing d turns with
  | nil =>
    cases turns with
    | zero => cases hturns
    | succ turns => rfl
  | cons f fields ih =>
    cases turns with
    | zero => cases hturns
    | succ turns =>
      have hmember := member_written hs (free f List.mem_cons_self) (tail s fields rest)
      have hrest := ih (Nat.lt_of_succ_lt_succ hturns) (List.nodup_cons.mp hnew).2 (free_later s hnew free)
      rw [tail_cons, members, nextKey_later]
      simp only [hmember, hrest, List.foldl_cons]

theorem members_object (hs : Timed s) {turns : Nat} (hturns : fields.length < turns) (hnew : (f :: fields).Nodup) :
    members (turns + 1) true {} (string f.key ++ ':' :: (fieldText s f ++ tail s fields rest)) =
      .ok ((f :: fields).foldl (Draft.fill s) {}, '\x7d' :: rest) := by
  have hfree (g : Field) : Draft.has {} g = false := by cases g <;> rfl
  have hmember := member_written hs (hfree f) (tail s fields rest)
  have hlater := free_later s hnew fun g _ => hfree g
  have hrest := members_written hs hturns (List.nodup_cons.mp hnew).2 hlater rest
  rw [members, nextKey_first]
  simp only [hmember, hrest, List.foldl_cons]

theorem toJson_append (s : RemoteSource) (rest : List Char) :
    toJson s ++ rest =
      '\x7b' :: (string Field.name.key ++ ':' :: (fieldText s .name ++ tail s (Field.all.drop 1) rest)) := by
  have hmembers : toJson s = object (Field.all.map fun f => (f.key, fieldText s f)) := rfl
  rw [hmembers, object, Field.all, List.map_cons, List.map_cons, joined_cons]
  simp [tail]

theorem value_written (hs : Timed s) (rest : List Char) : value (toJson s ++ rest) = .ok (s, rest) := by
  have hmembers : members
      ((string Field.name.key ++ ':' :: (fieldText s .name ++ tail s (Field.all.drop 1) rest)).length + 1) true {}
      (string Field.name.key ++ ':' :: (fieldText s .name ++ tail s (Field.all.drop 1) rest)) =
        .ok (Field.all.foldl (Draft.fill s) {}, '\x7d' :: rest) := by
    refine members_object hs ?_ (by decide)
    have hlen := length_tail (s := s) (Field.all.drop 1) rest
    simp only [List.length_append, List.length_cons]
    omega
  rw [toJson_append, value, skipGap_cons (by decide)]
  simp only [hmembers, Bind.bind, Except.bind, Draft.complete_fill]
  rfl

theorem ofJson_toJson (hs : Timed s) : ofJson (toJson s) = .ok s := by
  have hvalue := value_written hs []
  rw [List.append_nil] at hvalue
  rw [ofJson, hvalue]
  rfl

def items : (turns : Nat) → (first : Bool) → List Char → Except Fault (List RemoteSource × List Char)
  | 0, _, _ => .error .ended
  | turns + 1, first, cs =>
      match nextElement first cs with
      | .error e => .error e
      | .ok (false, rest) => .ok ([], rest)
      | .ok (true, rest) =>
          match value rest with
          | .error e => .error e
          | .ok (s, rest) => (items turns false rest).map fun (ss, r) => (s :: ss, r)

def wantedList : String := "a sequence"

def listOfJson (text : List Char) : Except Fault (List RemoteSource) :=
  match skipGap text with
  | [] => .error .ended
  | '[' :: rest => do
      let (ss, rest) ← items (rest.length + 1) true rest
      closeDocument (← closeArray rest)
      pure ss
  | cs => .error (unexpected wantedList cs)

def laterItems (ss : List RemoteSource) : List Char :=
  ss.flatMap (fun s => ',' :: toJson s) ++ [']']

theorem laterItems_cons (s : RemoteSource) (ss : List RemoteSource) :
    laterItems (s :: ss) = ',' :: (toJson s ++ laterItems ss) := by
  simp [laterItems]

theorem length_laterItems (ss : List RemoteSource) : ss.length < (laterItems ss).length := by
  induction ss with
  | nil => exact Nat.succ_pos _
  | cons s ss ih =>
    rw [laterItems_cons, List.length_cons, List.length_cons, List.length_append]
    omega

theorem nextElement_first (s : RemoteSource) (rest : List Char) :
    nextElement true (toJson s ++ rest) = .ok (true, toJson s ++ rest) := by
  rw [toJson_append]
  rfl

theorem nextElement_later (s : RemoteSource) (rest : List Char) :
    nextElement false (',' :: (toJson s ++ rest)) = .ok (true, toJson s ++ rest) := by
  rw [toJson_append]
  rfl

theorem items_element {first : Bool} {turns : Nat} {cs : List Char} (hs : Timed s)
    (hnext : nextElement first cs = .ok (true, toJson s ++ rest)) :
    items (turns + 1) first cs = (items turns false rest).map fun (ss, r) => (s :: ss, r) := by
  rw [items, hnext]
  simp only [value_written hs]

theorem items_later {ss : List RemoteSource} (hss : ∀ s ∈ ss, Timed s) {turns : Nat} (hturns : ss.length < turns) :
    items turns false (laterItems ss) = .ok (ss, [']']) := by
  induction ss generalizing turns with
  | nil =>
    cases turns with
    | zero => cases hturns
    | succ turns => rfl
  | cons s ss ih =>
    cases turns with
    | zero => cases hturns
    | succ turns =>
      have hrest := ih (fun s' hs' => hss s' (List.mem_cons_of_mem _ hs')) (Nat.lt_of_succ_lt_succ hturns)
      rw [laterItems_cons, items_element (hss s List.mem_cons_self) (nextElement_later s _), hrest]
      rfl

theorem listOfJson_array {ss : List RemoteSource} (hss : ∀ s ∈ ss, Timed s) :
    listOfJson (array (ss.map toJson)) = .ok ss := by
  cases ss with
  | nil => rfl
  | cons s ss =>
    have hlater := fun s' hs' => hss s' (List.mem_cons_of_mem s hs')
    have htext : array ((s :: ss).map toJson) = '[' :: (toJson s ++ laterItems ss) := by
      rw [array, List.map_cons, joined_cons, List.flatMap_map, laterItems]
      simp
    have hlong : ss.length < (toJson s ++ laterItems ss).length := by
      have hlen := length_laterItems ss
      rw [List.length_append]
      omega
    have hitems : items ((toJson s ++ laterItems ss).length + 1) true (toJson s ++ laterItems ss) =
        .ok (s :: ss, [']']) := by
      rw [items_element (hss s List.mem_cons_self) (nextElement_first s _), items_later hlater hlong]
      rfl
    rw [htext, listOfJson, skipGap_cons (by decide)]
    simp only [hitems, Bind.bind, Except.bind]
    rfl

end StreamScout.RemoteSource
