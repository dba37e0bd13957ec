import StreamScout.Json.Values
import StreamScout.Source.Basic
import StreamScout.Time.Spelling

namespace StreamScout

open StreamScout.Json
open StreamScout.Schema (Mismatch)
open StreamScout.Time (Timestamp)

abbrev RemoteSource := Source Timestamp

namespace RemoteSource

def toJson (s : RemoteSource) : List Char :=
  Source.json Timestamp.text s

def wanted : String := "struct RemoteSource"
def wantedLength : String := "struct RemoteSource with 7 elements"

def wantedText : String := "a string"
def wantedTime : String := "an RFC 3339 formatted date and time string"

def timeValue (cs : List Char) : Except Fault (Timestamp × List Char) := do
  let (s, rest) ← stringValue wantedTime cs
  match Timestamp.ofChars s.toList with
  | .ok t => pure (t, rest)
  | .error e => throw (.mismatch (.unreadable e.message))

/-- The fields that have been read. A session name that is known to be absent differs from one not yet read. -/
structure Draft where
  name : Option String := none
  domain : Option String := none
  url : Option String := none
  sdp : Option String := none
  sessionName : Option (Option String) := none
  firstSeen : Option Timestamp := none
  lastSeen : Option Timestamp := none
  deriving DecidableEq, Repr

inductive Field where
  | name
  | domain
  | url
  | sdp
  | sessionName
  | firstSeen
  | lastSeen
  deriving DecidableEq, Repr

namespace Field

def all : List Field :=
  [.name, .domain, .url, .sdp, .sessionName, .firstSeen, .lastSeen]

def key : Field → String
  | .name => "name"
  | .domain => "domain"
  | .url => "url"
  | .sdp => "sdp"
  | .sessionName => "session_name"
  | .firstSeen => "first_seen"
  | .lastSeen => "last_seen"

def ofKey? (k : String) : Option Field :=
  all.find? (·.key == k)

end Field

namespace Draft

def has (d : Draft) : Field → Bool
  | .name => d.name.isSome
  | .domain => d.domain.isSome
  | .url => d.url.isSome
  | .sdp => d.sdp.isSome
  | .sessionName => d.sessionName.isSome
  | .firstSeen => d.firstSeen.isSome
  | .lastSeen => d.lastSeen.isSome

def read (d : Draft) (f : Field) (cs : List Char) : Except Fault (Draft × List Char) :=
  match f with
  | .name => (stringValue wantedText cs).map fun (v, r) => ({ d with name := some v }, r)
  | .domain => (stringValue wantedText cs).map fun (v, r) => ({ d with domain := some v }, r)
  | .url => (stringValue wantedText cs).map fun (v, r) => ({ d with url := some v }, r)
  | .sdp => (stringValue wantedText cs).map fun (v, r) => ({ d with sdp := some v }, r)
  | .sessionName => (nullableString wantedText cs).map fun (v, r) => ({ d with sessionName := some v }, r)
  | .firstSeen => (timeValue cs).map fun (v, r) => ({ d with firstSeen := some v }, r)
  | .lastSeen => (timeValue cs).map fun (v, r) => ({ d with lastSeen := some v }, r)

def required {α : Type} (f : Field) (v : Option α) : Except Fault α :=
  match v with
  | some a => .ok a
  | none => .error (.mismatch (.missing f.key))

def complete (d : Draft) : Except Fault RemoteSource := do
  let name ← required .name d.name
  let domain ← required .domain d.domain
  let url ← required .url d.url
  let sdp ← required .sdp d.sdp
  let firstSeen ← required .firstSeen d.firstSeen
  let lastSeen ← required .lastSeen d.lastSeen
  pure { name, domain, url, sdp, sessionName := d.sessionName.join, firstSeen, lastSeen }

end Draft

/-- One member after its key. A second value for a field is refused before it is looked at. -/
def member (key : String) (d : Draft) (cs : List Char) : Except Fault (Draft × List Char) :=
  match Field.ofKey? key with
  | some f =>
      if d.has f then .error (.mismatch (.duplicate key))
      else do d.read f (← colon cs)
  | none => do pure (d, ← skipValue (← colon cs))

def members : (turns : Nat) → (first : Bool) → Draft → List Char → Except Fault (Draft × List Char)
  | 0, _, _, _ => .error .ended
  | turns + 1, first, d, cs =>
      match nextKey first cs with
      | .error e => .error e
      | .ok (none, rest) => .ok (d, rest)
      | .ok (some key, rest) =>
          match member key d rest with
          | .error e => .error e
          | .ok (d', rest) => members turns false d' rest

def elements : (fields : List Field) → (count : Nat) → Draft → List Char → Except Fault (Draft × List Char)
  | [], _, d, cs => .ok (d, cs)
  | f :: fs, count, d, cs =>
      match nextElement (count == 0) cs with
      | .error e => .error e
      | .ok (false, _) => .error (.mismatch (.wrongLength count wantedLength))
      | .ok (true, rest) =>
          match d.read f rest with
          | .error e => .error e
          | .ok (d', rest) => elements fs (count + 1) d' rest

def value (cs : List Char) : Except Fault (RemoteSource × List Char) :=
  match skipGap cs with
  | [] => .error .ended
  | '\x7b' :: rest => do
      let (d, rest) ← members (rest.length + 1) true {} rest
      pure (← d.complete, rest.drop 1)
  | '[' :: rest => do
      let (d, rest) ← elements Field.all 0 {} rest
      pure (← d.complete, ← closeArray rest)
  | cs => .error (unexpected wanted cs)

def ofJson (text : List Char) : Except Fault RemoteSource := do
  let (s, rest) ← value text
  closeDocument rest
  pure s

end RemoteSource

end StreamScout
