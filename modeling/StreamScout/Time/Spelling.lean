import StreamScout.Text.Blank
import StreamScout.Text.Numeral
import StreamScout.Text.Utf8
import StreamScout.Time.Timestamp

namespace StreamScout.Time

inductive Fault where
  | premature
  | invalid
  | outOfRange
  | impossible
  | trailing
  deriving DecidableEq, Repr

def Fault.message : Fault → String
  | .premature => "premature end of input"
  | .invalid => "input contains invalid characters"
  | .outOfRange => "input is out of range"
  | .impossible => "no possible date and time matching input"
  | .trailing => "trailing input"

def digitsFrom : (room : Nat) → Nat → List Char → Except Fault (Nat × List Char)
  | 0, n, cs => .ok (n, cs)
  | _ + 1, n, [] => .ok (n, [])
  | room + 1, n, c :: cs =>
      match Numeral.digit? c with
      | none => .ok (n, c :: cs)
      | some d => if n * 10 + d < Numeral.signed64 then digitsFrom room (n * 10 + d) cs else .error .outOfRange

def number (room : Nat) (cs : List Char) : Except Fault (Nat × List Char) :=
  match cs with
  | [] => .error .premature
  | c :: _ => if (Numeral.digit? c).isSome then digitsFrom room 0 cs else .error .invalid

def field (low high : Nat) (cs : List Char) : Except Fault (Nat × List Char) :=
  match number 2 (Text.trimLeft cs) with
  | .error e => .error e
  | .ok (n, rest) => if low ≤ n ∧ n ≤ high then .ok (n, rest) else .error .outOfRange

def mark (m : Char) (cs : List Char) : Except Fault (Unit × List Char) :=
  match Text.trimLeft cs with
  | [] => .error .premature
  | c :: rest => if c = m then .ok ((), rest) else .error .invalid

def year (cs : List Char) : Except Fault (Int × List Char) := do
  let (y, rest) ← match Text.trimLeft cs with
    | '-' :: rest => (number rest.length rest).map fun (n, r) => (-(n : Int), r)
    | '+' :: rest => (number rest.length rest).map fun (n, r) => ((n : Int), r)
    | rest => (number 4 rest).map fun (n, r) => ((n : Int), r)
  if -(Numeral.signed32 : Int) ≤ y ∧ y < Numeral.signed32 then pure (y, rest) else throw .outOfRange

def fraction (cs : List Char) : Except Fault (Nat × List Char) :=
  match cs with
  | '.' :: rest => do
      let (n, r) ← number 9 rest
      pure (n * Nat.pow 10 (9 - (rest.length - r.length)), r.dropWhile fun c => (Numeral.digit? c).isSome)
  | _ => .ok (0, cs)

def twoDigits (cs : List Char) : Except Fault ((Nat × Nat) × List Char) :=
  if (Utf8.encode (cs.take 2)).length < 2 then .error .premature
  else match cs with
    | a :: b :: rest =>
        match Numeral.digit? a, Numeral.digit? b with
        | some m, some n => .ok ((m, n), rest)
        | _, _ => .error .invalid
    | _ => .error .invalid

def isOffsetGap (c : Char) : Bool :=
  c == ':' || Text.isBlank c

def offsetSize (cs : List Char) : Except Fault (Nat × List Char) := do
  let ((h1, h2), rest) ← twoDigits cs
  let ((m1, m2), rest) ← twoDigits (rest.dropWhile isOffsetGap)
  if m1 < 6 then pure ((h1 * 10 + h2) * 3600 + (m1 * 10 + m2) * 60, rest) else throw .outOfRange

def offset (cs : List Char) : Except Fault (Int × List Char) :=
  match cs with
  | 'Z' :: rest => .ok (0, rest)
  | 'z' :: rest => .ok (0, rest)
  | '+' :: rest => (offsetSize rest).map fun (n, r) => ((n : Int), r)
  | '-' :: rest => (offsetSize rest).map fun (n, r) => (-(n : Int), r)
  | '\u2212' :: rest => (offsetSize rest).map fun (n, r) => (-(n : Int), r)
  | [] => .error .premature
  | cs =>
      if (cs.take 3).map Char.toUpper = ['U', 'T', 'C'] then .ok (0, cs.drop 3) else .error .invalid

def dateTimeGap (cs : List Char) : Except Fault (Unit × List Char) :=
  match cs with
  | [] => .error .premature
  | c :: rest => if c = 'T' ∨ c = 't' ∨ c = ' ' then .ok ((), rest) else .error .invalid

/-- A local time and its offset, as far as each part can be judged by itself. A sixtieth second is the leap second
after the fifty-ninth. -/
def parts (cs : List Char) : Except Fault ((Timestamp × Int) × List Char) := do
  let (y, cs) ← year cs
  let (_, cs) ← mark '-' cs
  let (month, cs) ← field 1 12 cs
  let (_, cs) ← mark '-' cs
  let (day, cs) ← field 1 31 cs
  let (_, cs) ← dateTimeGap cs
  let (hour, cs) ← field 0 23 cs
  let (_, cs) ← mark ':' cs
  let (minute, cs) ← field 0 59 cs
  let (_, cs) ← mark ':' cs
  let (second, cs) ← field 0 60 cs
  let (nano, cs) ← fraction cs
  let (off, cs) ← offset (Text.trimLeft cs)
  let leap := second == 60
  pure ((⟨⟨y, month, day⟩, hour * 3600 + minute * 60 + (if leap then 59 else second),
    if leap then nano + billion else nano⟩, off), cs)

def Timestamp.ofChars (cs : List Char) : Except Fault Timestamp := do
  let ((t, off), rest) ← parts cs
  if !(Text.trimLeft rest).isEmpty then throw .trailing
  else if !t.date.valid || 86400 ≤ off.natAbs then throw .outOfRange
  else if (t.utc off).date.valid then pure (t.utc off)
  else throw .impossible

end StreamScout.Time
