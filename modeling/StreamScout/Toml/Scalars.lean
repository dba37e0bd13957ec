import StreamScout.Decimal.Shortest
import StreamScout.Text.Blank
import StreamScout.Text.Numeral
import StreamScout.Time.Date
import StreamScout.Toml.Item

namespace StreamScout.Toml

def isSpace (c : Char) : Bool :=
  c == ' ' || c == '\t'

def skipSpace (cs : List Char) : List Char :=
  cs.dropWhile isSpace

def lineEnd? : List Char → Option (List Char)
  | '\n' :: cs => some cs
  | '\r' :: '\n' :: cs => some cs
  | _ => none

def isTextChar (c : Char) : Bool :=
  c == '\t' || (0x20 ≤ c.toNat && c.toNat != 0x7F)

def hexDigit? (c : Char) : Option Nat :=
  if '0' ≤ c ∧ c ≤ '9' then some (c.toNat - 48)
  else if 'a' ≤ c ∧ c ≤ 'f' then some (c.toNat - 87)
  else if 'A' ≤ c ∧ c ≤ 'F' then some (c.toNat - 55)
  else none

def codePoint (count : Nat) (cs : List Char) : Option (Char × List Char) := do
  let ds ← (cs.take count).mapM hexDigit?
  let n := ds.foldl (fun n d => n * 16 + d) 0
  if ds.length = count ∧ n.isValidChar then some (Char.ofNat n, cs.drop count) else none

def escape (cs : List Char) : Option (Char × List Char) :=
  match cs with
  | 'b' :: rest => some ('\x08', rest)
  | 't' :: rest => some ('\t', rest)
  | 'n' :: rest => some ('\n', rest)
  | 'f' :: rest => some ('\x0c', rest)
  | 'r' :: rest => some ('\r', rest)
  | '"' :: rest => some ('"', rest)
  | '\\' :: rest => some ('\\', rest)
  | 'u' :: rest => codePoint 4 rest
  | 'U' :: rest => codePoint 8 rest
  | _ => none

def basicFrom : (turns : Nat) → List Char → List Char → Option (String × List Char)
  | 0, _, _ => none
  | _ + 1, _, [] => none
  | turns + 1, read, c :: cs =>
      if c = '"' then some (String.ofList read.reverse, cs)
      else if c = '\\' then (escape cs).bind fun (e, rest) => basicFrom turns (e :: read) rest
      else if isTextChar c then basicFrom turns (c :: read) cs
      else none

def literalFrom : List Char → List Char → Option (String × List Char)
  | _, [] => none
  | read, c :: cs =>
      if c = '\'' then some (String.ofList read.reverse, cs)
      else if isTextChar c then literalFrom (c :: read) cs
      else none

def skipLines (cs : List Char) : List Char :=
  match cs with
  | [] => []
  | ' ' :: cs => skipLines cs
  | '\t' :: cs => skipLines cs
  | '\n' :: cs => skipLines cs
  | '\r' :: '\n' :: cs => skipLines cs
  | cs => cs

def quoteRun (q : Char) (cs : List Char) : Nat :=
  (cs.takeWhile (· == q)).length

/-- A string of several lines after its opening quotes. One or two quotes are content, also right before the closing
three. A backslash at the end of a line swallows the blanks and line ends that follow. -/
def multilineFrom (q : Char) : (turns : Nat) → List Char → List Char → Option (String × List Char)
  | 0, _, _ => none
  | _ + 1, _, [] => none
  | turns + 1, read, c :: cs =>
      if c = q then
        let run := quoteRun q (c :: cs)
        if run < 3 then multilineFrom q turns (c :: read) cs
        else
          let extra := min (run - 3) 2
          some (String.ofList ((List.replicate extra q ++ read).reverse), (c :: cs).drop (extra + 3))
      else match lineEnd? (c :: cs) with
        | some rest => multilineFrom q turns ('\n' :: read) rest
        | none =>
            if c = '\\' ∧ q = '"' then
              match lineEnd? (skipSpace cs) with
              | some rest => multilineFrom q turns read (skipLines rest)
              | none => (escape cs).bind fun (e, rest) => multilineFrom q turns (e :: read) rest
            else if isTextChar c then multilineFrom q turns (c :: read) cs
            else none

def multiline (q : Char) (cs : List Char) : Option (String × List Char) :=
  let cs := (lineEnd? cs).getD cs
  multilineFrom q (cs.length + 1) [] cs

def lineString (cs : List Char) : Option (String × List Char) :=
  match cs with
  | '"' :: rest => basicFrom (rest.length + 1) [] rest
  | '\'' :: rest => literalFrom [] rest
  | _ => none

def string (cs : List Char) : Option (String × List Char) :=
  match cs with
  | '"' :: '"' :: '"' :: rest => multiline '"' rest
  | '\'' :: '\'' :: '\'' :: rest => multiline '\'' rest
  | cs => lineString cs

def digitsFrom (digit? : Char → Option Nat) : List Char → List Nat × List Char
  | '_' :: c :: cs =>
      match digit? c with
      | some d => let (ds, rest) := digitsFrom digit? cs; (d :: ds, rest)
      | none => ([], '_' :: c :: cs)
  | c :: cs =>
      match digit? c with
      | some d => let (ds, rest) := digitsFrom digit? cs; (d :: ds, rest)
      | none => ([], c :: cs)
  | [] => ([], [])

def digits (digit? : Char → Option Nat) (cs : List Char) : Option (List Nat × List Char) :=
  match cs with
  | c :: _ => if (digit? c).isSome then some (digitsFrom digit? cs) else none
  | [] => none

def valueOf (base : Nat) (ds : List Nat) : Nat :=
  ds.foldl (fun n d => n * base + d) 0

def signOf (cs : List Char) : Bool × List Char :=
  match cs with
  | '-' :: rest => (true, rest)
  | '+' :: rest => (false, rest)
  | cs => (false, cs)

def integerDigits (cs : List Char) : Option (List Nat × List Char) :=
  match cs with
  | '0' :: rest => some ([0], rest)
  | cs => digits Numeral.digit? cs

def digitBelow? (base : Nat) (c : Char) : Option Nat :=
  (hexDigit? c).filter (· < base)

def basedInteger (base : Nat) (cs : List Char) : Option (Item × List Char) := do
  let (ds, rest) ← digits (digitBelow? base) cs
  let n := valueOf base ds
  if n < Numeral.signed64 then some (.integer n, rest) else none

def fractionDigits (cs : List Char) : Option (Option (List Nat) × List Char) :=
  match cs with
  | '.' :: rest => (digits Numeral.digit? rest).map fun (ds, r) => (some ds, r)
  | cs => some (none, cs)

def exponentValue (cs : List Char) : Option (Option Int × List Char) :=
  match cs with
  | c :: rest =>
      if c = 'e' ∨ c = 'E' then
        let (minus, rest) := signOf rest
        (digits Numeral.digit? rest).map fun (ds, r) =>
          let n : Int := valueOf 10 ds
          (some (if minus then -n else n), r)
      else some (none, cs)
  | [] => some (none, cs)

def floatLayout : Decimal.Layout := ⟨none, .up⟩

def floatText (minus : Bool) (x : Decimal.Binary64) : String :=
  Decimal.text floatLayout minus x

def decimalNumber (cs : List Char) : Option (Item × List Char) := do
  let (minus, rest) := signOf cs
  let (whole, rest) ← integerDigits rest
  let (fraction, rest) ← fractionDigits rest
  let (exponent, rest) ← exponentValue rest
  if fraction.isNone && exponent.isNone then
    let n : Int := if minus then -(valueOf 10 whole : Nat) else (valueOf 10 whole : Nat)
    if -(Numeral.signed64 : Int) ≤ n ∧ n < Numeral.signed64 then some (.integer n, rest) else none
  else
    let after := fraction.getD []
    let x := Decimal.Binary64.ofDecimal (valueOf 10 (whole ++ after)) (exponent.getD 0 - after.length)
    if x = .infinite ∧ !minus then none else some (.float (floatText minus x), rest)

def specialNumber (cs : List Char) : Option (Item × List Char) :=
  let (minus, rest) := signOf cs
  match rest with
  | 'i' :: 'n' :: 'f' :: rest => some (.float (if minus then "-inf" else "inf"), rest)
  | 'n' :: 'a' :: 'n' :: rest => some (.float "NaN", rest)
  | _ => none

def number (cs : List Char) : Option (Item × List Char) :=
  match cs with
  | '0' :: 'x' :: rest => basedInteger 16 rest
  | '0' :: 'o' :: rest => basedInteger 8 rest
  | '0' :: 'b' :: rest => basedInteger 2 rest
  | cs => (specialNumber cs).or (decimalNumber cs)

def fixed (count low high : Nat) (cs : List Char) : Option (Nat × List Char) := do
  let ds ← (cs.take count).mapM Numeral.digit?
  let n := valueOf 10 ds
  if ds.length = count ∧ low ≤ n ∧ n ≤ high then some (n, cs.drop count) else none

def sign (c : Char) (cs : List Char) : Option (List Char) :=
  match cs with
  | d :: rest => if c = d then some rest else none
  | [] => none

def date (cs : List Char) : Option (List Char) := do
  let (year, cs) ← fixed 4 0 9999 cs
  let cs ← sign '-' cs
  let (month, cs) ← fixed 2 1 12 cs
  let cs ← sign '-' cs
  let (_, cs) ← fixed 2 1 (Time.daysIn year month) cs
  some cs

def secondFraction (cs : List Char) : Option (List Char) :=
  match cs with
  | '.' :: c :: rest =>
      if (Numeral.digit? c).isSome then some (rest.dropWhile fun d => (Numeral.digit? d).isSome) else none
  | cs => some cs

def time (cs : List Char) : Option (List Char) := do
  let (_, cs) ← fixed 2 0 23 cs
  let cs ← sign ':' cs
  let (_, cs) ← fixed 2 0 59 cs
  let cs ← sign ':' cs
  let (_, cs) ← fixed 2 0 60 cs
  secondFraction cs

def timeOffset (cs : List Char) : Option (List Char) :=
  match cs with
  | 'Z' :: rest => some rest
  | 'z' :: rest => some rest
  | c :: rest =>
      if c = '+' ∨ c = '-' then do
        let (_, rest) ← fixed 2 0 23 rest
        let rest ← sign ':' rest
        let (_, rest) ← fixed 2 0 59 rest
        some rest
      else some cs
  | [] => some []

def timeAfterDate (cs : List Char) : Option (List Char) :=
  match cs with
  | c :: rest =>
      if c = 'T' ∨ c = 't' then (time rest).bind timeOffset
      else if c = ' ' ∧ (rest.head?.any fun d => (Numeral.digit? d).isSome) then (time rest).bind timeOffset
      else some cs
  | [] => some []

def isDate (cs : List Char) : Bool :=
  (fixed 4 0 9999 cs).any fun (_, rest) => rest.head? == some '-'

def isTime (cs : List Char) : Bool :=
  (fixed 2 0 99 cs).any fun (_, rest) => rest.head? == some ':'

def dateOrTime (cs : List Char) : Option (Item × List Char) :=
  ((if isDate cs then (date cs).bind timeAfterDate else time cs)).map fun rest => (.dateTime, rest)

def boolean (cs : List Char) : Option (Item × List Char) :=
  match cs with
  | 't' :: 'r' :: 'u' :: 'e' :: rest => some (.boolean true, rest)
  | 'f' :: 'a' :: 'l' :: 's' :: 'e' :: rest => some (.boolean false, rest)
  | _ => none

def scalar (cs : List Char) : Option (Item × List Char) :=
  match cs with
  | c :: _ =>
      if c = '"' ∨ c = '\'' then (string cs).map fun (s, r) => (.string s, r)
      else if c = 't' ∨ c = 'f' then boolean cs
      else if isDate cs || isTime cs then dateOrTime cs
      else number cs
  | [] => none

end StreamScout.Toml
