import StreamScout.Json.Numbers
import StreamScout.Json.Strings

namespace StreamScout.Json

open StreamScout.Schema (Found)

def foundInstead (cs : List Char) : Except Fault Found :=
  match cs with
  | 'n' :: rest => (literal "ull".toList rest).map fun _ => .null
  | 't' :: rest => (literal "rue".toList rest).map fun _ => .boolean true
  | 'f' :: rest => (literal "alse".toList rest).map fun _ => .boolean false
  | '"' :: rest => (readString rest).map fun (s, _) => .string s
  | '[' :: _ => .ok .sequence
  | '\x7b' :: _ => .ok .map
  | c :: _ =>
      if c = '-' ∨ (Numeral.digit? c).isSome then (readNumber cs).map fun (n, _) => n.found
      else .error .malformed
  | [] => .error .ended

def unexpected (expected : String) (cs : List Char) : Fault :=
  match foundInstead cs with
  | .ok found => .mismatch (.wrongType found expected)
  | .error e => e

def stringValue (expected : String) (cs : List Char) : Except Fault (String × List Char) :=
  match skipGap cs with
  | [] => .error .ended
  | '"' :: rest => readString rest
  | cs => .error (unexpected expected cs)

def nullableString (expected : String) (cs : List Char) : Except Fault (Option String × List Char) :=
  match skipGap cs with
  | 'n' :: rest => (literal "ull".toList rest).map fun r => (none, r)
  | cs => (stringValue expected cs).map fun (s, r) => (some s, r)

inductive Frame where
  | array
  | object
  deriving DecidableEq, Repr

def skipKey (cs : List Char) : Except Fault (List Char) :=
  match skipGap cs with
  | [] => .error .ended
  | '"' :: rest =>
      match skipString rest with
      | .error e => .error e
      | .ok rest =>
          match skipGap rest with
          | [] => .error .ended
          | ':' :: rest => .ok rest
          | _ => .error .malformed
  | _ => .error .malformed

def skipToken (cs : List Char) : Except Fault (List Char) :=
  match cs with
  | 'n' :: rest => literal "ull".toList rest
  | 't' :: rest => literal "rue".toList rest
  | 'f' :: rest => literal "alse".toList rest
  | '"' :: rest => skipString rest
  | '-' :: rest => skipNumber rest
  | c :: _ => if (Numeral.digit? c).isSome then skipNumber cs else .error .malformed
  | [] => .error .ended

def Frame.close : Frame → Char
  | .array => ']'
  | .object => '\x7d'

inductive Place where
  | value
  | next (opened : Bool)
  deriving DecidableEq, Repr

/-- Skips a value inside of the open frames, the innermost first. Every second turn takes a character. -/
def skipFrom : (turns : Nat) → Place → List Frame → List Char → Except Fault (List Char)
  | 0, _, _, _ => .error .ended
  | turns + 1, .value, frames, cs =>
      match skipGap cs with
      | [] => .error .ended
      | '[' :: rest => skipFrom turns (.next true) (.array :: frames) rest
      | '\x7b' :: rest => skipFrom turns (.next true) (.object :: frames) rest
      | cs =>
          match skipToken cs with
          | .error e => .error e
          | .ok rest => skipFrom turns (.next false) frames rest
  | _ + 1, .next _, [], cs => .ok cs
  | turns + 1, .next opened, frame :: frames, cs =>
      match skipGap cs with
      | [] => .error .ended
      | c :: rest =>
          if c = frame.close then skipFrom turns (.next false) frames rest
          else
            let entry :=
              if opened then some (c :: rest) else if c = ',' then some rest else none
            match entry, frame with
            | none, _ => .error .malformed
            | some cs, .array => skipFrom turns .value (frame :: frames) cs
            | some cs, .object =>
                match skipKey cs with
                | .error e => .error e
                | .ok cs => skipFrom turns .value (frame :: frames) cs

def skipValue (cs : List Char) : Except Fault (List Char) :=
  skipFrom (2 * cs.length + 2) .value [] cs

def nextKey (first : Bool) (cs : List Char) : Except Fault (Option String × List Char) :=
  let key (cs : List Char) := (readString cs).map fun (k, r) => (some k, r)
  match skipGap cs with
  | [] => .error .ended
  | '\x7d' :: rest => .ok (none, '\x7d' :: rest)
  | ',' :: rest =>
      if first then .error .malformed
      else match skipGap rest with
        | [] => .error .ended
        | '"' :: rest => key rest
        | _ => .error .malformed
  | '"' :: rest => if first then key rest else .error .malformed
  | _ => .error .malformed

def colon (cs : List Char) : Except Fault (List Char) :=
  match skipGap cs with
  | [] => .error .ended
  | ':' :: rest => .ok rest
  | _ => .error .malformed

def nextElement (first : Bool) (cs : List Char) : Except Fault (Bool × List Char) :=
  match skipGap cs with
  | [] => .error .ended
  | ']' :: rest => .ok (false, ']' :: rest)
  | ',' :: rest =>
      if first then .ok (true, ',' :: rest)
      else match skipGap rest with
        | [] => .error .ended
        | ']' :: _ => .error .malformed
        | cs => .ok (true, cs)
  | cs => if first then .ok (true, cs) else .error .malformed

def closeArray (cs : List Char) : Except Fault (List Char) :=
  match skipGap cs with
  | [] => .error .ended
  | ']' :: rest => .ok rest
  | _ => .error .malformed

def closeDocument (cs : List Char) : Except Fault Unit :=
  if (skipGap cs).isEmpty then .ok () else .error .malformed

end StreamScout.Json
