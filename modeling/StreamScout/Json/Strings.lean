import StreamScout.Json.Fault
import StreamScout.Text.Utf8

namespace StreamScout.Json

def hexValue? (c : Char) : Option Nat :=
  if '0' ≤ c ∧ c ≤ '9' then some (c.toNat - 48)
  else if 'a' ≤ c ∧ c ≤ 'f' then some (c.toNat - 87)
  else if 'A' ≤ c ∧ c ≤ 'F' then some (c.toNat - 55)
  else none

/-- Four hexadecimal digits. A text with fewer than four bytes left has ended. -/
def codeUnit (cs : List Char) : Except Fault (Nat × List Char) :=
  if (Utf8.encode (cs.take 4)).length < 4 then .error .ended
  else match cs with
    | a :: b :: c :: d :: rest =>
        match hexValue? a, hexValue? b, hexValue? c, hexValue? d with
        | some w, some x, some y, some z => .ok (((w * 16 + x) * 16 + y) * 16 + z, rest)
        | _, _, _, _ => .error .malformed
    | _ => .error .malformed

def isHighSurrogate (n : Nat) : Bool :=
  0xD800 ≤ n && n ≤ 0xDBFF

def isLowSurrogate (n : Nat) : Bool :=
  0xDC00 ≤ n && n ≤ 0xDFFF

def codePoint (cs : List Char) : Except Fault (Char × List Char) := do
  let (n, rest) ← codeUnit cs
  if isLowSurrogate n then throw .malformed
  else if !isHighSurrogate n then pure (Char.ofNat n, rest)
  else
    let rest ← literal ['\\', 'u'] rest
    let (n', rest) ← codeUnit rest
    if isLowSurrogate n' then pure (Char.ofNat ((n - 0xD800) * 1024 + (n' - 0xDC00) + 0x10000), rest)
    else throw .malformed

def simpleEscape? (c : Char) : Option Char :=
  match c with
  | '"' => some '"'
  | '\\' => some '\\'
  | '/' => some '/'
  | 'b' => some '\x08'
  | 'f' => some '\x0c'
  | 'n' => some '\n'
  | 'r' => some '\r'
  | 't' => some '\t'
  | _ => none

def escape (cs : List Char) : Except Fault (Char × List Char) :=
  match cs with
  | [] => .error .ended
  | 'u' :: rest => codePoint rest
  | c :: rest =>
      match simpleEscape? c with
      | some e => .ok (e, rest)
      | none => .error .malformed

def stringFrom : (turns : Nat) → (read : List Char) → List Char → Except Fault (String × List Char)
  | 0, _, _ => .error .ended
  | _ + 1, _, [] => .error .ended
  | turns + 1, read, c :: cs =>
      if c = '"' then .ok (String.ofList read.reverse, cs)
      else if c = '\\' then
        match escape cs with
        | .ok (e, rest) => stringFrom turns (e :: read) rest
        | .error e => .error e
      else if c.toNat < 0x20 then .error .malformed
      else stringFrom turns (c :: read) cs

def readString (cs : List Char) : Except Fault (String × List Char) :=
  stringFrom (cs.length + 1) [] cs

def skipEscape (cs : List Char) : Except Fault (List Char) :=
  match cs with
  | [] => .error .ended
  | 'u' :: rest => (codeUnit rest).map (·.2)
  | c :: rest => if (simpleEscape? c).isSome then .ok rest else .error .malformed

def skipStringFrom : (turns : Nat) → List Char → Except Fault (List Char)
  | 0, _ => .error .ended
  | _ + 1, [] => .error .ended
  | turns + 1, c :: cs =>
      if c = '"' then .ok cs
      else if c = '\\' then
        match skipEscape cs with
        | .ok rest => skipStringFrom turns rest
        | .error e => .error e
      else if c.toNat < 0x20 then .error .malformed
      else skipStringFrom turns cs

def skipString (cs : List Char) : Except Fault (List Char) :=
  skipStringFrom (cs.length + 1) cs

end StreamScout.Json
