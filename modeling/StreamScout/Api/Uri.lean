import StreamScout.Text.Blank
import StreamScout.Text.Utf8

namespace StreamScout.Api

def inRange (c : Char) (low high : Nat) : Bool :=
  low ≤ c.toNat && c.toNat ≤ high

def isPathChar (c : Char) : Bool :=
  c == '!' || c == '"' || inRange c 0x24 0x3B || c == '=' || inRange c 0x40 0x5F || inRange c 0x61 0x7E
    || 0x80 ≤ c.toNat

def isQueryChar (c : Char) : Bool :=
  c == '!' || inRange c 0x24 0x3B || c == '=' || inRange c 0x3F 0x7E || 0x80 ≤ c.toNat

def isSchemeChar (c : Char) : Bool :=
  c.isAlphanum || c == '+' || c == '-' || c == '.' || c == '~'

def isAuthorityChar (c : Char) : Bool :=
  c.isAlphanum || "!$&'()*+,-.;=_~".toList.contains c

def queryAccepted : List Char → Bool
  | [] => true
  | c :: cs => c == '#' || (isQueryChar c && queryAccepted cs)

def pathOf? : List Char → Option (List Char)
  | [] => some []
  | '?' :: cs => if queryAccepted cs then some [] else none
  | '#' :: _ => some []
  | c :: cs => if isPathChar c then (pathOf? cs).map (c :: ·) else none

structure Authority where
  colons : Nat := 0
  opened : Bool := false
  closed : Bool := false
  percent : Bool := false
  atEnd : Bool := false
  deriving DecidableEq, Repr

def Authority.push? (a : Authority) (c : Char) : Option Authority :=
  let a := { a with atEnd := false }
  match c with
  | ':' => if 8 ≤ a.colons then none else some { a with colons := a.colons + 1 }
  | '[' => if a.percent || a.opened then none else some { a with opened := true }
  | ']' => if !a.opened || a.closed then none else some { a with closed := true, colons := 0, percent := false }
  | '@' => some { a with colons := 0, percent := false, atEnd := true }
  | '%' => some { a with percent := true }
  | c => if isAuthorityChar c then some a else none

def Authority.accepted (a : Authority) : Bool :=
  a.opened == a.closed && a.colons ≤ 1 && !a.atEnd && !a.percent

def afterAuthority? : List Char → Authority → (empty : Bool) → Option (List Char × Bool)
  | [], a, empty => if a.accepted then some ([], empty) else none
  | c :: cs, a, empty =>
      if c = '/' ∨ c = '?' ∨ c = '#' then
        if a.accepted then some (c :: cs, empty) else none
      else (a.push? c).bind fun a' => afterAuthority? cs a' false

inductive Scheme where
  | absent
  | tooLong
  | present (rest : List Char)
  deriving DecidableEq, Repr

def schemeFrom : List Char → (length : Nat) → Scheme
  | [], _ => .absent
  | ':' :: cs, n =>
      match Text.after? ['/', '/'] cs with
      | some rest => if 64 < n then .tooLong else .present rest
      | none => .absent
  | c :: cs, n => if isSchemeChar c then schemeFrom cs (n + 1) else .absent

def lengthLimit : Nat := 65534

/-- The path of an address, or nothing if it is not accepted. An authority alone has an empty path, and an absolute
address without a path has the root. -/
def uriPath? (uri : List Char) : Option (List Char) :=
  if lengthLimit < (Utf8.encode uri).length then none
  else match uri with
    | [] => none
    | ['*'] => some ['*']
    | '/' :: _ => pathOf? uri
    | _ =>
        match schemeFrom uri 0 with
        | .tooLong => none
        | .absent =>
            match afterAuthority? uri {} true with
            | some ([], _) => some []
            | _ => none
        | .present rest =>
            match afterAuthority? rest {} true with
            | some (tail, false) => (pathOf? tail).map fun p => if p.isEmpty then ['/'] else p
            | _ => none

end StreamScout.Api
