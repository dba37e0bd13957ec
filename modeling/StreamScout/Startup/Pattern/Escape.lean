import StreamScout.Startup.Pattern.Flags

namespace StreamScout.Startup.Pattern

inductive Escape where
  | literal (c : Char)
  | byte (c : Char)
  | letterClass (negated : Bool)
  | anchor
  | wordBoundary
  deriving DecidableEq, Repr

namespace Escape

def hexDigit? (c : Char) : Option Nat :=
  if c.isDigit then some (c.toNat - 48)
  else if 'a' ≤ c ∧ c ≤ 'f' then some (c.toNat - 87)
  else if 'A' ≤ c ∧ c ≤ 'F' then some (c.toNat - 55)
  else none

def hex? (f : Flags) : (count value : Nat) → List Char → Option (Nat × List Char)
  | 0, n, cs => some (n, cs)
  | count + 1, n, cs =>
      match f.skip cs with
      | [] => none
      | c :: rest => (hexDigit? c).bind fun d => hex? f count (n * 16 + d) rest

def codePoint? (f : Flags) (count : Nat) (cs : List Char) : Option (Char × List Char) := do
  let (n, rest) ← hex? f count 0 cs
  if n.isValidChar then some (Char.ofNat n, rest) else none

def controls : List (Char × Char) :=
  [('a', '\x07'), ('f', '\x0c'), ('t', '\t'), ('n', '\n'), ('r', '\r'), ('v', '\x0b')]

def read (f : Flags) (cs : List Char) : Option (Escape × List Char) :=
  match cs with
  | [] => none
  | 'x' :: rest => (codePoint? f 2 rest).map fun (c, rest) => (.byte c, rest)
  | 'u' :: rest => (codePoint? f 4 rest).map fun (c, rest) => (.literal c, rest)
  | 'U' :: rest => (codePoint? f 8 rest).map fun (c, rest) => (.literal c, rest)
  | c :: rest =>
      if "dsw".toList.contains c then some (.letterClass false, rest)
      else if "DSW".toList.contains c then some (.letterClass true, rest)
      else if c = 'A' ∨ c = 'z' then some (.anchor, rest)
      else if "bB<>".toList.contains c then some (.wordBoundary, rest)
      else match controls.find? (·.1 == c) with
        | some (_, control) => some (.literal control, rest)
        | none => if c.toNat < 128 ∧ !c.isAlphanum then some (.literal c, rest) else none

/-- A byte that is no character by itself is refused where bytes are meant. Classes and boundaries of words are defined
by tables unless they are restricted to ASCII, and what lies outside of an ASCII class need not be a character. -/
def accepted (f : Flags) : Escape → Bool
  | .literal _ => f.allowsLiterals
  | .byte c => f.allowsMember c
  | .letterClass negated => !f.unicode && !negated
  | .anchor => true
  | .wordBoundary => !f.unicode

end Escape

end StreamScout.Startup.Pattern
