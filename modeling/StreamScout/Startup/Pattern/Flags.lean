import StreamScout.Text.Blank

namespace StreamScout.Startup.Pattern

structure Flags where
  unicode : Bool := true
  foldsCase : Bool := false
  skipsBlanks : Bool := false
  deriving DecidableEq, Repr

def dropBlanks : (comment : Bool) → List Char → List Char
  | _, [] => []
  | true, c :: cs => dropBlanks (c != '\n') cs
  | false, c :: cs =>
      if Text.isBlank c then dropBlanks false cs
      else if c = '#' then dropBlanks true cs
      else c :: cs

def glimpse? : (comment : Bool) → List Char → Option Char
  | _, [] => none
  | comment, c :: cs =>
      if Text.isBlank c then glimpse? comment cs
      else if !comment && c == '#' then glimpse? true cs
      else some c

namespace Flags

def skip (f : Flags) (cs : List Char) : List Char :=
  if f.skipsBlanks then dropBlanks false cs else cs

def ahead? (f : Flags) (cs : List Char) : Option Char :=
  if f.skipsBlanks then glimpse? false cs else cs.head?

/-- Folding case by Unicode's rules needs tables, whichever the character is. -/
def allowsLiterals (f : Flags) : Bool :=
  !(f.unicode && f.foldsCase)

def allowsMember (f : Flags) (c : Char) : Bool :=
  f.allowsLiterals && (f.unicode || c.toNat < 128)

def set (f : Flags) (flag : Char) (on : Bool) : Flags :=
  match flag with
  | 'u' => { f with unicode := on }
  | 'i' => { f with foldsCase := on }
  | 'x' => { f with skipsBlanks := on }
  | _ => f

def known : List Char := "imsUuRx".toList

def read : (on : Bool) → (seen : List Char) → Flags → List Char → Option (Flags × Char × List Char)
  | _, _, _, [] => none
  | on, seen, f, c :: cs =>
      if c = ':' ∨ c = ')' then
        if seen.head? = some '-' ∨ (c = ')' ∧ seen.isEmpty) then none else some (f, c, cs)
      else if seen.contains c then none
      else if c = '-' then read false ('-' :: seen) f cs
      else if known.contains c then read on (c :: seen) (f.set c on) cs
      else none

end Flags

end StreamScout.Startup.Pattern
