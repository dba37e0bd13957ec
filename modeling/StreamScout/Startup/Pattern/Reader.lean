import StreamScout.Startup.Pattern.CharClass
import StreamScout.Text.Alphanumeric

namespace StreamScout.Startup.Pattern

structure Part where
  depth : Nat := 0
  repeatable : Bool := true
  deriving DecidableEq, Repr

structure Choice where
  complete : List Nat := []
  parts : List Part := []
  deriving DecidableEq, Repr

namespace Choice

def lastDepth (c : Choice) : Nat :=
  nesting (c.parts.map (·.depth))

def depth (c : Choice) : Nat :=
  nesting (c.lastDepth :: c.complete)

def add (c : Choice) (p : Part) : Choice :=
  { c with parts := p :: c.parts }

def bar (c : Choice) : Choice :=
  { complete := c.lastDepth :: c.complete }

def repeated? (c : Choice) : Option Choice :=
  match c.parts with
  | ⟨depth, true⟩ :: parts => some { c with parts := ⟨depth + 1, true⟩ :: parts }
  | _ => none

end Choice

structure Reader where
  flags : Flags := {}
  current : Choice := {}
  outer : List (Flags × Choice) := []
  names : List (List Char) := []
  deriving DecidableEq, Repr

namespace Reader

def isNameStart (c : Char) : Bool :=
  c == '_' || Text.isAlphabetic c

def isNameChar (c : Char) : Bool :=
  "_.[]".toList.contains c || Text.isAlphanumeric c

def add (r : Reader) (p : Part) : Reader :=
  { r with current := r.current.add p }

def openGroup (r : Reader) (flags : Flags) : Reader :=
  { r with flags, current := {}, outer := (r.flags, r.current) :: r.outer }

def closeGroup? (r : Reader) : Option Reader :=
  match r.outer with
  | [] => none
  | (flags, around) :: outer => some { r with flags, current := around.add { depth := r.current.depth + 1 }, outer }

def namedGroup? (r : Reader) (cs : List Char) : Option (Reader × List Char) :=
  match Text.cutAt (· == '>') cs with
  | some (c :: name, rest) =>
      if isNameStart c && name.all isNameChar && !r.names.contains (c :: name) then
        some ({ r.openGroup r.flags with names := (c :: name) :: r.names }, rest)
      else none
  | _ => none

def group? (r : Reader) (cs : List Char) : Option (Reader × List Char) :=
  match r.flags.skip cs with
  | '?' :: 'P' :: '<' :: rest => r.namedGroup? rest
  | '?' :: '<' :: rest => r.namedGroup? rest
  | '?' :: rest =>
      match Flags.read true [] r.flags rest with
      | some (flags, ':', rest) => some (r.openGroup flags, rest)
      | some (flags, _, rest) => some ({ r.add { repeatable := false } with flags }, rest)
      | none => none
  | rest => some (r.openGroup r.flags, rest)

def step? (r : Reader) (cs : List Char) : Option (Reader × List Char) :=
  match cs with
  | [] => none
  | '(' :: rest => r.group? rest
  | ')' :: rest => r.closeGroup?.map fun r => (r, rest)
  | '|' :: rest => some ({ r with current := r.current.bar }, rest)
  | '[' :: rest => (CharClass.read r.flags rest).map fun (depth, rest) => (r.add { depth }, rest)
  | '{' :: _ => none
  | '\\' :: rest =>
      (Escape.read r.flags rest).bind fun (e, rest) => if e.accepted r.flags then some (r.add {}, rest) else none
  | '.' :: rest => if r.flags.unicode then some (r.add {}, rest) else none
  | c :: rest =>
      if c = '?' ∨ c = '*' ∨ c = '+' then
        r.current.repeated?.map fun current =>
          ({ r with current }, if rest.head? = some '?' then rest.drop 1 else rest)
      else if c = '^' ∨ c = '$' ∨ r.flags.allowsLiterals then some (r.add {}, rest)
      else none

def run : (turns : Nat) → Reader → List Char → Bool
  | 0, _, _ => false
  | turns + 1, r, cs =>
      match r.flags.skip cs with
      | [] => r.outer.isEmpty && r.current.depth ≤ deepest
      | cs => (r.step? cs).any fun (r, rest) => run turns r rest

end Reader

def accepted (cs : List Char) : Bool :=
  Reader.run (cs.length + 1) {} cs

end StreamScout.Startup.Pattern
