import StreamScout.Startup.Pattern.Escape
import StreamScout.Startup.Pattern.Nesting

namespace StreamScout.Startup.Pattern

structure OpenClass where
  left : Option Nat := none
  items : List Nat := []
  atStart : Bool := true
  deriving DecidableEq, Repr

namespace OpenClass

def depth (k : OpenClass) : Nat :=
  match k.left with
  | none => nesting k.items
  | some n => max n (nesting k.items) + 1

def add (k : OpenClass) (n : Nat) (atStart : Bool) : OpenClass :=
  { k with items := n :: k.items, atStart }

def operator (k : OpenClass) : OpenClass :=
  { left := some k.depth, atStart := false }

end OpenClass

namespace CharClass

def names : List String :=
  ["alnum", "alpha", "ascii", "blank", "cntrl", "digit", "graph", "lower", "print", "punct", "space", "upper", "word",
    "xdigit"]

def named? (cs : List Char) : Option (Bool × List Char) :=
  match cs with
  | ':' :: rest =>
      let negated := rest.head? == some '^'
      match Text.cutAt (· == ':') (if negated then rest.drop 1 else rest) with
      | some (name, ']' :: rest) => if (names.map String.toList).contains name then some (negated, rest) else none
      | _ => none
  | _ => none

def opened? (f : Flags) (cs : List Char) : Option (List Char) :=
  match f.skip cs with
  | '^' :: rest => if f.unicode then some rest else none
  | rest => some rest

def item? (f : Flags) (cs : List Char) : Option (Option Char × List Char) :=
  match cs with
  | [] => none
  | '\\' :: rest =>
      match Escape.read f rest with
      | some (.literal c, rest) => if f.allowsMember c then some (some c, rest) else none
      | some (.byte c, rest) => if f.allowsMember c then some (some c, rest) else none
      | some (.letterClass negated, rest) => if !f.unicode && !negated then some (none, rest) else none
      | _ => none
  | c :: rest => if f.allowsMember c then some (some c, rest) else none

def range? (f : Flags) (cs : List Char) : Option (List Char) := do
  let (low, rest) ← item? f cs
  match f.skip rest with
  | '-' :: after =>
      if f.ahead? after = some ']' ∨ f.ahead? after = some '-' then some ('-' :: after)
      else
        let (high, rest) ← item? f (f.skip after)
        if (← low) ≤ (← high) then some rest else none
  | rest => some rest

/-- How deeply a class is nested and what follows it. At the start of a class hyphens stand for themselves, and so does
a closing bracket. Every turn takes a character. -/
def closed? (f : Flags) : (turns : Nat) → (outer : List OpenClass) → OpenClass → List Char → Option (Nat × List Char)
  | 0, _, _, _ => none
  | turns + 1, outer, k, cs =>
      let plain (cs : List Char) : Option (Nat × List Char) :=
        (range? f cs).bind (closed? f turns outer (k.add 0 false))
      match f.skip cs with
      | [] => none
      | ']' :: rest =>
          if k.atStart && k.items.isEmpty then
            if f.allowsMember ']' then closed? f turns outer (k.add 0 false) rest else none
          else match outer with
            | [] => some (k.depth + 1, rest)
            | o :: outer => closed? f turns outer (o.add (k.depth + 1) false) rest
      | '[' :: rest =>
          match named? rest with
          | some (negated, rest) =>
              if f.allowsLiterals && (f.unicode || !negated) then closed? f turns outer (k.add 0 false) rest else none
          | none => (opened? f rest).bind (closed? f turns (k :: outer) {})
      | '&' :: '&' :: rest => closed? f turns outer k.operator rest
      | '~' :: '~' :: rest => closed? f turns outer k.operator rest
      | '-' :: rest =>
          if k.atStart then
            if f.allowsMember '-' then closed? f turns outer (k.add 0 true) rest else none
          else if rest.head? = some '-' then closed? f turns outer k.operator (rest.drop 1)
          else plain ('-' :: rest)
      | cs => plain cs

def read (f : Flags) (cs : List Char) : Option (Nat × List Char) :=
  (opened? f cs).bind (closed? f (cs.length + 1) [] {})

end CharClass

end StreamScout.Startup.Pattern
