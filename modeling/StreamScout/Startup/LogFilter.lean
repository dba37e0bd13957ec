import StreamScout.Startup.FieldValue
import StreamScout.Text.Alphanumeric
import StreamScout.Text.Utf8

namespace StreamScout.Startup

inductive Level where
  | off
  | error
  | warn
  | info
  | debug
  | trace
  deriving DecidableEq, Repr

namespace Level

def detail : Level → Nat
  | .off => 0
  | .error => 1
  | .warn => 2
  | .info => 3
  | .debug => 4
  | .trace => 5

def byNumber : List Level := [.off, .error, .warn, .info, .debug, .trace]

def byName : List (String × Level) :=
  [("off", .off), ("error", .error), ("warn", .warn), ("info", .info), ("debug", .debug), ("trace", .trace)]

def ofChars? (cs : List Char) : Option Level :=
  match Numeral.read Numeral.word64 cs with
  | .ok n => byNumber[n]?
  | .error _ => (byName.find? fun e => e.1.toList == cs.map Char.toLower).map (·.2)

end Level

/-- A level for the events whose targets begin with a text. A directive for spans, or for values of their fields, shows
no event outside of them. -/
structure Directive where
  target : List Char := []
  field : Option (List Char) := none
  level : Level
  spanned : Bool := false
  deriving DecidableEq, Repr

def startsTarget (c : Char) : Bool :=
  Text.isAlphanumeric c || c == '_' || c == ':' || c == '-'

def endsTarget (c : Char) : Bool :=
  c == '=' || c == '['

def positions : (start : Nat) → List Char → List (Nat × Char)
  | _, [] => []
  | n, c :: cs => (n, c) :: positions (n + (Utf8.encode [c]).length) cs

/-- The text of a directive. Marks are looked for without the blanks around it, but their positions are counted off
from its very start, and its last part reaches to its very end. -/
structure DirectiveText where
  bytes : List UInt8

namespace DirectiveText

def toEnd? (t : DirectiveText) (start : Nat) : Option (List Char) :=
  (Utf8.decode (t.bytes.drop start)).toOption

def part? (t : DirectiveText) (start stop : Nat) : Option (List Char) :=
  (Utf8.decode ((t.bytes.take stop).drop start)).toOption

def levelFrom? (t : DirectiveText) (start : Nat) : Option Level :=
  match t.toEnd? start with
  | some [] => some .trace
  | some word => Level.ofChars? word
  | none => none

def levelAfter? (t : DirectiveText) : List (Nat × Char) → Option Level
  | [] => some .trace
  | (i, '=') :: _ => t.levelFrom? (i + 1)
  | _ => none

def fieldDirective? (target : List Char) (named : Bool) (field : List Char) (level : Level) : Option Directive :=
  match Text.cutAt (· == '=') field with
  | none => if field.isEmpty then none else some { target, field := some field, level, spanned := named }
  | some (_, rest) => if isFieldValue (rest.takeWhile (· != '=')) then some { target, level, spanned := true } else none

def spanDirective? (t : DirectiveText) (target : List Char) (start : Nat) (cs : List (Nat × Char)) : Option Directive :=
  match cs.dropWhile fun e => e.2 != ']' && e.2 != '\x7b' with
  | (_, ']') :: rest => (t.levelAfter? rest).map fun level => { target, level, spanned := true }
  | (i, _) :: rest =>
      match rest.dropWhile (·.2 != '\x7d') with
      | (j, _) :: (_, ']') :: rest => do
          let name ← t.part? start i
          let field ← t.part? (i + 1) j
          fieldDirective? target (!name.isEmpty) field (← t.levelAfter? rest)
      | _ => none
  | [] => none

def plainDirective (cs : List Char) : Directive :=
  match Level.ofChars? cs with
  | some level => { level }
  | none => { target := cs, level := .trace }

def directive? (t : DirectiveText) (cs : List (Nat × Char)) : Option Directive :=
  match cs with
  | [] => none
  | (i, '[') :: rest => t.spanDirective? [] (i + 1) rest
  | (_, c) :: _ =>
      if !startsTarget c then none
      else match cs.dropWhile (!endsTarget ·.2) with
        | [] => (t.toEnd? 0).map plainDirective
        | (i, '=') :: _ => do
            let target ← t.part? 0 i
            let level ← t.levelFrom? (i + 1)
            some { target, level }
        | (i, _) :: rest => (t.part? 0 i).bind fun target => t.spanDirective? target (i + 1) rest

end DirectiveText

def Directive.ofChars? (cs : List Char) : Option Directive :=
  DirectiveText.directive? ⟨Utf8.encode cs⟩ (positions 0 (Text.trim cs))

def directives? (filter : String) : Option (List Directive) :=
  match (filter.toList.splitOn ',').filter (!·.isEmpty) with
  | [] => some [{ level := .error }]
  | parts => parts.mapM Directive.ofChars?

def Directive.covers (target : String) (fields : List String) (d : Directive) : Bool :=
  !d.spanned && (Text.after? d.target target.toList).isSome && d.field.all (fields.map String.toList).contains

def Directive.yields (d e : Directive) : Bool :=
  d.target.length < e.target.length
    || (d.target.length == e.target.length && (d.field.isNone || e.field.isSome))

def deciding? (target : String) (fields : List String) (ds : List Directive) : Option Directive :=
  (ds.filter (·.covers target fields)).foldl
    (fun best d => if best.all (·.yields d) then some d else best)
    none

def shows (ds : List Directive) (target : String) (fields : List String) (level : Level) : Bool :=
  (deciding? target fields ds).any fun d => level.detail ≤ d.level.detail

end StreamScout.Startup
