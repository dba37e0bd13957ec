import StreamScout.Toml.Scalars

namespace StreamScout.Toml

def depthLimit : Nat := 80

def isBareKeyChar (c : Char) : Bool :=
  c.isAlphanum || c == '-' || c == '_'

def simpleKey (cs : List Char) : Option (String × List Char) :=
  match cs with
  | c :: _ =>
      if c = '"' ∨ c = '\'' then lineString cs
      else if isBareKeyChar c then some (String.ofList (cs.takeWhile isBareKeyChar), cs.dropWhile isBareKeyChar)
      else none
  | [] => none

def keyFrom : (turns : Nat) → List Char → Option (List String × List Char)
  | 0, _ => none
  | turns + 1, cs => do
      let (k, rest) ← simpleKey (skipSpace cs)
      match skipSpace rest with
      | '.' :: rest => (keyFrom turns rest).map fun (ks, r) => (k :: ks, r)
      | rest => some ([k], rest)

def key (cs : List Char) : Option (List String × List Char) := do
  let (ks, rest) ← keyFrom (cs.length + 1) cs
  if ks.length < depthLimit then some (ks, rest) else none

def comment (cs : List Char) : List Char :=
  cs.dropWhile isTextChar

def arrayGap : (turns : Nat) → List Char → Option (List Char)
  | 0, _ => none
  | turns + 1, cs =>
      match skipSpace cs with
      | '#' :: rest => (lineEnd? (comment rest)).bind (arrayGap turns)
      | rest =>
          match lineEnd? rest with
          | some rest => arrayGap turns rest
          | none => some rest

/-- The items of an array after its opening bracket or a comma. Every turn takes a character, so there are never more
comments left than turns. -/
def arrayItems (item : List Char → Option (Item × List Char)) :
    (turns : Nat) → List Item → List Char → Option (List Item × List Char)
  | 0, _, _ => none
  | turns + 1, items, cs => do
      match ← arrayGap (turns + 1) cs with
      | ']' :: rest => some (items.reverse, rest)
      | cs =>
          let (i, rest) ← item cs
          match ← arrayGap (turns + 1) rest with
          | ']' :: rest => some ((i :: items).reverse, rest)
          | ',' :: rest => arrayItems item turns (i :: items) rest
          | _ => none

def keyValue (item : List Char → Option (Item × List Char)) (cs : List Char) :
    Option ((List String × Item) × List Char) := do
  let (ks, rest) ← key cs
  let rest ← sign '=' rest
  let (v, rest) ← item (skipSpace rest)
  some ((ks, v), rest)

def addKey (kind : Kind) (ks : List String) (v : Item) (es : Entries) : Option Entries :=
  ks.getLast?.bind fun k => insert kind ks.dropLast k v es

def inlinePairs (item : List Char → Option (Item × List Char)) :
    (turns : Nat) → Entries → List Char → Option (Entries × List Char)
  | 0, _, _ => none
  | turns + 1, es, cs => do
      let ((ks, v), rest) ← keyValue item cs
      let es ← addKey .inline ks v es
      match skipSpace rest with
      | '\x7d' :: rest => some (es, rest)
      | ',' :: rest => inlinePairs item turns es rest
      | _ => none

def inlineTable (item : List Char → Option (Item × List Char)) (cs : List Char) : Option (Entries × List Char) :=
  match skipSpace cs with
  | '\x7d' :: rest => some ([], rest)
  | cs => inlinePairs item (cs.length + 1) [] cs

def value : (depth : Nat) → List Char → Option (Item × List Char)
  | 0, cs =>
      match cs with
      | '[' :: _ => none
      | '\x7b' :: _ => none
      | cs => scalar cs
  | depth + 1, cs =>
      match cs with
      | '[' :: rest => (arrayItems (value depth) (rest.length + 1) [] rest).map fun (is, r) => (.array is, r)
      | '\x7b' :: rest => (inlineTable (value depth) rest).map fun (es, r) => (.table .inline es, r)
      | cs => scalar cs

def endLine (cs : List Char) : Option (List Char) :=
  let rest := match skipSpace cs with
    | '#' :: rest => comment rest
    | rest => rest
  if rest.isEmpty then some [] else lineEnd? rest

def pairLine (d : Draft) (cs : List Char) : Option (Draft × List Char) := do
  let ((ks, v), rest) ← keyValue (value (depthLimit - 1)) cs
  let k ← ks.getLast?
  let d ← d.insert ks.dropLast k v
  some (d, ← endLine rest)

def elementLine (d : Draft) (cs : List Char) : Option (Draft × List Char) := do
  let (ks, rest) ← key cs
  let rest ← sign ']' rest
  let rest ← sign ']' rest
  let d ← d.openElement ks
  some (d, ← endLine rest)

def tableLine (d : Draft) (cs : List Char) : Option (Draft × List Char) := do
  let (ks, rest) ← key cs
  let rest ← sign ']' rest
  let d ← d.openTable ks
  some (d, ← endLine rest)

def line (d : Draft) (cs : List Char) : Option (Draft × List Char) :=
  match cs with
  | '[' :: '[' :: rest => elementLine d rest
  | '[' :: rest => tableLine d rest
  | '#' :: _ => (endLine cs).map fun r => (d, r)
  | '\n' :: rest => some (d, rest)
  | '\r' :: '\n' :: rest => some (d, rest)
  | cs => pairLine d cs

def linesFrom : (turns : Nat) → Draft → List Char → Option Draft
  | 0, _, _ => none
  | turns + 1, d, cs =>
      match skipSpace cs with
      | [] => some d
      | cs => (line d cs).bind fun (d', rest) => linesFrom turns d' rest

def parse (text : List Char) : Option Entries := do
  let cs := match text with
    | '\ufeff' :: rest => rest
    | cs => cs
  let d ← linesFrom (cs.length + 1) {} cs
  d.close

end StreamScout.Toml
