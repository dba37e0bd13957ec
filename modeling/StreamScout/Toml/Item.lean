import StreamScout.Keyed

namespace StreamScout.Toml

inductive Kind where
  | inline
  | header
  | implied
  | dotted
  deriving DecidableEq, Repr

inductive Item where
  | string (value : String)
  | integer (value : Int)
  | float (text : String)
  | boolean (value : Bool)
  | dateTime
  | array (items : List Item)
  | table (kind : Kind) (entries : List (String × Item))
  | tables (elements : List Item)
  deriving Repr

abbrev Entries := List (String × Item)

/-- Goes down the keys of a path and lets `act` change what is there. Keys that are missing become tables. Dotted
keys do not enter tables that have a header; a header enters the last table of an array. -/
def descend {α : Type} (dotted : Bool) (act : Kind → Entries → Option (Entries × α)) :
    (path : List String) → Kind → Entries → Option (Entries × α)
  | [], kind, es => act kind es
  | key :: path, _, es =>
      let enter (kind : Kind) (inner : Entries) (rebuilt : Item → Item) : Option (Entries × α) :=
        (descend dotted act path kind inner).map fun (inner', a) =>
          (Keyed.put key (rebuilt (.table kind inner')) es, a)
      match Keyed.get? key es with
      | none => enter (if dotted then .dotted else .implied) [] id
      | some (.table kind inner) =>
          if kind = .inline ∨ (dotted ∧ kind = .header) then none else enter kind inner id
      | some (.tables elements) =>
          match elements.getLast? with
          | some (.table kind inner) => enter kind inner fun t => .tables (elements.dropLast ++ [t])
          | _ => none
      | some _ => none

def insert (kind : Kind) (path : List String) (key : String) (value : Item) (es : Entries) : Option Entries :=
  (descend true
    (fun k inner =>
      if (k == .dotted) == path.isEmpty then none
      else if (Keyed.get? key inner).isSome then none
      else some (Keyed.put key value inner, ()))
    path kind es).map (·.1)

structure Draft where
  root : Entries := []
  current : Entries := []
  path : List String := []
  isArray : Bool := false

namespace Draft

def insert (path : List String) (key : String) (value : Item) (d : Draft) : Option Draft :=
  (Toml.insert .header path key value d.current).map fun current => { d with current }

def atParent {α : Type} (path : List String) (act : String → Entries → Option (Entries × α)) (root : Entries) :
    Option (Entries × α) :=
  path.getLast?.bind fun key => descend false (fun _ es => act key es) path.dropLast .header root

def place (isArray : Bool) (table : Item) (key : String) (es : Entries) : Option (Entries × Unit) :=
  if isArray then
    match Keyed.get? key es with
    | none => some (Keyed.put key (.tables [table]) es, ())
    | some (.tables elements) => some (Keyed.put key (.tables (elements ++ [table])) es, ())
    | some _ => none
  else some (Keyed.put key table es, ())

def close (d : Draft) : Option Entries :=
  if d.path.isEmpty then some d.current
  else (atParent d.path (place d.isArray (.table .header d.current)) d.root).map (·.1)

def takeOver (key : String) (es : Entries) : Option (Entries × Entries) :=
  match Keyed.get? key es with
  | none => some (es, [])
  | some (.table .implied inner) => some (Keyed.drop key es, inner)
  | some _ => none

def openTable (path : List String) (d : Draft) : Option Draft := do
  let (root, current) ← atParent path takeOver (← d.close)
  some { root, current, path }

def reserve (key : String) (es : Entries) : Option (Entries × Unit) :=
  match Keyed.get? key es with
  | none => some (Keyed.put key (.tables []) es, ())
  | some (.tables _) => some (es, ())
  | some _ => none

def openElement (path : List String) (d : Draft) : Option Draft := do
  let (root, _) ← atParent path reserve (← d.close)
  some { root, path, isArray := true }

end Draft

end StreamScout.Toml
