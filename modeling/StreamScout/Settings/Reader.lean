import StreamScout.Schema.Mismatch
import StreamScout.Settings.Basic
import StreamScout.Text.Utf8
import StreamScout.Toml.Document

namespace StreamScout.Settings

open StreamScout.Schema (Found Mismatch)
open StreamScout.Toml (Item Entries)

def found : Item → Found
  | .string s => .string s
  | .integer n => .integer n
  | .float t => .float t
  | .boolean b => .boolean b
  | .dateTime => .map
  | .array _ => .sequence
  | .table _ _ => .map
  | .tables _ => .sequence

def text (i : Item) : Except Mismatch String :=
  match i with
  | .string s => .ok s
  | i => .error (.wrongType (found i) "a string")

def count (i : Item) : Except Mismatch Nat :=
  match i with
  | .integer n => if 0 ≤ n then .ok n.toNat else .error (.wrongValue (.integer n) "u64")
  | i => .error (.wrongType (found i) "u64")

structure Section (α : Type) where
  expected : String
  keys : List String
  set : String → Item → α → Except Mismatch α

namespace Section

variable {α : Type}

def ofEntries (s : Section α) : Entries → α → Except Mismatch α
  | [], a => .ok a
  | (k, v) :: rest, a =>
      if s.keys.contains k then
        match s.set k v a with
        | .ok a' => ofEntries s rest a'
        | .error e => .error e
      else ofEntries s rest a

def ofItems (s : Section α) : (keys : List String) → List Item → α → Except Mismatch α
  | k :: ks, v :: vs, a =>
      match s.set k v a with
      | .ok a' => ofItems s ks vs a'
      | .error e => .error e
  | _, _, a => .ok a

/-- A date is read as a table with no key that is known. -/
def read (s : Section α) (i : Item) (a : α) : Except Mismatch α :=
  match i with
  | .table _ es => s.ofEntries es a
  | .dateTime => .ok a
  | .array items => s.ofItems s.keys items a
  | .tables items => s.ofItems s.keys items a
  | i => .error (.wrongType (found i) s.expected)

end Section

structure BrowserDraft where
  interface : Option String := none
  serviceType : Option String := none
  deriving DecidableEq, Repr

structure ProbingDraft where
  pathStart : Option String := none
  connectTimeout : Option Nat := none
  ioTimeout : Option Nat := none
  deriving DecidableEq, Repr

structure MaintenanceDraft where
  reapInterval : Option Nat := none
  deriving DecidableEq, Repr

structure ServingDraft where
  listen : Option String := none
  deriving DecidableEq, Repr

def ProbingDraft.fill (d : ProbingDraft) : Probing where
  pathStart := d.pathStart.getD defaultPathStart
  connectTimeout := d.connectTimeout.getD defaultConnectTimeout
  ioTimeout := d.ioTimeout.getD defaultIoTimeout

def MaintenanceDraft.fill (d : MaintenanceDraft) : Maintenance where
  reapInterval := d.reapInterval.getD defaultReapInterval

def ServingDraft.fill (d : ServingDraft) : Serving where
  listen := d.listen.getD defaultListen

def browserSection : Section BrowserDraft where
  expected := "struct BrowserConfig"
  keys := ["interface", "service_type"]
  set k v d :=
    if k = "interface" then (text v).map fun s => { d with interface := some s }
    else (text v).map fun s => { d with serviceType := some s }

def probingSection : Section ProbingDraft where
  expected := "struct ProbeConfig"
  keys := ["path_prefix", "connect_timeout_ms", "io_timeout_ms"]
  set k v d :=
    if k = "path_prefix" then (text v).map fun s => { d with pathStart := some s }
    else if k = "connect_timeout_ms" then (count v).map fun n => { d with connectTimeout := some n }
    else (count v).map fun n => { d with ioTimeout := some n }

def maintenanceSection : Section MaintenanceDraft where
  expected := "struct MaintenanceConfig"
  keys := ["reap_interval_secs"]
  set _ v _ := (count v).map fun n => { reapInterval := some n }

def servingSection : Section ServingDraft where
  expected := "struct ApiConfig"
  keys := ["listen"]
  set _ v _ := (text v).map fun s => { listen := some s }

/-- An array without its first element has no interface, and a table may lack the key. -/
def missingInterface (i : Item) : Mismatch :=
  match i with
  | .array _ => .wrongLength 0 "struct BrowserConfig with 2 elements"
  | .tables _ => .wrongLength 0 "struct BrowserConfig with 2 elements"
  | _ => .missing "interface"

def readBrowser (i : Item) : Except Mismatch Browser :=
  match browserSection.read i {} with
  | .error e => .error e
  | .ok d =>
      match d.interface with
      | some name => .ok ⟨name, d.serviceType.getD defaultServiceType⟩
      | none => .error (missingInterface i)

structure Draft where
  browser : Option Browser := none
  probing : Option Probing := none
  maintenance : Option Maintenance := none
  serving : Option Serving := none
  deriving DecidableEq, Repr

def readSection (key : String) (i : Item) (d : Draft) : Except Mismatch Draft :=
  if key = "browser" then (readBrowser i).map fun b => { d with browser := some b }
  else if key = "probe" then (probingSection.read i {}).map fun p => { d with probing := some p.fill }
  else if key = "maintenance" then (maintenanceSection.read i {}).map fun m => { d with maintenance := some m.fill }
  else if key = "api" then (servingSection.read i {}).map fun a => { d with serving := some a.fill }
  else .ok d

def readSections : Entries → Draft → Except Mismatch Draft
  | [], d => .ok d
  | (k, v) :: rest, d =>
      match readSection k v d with
      | .ok d' => readSections rest d'
      | .error e => .error e

def ofEntries (es : Entries) : Except Mismatch Settings :=
  match readSections es {} with
  | .error e => .error e
  | .ok d =>
      match d.browser with
      | some b => .ok ⟨b, d.probing.getD default, d.maintenance.getD default, d.serving.getD default⟩
      | none => .error (.missing "browser")

inductive Fault where
  | missingFile
  | notUtf8
  | malformed
  | mismatch (m : Mismatch)
  | emptyInterface
  deriving DecidableEq, Repr

def emptyInterfaceText : String := "browser.interface must not be empty"

def parse (document : List Char) : Except Fault Settings :=
  match Toml.parse document with
  | none => .error .malformed
  | some es =>
      match ofEntries es with
      | .error m => .error (.mismatch m)
      | .ok s => if s.browser.interface.isEmpty then .error .emptyInterface else .ok s

def load (file : Option (List UInt8)) : Except Fault Settings :=
  match file with
  | none => .error .missingFile
  | some bytes =>
      match Utf8.decode bytes with
      | .error _ => .error .notUtf8
      | .ok cs => parse cs

def Fault.cause : Fault → List String
  | .missingFile => ["No such file or directory (os error 2)"]
  | .notUtf8 => ["stream did not contain valid UTF-8"]
  | .malformed => []
  | .mismatch _ => []
  | .emptyInterface => [emptyInterfaceText]

def Fault.chain (path : String) (f : Fault) : List String :=
  match f with
  | .missingFile | .notUtf8 => ("Failed to read config file: " ++ path) :: f.cause
  | .malformed | .mismatch _ | .emptyInterface => ("Failed to parse config file: " ++ path) :: f.cause

end StreamScout.Settings
