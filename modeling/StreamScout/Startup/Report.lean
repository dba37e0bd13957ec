import StreamScout.Settings.Reader
import StreamScout.Startup.LogFilter

namespace StreamScout.Startup

def daemonName : String := "source-browserd"
def logTarget : String := "source_browserd"
def logFields : List String := ["message"]
def defaultFilter : String := "source_browserd=info"
def defaultPath : String := "/etc/source-browser/browserd.toml"

def cutLastColon (cs : List Char) : Option (List Char × List Char) :=
  (Text.cutAt (· == ':') cs.reverse).map fun (a, b) => (b.reverse, a.reverse)

def listenFault? (address : String) : Option String :=
  match cutLastColon address.toList with
  | none => some "invalid socket address"
  | some (host, port) =>
      match Numeral.read 65536 port with
      | .ok _ => if host.contains '\x00' then some "file name contained an unexpected NUL byte" else none
      | .error _ => some "invalid port value"

inductive Failure where
  | load (path : String) (fault : Settings.Fault)
  | bind (address : String) (reason : String)
  deriving DecidableEq, Repr

namespace Failure

def message : Failure → String
  | .load path _ => "Failed to load config from " ++ path
  | .bind address _ => "Failed to bind to " ++ address

def causes : Failure → List String
  | .load path f => f.chain path
  | .bind _ reason => [reason]

def endsInDocument : Failure → Bool
  | .load _ .malformed => true
  | .load _ (.mismatch _) => true
  | _ => false

def causeText (number : Option Nat) (cause : String) : List Char :=
  let (first, later) := match number with
    | some n => ("    " ++ toString n ++ ": ", "       ")
    | none => ("    ", "    ")
  first.toList ++ cause.toList.flatMap fun c => if c = '\n' then c :: later.toList else [c]

def text (f : Failure) : List Char :=
  let numbered := 1 < f.causes.length || f.endsInDocument
  let lines := f.causes.zipIdx.map fun (c, n) => '\n' :: causeText (if numbered then some n else none) c
  ("Error: " ++ f.message ++ "\n\nCaused by:").toList ++ lines.flatten

end Failure

structure Report where
  exit : Nat
  interrupted : Bool
  log : List String
  errors : List (List Char)
  deriving DecidableEq, Repr

def isShown (filter : Option String) : Bool :=
  let ds := (filter.bind directives?).getD ((directives? defaultFilter).getD [])
  shows ds logTarget logFields .info

def logLine (message : String) : String :=
  "INFO " ++ message

def starting : String := "Starting " ++ daemonName

def failed (log : List String) (f : Failure) : Report :=
  ⟨1, false, log, f.text.splitOn '\n'⟩

def outcome (path : String) (file : Option (List UInt8)) : List String × Option Failure :=
  match Settings.load file with
  | .error f => ([starting], some (.load path f))
  | .ok s =>
      let loaded := [starting, "Loaded config from " ++ path]
      match listenFault? s.serving.listen with
      | some reason => (loaded, some (.bind s.serving.listen reason))
      | none =>
          (loaded ++ ["API listening on " ++ s.serving.listen, "Shutdown signal received", "Shutdown complete"], none)

def Report.of (filter : Option String) (path : String) (file : Option (List UInt8)) : Report :=
  let (messages, failure) := outcome path file
  let log := if isShown filter then messages.map logLine else []
  match failure with
  | some f => failed log f
  | none => ⟨0, true, log, []⟩

end StreamScout.Startup
