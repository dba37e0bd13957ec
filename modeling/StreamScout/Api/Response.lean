import StreamScout.Source.Table
import StreamScout.Text.Percent

namespace StreamScout.Api

structure View (τ : Type) where
  sources : Source.Table τ
  running : Bool
  pendingProbes : Nat

inductive Route where
  | status
  | sources
  | digest
  | source (name : List Char)
  deriving DecidableEq, Repr

def pathStart : String := "/v1"

/-- The route of a path. A name is one segment that is not empty, and the digest comes before a source of that
name. -/
def Route.ofPath? (path : List Char) : Option Route :=
  match Text.after? (pathStart.toList) path with
  | none => none
  | some rest =>
      if rest = "/status".toList then some .status
      else if rest = "/sources".toList then some .sources
      else if rest = "/sources/hash".toList then some .digest
      else match Text.after? "/sources/".toList rest with
        | some name => if name.isEmpty || name.contains '/' then none else some (.source name)
        | none => none

structure Response where
  status : Nat
  contentType : Option String := none
  allow : Option String := none
  body : String := ""
  deriving DecidableEq, Repr

namespace Response

def plain (status : Nat) (body : String) : Response :=
  { status, contentType := some "text/plain; charset=utf-8", body }

def json (text : List Char) : Response :=
  { status := 200, contentType := some "application/json", body := String.ofList text }

def notFound : Response := { status := 404 }

def methodNotAllowed : Response := { status := 405, allow := some "GET,HEAD" }

def withoutBody (r : Response) : Response := { r with body := "" }

end Response

def nameNotUtf8 : String := "Invalid URL: Invalid UTF-8 in `name`"

variable {τ : Type}

/-- A handler has the source table in its hands, which the session's probes change. Of the session it gets a snapshot. -/
abbrev Handler (τ : Type) :=
  StateM (Source.Table τ)

def shown (writeTime : τ → String) (found : Option (Source τ)) : Response :=
  match found with
  | some s => .json (s.json writeTime)
  | none => .notFound

def sourceNamed (writeTime : τ → String) (name : List Char) : Handler τ Response :=
  match Utf8.decode (Text.percentDecode (Utf8.encode name)) with
  | .error _ => return .plain 400 nameNotUtf8
  | .ok decoded => return shown writeTime ((← get).get? (String.ofList decoded))

def handle (writeTime : τ → String) (running : Bool) (pendingProbes : Nat) : Route → Handler τ Response
  | .status =>
      return .json (Json.object
        [("running", Json.boolean running), ("pending_probes", Json.number pendingProbes)])
  | .sources => return .json (Json.array ((← get).all.map (Source.json writeTime)))
  | .digest => return .plain 200 (← get).published
  | .source name => sourceNamed writeTime name

def serve (writeTime : τ → String) (method : String) (path : List Char) (running : Bool) (pendingProbes : Nat) :
    Handler τ Response :=
  match Route.ofPath? path with
  | none => return .notFound
  | some route => do
      if method = "GET" then handle writeTime running pendingProbes route
      else if method = "HEAD" then return (← handle writeTime running pendingProbes route).withoutBody
      else return .methodNotAllowed

def respond (writeTime : τ → String) (method : String) (path : List Char) (v : View τ) : Response :=
  ((serve writeTime method path v.running v.pendingProbes).run v.sources).1

end StreamScout.Api
