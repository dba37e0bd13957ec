import StreamScout.Json.Written
import StreamScout.Rtsp.Description
import StreamScout.Text.Utf8

namespace StreamScout

structure Source (τ : Type) where
  name : String
  domain : String
  url : String
  sdp : String
  sessionName : Option String
  firstSeen : τ
  lastSeen : τ
  deriving DecidableEq, Repr

namespace Source

variable {τ : Type}

def key (s : Source τ) : String × String :=
  (s.name, s.domain)

def keyLe (a b : String × String) : Bool :=
  Utf8.bytes a.1 < Utf8.bytes b.1 || (a.1 == b.1 && Utf8.bytes a.2 ≤ Utf8.bytes b.2)

def le (a b : Source τ) : Bool :=
  keyLe a.key b.key

def sort (sources : List (Source τ)) : List (Source τ) :=
  sources.mergeSort le

def content (s : Source τ) : String × String × String × String :=
  (s.name, s.domain, s.url, s.sdp)

def json (writeTime : τ → String) (s : Source τ) : List Char :=
  Json.object
    [("name", Json.string s.name), ("domain", Json.string s.domain), ("url", Json.string s.url),
      ("sdp", Json.string s.sdp), ("session_name", Json.nullable s.sessionName),
      ("first_seen", Json.string (writeTime s.firstSeen)), ("last_seen", Json.string (writeTime s.lastSeen))]

end Source

end StreamScout
