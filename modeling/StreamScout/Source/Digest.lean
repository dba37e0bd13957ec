import StreamScout.Digest.Sha256
import StreamScout.Source.Basic

namespace StreamScout.Source

variable {τ : Type}

def contentLine (s : Source τ) : List Char :=
  Json.object
    [("name", Json.string s.name), ("domain", Json.string s.domain), ("url", Json.string s.url),
      ("sdp", Json.string s.sdp)] ++ ['\n']

def digestInput (sources : List (Source τ)) : List UInt8 :=
  Utf8.encode ((sort sources).flatMap contentLine)

def digest (sources : List (Source τ)) : String :=
  Sha256.hex (digestInput sources)

end StreamScout.Source
