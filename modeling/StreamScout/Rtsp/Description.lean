import StreamScout.Text.Lines

namespace StreamScout.Rtsp

structure Description where
  url : String
  sdp : String
  sessionName : Option String
  deriving DecidableEq, Repr

def sessionLine? (sdp : List Char) : Option (List Char) :=
  ((Text.lines sdp).findSome? (Text.after? ['s', '='])).map Text.trim

def sessionName? (sdp : List Char) : Option (List Char) :=
  (sessionLine? sdp).filter fun t => !t.isEmpty && t != ['-']

def Description.ofSdp (url sdp : String) : Description :=
  ⟨url, sdp, (sessionName? sdp.toList).map String.ofList⟩

end StreamScout.Rtsp
