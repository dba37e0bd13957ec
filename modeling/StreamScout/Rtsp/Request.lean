import StreamScout.Address.Ipv4

namespace StreamScout.Rtsp

def hostPort (address : Ipv4) (port : Nat) : String :=
  s!"{address.text}:{port}"

def streamUrl (path : String) (address : Ipv4) (port : Nat) : String :=
  "rtsp://" ++ hostPort address port ++ path

def userAgent : String := "source-browserd/0.1.0"

def describeRequest (url : String) : String :=
  "DESCRIBE " ++ url ++ " RTSP/1.0\r\nCSeq: 1\r\nUser-Agent: " ++ userAgent
    ++ "\r\nAccept: application/sdp\r\n\r\n"

end StreamScout.Rtsp
