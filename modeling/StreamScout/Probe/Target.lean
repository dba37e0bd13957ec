import StreamScout.Rtsp.Request
import StreamScout.Service.Endpoint

namespace StreamScout.Probe

structure Target where
  name : String
  domain : String
  address : Ipv4
  port : Nat
  deriving DecidableEq, Repr

namespace Target

def text (t : Target) : String :=
  t.name ++ " (" ++ t.domain ++ ") at " ++ Rtsp.hostPort t.address t.port

def ofEndpoint? (e : Service.Endpoint) : Option Target :=
  (Ipv4.ofText? e.address).map fun a => ⟨e.name, e.domain, a, e.port⟩

def ofResolution? : Service.Resolution → Option Target
  | .found e => ofEndpoint? e
  | .failure _ => none

def path (pathStart : String) (t : Target) : String :=
  pathStart ++ t.name

end Target

end StreamScout.Probe
