import StreamScout.Address.Ipv4

namespace StreamScout.Service

structure Flags where
  isLocal : Bool := false
  ourOwn : Bool := false
  wideArea : Bool := false
  multicast : Bool := false
  cached : Bool := false
  deriving DecidableEq, Repr

structure Endpoint where
  name : String
  domain : String
  host : String
  address : String
  port : Nat
  flags : Flags
  deriving DecidableEq, Repr

def flagText (b : Bool) : String :=
  if b then "1" else "0"

def Endpoint.text (e : Endpoint) : String :=
  e.host ++ ":" ++ toString e.port ++ " (" ++ e.address ++ "), local: " ++ flagText e.flags.isLocal
    ++ ", our_own: " ++ flagText e.flags.ourOwn ++ ", wide_area: " ++ flagText e.flags.wideArea
    ++ ", multicast: " ++ flagText e.flags.multicast ++ ", cached: " ++ flagText e.flags.cached

inductive Resolution where
  | found (endpoint : Endpoint)
  | failure (reason : String)
  deriving DecidableEq, Repr

end StreamScout.Service
