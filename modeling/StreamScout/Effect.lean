import StreamScout.Rtsp.Description
import StreamScout.Service.Record
import StreamScout.Address.Ipv4

namespace StreamScout

inductive Effect where
  | connect (interface : String)
  | subscribe (typeDomain : String)
  | resolve (record : Service.Record)
  | stop
  | describe (path : String) (address : Ipv4) (port : Nat)
  | added (name domain : String) (description : Rtsp.Description)
  | removed (name domain : String)
  deriving DecidableEq, Repr

end StreamScout
