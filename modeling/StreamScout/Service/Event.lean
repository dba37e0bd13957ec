import StreamScout.Service.Endpoint
import StreamScout.Service.Record

namespace StreamScout.Service

inductive ClientState where
  | connecting
  | registering
  | running
  | collision
  | failure (reason : String)
  deriving DecidableEq, Repr

inductive BrowseEvent where
  | new (record : Record)
  | remove (record : Record)
  | allForNow
  | cacheExhausted
  | failure (reason : String)
  deriving DecidableEq, Repr

inductive Event (η : Type) where
  | client (state : ClientState)
  | browse (event : BrowseEvent)
  | resolved (resolver : η) (outcome : Resolution)
  deriving DecidableEq, Repr

end StreamScout.Service
