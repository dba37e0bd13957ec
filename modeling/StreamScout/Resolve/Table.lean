import StreamScout.Keyed
import StreamScout.Service.Endpoint

namespace StreamScout.Resolve

open StreamScout.Service (Endpoint)

structure Table (η : Type) where
  pending : Keyed η := []
  resolved : Keyed Endpoint := []
  deriving DecidableEq, Repr

namespace Table

variable {η : Type}

def request (fullname : String) (resolver : η) (t : Table η) : Table η × Option (η × Endpoint) :=
  match t.resolved.get? fullname with
  | some e => (t, some (resolver, e))
  | none => ({ t with pending := t.pending.put fullname resolver }, none)

def resolve (fullname : String) (endpoint : Endpoint) (t : Table η) : Table η × Option η :=
  (⟨t.pending.drop fullname, t.resolved.put fullname endpoint⟩, t.pending.get? fullname)

/-- Releases the parked resolver; an endpoint noted before stays. -/
def giveUp (fullname : String) (t : Table η) : Table η × Option η :=
  ({ t with pending := t.pending.drop fullname }, t.pending.get? fullname)

def withdraw (fullname : String) (t : Table η) : Table η × Option η :=
  (⟨t.pending.drop fullname, t.resolved.drop fullname⟩, t.pending.get? fullname)

end Table

end StreamScout.Resolve
