import StreamScout.Keyed
import StreamScout.Service.Provider

namespace StreamScout.Rehearsal

open StreamScout.Service

inductive Reaction where
  | answers (outcome : Resolution)
  | drops
  | panics
  deriving DecidableEq, Repr

structure Backend where
  states : List ClientState := [.connecting, .running]
  reactions : Keyed Reaction := []
  failClient : Bool := false
  failSubscribe : Bool := false
  failResolve : Bool := false
  parked : List Record := []
  clients : Nat := 0
  stops : Nat := 0
  subscriptions : List String := []
  resolved : List String := []
  deriving DecidableEq, Repr

namespace Backend

def connect (_ : String) (b : Backend) : Reply Backend :=
  if b.failClient then ⟨.error "daemon not running", b, []⟩
  else ⟨.ok, { b with clients := b.clients + 1 }, b.states.map .client⟩

def subscribe (typeDomain : String) (b : Backend) : Reply Backend :=
  if b.failSubscribe then ⟨.error "bad service type", b, []⟩
  else ⟨.ok, { b with subscriptions := b.subscriptions ++ [typeDomain] }, []⟩

def resolve (record : Record) (b : Backend) : Reply Backend :=
  let noted := { b with resolved := b.resolved ++ [record.name] }
  if b.failResolve then ⟨.error "too many resolvers", b, []⟩
  else
    match b.reactions.get? record.name with
    | some (.answers outcome) => ⟨.ok, noted, [.resolved record outcome]⟩
    | some .drops => ⟨.ok, noted, []⟩
    | some .panics => ⟨.panic, b, []⟩
    | none => ⟨.ok, { noted with parked := b.parked ++ [record] }, []⟩

def stop (b : Backend) : Backend :=
  { b with stops := b.stops + 1, parked := [] }

def unpark? (name : String) (b : Backend) : Option (Record × Backend) :=
  (b.parked.find? (·.name == name)).map fun r => (r, { b with parked := b.parked.erase r })

def provider : Provider Backend where
  connect := connect
  subscribe := subscribe
  resolve := resolve
  stop := stop
  drop := id

end Backend

end StreamScout.Rehearsal
