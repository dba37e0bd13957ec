import StreamScout.Address.Ipv6
import StreamScout.Service.Endpoint
import StreamScout.Service.Record

namespace StreamScout.Mdns

open StreamScout.Service

/-- A resolved instance. Its addresses form a set; the list gives them in the order in which they are visited. -/
structure Instance where
  typeDomain : String
  fullname : String
  host : String
  addresses : List Address
  port : Nat
  deriving DecidableEq, Repr

inductive Announcement where
  | searchStarted
  | searchStopped
  | found (typeDomain fullname : String)
  | resolved (info : Instance)
  | removed (typeDomain fullname : String)
  deriving DecidableEq, Repr

def baseType : List Char → List Char
  | [] => []
  | c :: cs =>
      let rest := baseType cs
      if rest.length < cs.length then rest
      else (Text.after? "._sub.".toList (c :: cs)).getD (c :: cs)

def plainHost (host : List Char) : List Char :=
  if (Text.before? ".local.local.".toList host).isSome then host.take (host.length - 6) else host

def Instance.named (name typeDomain host : String) (addresses : List Address) (port : Nat) : Instance :=
  let base := String.ofList (baseType typeDomain.toList)
  ⟨base, name ++ "." ++ base, String.ofList (plainHost host.toList), addresses, port⟩

def Instance.address? (info : Instance) : Option Address :=
  (info.addresses.find? (·.isV4)).or info.addresses.head?

def Instance.endpoint? (info : Instance) (record : Record) : Option Endpoint :=
  info.address?.map fun a =>
    { name := record.name
      domain := record.domain
      host := String.ofList (Text.dropEnd (· == '.') info.host.toList)
      address := a.text
      port := info.port
      flags := { multicast := true } }

end StreamScout.Mdns
