import StreamScout.Mdns.Announcement
import StreamScout.Resolve.Table
import StreamScout.Service.Event

namespace StreamScout.Mdns

open StreamScout.Service
open StreamScout.Resolve (Table)

structure Forwarder (η : Type) where
  interface : String
  table : Table η := {}
  stopping : Bool := false
  deriving DecidableEq, Repr

def removedFirst : String := "service removed before resolution"
def noAddress : String := "no address in resolution"
def daemonExited : String := "mDNS daemon exited"

def channelClosed (typeDomain : String) : String :=
  "browse channel for " ++ typeDomain ++ " closed"

section

variable {η : Type}

def release (outcome : Resolution) : Option η → List (Event η)
  | some resolver => [.resolved resolver outcome]
  | none => []

def announce (interface : String) (a : Announcement) (t : Table η) : Table η × List (Event η) :=
  match a with
  | .searchStarted => (t, [])
  | .searchStopped => (t, [])
  | .found typeDomain fullname =>
      match Record.ofFullname? fullname typeDomain interface with
      | some r => (t, [.browse (.new r)])
      | none => (t, [])
  | .resolved info =>
      match Record.ofFullname? info.fullname info.typeDomain interface with
      | none => (t, [])
      | some r =>
          match info.endpoint? r with
          | some e =>
              let (t', parked) := t.resolve info.fullname e
              (t', release (.found e) parked)
          | none =>
              let (t', parked) := t.giveUp info.fullname
              (t', release (.failure noAddress) parked)
  | .removed typeDomain fullname =>
      let (t', parked) := t.withdraw fullname
      let removal := (Record.ofFullname? fullname typeDomain interface).map fun r => .browse (.remove r)
      (t', release (.failure removedFirst) parked ++ removal.toList)

def browse (interface typeDomain : String) (stopping : Bool) :
    List Announcement → Table η → Table η × List (Event η)
  | [], t => (t, if stopping then [] else [.browse (.failure (channelClosed typeDomain))])
  | .searchStopped :: _, t => (t, [])
  | a :: as, t =>
      let (t', now) := announce interface a t
      let (t'', later) := browse interface typeDomain stopping as t'
      (t'', now ++ later)

namespace Forwarder

def browse (typeDomain : String) (as : List Announcement) (f : Forwarder η) : Forwarder η × List (Event η) :=
  let (t, posts) := Mdns.browse f.interface typeDomain f.stopping as f.table
  ({ f with table := t }, posts)

def monitor (f : Forwarder η) : List (Event η) :=
  if f.stopping then [] else [.client (.failure daemonExited)]

def request (fullname : String) (resolver : η) (f : Forwarder η) :
    Forwarder η × Option (η × Endpoint) :=
  let (t, answer) := f.table.request fullname resolver
  ({ f with table := t }, answer)

def stop (f : Forwarder η) : Forwarder η :=
  { f with table := {}, stopping := true }

end Forwarder

end

end StreamScout.Mdns
