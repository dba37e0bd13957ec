import StreamScout.Mdns.Forwarder
import StreamScout.Service.Provider

namespace StreamScout.Mdns

open StreamScout.Service

structure Client where
  /-- Present from connecting to stopping. -/
  forwarder : Option (Forwarder Record) := none
  browsing : Option String := none
  alive : Bool := false
  searching : Option String := none
  deriving DecidableEq, Repr

def notStarted : String := "mDNS client not started"

inductive Setup where
  | daemon
  | defaults
  | interface
  | ipv6
  | monitor
  | thread
  deriving DecidableEq, Repr

def Setup.fault (interface reason : String) (step : Setup) : String :=
  let context := match step with
    | .daemon => "Failed to create mDNS daemon"
    | .defaults => "Failed to disable default interfaces"
    | .interface => "Failed to enable interface " ++ interface
    | .ipv6 => "Failed to disable IPv6 interfaces"
    | .monitor => "Failed to monitor mDNS daemon"
    | .thread => "Failed to spawn mDNS monitor thread"
  context ++ ": " ++ reason

inductive Search where
  | begun
  | refused (reason : String)
  -- the daemon searches, but there is no thread for what it finds
  | unheard (reason : String)
  deriving DecidableEq, Repr

namespace Client

/-- A new daemon takes the place of an old one, but what was browsed is remembered. -/
def connect (failure : Option (Setup × String)) (interface : String) (c : Client) : Reply Client :=
  match failure with
  | some (step, reason) => ⟨.error (step.fault interface reason), c, []⟩
  | none =>
    { outcome := .ok
      state :=
        { forwarder := some { interface := interface }, browsing := c.browsing, alive := true, searching := none }
      posts := [.client .connecting, .client .running] }

/-- The earlier search ends first, even if the new one fails. -/
def subscribe (search : Search) (typeDomain : String) (c : Client) : Reply Client :=
  match c.forwarder with
  | none => ⟨.error notStarted, c, []⟩
  | some _ =>
      let ended := if c.browsing.isSome then { c with searching := none } else c
      match search with
      | .begun => ⟨.ok, { c with browsing := some typeDomain, searching := some typeDomain }, []⟩
      | .refused reason => ⟨.error ("Failed to browse " ++ typeDomain ++ ": " ++ reason), ended, []⟩
      | .unheard reason => ⟨.error ("Failed to spawn mDNS browse thread: " ++ reason), ended, []⟩

def resolve (record : Record) (c : Client) : Reply Client :=
  match c.forwarder with
  | none => ⟨.error notStarted, c, []⟩
  | some f =>
      let (f', answer) := f.request record.fullname record
      ⟨.ok, { c with forwarder := some f' },
        answer.toList.map fun (resolver, e) => .resolved resolver (.found e)⟩

def stop (_ : Client) : Client := {}

def kill (c : Client) : Bool × Client × List (Event Record) :=
  match c.forwarder with
  | some f =>
      if c.alive then
        (true, { c with alive := false, searching := none },
          (c.searching.toList.map fun t => .browse (.failure (channelClosed t))) ++ f.monitor)
      else (false, c, [])
  | none => (false, c, [])

def hear (typeDomain : String) (as : List Announcement) (c : Client) : Client × List (Event Record) :=
  match c.forwarder with
  | none => (c, [])
  | some f =>
      let (f', posts) := f.browse typeDomain as
      ({ c with forwarder := some f' }, posts)

end Client

structure Daemon where
  failure? : (interface : String) → Client → Option (Setup × String)
  search : (typeDomain : String) → Client → Search

def Daemon.provider (d : Daemon) : Provider Client where
  connect interface c := c.connect (d.failure? interface c) interface
  subscribe typeDomain c := c.subscribe (d.search typeDomain c) typeDomain
  resolve := Client.resolve
  stop := Client.stop
  drop := Client.stop

def channelGone : String := "flume::channel::send failed: sending on a closed channel"

def isServiceType (typeDomain : String) : Bool :=
  (Text.before? "._tcp.local.".toList typeDomain.toList).isSome
    || (Text.before? "._udp.local.".toList typeDomain.toList).isSome

/-- A daemon that is never short of anything: it refuses what is not the name of a service type, and everything once it
is dead. -/
def willing : Daemon where
  failure? _ _ := none
  search typeDomain c :=
    if !isServiceType typeDomain then
      .refused ("mDNS service " ++ typeDomain ++ " must end with '._tcp.local.' or '._udp.local.'")
    else if !c.alive then .refused channelGone
    else .begun

def provider : Provider Client :=
  willing.provider

end StreamScout.Mdns
