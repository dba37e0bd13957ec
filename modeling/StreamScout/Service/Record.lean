import StreamScout.Text.Blank

namespace StreamScout.Service

inductive Family where
  | inet
  | inet6
  deriving DecidableEq, Repr

structure Record where
  name : String
  serviceType : String
  domain : String
  interface : String
  family : Family
  deriving DecidableEq, Repr

def splitTypeDomain? (typeDomain : List Char) : Option (List Char × List Char) := do
  let (service, rest) ← Text.cutAt (· == '.') (Text.dropEnd (· == '.') typeDomain)
  let (transport, domain) ← Text.cutAt (· == '.') rest
  some (service ++ '.' :: transport, domain)

def instanceName? (fullname typeDomain : List Char) : Option (List Char) :=
  ((Text.before? typeDomain fullname).bind (Text.before? ['.'])).filter (!·.isEmpty)

namespace Record

def fullname (r : Record) : String :=
  r.name ++ "." ++ r.serviceType ++ "." ++ r.domain ++ "."

def ofFullname? (fullname typeDomain interface : String) : Option Record := do
  let name ← instanceName? fullname.toList typeDomain.toList
  let (service, domain) ← splitTypeDomain? typeDomain.toList
  some ⟨String.ofList name, String.ofList service, String.ofList domain, interface, .inet⟩

def typeDomain (r : Record) : String :=
  r.serviceType ++ "." ++ r.domain ++ "."

def text (r : Record) : String :=
  "service " ++ r.name ++ " of type " ++ r.serviceType ++ " in domain " ++ r.domain

end Record

def defaultTypeDomain : String := "_rtsp._tcp.local."

def defaultPathStart : String := "/by-name/"

end StreamScout.Service
