import StreamScout.Service.Record

namespace StreamScout.Settings

def defaultServiceType : String :=
  Service.defaultTypeDomain

def defaultPathStart : String :=
  Service.defaultPathStart

def defaultConnectTimeout : Nat :=
  2000

def defaultIoTimeout : Nat :=
  5000

def defaultReapInterval : Nat :=
  5

def defaultListen : String :=
  "[::]:8090"

structure Browser where
  interface : String
  serviceType : String
  deriving DecidableEq, Repr

structure Probing where
  pathStart : String
  connectTimeout : Nat
  ioTimeout : Nat
  deriving DecidableEq, Repr

structure Maintenance where
  reapInterval : Nat
  deriving DecidableEq, Repr

structure Serving where
  listen : String
  deriving DecidableEq, Repr

-- The records below stand for sections that a document lacks. A section that is there takes the default of each key
-- that it lacks instead, so the two could come apart.

instance : Inhabited Probing where
  default := { pathStart := defaultPathStart, connectTimeout := defaultConnectTimeout, ioTimeout := defaultIoTimeout }

instance : Inhabited Maintenance where
  default := { reapInterval := defaultReapInterval }

instance : Inhabited Serving where
  default := { listen := defaultListen }

end StreamScout.Settings

namespace StreamScout

structure Settings where
  browser : Settings.Browser
  probing : Settings.Probing
  maintenance : Settings.Maintenance
  serving : Settings.Serving
  deriving DecidableEq, Repr

def Settings.thousandths (n : Nat) : List Char :=
  let fraction := (1000 + n % 1000)
  let ds := ((Nat.toDigits 10 fraction).drop 1).reverse.dropWhile (· == '0')
  Nat.toDigits 10 (n / 1000) ++ (if ds.isEmpty then [] else '.' :: ds.reverse)

def Settings.durationText (milliseconds : Nat) : String :=
  if milliseconds = 0 then "0ns"
  else if milliseconds < 1000 then toString milliseconds ++ "ms"
  else String.ofList (Settings.thousandths milliseconds) ++ "s"

end StreamScout
