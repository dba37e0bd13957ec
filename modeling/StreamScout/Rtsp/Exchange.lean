import StreamScout.Rtsp.Description
import StreamScout.Rtsp.Reply
import StreamScout.Rtsp.Request
import StreamScout.Stream.Deadline

namespace StreamScout.Rtsp

open StreamScout.Stream (Arrival Connection Overdue Want)

structure Limits where
  connect : Nat
  io : Nat
  deriving DecidableEq, Repr

inductive Peer where
  | refuses
  | answers (arrivals : List Arrival) (closes : Option Nat)
  deriving DecidableEq, Repr

inductive ReadError where
  | reply (e : ReplyError)
  | timedOut {want : Want}
  | deadline {want : Want}
  deriving DecidableEq, Repr

/-- The body is all that is wanted by its length. -/
def wantContext : Want → String
  | .line => ""
  | .exactly => "truncated session description: "

def ReadError.message : ReadError → String
  | .reply e => e.message
  | @timedOut want => wantContext want ++ "Resource temporarily unavailable (os error 11)"
  | @deadline want => wantContext want ++ "DESCRIBE deadline exceeded"

inductive DescribeError where
  | noConnectTime (target : String)
  | refused (target : String)
  | badReply (url : String) (e : ReadError)
  deriving DecidableEq, Repr

def DescribeError.message : DescribeError → String
  | .noConnectTime target => "Failed to connect to " ++ target ++ ": cannot set a 0 duration timeout"
  | .refused target => "Failed to connect to " ++ target ++ ": Connection refused (os error 111)"
  | .badReply url e => "Bad DESCRIBE response from " ++ url ++ ": " ++ e.message

def readerCapacity : Nat := 8192

def readBefore (deadline : Nat) (c : Connection) : Except ReadError Reply × Connection :=
  match (Connection.feed deadline readerCapacity).run readReply c with
  | (.ok (.ok reply), c') => (.ok reply, c')
  | (.ok (.error e), c') => (.error (.reply e), c')
  | (.error (want, .waited), c') => (.error (@ReadError.timedOut want), c')
  | (.error (want, .passed), c') => (.error (@ReadError.deadline want), c')

structure Exchange where
  result : Except DescribeError Description
  request : Option String

/-- The clock starts when the probe connects. -/
def describe (limits : Limits) (path : String) (address : Ipv4) (port : Nat) (peer : Peer) : Exchange :=
  let url := streamUrl path address port
  let target := hostPort address port
  match peer with
  | .refuses =>
      if limits.connect = 0 then ⟨.error (.noConnectTime target), none⟩ else ⟨.error (.refused target), none⟩
  | .answers arrivals closes =>
      if limits.connect = 0 then ⟨.error (.noConnectTime target), some ""⟩
      else
        match (readBefore (limits.connect + limits.io) ⟨0, [], arrivals, closes⟩).1 with
        | .error e => ⟨.error (.badReply url e), some (describeRequest url)⟩
        | .ok reply =>
            ⟨.ok (.ofSdp (reply.contentBase.getD url) reply.body), some (describeRequest url)⟩

end StreamScout.Rtsp
