import StreamScout.Stream.Plan
import StreamScout.Text.Numeral
import StreamScout.Text.Quoted
import StreamScout.Text.Utf8

namespace StreamScout.Rtsp

open StreamScout.Stream (Plan)

def lineLimit : Nat := 4096
def headerLimit : Nat := 64
def bodyLimit : Nat := 65536

structure Reply where
  contentBase : Option String
  body : String
  deriving DecidableEq, Repr

inductive ReplyError where
  | lineNotUtf8
  | lineTooLong
  | notRtsp (status : List Char)
  | badStatus (status : List Char)
  | closedInHeaders
  | tooManyHeaders
  | badLength (value : List Char) (fault : Numeral.Fault)
  | emptyBody
  | bodyTooLarge (length : Nat)
  | bodyTruncated
  | bodyNotUtf8 (fault : Utf8.Fault)
  deriving DecidableEq, Repr

def ReplyError.message : ReplyError → String
  | .lineNotUtf8 => "stream did not contain valid UTF-8"
  | .lineTooLong => s!"line longer than {lineLimit} bytes"
  | .notRtsp status => "not an RTSP response: " ++ Text.quote status
  | .badStatus status => "unexpected status: " ++ String.ofList status
  | .closedInHeaders => "connection closed inside headers"
  | .tooManyHeaders => s!"more than {headerLimit} headers"
  | .badLength value fault => "invalid Content-Length: " ++ String.ofList value ++ ": " ++ fault.message
  | .emptyBody => "empty session description"
  | .bodyTooLarge n => s!"session description too large: {n} bytes"
  | .bodyTruncated => "truncated session description: failed to fill whole buffer"
  | .bodyNotUtf8 fault => "session description is not UTF-8: " ++ fault.message

abbrev Verdict := Except ReplyError Reply

/-- The text of a line as it was read. The bytes are checked before the length is, so a limit that cuts a
character gives a line that is not UTF-8. -/
def lineText (bytes : List UInt8) : Except ReplyError (List Char) :=
  match Utf8.decode bytes with
  | .error _ => .error .lineNotUtf8
  | .ok cs =>
      if lineLimit ≤ bytes.length ∧ bytes.getLast? ≠ some Stream.lineFeed then .error .lineTooLong
      else .ok cs

def checkStatus (line : List Char) : Except ReplyError Unit :=
  let version := (Text.words line).headD []
  let code := (Text.words line).tail.headD []
  if (Text.after? "RTSP/".toList version).isNone then .error (.notRtsp (Text.trimRight line))
  else if code ≠ "200".toList then .error (.badStatus (Text.trimRight line))
  else .ok ()

structure Fields where
  length : Nat := 0
  base : Option String := none
  deriving DecidableEq, Repr

def sameKey (a b : List Char) : Bool :=
  a.map Char.toLower == b.map Char.toLower

def Fields.take (fields : Fields) (line : List Char) : Except ReplyError Fields :=
  match Text.cutAt (· == ':') line with
  | none => .ok fields
  | some (key, rest) =>
      let value := Text.trim rest
      if sameKey key "content-length".toList then
        match Numeral.read Numeral.word64 value with
        | .ok n => .ok { fields with length := n }
        | .error fault => .error (.badLength value fault)
      else if sameKey key "content-base".toList then
        .ok { fields with base := some (String.ofList (Text.dropEnd (· == '/') value)) }
      else .ok fields

inductive HeaderLine where
  | fault (e : ReplyError)
  | blank
  | header (text : List Char)
  deriving DecidableEq, Repr

def HeaderLine.ofBytes (bytes : List UInt8) : HeaderLine :=
  match lineText bytes with
  | .error e => .fault e
  | .ok [] => .fault .closedInHeaders
  | .ok line => if (Text.trimRight line).isEmpty then .blank else .header (Text.trimRight line)

def finish (fields : Fields) (bytes : List UInt8) : Verdict :=
  if bytes.length < fields.length then .error .bodyTruncated
  else match Utf8.decode bytes with
    | .error fault => .error (.bodyNotUtf8 fault)
    | .ok cs => .ok ⟨fields.base, String.ofList cs⟩

def readBody (fields : Fields) : Plan Verdict :=
  if fields.length = 0 then .answer (.error .emptyBody)
  else if bodyLimit < fields.length then .answer (.error (.bodyTooLarge fields.length))
  else .exactly fields.length fun bytes => .answer (finish fields bytes)

def readHeaders : (room : Nat) → Fields → Plan Verdict
  | 0, fields => .line lineLimit fun bytes =>
      match HeaderLine.ofBytes bytes with
      | .fault e => .answer (.error e)
      | .blank => readBody fields
      | .header _ => .answer (.error .tooManyHeaders)
  | room + 1, fields => .line lineLimit fun bytes =>
      match HeaderLine.ofBytes bytes with
      | .fault e => .answer (.error e)
      | .blank => readBody fields
      | .header text =>
          match fields.take text with
          | .error e => .answer (.error e)
          | .ok fields' => readHeaders room fields'

def readReply : Plan Verdict :=
  .line lineLimit fun bytes =>
    match lineText bytes with
    | .error e => .answer (.error e)
    | .ok line =>
        match checkStatus line with
        | .error e => .answer (.error e)
        | .ok () => readHeaders headerLimit {}

def Reply.ofBytes (bytes : List UInt8) : Verdict :=
  readReply.run bytes

end StreamScout.Rtsp
