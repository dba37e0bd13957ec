import StreamScout.Text.Quoted

namespace StreamScout.Schema

inductive Found where
  | integer (value : Int)
  | float (text : String)
  | boolean (value : Bool)
  | null
  | sequence
  | map
  | string (value : String)
  deriving DecidableEq, Repr

def Found.text : Found → String
  | .integer n => "integer `" ++ toString n ++ "`"
  | .float t => "floating point `" ++ t ++ "`"
  | .boolean true => "boolean `true`"
  | .boolean false => "boolean `false`"
  | .null => "null"
  | .sequence => "sequence"
  | .map => "map"
  | .string s => "string " ++ Text.quote s.toList

inductive Mismatch where
  | missing (field : String)
  | duplicate (field : String)
  | wrongType (found : Found) (expected : String)
  | wrongValue (found : Found) (expected : String)
  | wrongLength (length : Nat) (expected : String)
  | unreadable (reason : String)
  deriving DecidableEq, Repr

def Mismatch.message : Mismatch → String
  | .missing field => "missing field `" ++ field ++ "`"
  | .duplicate field => "duplicate field `" ++ field ++ "`"
  | .wrongType found expected => "invalid type: " ++ found.text ++ ", expected " ++ expected
  | .wrongValue found expected => "invalid value: " ++ found.text ++ ", expected " ++ expected
  | .wrongLength n expected => "invalid length " ++ toString n ++ ", expected " ++ expected
  | .unreadable reason => reason

end StreamScout.Schema
