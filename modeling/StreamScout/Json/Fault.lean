import StreamScout.Schema.Mismatch

namespace StreamScout.Json

inductive Fault where
  | malformed
  | ended
  | mismatch (m : Schema.Mismatch)
  deriving DecidableEq, Repr

def isGap (c : Char) : Bool :=
  c == ' ' || c == '\n' || c == '\t' || c == '\r'

def skipGap (cs : List Char) : List Char :=
  cs.dropWhile isGap

def literal : (rest : List Char) → List Char → Except Fault (List Char)
  | [], cs => .ok cs
  | _ :: _, [] => .error .ended
  | a :: as, c :: cs => if a = c then literal as cs else .error .malformed

end StreamScout.Json
