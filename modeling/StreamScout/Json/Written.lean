namespace StreamScout.Json

def hexDigit (n : Nat) : Char :=
  Nat.digitChar n

def escapedChar (c : Char) : List Char :=
  match c with
  | '"' => ['\\', '"']
  | '\\' => ['\\', '\\']
  | '\x08' => ['\\', 'b']
  | '\t' => ['\\', 't']
  | '\n' => ['\\', 'n']
  | '\x0c' => ['\\', 'f']
  | '\r' => ['\\', 'r']
  | c =>
      if c.toNat < 0x20 then ['\\', 'u', '0', '0', hexDigit (c.toNat / 16), hexDigit (c.toNat % 16)] else [c]

def string (s : String) : List Char :=
  '"' :: s.toList.flatMap escapedChar ++ ['"']

def null : List Char :=
  "null".toList

def boolean (b : Bool) : List Char :=
  if b then "true".toList else "false".toList

def number (n : Nat) : List Char :=
  Nat.toDigits 10 n

def nullable (s : Option String) : List Char :=
  match s with
  | some s => string s
  | none => null

def joined : List (List Char) → List Char
  | [] => []
  | [x] => x
  | x :: xs => x ++ ',' :: joined xs

def array (items : List (List Char)) : List Char :=
  '[' :: joined items ++ [']']

def object (fields : List (String × List Char)) : List Char :=
  '\x7b' :: joined (fields.map fun (k, v) => string k ++ ':' :: v) ++ ['\x7d']

end StreamScout.Json
