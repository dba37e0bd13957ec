import StreamScout.Text.Printable

namespace StreamScout.Text

def hexDigits (n : Nat) : List Char :=
  Nat.toDigits 16 n

def quotedChar (c : Char) : List Char :=
  match c with
  | '"' => ['\\', '"']
  | '\\' => ['\\', '\\']
  | '\t' => ['\\', 't']
  | '\r' => ['\\', 'r']
  | '\n' => ['\\', 'n']
  | '\x00' => ['\\', '0']
  | c => if isPrintable c then [c] else codePoint c
where
  codePoint (c : Char) : List Char :=
    '\\' :: 'u' :: '\x7b' :: hexDigits c.toNat ++ ['\x7d']

def quote (cs : List Char) : String :=
  String.ofList ('"' :: cs.flatMap quotedChar ++ ['"'])

end StreamScout.Text
