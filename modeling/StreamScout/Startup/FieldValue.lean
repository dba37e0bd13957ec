import StreamScout.Startup.Pattern.Reader
import StreamScout.Text.Numeral

namespace StreamScout.Startup

def isDigit (c : Char) : Bool :=
  (Numeral.digit? c).isSome

def isExponent (cs : List Char) : Bool :=
  match cs with
  | [] => true
  | 'e' :: rest =>
      let ds := if rest.head? = some '+' ∨ rest.head? = some '-' then rest.drop 1 else rest
      !ds.isEmpty && ds.all isDigit
  | _ => false

def isNumber (cs : List Char) : Bool :=
  let whole := cs.takeWhile isDigit
  ["inf".toList, "infinity".toList, "nan".toList].contains cs
    || match cs.dropWhile isDigit with
      | '.' :: rest => !(whole ++ rest.takeWhile isDigit).isEmpty && isExponent (rest.dropWhile isDigit)
      | rest => !whole.isEmpty && isExponent rest

def isFieldValue (cs : List Char) : Bool :=
  match cs with
  | '+' :: rest => isNumber (rest.map Char.toLower)
  | cs => Pattern.accepted cs

end StreamScout.Startup
