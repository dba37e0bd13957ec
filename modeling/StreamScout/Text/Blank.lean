namespace StreamScout.Text

def isBlank (c : Char) : Bool :=
  let n := c.toNat
  (9 ≤ n && n ≤ 13) || n == 0x20 || n == 0x85 || n == 0xA0 || n == 0x1680
    || (0x2000 ≤ n && n ≤ 0x200A) || n == 0x2028 || n == 0x2029 || n == 0x202F || n == 0x205F
    || n == 0x3000

def trimLeft (cs : List Char) : List Char :=
  cs.dropWhile isBlank

def dropEnd (p : Char → Bool) (cs : List Char) : List Char :=
  (cs.reverse.dropWhile p).reverse

def trimRight (cs : List Char) : List Char :=
  dropEnd isBlank cs

def trim (cs : List Char) : List Char :=
  trimRight (trimLeft cs)

def wordsFrom : List Char → List Char → List (List Char)
  | [], [] => []
  | [], w => [w.reverse]
  | c :: cs, w =>
      if isBlank c then
        if w.isEmpty then wordsFrom cs [] else w.reverse :: wordsFrom cs []
      else wordsFrom cs (c :: w)

def words (cs : List Char) : List (List Char) :=
  wordsFrom cs []

def cutAt (p : Char → Bool) : List Char → Option (List Char × List Char)
  | [] => none
  | c :: cs => if p c then some ([], cs) else (cutAt p cs).map fun (a, b) => (c :: a, b)

def after? : (start text : List Char) → Option (List Char)
  | [], t => some t
  | _ :: _, [] => none
  | a :: s, b :: t => if a = b then after? s t else none

def before? (tail text : List Char) : Option (List Char) :=
  (after? tail.reverse text.reverse).map List.reverse

end StreamScout.Text
