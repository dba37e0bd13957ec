import StreamScout.Text.Blank

namespace StreamScout.Text

def closeLine : List Char → List Char
  | '\r' :: cs => cs.reverse
  | cs => cs.reverse

def linesFrom : List Char → List Char → List (List Char)
  | [], [] => []
  | [], line => [line.reverse]
  | c :: cs, line =>
      if c = '\n' then closeLine line :: linesFrom cs [] else linesFrom cs (c :: line)

def lines (cs : List Char) : List (List Char) :=
  linesFrom cs []

end StreamScout.Text
