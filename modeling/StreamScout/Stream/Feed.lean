import StreamScout.Stream.Plan

namespace StreamScout.Stream

/-- Hands out bytes piece by piece: `fill` shows the bytes at hand, none at the end of the stream, and `consume` takes
some of them away. -/
structure Feed (σ ε : Type) where
  fill : σ → Except ε (List UInt8) × σ
  consume : Nat → σ → σ

namespace Feed

variable {σ ε α : Type}

/-- Reads on to the end of the line; `got` holds what was read before, last byte first. Every turn takes a byte. -/
def readLine (feed : Feed σ ε) : (turns room : Nat) → (got : List UInt8) → σ → Except ε (List UInt8) × σ
  | 0, _, got, s => (.ok got.reverse, s)
  | _ + 1, 0, got, s => (.ok got.reverse, s)
  | turns + 1, room + 1, got, s =>
      match feed.fill s with
      | (.error e, s') => (.error e, s')
      | (.ok [], s') => (.ok got.reverse, s')
      | (.ok (b :: bs), s') =>
          let part := (takeLine (room + 1) (b :: bs)).1
          let got' := part.reverse ++ got
          if part.getLast? == some lineFeed then (.ok got'.reverse, feed.consume part.length s')
          else readLine feed turns (room + 1 - part.length) got' (feed.consume part.length s')

def readExactly (feed : Feed σ ε) : (turns room : Nat) → (got : List UInt8) → σ → Except ε (List UInt8) × σ
  | 0, _, got, s => (.ok got.reverse, s)
  | _ + 1, 0, got, s => (.ok got.reverse, s)
  | turns + 1, room + 1, got, s =>
      match feed.fill s with
      | (.error e, s') => (.error e, s')
      | (.ok [], s') => (.ok got.reverse, s')
      | (.ok (b :: bs), s') =>
          let part := (b :: bs).take (room + 1)
          readExactly feed turns (room + 1 - part.length) (part.reverse ++ got)
            (feed.consume part.length s')

def run (feed : Feed σ ε) : Plan α → σ → Except (Want × ε) α × σ
  | .answer v, s => (.ok v, s)
  | .line limit next, s =>
      match feed.readLine limit limit [] s with
      | (.error e, s') => (.error (.line, e), s')
      | (.ok l, s') => feed.run (next l) s'
  | .exactly count next, s =>
      match feed.readExactly count count [] s with
      | (.error e, s') => (.error (.exactly, e), s')
      | (.ok bs, s') => feed.run (next bs) s'

end Feed

end StreamScout.Stream
