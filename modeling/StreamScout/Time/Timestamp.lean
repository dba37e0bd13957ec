import StreamScout.Time.Date

namespace StreamScout.Time

def billion : Nat := 1000000000

/-- A moment in universal time. A leap second is the second before it with a thousand million nanoseconds or more. -/
structure Timestamp where
  date : Date
  /-- Seconds since midnight. -/
  second : Nat
  nano : Nat
  deriving DecidableEq, Repr

def padded (width n : Nat) : List Char :=
  let ds := Nat.toDigits 10 n
  List.replicate (width - ds.length) '0' ++ ds

def yearText (y : Int) : List Char :=
  if 0 ≤ y ∧ y ≤ 9999 then padded 4 y.toNat
  else if y < 0 then '-' :: padded 4 y.natAbs
  else '+' :: padded 4 y.natAbs

def fractionText (nano : Nat) : List Char :=
  if nano = 0 then []
  else if nano % 1000000 = 0 then '.' :: padded 3 (nano / 1000000)
  else if nano % 1000 = 0 then '.' :: padded 6 (nano / 1000)
  else '.' :: padded 9 nano

namespace Timestamp

def toChars (t : Timestamp) : List Char :=
  yearText t.date.year ++ '-' :: padded 2 t.date.month ++ '-' :: padded 2 t.date.day
    ++ 'T' :: padded 2 (t.second / 3600) ++ ':' :: padded 2 (t.second / 60 % 60)
    ++ ':' :: padded 2 (t.second % 60 + t.nano / billion) ++ fractionText (t.nano % billion) ++ ['Z']

def text (t : Timestamp) : String :=
  String.ofList t.toChars

/-- There may be a leap second after any second, not only at the end of a minute. -/
def valid (t : Timestamp) : Bool :=
  t.date.valid && t.second < 86400 && t.nano < 2 * billion

def utc (offset : Int) (t : Timestamp) : Timestamp :=
  let s := (t.second : Int) - offset
  if s < 0 then ⟨t.date.previous, (s + 86400).toNat, t.nano⟩
  else if 86400 ≤ s then ⟨t.date.next, (s - 86400).toNat, t.nano⟩
  else ⟨t.date, s.toNat, t.nano⟩

end Timestamp

end StreamScout.Time
