set_option autoImplicit false

namespace RecordRules

-- A second whose nanoseconds go past one thousand million is a leap second.
structure Moment where
  secs : Int
  nanos : Nat
deriving DecidableEq, Repr

namespace Moment

def epoch : Moment := ⟨0, 0⟩

def compare (a b : Moment) : Ordering :=
  (Ord.compare a.secs b.secs).then (Ord.compare a.nanos b.nanos)

structure Date where
  year : Int
  month : Nat
  day : Nat
deriving DecidableEq, Repr

-- The date that lies so many days after the first of March of year 0. Counting years from March
-- puts the leap day at their end.
def Date.ofDays (days : Int) : Date :=
  let era := days / 146097
  let dayOfEra := (days % 146097).toNat
  let yearOfEra := (dayOfEra - dayOfEra / 1460 + dayOfEra / 36524 - dayOfEra / 146096) / 365
  let dayOfYear := dayOfEra - (365 * yearOfEra + yearOfEra / 4 - yearOfEra / 100)
  let monthIndex := (5 * dayOfYear + 2) / 153
  let day := dayOfYear - (153 * monthIndex + 2) / 5 + 1
  let month := if monthIndex < 10 then monthIndex + 3 else monthIndex - 9
  ⟨era * 400 + yearOfEra + (if month ≤ 2 then 1 else 0), month, day⟩

def epochDays : Int := 719468

def padded (width n : Nat) : String :=
  let digits := Nat.toDigits 10 n
  String.ofList (List.replicate (width - digits.length) '0' ++ digits)

def yearText (year : Int) : String :=
  if 0 ≤ year && year ≤ 9999 then padded 4 year.toNat
  else (if year < 0 then "-" else "+") ++ padded 4 year.natAbs

def fractionText (nanos : Nat) : String :=
  if nanos = 0 then ""
  else if nanos % 1000000 = 0 then "." ++ padded 3 (nanos / 1000000)
  else if nanos % 1000 = 0 then "." ++ padded 6 (nanos / 1000)
  else "." ++ padded 9 nanos

def text (moment : Moment) : String :=
  let date := Date.ofDays (moment.secs / 86400 + epochDays)
  let second := (moment.secs % 86400).toNat
  let leap := moment.nanos / 1000000000
  yearText date.year ++ "-" ++ padded 2 date.month ++ "-" ++ padded 2 date.day ++ "T" ++
    padded 2 (second / 3600) ++ ":" ++ padded 2 (second / 60 % 60) ++ ":" ++
    padded 2 (second % 60 + leap) ++ fractionText (moment.nanos % 1000000000) ++ "Z"

example : text ⟨-1, 500000000⟩ = "1969-12-31T23:59:59.500Z" := by decide +kernel

example : text ⟨951868799, 1000000000⟩ = "2000-02-29T23:59:60Z" := by decide +kernel

end Moment

end RecordRules
