import RecordRules.Numeric.Binary64

set_option autoImplicit false

namespace RecordRules

structure Decimal where
  negative : Bool
  coefficient : Nat
  exponent : Int
deriving DecidableEq, Repr

namespace Decimal

def digitValue (c : Char) : Nat := c.toNat - 48

def ofDigits (digits : List Char) : Nat :=
  digits.foldl (fun value digit => 10 * value + digitValue digit) 0

def tens (zeros : Nat) : Nat := Nat.pow 10 zeros

def digits (n : Nat) : List Char := Nat.toDigits 10 n

def readSign : List Char → Bool × List Char
  | '-' :: rest => (true, rest)
  | '+' :: rest => (false, rest)
  | rest => (false, rest)

def readInt? (text : List Char) : Option Int :=
  let (negative, places) := readSign text
  if places.isEmpty || !places.all Char.isDigit then none
  else some (if negative then -(ofDigits places : Int) else ofDigits places)

def readExponent? : List Char → Option Int
  | [] => some 0
  | mark :: rest => if mark = 'e' || mark = 'E' then readInt? rest else none

def read? (text : List Char) : Option Decimal := do
  let (negative, rest) := readSign text
  let whole := rest.takeWhile Char.isDigit
  let (places, rest) := match rest.dropWhile Char.isDigit with
    | '.' :: rest => (rest.takeWhile Char.isDigit, rest.dropWhile Char.isDigit)
    | rest => ([], rest)
  if whole.isEmpty && places.isEmpty then none
  else
    let exponent ← readExponent? rest
    return ⟨negative, ofDigits (whole ++ places), exponent - places.length⟩

-- The nearest number. Beyond 400 places on either side of the point nothing else is left to decide.
def toBinary64 (d : Decimal) : Binary64 :=
  let places := d.exponent + (digits d.coefficient).length
  if d.coefficient = 0 || places < -400 then .ofMagnitude d.negative 0
  else if 400 < places then .ofMagnitude d.negative Binary64.infinite
  else if 0 ≤ d.exponent then .ofRatio d.negative (d.coefficient * tens d.exponent.toNat) 1
  else .ofRatio d.negative d.coefficient (tens (-d.exponent).toNat)

-- How many digits the whole part of `num / den` has; below one, the number of zeros that follow the
-- point counts as negative.
def places (num den : Nat) : Int :=
  if den ≤ num then (digits (num / den)).length
  else 1 - (digits ((den + num - 1) / num - 1)).length

-- What lies between two neighbours of a number, and the number itself, over one denominator. The
-- ends belong to it where the significand is even.
structure Interval where
  low : Nat
  value : Nat
  high : Nat
  den : Nat
  closed : Bool

def interval (significand : Nat) (exponent : Int) (normal : Bool) : Interval :=
  let below := if normal && significand = Binary64.leading then 1 else 2
  let (num, den) := Binary64.scaled 1 4 (-exponent)
  ⟨(4 * significand - below) * num, 4 * significand * num, (4 * significand + 2) * num, den,
    significand % 2 = 0⟩

-- The multiple of `10 ^ exponent` that lies in the interval and nearest to the value, the upper one
-- of two.
def onGrid? (i : Interval) (exponent : Int) : Option Nat :=
  let scale := tens (-exponent).toNat
  let step := i.den * tens exponent.toNat
  let below := i.value * scale / step
  let reaches (a b : Nat) : Bool := if i.closed then a ≤ b else a < b
  let lowIn := reaches (i.low * scale) (below * step)
  let highIn := reaches ((below + 1) * step) (i.high * scale)
  if lowIn && highIn then
    some (if (2 * below + 1) * step ≤ 2 * (i.value * scale) then below + 1 else below)
  else if lowIn then some below
  else if highIn then some (below + 1)
  else none

def firstOnGrid (i : Interval) : Nat → Int → Nat × Int
  | 0, exponent => (i.value / i.den, exponent)
  | tries + 1, exponent =>
      match onGrid? i exponent with
      | some coefficient => (coefficient, exponent)
      | none => firstOnGrid i tries (exponent - 1)

def dropZeros : Nat → Nat → Int → Nat × Int
  | 0, coefficient, exponent => (coefficient, exponent)
  | tries + 1, coefficient, exponent =>
      if coefficient ≠ 0 && coefficient % 10 = 0 then
        dropZeros tries (coefficient / 10) (exponent + 1)
      else (coefficient, exponent)

-- The decimal with the fewest digits that reads back as a finite number, and of those the one
-- nearest to it. Seventeen digits are always enough.
def shortest (x : Binary64) : Decimal :=
  let (significand, exponent) := x.unpack
  if significand = 0 then ⟨x.isNegative, 0, 0⟩
  else
    let i := interval significand exponent (Binary64.leading ≤ x.magnitude)
    let (coefficient, exponent) := firstOnGrid i 17 (places i.value i.den - 1)
    let (coefficient, exponent) := dropZeros 17 coefficient exponent
    ⟨x.isNegative, coefficient, exponent⟩

def sign (negative : Bool) : List Char := if negative then ['-'] else []

def zeros (count : Nat) : List Char := List.replicate count '0'

def positional (d : Decimal) : List Char :=
  let ds := digits d.coefficient
  sign d.negative ++
    if 0 ≤ d.exponent then ds ++ zeros d.exponent.toNat
    else
      let after := (-d.exponent).toNat
      if after < ds.length then ds.take (ds.length - after) ++ '.' :: ds.drop (ds.length - after)
      else '0' :: '.' :: zeros (after - ds.length) ++ ds

def scientific (d : Decimal) : List Char :=
  let ds := digits d.coefficient
  let exponent := d.exponent + ds.length - 1
  let after := ds.drop 1
  sign d.negative ++ ds.take 1 ++ (if after.isEmpty then [] else '.' :: after) ++
    'e' :: (toString exponent).toList

end Decimal

namespace Binary64

def special? (x : Binary64) : Option String :=
  if x.isNaN then some "NaN"
  else if x.isFinite then none
  else some (if x.isNegative then "-inf" else "inf")

def text (x : Binary64) : String :=
  x.special?.getD (String.ofList (Decimal.shortest x).positional)

-- As `text`, but a whole number ends in `.0`, and below a ten thousandth or from ten to the
-- sixteenth on the notation is scientific.
def debugText (x : Binary64) : String :=
  let d := Decimal.shortest x
  let size := d.exponent + (Decimal.digits d.coefficient).length
  let plain :=
    if d.coefficient ≠ 0 && (size ≤ -4 || 16 < size) then d.scientific
    else if 0 ≤ d.exponent then d.positional ++ ['.', '0']
    else d.positional
  x.special?.getD (String.ofList plain)

end Binary64

end RecordRules
