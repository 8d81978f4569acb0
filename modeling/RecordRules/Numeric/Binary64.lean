set_option autoImplicit false

namespace RecordRules

structure Binary64 where
  bits : UInt64
deriving DecidableEq, Repr

namespace Binary64

def signBit : Nat := 0x8000000000000000

def leading : Nat := 0x10000000000000

def infinite : Nat := 0x7FF0000000000000

def isNegative (x : Binary64) : Bool := signBit ≤ x.bits.toNat

def magnitude (x : Binary64) : Nat := x.bits.toNat % signBit

def isNaN (x : Binary64) : Bool := infinite < x.magnitude

def isFinite (x : Binary64) : Bool := x.magnitude < infinite

def isZero (x : Binary64) : Bool := x.magnitude = 0

def key (x : Binary64) : Int :=
  if x.isNegative then -(x.magnitude : Int) else x.magnitude

def compare? (x y : Binary64) : Option Ordering :=
  if x.isNaN || y.isNaN then none else some (compare x.key y.key)

def ofMagnitude (negative : Bool) (magnitude : Nat) : Binary64 :=
  ⟨UInt64.ofNat (if negative then signBit + magnitude else magnitude)⟩

def roundDiv (num den : Nat) : Nat :=
  let floor := num / den
  let twice := 2 * (num % den)
  if twice < den then floor
  else if den < twice then floor + 1
  else if floor % 2 = 0 then floor else floor + 1

def scaled (num den : Nat) (exponent : Int) : Nat × Nat :=
  if 0 ≤ exponent then (num, den <<< exponent.toNat) else (num <<< (-exponent).toNat, den)

def unitExponent (num den : Nat) : Int :=
  let guess := (num.log2 : Int) - den.log2 - 52
  let (n, d) := scaled num den guess
  max (-1074) (if n / d < leading then guess - 1 else guess)

-- The magnitude of the number nearest to `num / den`. The two fields of the word add up, because a
-- significand that rounds up to the next power of two carries into the exponent.
def nearestMagnitude (num den : Nat) : Nat :=
  if num = 0 then 0
  else
    let exponent := unitExponent num den
    let (n, d) := scaled num den exponent
    min infinite ((exponent + 1074).toNat * leading + roundDiv n d)

def ofRatio (negative : Bool) (num den : Nat) : Binary64 :=
  ofMagnitude negative (nearestMagnitude num den)

def ofInt (value : Int) : Binary64 := ofRatio (value < 0) value.natAbs 1

def unpack (x : Binary64) : Nat × Int :=
  let exponent : Nat := x.magnitude / leading
  let fraction : Nat := x.magnitude % leading
  if exponent = 0 then (fraction, -1074) else (leading + fraction, (exponent : Int) - 1075)

def ofSingle (word : UInt32) : Binary64 :=
  let negative := 0x80000000 ≤ word.toNat
  let exponent := word.toNat % 0x80000000 / 0x800000
  let fraction := word.toNat % 0x800000
  if exponent = 255 then ofMagnitude negative (infinite + fraction <<< 29)
  else if exponent = 0 then ofRatio negative fraction (1 <<< 149)
  else ofMagnitude negative ((exponent + 896) * leading + fraction <<< 29)

def zero : Binary64 := ⟨0⟩

example : ofInt 1 = ⟨0x3FF0000000000000⟩ := by decide

example : ofInt 0x20000000000001 = ofInt 0x20000000000000 := by decide

example : ofRatio true 1 10 = ⟨0xBFB999999999999A⟩ := by decide

theorem compare_swap (x y : Binary64) : (x.compare? y).map Ordering.swap = y.compare? x := by
  unfold compare?
  rw [Bool.or_comm]
  split
  · rfl
  · simp [Int.compare_swap]

end Binary64

end RecordRules
