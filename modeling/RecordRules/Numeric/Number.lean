import RecordRules.Numeric.Decimal
import RecordRules.Text.Blank

set_option autoImplicit false

namespace RecordRules

inductive Number where
  | integer (value : Int)
  | float (value : Binary64)
deriving DecidableEq, Repr

namespace Number

def toBinary64 : Number → Binary64
  | integer value => .ofInt value
  | float value => value

-- Two integers compare exactly; as soon as one side is a double, both are rounded to doubles.
def compare? : Number → Number → Option Ordering
  | integer a, integer b => some (compare a b)
  | a, b => a.toBinary64.compare? b.toBinary64

def text : Number → String
  | integer value => toString value
  | float value => value.text

def limit : Int := 0x80000000000000000000000000000000

def read? (text : List Char) : Option Number :=
  let trimmed := Text.trim text
  match (Decimal.readInt? trimmed).filter (fun value => -limit ≤ value && value < limit) with
  | some value => some (integer value)
  | none =>
      ((Decimal.read? trimmed).map Decimal.toBinary64).filter (·.isFinite) |>.map float

end Number

end RecordRules
