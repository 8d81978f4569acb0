set_option autoImplicit false

namespace RecordRules.Unicode

-- Runs of neighbours, or of every second code point, as they are common where the two cases of letters
-- alternate.
structure Stretch where
  first : Nat
  last : Nat
  step : Nat
deriving DecidableEq, Repr

def Stretch.contains (s : Stretch) (point : Nat) : Bool :=
  s.first ≤ point && point ≤ s.last && (point - s.first) % s.step = 0

def inTable (table : List Stretch) (point : Nat) : Bool := table.any (·.contains point)

def Stretch.points (s : Stretch) : List Nat :=
  (List.range ((s.last - s.first) / s.step + 1)).map fun k => s.first + k * s.step

def Stretch.ranges (s : Stretch) : List (Nat × Nat) :=
  if s.step = 1 then [(s.first, s.last)] else s.points.map fun point => (point, point)

end RecordRules.Unicode
