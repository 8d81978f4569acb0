set_option autoImplicit false

namespace RecordRules.Pattern

-- Machines are laid out and measured, but never run.
structure Machine where
  states : Nat
  ways : Nat
deriving DecidableEq, Repr

namespace Machine

def size (machine : Machine) : Nat := 32 * machine.states + machine.ways

def sizeLimit : Nat := 10 * 1024 * 1024

def empty : Machine := ⟨0, 0⟩

def state (ways : Nat) : Machine := ⟨1, ways⟩

instance : Add Machine where
  add a b := ⟨a.states + b.states, a.ways + b.ways⟩

def union (count : Nat) : Machine := state (4 * count)

def chain (count : Nat) : Machine := ⟨count, 0⟩

def meeting (count : Nat) : Machine := state (8 * count) + state 0

end Machine

abbrev Build := Machine → Option Machine

namespace Build

def check (machine : Machine) : Option Machine :=
  if machine.size ≤ Machine.sizeLimit then some machine else none

def add (part : Machine) : Build := fun machine => check (machine + part)

def next (first second : Build) : Build := fun machine => (first machine).bind second

def times : Nat → Build → Build
  | 0, _, machine => some machine
  | count + 1, step, machine =>
      match step machine with
      | some machine => times count step machine
      | none => none

end Build

end RecordRules.Pattern
