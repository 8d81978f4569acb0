import Std.Data.HashMap

set_option autoImplicit false

namespace RecordRules.Pattern

abbrev Key := List Nat

-- A state is remembered in the slot that its key is mixed to, and displaces the one that was
-- remembered there before.
structure Slots where
  count : Nat
  entries : Std.HashMap Nat (Key × Nat)

namespace Slots

def empty (count : Nat) : Slots := ⟨count, ∅⟩

def mix (key : Key) : UInt64 :=
  key.foldl (fun mixed n => (mixed ^^^ n.toUInt64) * 1099511628211) 14695981039346656037

def slotOf (slots : Slots) (key : Key) : Nat := (mix key).toNat % slots.count

def known? (slots : Slots) (key : Key) : Option Nat :=
  match slots.entries[slots.slotOf key]? with
  | some (known, state) => if known = key then some state else none
  | none => none

def remember (slots : Slots) (key : Key) (state : Nat) : Slots :=
  { slots with entries := slots.entries.insert (slots.slotOf key) (key, state) }

theorem known?_remember (slots : Slots) (key : Key) (state : Nat) :
    (slots.remember key state).known? key = some state := by
  simp [known?, remember, slotOf]

end Slots

end RecordRules.Pattern
