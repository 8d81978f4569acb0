import RecordRules.Pattern.Machine.Basic
import RecordRules.Pattern.Machine.Slots
import RecordRules.Pattern.Ranges
import RecordRules.Text.Encoded

set_option autoImplicit false

namespace RecordRules.Pattern.Machine

-- Sets beyond ASCII are laid out by the byte sequences of their ranges, from either end. In both
-- directions a state that is still remembered is used again.
structure Layout where
  machine : Machine
  slots : Slots

abbrev Laying := StateM Layout

def newState (ways : Nat) : Laying Nat := modifyGet fun layout =>
  (layout.machine.states, { layout with machine := layout.machine + state ways })

def stateOf (key : Key) (ways : Nat) : Laying Nat := do
  match (← get).slots.known? key with
  | some known => return known
  | none =>
      let fresh ← newState ways
      modify fun layout => { layout with slots := layout.slots.remember key fresh }
      return fresh

structure Way where
  range : Nat × Nat
  next : Nat

-- A state that more ways may be added to. The last range waits for the state that it leads to.
structure OpenState where
  settled : List Way
  last : Nat × Nat

def OpenState.settle (state : OpenState) (next : Nat) : List Way :=
  ⟨state.last, next⟩ :: state.settled

def keyOf (ways : List Way) : Key :=
  ways.reverse.flatMap fun way => [way.range.1, way.range.2, way.next]

def freeze (ways : List Way) : Laying Nat := stateOf (keyOf ways) (8 * ways.length)

def close (target : Nat) : List OpenState → Laying Nat
  | [] => return target
  | state :: path => do
      let next ← close target path
      freeze (state.settle next)

def openStates (sequence : Text.ByteSequence) : List OpenState :=
  sequence.map fun range => ⟨[], range⟩

-- Adds a sequence. As sequences come in order, what branches off the path of the sequence before
-- will never be wanted again.
def extend (target : Nat) : List OpenState → Text.ByteSequence → Laying (List OpenState)
  | state :: path, range :: rest =>
      if state.last = range then do
        return state :: (← extend target path rest)
      else do
        let next ← close target path
        return ⟨state.settle next, range⟩ :: openStates rest
  | _, sequence => return openStates sequence

def layForward (sequences : List Text.ByteSequence) : Laying Unit := do
  let target ← newState 0
  let path ← sequences.foldlM (extend target) []
  let _ ← close target path

def stateBefore (state : Nat) (range : Nat × Nat) : Laying Nat :=
  stateOf [state, range.1, range.2] 0

def layBackward (sequences : List Text.ByteSequence) : Laying Unit := do
  let _ ← newState (4 * sequences.length)
  let target ← newState 0
  sequences.forM fun sequence => do
    let _ ← sequence.foldlM stateBefore target

def lay (slots : Nat) (laying : Laying Unit) : Build := fun machine =>
  Build.check (laying.run ⟨machine, .empty slots⟩).2.machine

def ofSet (backward : Bool) (members : Ranges) : Build :=
  if members.all (·.2 < 128) then .add (meeting members.length)
  else
    let sequences := members.flatMap Text.byteSequences
    if backward then lay 1000 (layBackward sequences) else lay 10000 (layForward sequences)

end RecordRules.Pattern.Machine
