import RecordRules.Pattern.Machine.Set
import RecordRules.Pattern.Machine.Trie
import RecordRules.Pattern.Shape

set_option autoImplicit false

namespace RecordRules.Pattern

namespace Shape

def texts? (branches : List Shape) : Option (List (List Char)) :=
  branches.mapM fun
    | .text chars => some chars
    | _ => none

def bytesOf (backward : Bool) (chars : List Char) : List Nat :=
  let bytes := chars.flatMap Text.bytes
  if backward then bytes.reverse else bytes

-- A repetition of parts that a step builds; `consumes` tells that none of them is ever empty.
def buildRepeated (step : Build) (consumes : Bool) (min : Nat) : Option Nat → Build
  | none =>
      match min with
      | 0 =>
          if consumes then .next (.add (.union 2)) step
          else .next step (.add (.union 2 + .union 2 + .state 0))
      | count + 1 => .next (.times (count + 1) step) (.add (.union 2))
  | some max =>
      if min = 0 && max = 1 then .next (.add (.union 2)) (.next step (.add (.state 0)))
      else
        let least : Build := if min = 0 then .add (.state 0) else .times min step
        if min = max then least
        else
          .next least (.next (.add (.state 0)) (.times (max - min) (.next (.add (.union 2)) step)))

-- Every repetition stands for as many copies as it asks for, so that a short pattern can ask for a
-- machine without measure.
mutual

def build (backward : Bool) : Shape → Build
  | .empty => .add (.state 0)
  | .text chars => .add (.chain (bytesOf backward chars).length)
  | .set members => Machine.ofSet backward members
  | .look _ => .add (.state 0)
  | .marked a =>
      if backward then a.build backward
      else .next (.add (.state 0)) (.next (a.build backward) (.add (.state 0)))
  | .repeated a min max _ =>
      buildRepeated (a.build backward) (a.least.any (0 < ·)) min max
  | .sequence parts => buildParts backward parts
  | .choice branches =>
      match texts? branches with
      | some texts => .add (Trie.ofTexts (texts.map (bytesOf backward))).machine
      | none => buildBranches backward branches.length 0 branches

def buildParts (backward : Bool) : List Shape → Build
  | [] => some
  | part :: rest =>
      if backward then .next (buildParts backward rest) (part.build backward)
      else .next (part.build backward) (buildParts backward rest)

def buildBranches (backward : Bool) (count : Nat) : Nat → List Shape → Build
  | _, [] => some
  | before, branch :: rest =>
      let here := branch.build backward
      .next (if before = 1 then .next here (.add (.union count + .state 0)) else here)
        (buildBranches backward count (before + 1) rest)

end

def lead (pinned : Bool) : Machine :=
  if pinned then .state 0 else .union 2 + .meeting 1

def forward (shape : Shape) : Option Machine :=
  Build.next (.add (lead shape.startsText))
    (.next ((marked shape).build false) (.add (.state 0))) .empty

def backward (shape : Shape) : Option Machine :=
  Build.next (.add (lead shape.endsText)) (.next (shape.build true) (.add (.state 0))) .empty

def fits (shape : Shape) : Bool := shape.backward.isSome && shape.forward.isSome

end Shape

def read? (text : String) : Option Pattern := do
  let term ← Term.ofTree? (← Tree.read? text.toList)
  if term.shape.fits then some term.pattern else none

end RecordRules.Pattern
