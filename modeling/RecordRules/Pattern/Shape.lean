import RecordRules.Pattern.Ranges
import RecordRules.Pattern.Term

set_option autoImplicit false

namespace RecordRules.Pattern

-- What is left of a term when parts that say the same are written in one way. Patterns are measured by
-- their shapes.
inductive Shape where
  | empty
  | text (chars : List Char)
  | set (members : Ranges)
  | look (kind : Look)
  | marked (a : Shape)
  | repeated (a : Shape) (min : Nat) (max : Option Nat) (isLazy : Bool)
  | sequence (parts : List Shape)
  | choice (branches : List Shape)

namespace Shape

mutual

-- Whether two shapes cannot be told apart. Marked parts always can, as each has a number.
def alike : Shape → Shape → Bool
  | .empty, .empty => true
  | .text a, .text b => a = b
  | .set a, .set b => a = b
  | .look a, .look b => a = b
  | .repeated a min max isLazy, .repeated b min' max' isLazy' =>
      alike a b && min = min' && max = max' && isLazy = isLazy'
  | .sequence a, .sequence b => allAlike a b
  | .choice a, .choice b => allAlike a b
  | _, _ => false

def allAlike : List Shape → List Shape → Bool
  | [], [] => true
  | a :: as, b :: bs => alike a b && allAlike as bs
  | _, _ => false

end

mutual

def isBlank : Shape → Bool
  | .empty | .look _ => true
  | .text _ | .set _ => false
  | .marked a => a.isBlank
  | .repeated a _ max _ => max.isSome && a.isBlank
  | .sequence parts => allBlank parts
  | .choice branches => allBlank branches

def allBlank : List Shape → Bool
  | [] => true
  | shape :: rest => shape.isBlank && allBlank rest

end

mutual

-- A bound from below on the length of the texts that match, unless one of the parts that are looked
-- at matches none.
def least : Shape → Option Nat
  | .empty | .look _ => some 0
  | .text chars => some chars.length
  | .set members => if members.isEmpty then none else some 1
  | .marked a => a.least
  | .repeated a min _ _ => a.least.map (· * min)
  | .sequence parts => leastSum parts
  | .choice branches => leastOf branches

def leastSum : List Shape → Option Nat
  | [] => some 0
  | shape :: rest => do return (← shape.least) + (← leastSum rest)

def leastOf : List Shape → Option Nat
  | [] => none
  | [shape] => shape.least
  | shape :: rest => do return min (← shape.least) (← leastOf rest)

end

mutual

def startsText : Shape → Bool
  | .look kind => kind = .textStart
  | .marked a => a.startsText
  | .repeated a min _ _ => 0 < min && a.startsText
  | .sequence parts => firstStartsText parts
  | .choice branches => allStartText branches
  | .empty | .text _ | .set _ => false

def firstStartsText : List Shape → Bool
  | [] => false
  | shape :: rest => shape.startsText || (shape.isBlank && firstStartsText rest)

def allStartText : List Shape → Bool
  | [] => true
  | shape :: rest => shape.startsText && allStartText rest

end

mutual

def endsText : Shape → Bool
  | .look kind => kind = .textEnd
  | .marked a => a.endsText
  | .repeated a min _ _ => 0 < min && a.endsText
  | .sequence parts => lastEndsText parts
  | .choice branches => allEndText branches
  | .empty | .text _ | .set _ => false

def lastEndsText : List Shape → Bool
  | [] => false
  | shape :: rest => lastEndsText rest || (allBlank rest && shape.endsText)

def allEndText : List Shape → Bool
  | [] => true
  | shape :: rest => shape.endsText && allEndText rest

end

def ofMembers : Ranges → Shape
  | [(first, last)] =>
      if first = last then .text [Char.ofNat first] else .set [(first, last)]
  | members => .set members

def consPart : Shape → List Shape → List Shape
  | .text a, .text b :: rest => .text (a ++ b) :: rest
  | shape, rest => shape :: rest

def parts : Shape → List Shape
  | .empty => []
  | .sequence parts => parts
  | shape => [shape]

def ofParts (shapes : List Shape) : Shape :=
  match (shapes.flatMap parts).foldr consPart [] with
  | [] => .empty
  | [shape] => shape
  | parts => .sequence parts

def ofRepeated (a : Shape) (min : Nat) (max : Option Nat) (isLazy : Bool) : Shape :=
  let (min, max) :=
    if a.isBlank then (Nat.min min 1, some (Nat.min (max.getD 1) 1)) else (min, max)
  if max = some 0 then .empty
  else if min = 1 && max = some 1 then a
  else .repeated a min max isLazy

def commonParts : List Shape → List Shape → Nat
  | a :: as, b :: bs => if a.alike b then commonParts as bs + 1 else 0
  | _, _ => 0

def sequences? (branches : List Shape) : Option (List (List Shape)) :=
  branches.mapM fun
    | .sequence parts => some parts
    | _ => none

def singles? (branches : List Shape) : Option (List Char) :=
  branches.mapM fun
    | .text [c] => some c
    | _ => none

def members? (branches : List Shape) : Option Ranges :=
  branches.foldrM
    (fun branch members =>
      match branch with
      | .set more => some (more ++ members)
      | _ => none)
    []

def ofDistinct : List Shape → Shape
  | [] => .set []
  | [branch] => branch
  | branches =>
      match singles? branches, members? branches with
      | some chars, _ => ofMembers (Ranges.ofList (Ranges.singles (chars.map Char.toNat)))
      | _, some members => ofMembers (Ranges.ofList members)
      | none, none => .choice branches

-- What all branches start with stands before the choice between the rests. No two rests start in
-- the same way again.
def ofBranches (shapes : List Shape) : Shape :=
  let branches := shapes.flatMap fun
    | .choice branches => branches
    | shape => [shape]
  match sequences? branches with
  | some (first :: rest) =>
      let shared := rest.map (commonParts first)
      let common := shared.foldl min first.length
      if rest.isEmpty || common = 0 then ofDistinct branches
      else
        let rests := (first :: rest).map fun parts => ofParts (parts.drop common)
        ofParts
          (first.take common ++
            [ofDistinct (rests.flatMap fun
              | .choice branches => branches
              | shape => [shape])])
  | _ => ofDistinct branches

end Shape

mutual

def Term.shape : Term → Shape
  | .empty => .empty
  | .set members => .ofMembers members.ranges.scalars
  | .look kind => .look kind
  | .repeated a min max isLazy => .ofRepeated a.shape min max isLazy
  | .marked a => .marked a.shape
  | .choice branches => .ofBranches (Term.shapes branches)
  | .sequence parts => .ofParts (Term.shapes parts)

def Term.shapes : List Term → List Shape
  | [] => []
  | term :: rest => term.shape :: Term.shapes rest

end

end RecordRules.Pattern
