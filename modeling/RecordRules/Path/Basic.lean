import RecordRules.Path.Error
import RecordRules.Schema
import RecordRules.Text.Cut
import RecordRules.Text.Dump

set_option autoImplicit false

namespace RecordRules

structure Step (n : Nat) where
  name : String
  index : Nat
  type : FieldType n
deriving DecidableEq, Repr

structure FieldPath (n : Nat) where
  text : String
  root : Fin n
  steps : List (Step n)
deriving DecidableEq, Repr

namespace FieldPath

variable {n : Nat}

def segments (path : FieldPath n) : List String := path.steps.map Step.name

def indices (path : FieldPath n) : List Nat := path.steps.map Step.index

def types (path : FieldPath n) : List (FieldType n) := path.steps.map Step.type

def target? (path : FieldPath n) : Option (FieldType n) := path.types.getLast?

def sameField (a b : FieldPath n) : Bool := a.root = b.root && a.indices = b.indices

def declared (root : Fin n) (index : Nat) (field : FieldDef n) : FieldPath n :=
  ⟨field.name, root, [⟨field.name, index, field.type⟩]⟩

def dotted (segments : List String) : String := ".".intercalate segments

-- Only exported fields can be referred to, and every segment but the last has to lead to a record.
def resolveSteps (S : Schema n) (path : String) (current : Fin n) (passed : List String) :
    List String → Except PathError (List (Step n))
  | [] => .ok []
  | segment :: rest =>
      if segment.isEmpty then .error (.emptySegment path)
      else
        match (S current).field? segment with
        | none => .error (.notFound (S.nameOf current) segment)
        | some (index, field) =>
            if !field.exported then .error (.unexported (S.nameOf current) segment)
            else
              let step : Step n := ⟨segment, index, field.type⟩
              match rest, field.type.record? with
              | [], _ => .ok [step]
              | _ :: _, none => .error (.notARecord (dotted (passed ++ [segment])))
              | _ :: _, some next =>
                  (resolveSteps S path next (passed ++ [segment]) rest).map (step :: ·)

def resolve (S : Schema n) (root : Fin n) (text : String) : Except PathError (FieldPath n) :=
  let segments := (Text.pieces '.' text.toList).map String.ofList
  (resolveSteps S text root [] segments).map (fun steps => ⟨text, root, steps⟩)

def readSteps (path : String) (record : Instance n) (passed : List String) :
    List (Step n) → Except ReadError (Value n)
  | [] => .ok .nil
  | step :: rest =>
      let value := record.field step.index
      match rest, value with
      | [], _ => .ok value
      | _ :: _, .record type fields => readSteps path ⟨type, fields⟩ (passed ++ [step.name]) rest
      | _ :: _, .nil => .error (.nilLink path (dotted (passed ++ [step.name])))
      | _ :: _, _ => .error (.notARecord (dotted (passed ++ [step.name])))

def read (S : Schema n) (path : FieldPath n) (record : Instance n) : Except ReadError (Value n) :=
  if record.type = path.root then readSteps path.text record [] path.steps
  else .error (.wrongRoot (S.nameOf path.root) (S.nameOf record.type))

def dump (S : Schema n) (path : FieldPath n) : Dump :=
  .struct "FieldPath"
    [("raw", .text path.text), ("root", .text (S.nameOf path.root)),
      ("indices", .list (path.indices.map .nat))] true

end FieldPath

end RecordRules
