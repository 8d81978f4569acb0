import RecordRules.Rule.Aliases
import RecordRules.Rule.Basic
import RecordRules.Rule.Error
import RecordRules.Rule.Escape
import RecordRules.Text.Blank

set_option autoImplicit false

namespace RecordRules.Grammar

def segments (text : List Char) : List (List Char) := (Text.pieces ',' text).map Text.trim

def readPair (rule : String) (text : List Char) : Except RuleError Pair :=
  let reject := .error (.invalidParameter rule (String.ofList text) "expected `Field:value`")
  match Text.cut? ':' text with
  | some (field, literal) =>
      if field.isEmpty then reject else .ok ⟨String.ofList field, String.ofList literal⟩
  | none => reject

def readPairs (rule : String) (text : List Char) : Except RuleError (List Pair) :=
  (Text.words text).mapM (readPair rule)

def readTargets (text : List Char) : List String := (Text.words text).map String.ofList

def refuseParam (rule : String) : Option (List Char) → Except RuleError Unit
  | some _ => .error (.unexpectedParameter rule)
  | none => .ok ()

-- An empty parameter counts as none.
def requireParam (rule : String) : Option (List Char) → Except RuleError (List Char)
  | some (c :: rest) => .ok (c :: rest)
  | _ => .error (.missingParameter rule)

def readKeyword (word : Keyword) (param : Option (List Char)) : Except RuleError Rule :=
  let rule := word.tag
  match word with
  | .skip => do
      refuseParam rule param
      return .skip
  | .omitEmpty => do
      refuseParam rule param
      return .omitEmpty
  | .skipUnless => do return .skipUnless (← readPairs rule (← requireParam rule param))
  | .relational op => do
      let target ← requireParam rule param
      if target.any Text.isBlank then
        .error (.invalidParameter rule (String.ofList target) "expected a single field")
      else .ok (.clause (.relational op (String.ofList target)))
  | .presence kind => do
      return .clause (.presence kind (readTargets (← requireParam rule param)))
  | .conditional kind => do
      return .clause (.conditional kind (← readPairs rule (← requireParam rule param)))

def nameAndParam (segment : List Char) : List Char × Option (List Char) :=
  match Text.cut? '=' segment with
  | some (name, param) => (Text.trim name, some (Escape.decode (Text.trim param)))
  | none => (Text.trim segment, none)

def readRule (segment : List Char) : Except RuleError Rule :=
  let (name, param) := nameAndParam segment
  if name.isEmpty then .error .emptyRule
  else
    match Keyword.ofTag? (String.ofList name) with
    | some word => readKeyword word param
    | none => .ok (.clause (.leaf (String.ofList name) (param.map String.ofList)))

def readBranch (text : List Char) : Except RuleError Clause := do
  match ← readRule text with
  | .clause clause => .ok clause
  | rule => .error (.notAlternative rule.tag)

-- An alias stands for a rule string and is expanded once. One whose body has no comma may also stand
-- as a branch of a group.
abbrev Expansion := List Char → Option (List Char)

def noExpansion : Expansion := fun _ => none

def aliasExpansion (aliases : Aliases) : Expansion :=
  fun name => (Aliases.body? aliases (String.ofList name)).map String.toList

def readBranches (expand : Expansion) (text : List Char) : Except RuleError (List Clause) :=
  let branch := Text.trim text
  if branch.isEmpty then .error .emptyRule
  else
    match expand branch with
    | some body =>
        if body.contains ',' then .error (.notAlternative (String.ofList branch))
        else (Text.pieces '|' body).mapM (fun part => readBranch (Text.trim part))
    | none => do return [← readBranch branch]

def readSegment (expand : Expansion) (segment : List Char) : Except RuleError Rule :=
  if segment.contains '|' then do
    let branches ← (Text.pieces '|' segment).mapM (readBranches expand)
    return .anyOf branches.flatten
  else readRule segment

-- Whether a segment adds to the list of the rule before it. After a field list it does unless it is
-- a gate; after a pair list it has to look like a pair.
def continues (segment : List Char) : Rule → Bool
  | .clause (.presence _ _) =>
      !segment.contains '=' && !segment.contains '|' &&
        String.ofList segment != Keyword.skip.tag && String.ofList segment != Keyword.omitEmpty.tag
  | .skipUnless _ | .clause (.conditional _ _) =>
      !segment.contains '=' && !segment.contains '|' && segment.contains ':'
  | _ => false

def extend (segment : List Char) : Rule → Except RuleError Rule
  | .clause (.presence kind targets) =>
      .ok (.clause (.presence kind (targets ++ readTargets segment)))
  | .clause (.conditional kind pairs) => do
      return .clause (.conditional kind (pairs ++ (← readPairs kind.tag segment)))
  | .skipUnless pairs => do
      return .skipUnless (pairs ++ (← readPairs Keyword.skipUnless.tag segment))
  | rule => .ok rule

-- Adds a segment to the rules read so far, of which the last comes first: it continues the last
-- rule, or `start` says which rules it adds.
def addSegment (start : List Rule → Except RuleError (List Rule)) (segment : List Char)
    (done : List Rule) : Except RuleError (List Rule) :=
  if segment.isEmpty then .error .emptyRule
  else
    match done with
    | last :: before =>
        if continues segment last then (extend segment last).map (· :: before) else start done
    | [] => start done

def addPart (done : List Rule) (segment : List Char) : Except RuleError (List Rule) :=
  addSegment (fun done => (readSegment noExpansion segment).map (· :: done)) segment done

def addWhole (expand : Expansion) (done : List Rule) (segment : List Char) :
    Except RuleError (List Rule) :=
  addSegment
    (fun done =>
      match expand segment with
      | some body => (segments body).foldlM addPart done
      | none => (readSegment expand segment).map (· :: done))
    segment done

def readRules (expand : Expansion) (text : List Char) : Except RuleError (List Rule) :=
  if (Text.trim text).isEmpty then .ok []
  else ((segments text).foldlM (addWhole expand) []).map List.reverse

def parse (aliases : Aliases) (text : String) : Except RuleError (List Rule) :=
  readRules (aliasExpansion aliases) text.toList

end RecordRules.Grammar
