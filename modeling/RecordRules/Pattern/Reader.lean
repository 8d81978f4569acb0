import RecordRules.Pattern.Tree
import RecordRules.Unicode.Property
import RecordRules.Text.Blank

set_option autoImplicit false

namespace RecordRules.Pattern

-- The dialect has no references back and no looking around, so that every pattern can be matched in
-- one pass. What it does not know is refused.
structure Cursor where
  rest : List Char
  spaced : Bool
  names : List (List Char)

abbrev Reading (α : Type) := StateT Cursor Option α

namespace Reading

def refuse {α : Type} : Reading α := fun _ => none

def peek : Reading (Option Char) := do return (← get).rest.head?

def need : Reading Char := do
  match (← get).rest with
  | c :: _ => return c
  | [] => refuse

def bump : Reading Unit := modify fun cursor => { cursor with rest := cursor.rest.drop 1 }

def skipBlank : (inComment : Bool) → List Char → List Char
  | _, [] => []
  | true, c :: rest => skipBlank (c != '\n') rest
  | false, c :: rest =>
      if Text.isBlank c then skipBlank false rest
      else if c = '#' then skipBlank true rest
      else c :: rest

def skipSpace : Reading Unit := modify fun cursor =>
  if cursor.spaced then { cursor with rest := skipBlank false cursor.rest } else cursor

def advance : Reading Unit := do bump; skipSpace

def accept (text : String) : Reading Bool := do
  let cursor ← get
  if text.toList.isPrefixOf cursor.rest then
    set { cursor with rest := cursor.rest.drop text.length }
    return true
  else return false

def takeWhileFrom (test : Char → Bool) : Nat → Reading (List Char)
  | 0 => return []
  | fuel + 1 => do
      match (← get).rest with
      | c :: _ =>
          if test c then
            advance
            return c :: (← takeWhileFrom test fuel)
          else return []
      | [] => return []

def takeWhile (test : Char → Bool) : Reading (List Char) := do
  takeWhileFrom test (← get).rest.length

def decimal : Reading Nat := do
  modify fun cursor => { cursor with rest := cursor.rest.dropWhile Text.isBlank }
  let digits ← takeWhile Char.isDigit
  let _ ← takeWhile Text.isBlank
  let value := digits.foldl (fun value digit => 10 * value + (digit.toNat - 48)) 0
  if digits.isEmpty || UInt32.size ≤ value then refuse else return value

def hexValue? (c : Char) : Option Nat :=
  if '0' ≤ c && c ≤ '9' then some (c.toNat - 48)
  else if 'a' ≤ c && c ≤ 'f' then some (c.toNat - 87)
  else if 'A' ≤ c && c ≤ 'F' then some (c.toNat - 55)
  else none

def charOfPoint (point : Nat) : Reading Char :=
  if point < 0xD800 || (0xE000 ≤ point && point ≤ 0x10FFFF) then return Char.ofNat point else refuse

def pointOfDigits (digits : List Nat) : Nat :=
  digits.foldl (fun value digit => 16 * value + digit) 0

def hexDigits : Nat → Reading (List Nat)
  | 0 => return []
  | count + 1 => do
      match hexValue? (← need) with
      | some digit =>
          advance
          return digit :: (← hexDigits count)
      | none => refuse

def hexLetter (count : Nat) : Reading Letter := do
  advance
  if (← need) = '\x7b' then
    advance
    let digits ← takeWhile (fun c => (hexValue? c).isSome)
    if (← need) ≠ '\x7d' || digits.isEmpty then refuse
    advance
    return ⟨← charOfPoint (pointOfDigits (digits.filterMap hexValue?)), false⟩
  else
    let digits ← hexDigits count
    return ⟨← charOfPoint (pointOfDigits digits), count = 2⟩

def splitName (name : List Char) : Property :=
  let rec splitAt (before : List Char) : List Char → Option (List Char × List Char)
    | '!' :: '=' :: after => some (before.reverse, after)
    | c :: after => splitAt (c :: before) after
    | [] => none
  let valued (parts : List Char × List Char) : Property :=
    .valued (String.ofList parts.1) (String.ofList parts.2)
  match splitAt [] name with
  | some parts => valued parts
  | none =>
      let at? (mark : Char) : Option (List Char × List Char) :=
        if name.contains mark then
          some (name.takeWhile (· != mark), (name.dropWhile (· != mark)).drop 1)
        else none
      match (at? ':').or (at? '=') with
      | some parts => valued parts
      | none => .named (String.ofList name)

def isNegatedName : List Char → Bool
  | '!' :: '=' :: _ => true
  | _ :: rest => isNegatedName rest
  | [] => false

def propertyAfter (negated : Bool) : Reading (Property × Bool) := do
  advance
  if (← need) = '\x7b' then
    advance
    let name ← takeWhile (· != '\x7d')
    let _ ← need
    bump
    return (splitName name, negated != isNegatedName name)
  else
    let c ← need
    if c = '\\' then refuse
    advance
    return (.named (String.singleton c), negated)

def isMeta (c : Char) : Bool := "\\.+*?()|[]\x7b\x7d^$#&-~".toList.contains c

def isEscapable (c : Char) : Bool :=
  isMeta c || (c.toNat < 128 && !c.isAlphanum && c != '<' && c != '>')

def borderKind? : String → Option Anchor
  | "start" => some .wordStart
  | "end" => some .wordEnd
  | "start-half" => some .wordStartHalf
  | "end-half" => some .wordEndHalf
  | _ => none

-- The kind of border that may follow in braces. Braces with anything else but letters and dashes
-- first are a repetition.
def borderAfter : Reading Anchor := do
  let start ← get
  let isName (c : Char) : Bool := c.isAlpha || c = '-'
  if (← peek) ≠ some '\x7b' then return .border
  advance
  if !isName (← need) then
    set start
    return .border
  let name ← takeWhile isName
  if (← need) ≠ '\x7d' then refuse
  bump
  match borderKind? (String.ofList name) with
  | some kind => return kind
  | none => refuse

def plain (c : Char) : Reading Primitive := return .letter ⟨c, false⟩

def escape : Reading Primitive := do
  bump
  let c ← need
  let short (kind : ShortClass) (negated : Bool) : Reading Primitive := do
    bump
    return .short kind negated
  let anchor (kind : Anchor) : Reading Primitive := do
    bump
    return .anchor kind
  let control (point : Nat) : Reading Primitive := do
    bump
    plain (Char.ofNat point)
  match c with
  | 'x' => return .letter (← hexLetter 2)
  | 'u' => return .letter (← hexLetter 4)
  | 'U' => return .letter (← hexLetter 8)
  | 'p' => do
      let (property, negated) ← propertyAfter false
      return .property property negated
  | 'P' => do
      let (property, negated) ← propertyAfter true
      return .property property negated
  | 'd' => short .digit false
  | 's' => short .space false
  | 'w' => short .word false
  | 'D' => short .digit true
  | 'S' => short .space true
  | 'W' => short .word true
  | 'a' => control 7
  | 'f' => control 12
  | 't' => control 9
  | 'n' => control 10
  | 'r' => control 13
  | 'v' => control 11
  | 'A' => anchor .textStart
  | 'z' => anchor .textEnd
  | 'B' => anchor .noBorder
  | '<' => anchor .wordStart
  | '>' => anchor .wordEnd
  | 'b' => do
      bump
      return .anchor (← borderAfter)
  | c =>
      if isEscapable c then
        bump
        plain c
      else refuse

def primitive : Reading Primitive := do
  match ← need with
  | '\\' => escape
  | '.' => do
      bump
      return .dot
  | '^' => do
      bump
      return .anchor .lineStart
  | '$' => do
      bump
      return .anchor .lineEnd
  | c => do
      bump
      plain c

def namedClass? : String → Option NamedClass
  | "alnum" => some .alnum
  | "alpha" => some .alpha
  | "ascii" => some .ascii
  | "blank" => some .blank
  | "cntrl" => some .cntrl
  | "digit" => some .digit
  | "graph" => some .graph
  | "lower" => some .lower
  | "print" => some .print
  | "punct" => some .punct
  | "space" => some .space
  | "upper" => some .upper
  | "word" => some .word
  | "xdigit" => some .xdigit
  | _ => none

def namedSet? : Reading (Option SetTree) := do
  let cursor ← get
  match cursor.rest with
  | '[' :: ':' :: rest =>
      let (negated, rest) := match rest with
        | '^' :: rest => (true, rest)
        | rest => (false, rest)
      let name := rest.takeWhile (· != ':')
      match rest.dropWhile (· != ':'), namedClass? (String.ofList name) with
      | ':' :: ']' :: after, some kind =>
          set { cursor with rest := after }
          return some (.named kind negated)
      | _, _ => return none
  | _ => return none

def setPrimitive : Reading Primitive := do
  let c ← need
  if c = '\\' then escape
  else
    bump
    plain c

def itemOf : Primitive → Reading SetTree
  | .letter letter => return .letter letter
  | .short kind negated => return .short kind negated
  | .property property negated => return .property property negated
  | .dot | .anchor _ => refuse

def letterOf : Primitive → Reading Letter
  | .letter letter => return letter
  | _ => refuse

def peekPast : Reading (Option Char) := do
  let cursor ← get
  let after := cursor.rest.drop 1
  if cursor.spaced then
    match after.dropWhile Text.isBlank with
    | '#' :: after => return (after.dropWhile Text.isBlank).head?
    | after => return after.head?
  else return after.head?

-- One member of a set, or a range. A dash before a closing bracket or another dash is no range.
def setItem : Reading SetTree := do
  let first ← setPrimitive
  skipSpace
  let c ← need
  let past ← peekPast
  if c ≠ '-' || past = some ']' || past = some '-' then itemOf first
  else
    advance
    let _ ← need
    let last ← setPrimitive
    let (first, last) := (← letterOf first, ← letterOf last)
    if last.char < first.char then refuse
    return .range first last

def leadingDashes : Nat → Reading (List SetTree)
  | 0 => return []
  | fuel + 1 => do
      if (← need) = '-' then
        advance
        return .letter ⟨'-', false⟩ :: (← leadingDashes fuel)
      else return []

-- The start of a set: whether it is negated, and the members that stand for themselves only there.
def openSet (fuel : Nat) : Reading (Bool × List SetTree) := do
  advance
  let negated := (← need) = '^'
  if negated then advance
  let dashes ← leadingDashes fuel
  if dashes.isEmpty && (← need) = ']' then
    advance
    let _ ← need
    return (negated, [.letter ⟨']', false⟩])
  else return (negated, dashes)

abbrev Waiting := Option (SetOp × SetTree)

def settle (waiting : Waiting) (items : List SetTree) : SetTree :=
  let right := SetTree.ofItems items.reverse
  match waiting with
  | some (kind, left) => .op kind left right
  | none => right

def setMembers : Nat → Waiting → List SetTree → Reading SetTree
  | 0, _, _ => refuse
  | fuel + 1, waiting, items => do
      skipSpace
      let c ← need
      let wait (kind : SetOp) : Reading SetTree :=
        setMembers fuel (some (kind, settle waiting items)) []
      if c = ']' then
        bump
        return settle waiting items
      else if c = '[' then
        match ← namedSet? with
        | some item => setMembers fuel waiting (item :: items)
        | none =>
            let (negated, start) ← openSet fuel
            let inner ← setMembers fuel none start.reverse
            setMembers fuel waiting (.bracket negated inner :: items)
      else if ← accept "&&" then wait .intersection
      else if ← accept "--" then wait .difference
      else if ← accept "~~" then wait .symmetricDifference
      else
        let item ← setItem
        setMembers fuel waiting (item :: items)

def bracketed (fuel : Nat) : Reading Tree := do
  let (negated, start) ← openSet fuel
  let set ← setMembers fuel none start.reverse
  return .bracket negated set

def flag? : Char → Option Flag
  | 'i' => some .caseInsensitive
  | 'm' => some .multiLine
  | 's' => some .dotMatchesNewLine
  | 'U' => some .swapGreed
  | 'u' => some .unicode
  | 'R' => some .crlf
  | 'x' => some .ignoreSpace
  | _ => none

def flagsFrom : Nat → (on : Bool) → (dangling : Bool) → FlagChanges → Reading FlagChanges
  | 0, _, _, _ => refuse
  | fuel + 1, on, dangling, changes => do
      let c ← need
      if c = ':' || c = ')' then
        if dangling then refuse else return changes
      else if c = '-' then
        if !on then refuse
        bump
        flagsFrom fuel false true changes
      else
        match flag? c with
        | some flag =>
            if changes.any (·.1 = flag) then refuse
            bump
            flagsFrom fuel on false (changes ++ [(flag, on)])
        | none => refuse

def isNameChar (first : Bool) (c : Char) : Bool :=
  c = '_' || Unicode.isAlphabetic c ||
    (!first && (c = '.' || c = '[' || c = ']' || Unicode.isNumeric c))

def groupName : Reading Unit := do
  let cursor ← get
  let name := cursor.rest.takeWhile (· != '>')
  match cursor.rest.dropWhile (· != '>') with
  | _ :: rest =>
      if name.isEmpty || !isNameChar true (name.headD '0') || !name.all (isNameChar false) ||
          cursor.names.contains name then refuse
      set { cursor with rest, names := name :: cursor.names }
  | [] => refuse

inductive Opening where
  | flags (changes : FlagChanges)
  | group (marked : Bool) (changes : FlagChanges)

def opening : Reading Opening := do
  bump
  skipSpace
  if (← accept "?=") || (← accept "?!") || (← accept "?<=") || (← accept "?<!") then refuse
  else if (← accept "?P<") || (← accept "?<") then
    groupName
    return .group true []
  else if ← accept "?" then
    let changes ← flagsFrom ((← get).rest.length + 1) true false []
    let last ← need
    bump
    if last = ')' then
      if changes.isEmpty then refuse else return .flags changes
    else return .group false changes
  else return .group true []

def setSpaced (changes : FlagChanges) : Reading Unit := modify fun cursor =>
  match changes.find? (·.1 = .ignoreSpace) with
  | some (_, on) => { cursor with spaced := on }
  | none => cursor

def repeatable : List Tree → Reading (Tree × List Tree)
  | .empty :: _ | .flags _ :: _ | [] => refuse
  | part :: before => return (part, before)

def lazyMark : Reading Bool := do
  if (← peek) = some '?' then
    bump
    return true
  else return false

def repeatParts (parts : List Tree) (min : Nat) (max : Option Nat) : Reading (List Tree) := do
  let (part, before) ← repeatable parts
  bump
  return .repeated part min max (← lazyMark) :: before

def repeatCounted (parts : List Tree) : Reading (List Tree) := do
  let (part, before) ← repeatable parts
  advance
  let _ ← need
  let min ← decimal
  let max ←
    if (← need) = ',' then
      advance
      if (← need) = '\x7d' then pure none else some <$> decimal
    else pure (some min)
  if (← need) ≠ '\x7d' then refuse
  advance
  let isLazy ← lazyMark
  match max with
  | some limit => if limit < min then refuse else return .repeated part min max isLazy :: before
  | none => return .repeated part min max isLazy :: before

-- Reads branches up to the end of the group around them. Parts of the last branch and branches
-- already read stand in reverse.
def branchesFrom : Nat → List Tree → List Tree → Reading Tree
  | 0, _, _ => refuse
  | fuel + 1, branches, parts => do
      skipSpace
      match ← peek with
      | none | some ')' =>
          return Tree.ofBranches ((Tree.ofParts parts.reverse :: branches).reverse)
      | some '(' => do
          let spaced := (← get).spaced
          match ← opening with
          | .flags changes =>
              setSpaced changes
              branchesFrom fuel branches (.flags changes :: parts)
          | .group marked changes =>
              setSpaced changes
              let body ← branchesFrom fuel [] []
              if (← need) ≠ ')' then refuse
              bump
              modify fun cursor => { cursor with spaced }
              branchesFrom fuel branches (.group marked changes body :: parts)
      | some '|' => do
          bump
          branchesFrom fuel (Tree.ofParts parts.reverse :: branches) []
      | some '[' => do branchesFrom fuel branches ((← bracketed fuel) :: parts)
      | some '?' => do branchesFrom fuel branches (← repeatParts parts 0 (some 1))
      | some '*' => do branchesFrom fuel branches (← repeatParts parts 0 none)
      | some '+' => do branchesFrom fuel branches (← repeatParts parts 1 none)
      | some '\x7b' => do branchesFrom fuel branches (← repeatCounted parts)
      | some _ => do branchesFrom fuel branches (.primitive (← primitive) :: parts)

end Reading

def nestLimit : Nat := 250

def Tree.read? (text : List Char) : Option Tree := do
  let (tree, cursor) ← (Reading.branchesFrom (text.length + 1) [] []).run ⟨text, false, []⟩
  if cursor.rest.isEmpty && tree.depth ≤ nestLimit then some tree else none

end RecordRules.Pattern
