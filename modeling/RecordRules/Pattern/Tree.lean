set_option autoImplicit false

namespace RecordRules.Pattern

structure Letter where
  char : Char
  asByte : Bool
deriving DecidableEq, Repr

inductive Anchor where
  | lineStart | lineEnd | textStart | textEnd
  | border | noBorder | wordStart | wordEnd | wordStartHalf | wordEndHalf
deriving DecidableEq, Repr

inductive ShortClass where
  | digit | space | word
deriving DecidableEq, Repr

inductive NamedClass where
  | alnum | alpha | ascii | blank | cntrl | digit | graph | lower | print | punct | space | upper
  | word | xdigit
deriving DecidableEq, Repr

inductive Property where
  | named (name : String)
  | valued (name value : String)
deriving DecidableEq, Repr

inductive SetOp where
  | intersection | difference | symmetricDifference
deriving DecidableEq, Repr

inductive SetTree where
  | empty
  | letter (letter : Letter)
  | range (first last : Letter)
  | named (kind : NamedClass) (negated : Bool)
  | short (kind : ShortClass) (negated : Bool)
  | property (property : Property) (negated : Bool)
  | bracket (negated : Bool) (set : SetTree)
  | union (items : List SetTree)
  | op (kind : SetOp) (a b : SetTree)

inductive Primitive where
  | letter (letter : Letter)
  | dot
  | anchor (kind : Anchor)
  | short (kind : ShortClass) (negated : Bool)
  | property (property : Property) (negated : Bool)

inductive Flag where
  | caseInsensitive | multiLine | dotMatchesNewLine | swapGreed | unicode | crlf | ignoreSpace
deriving DecidableEq, Repr

abbrev FlagChanges := List (Flag × Bool)

inductive Tree where
  | empty
  | flags (changes : FlagChanges)
  | primitive (primitive : Primitive)
  | bracket (negated : Bool) (set : SetTree)
  | repeated (body : Tree) (min : Nat) (max : Option Nat) (isLazy : Bool)
  | group (marked : Bool) (changes : FlagChanges) (body : Tree)
  | choice (branches : List Tree)
  | sequence (parts : List Tree)

def Tree.ofParts : List Tree → Tree
  | [] => empty
  | [part] => part
  | parts => sequence parts

def Tree.ofBranches : List Tree → Tree
  | [] => empty
  | [branch] => branch
  | branches => choice branches

def SetTree.ofItems : List SetTree → SetTree
  | [] => empty
  | [item] => item
  | items => union items

mutual

def SetTree.depth : SetTree → Nat
  | .bracket _ set => set.depth + 1
  | .union items => SetTree.depths items + 1
  | .op _ a b => max a.depth b.depth + 1
  | _ => 0

def SetTree.depths : List SetTree → Nat
  | [] => 0
  | item :: rest => max item.depth (SetTree.depths rest)

end

mutual

def Tree.depth : Tree → Nat
  | .bracket _ set => set.depth + 1
  | .repeated body _ _ _ => body.depth + 1
  | .group _ _ body => body.depth + 1
  | .choice branches => Tree.depths branches + 1
  | .sequence parts => Tree.depths parts + 1
  | _ => 0

def Tree.depths : List Tree → Nat
  | [] => 0
  | tree :: rest => max tree.depth (Tree.depths rest)

end

end RecordRules.Pattern
