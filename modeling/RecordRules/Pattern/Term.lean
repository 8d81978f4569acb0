import RecordRules.Pattern.Basic
import RecordRules.Pattern.Property
import RecordRules.Pattern.Ranges
import RecordRules.Pattern.Reader

set_option autoImplicit false

namespace RecordRules.Pattern

inductive Term where
  | empty
  | set (members : Charset)
  | look (kind : Look)
  | repeated (a : Term) (min : Nat) (max : Option Nat) (isLazy : Bool)
  | marked (a : Term)
  | choice (branches : List Term)
  | sequence (parts : List Term)

def again (a : Pattern) (min : Nat) (max : Option Nat) : Pattern :=
  match a, max with
  | .repeated b min' none, none =>
      if min ≤ 1 && min' ≤ 1 then .repeated b (min * min') none else .repeated a min none
  | _, _ => .repeated a min max

mutual

-- The texts that a term matches depend neither on laziness nor on marks.
def Term.pattern : Term → Pattern
  | .empty => .empty
  | .set members => .char members
  | .look kind => .look kind
  | .repeated a min max _ => again a.pattern min max
  | .marked a => a.pattern
  | .choice branches => .choice (Term.patterns branches)
  | .sequence parts => .sequence (Term.patterns parts)

def Term.patterns : List Term → List Pattern
  | [] => []
  | term :: rest => term.pattern :: Term.patterns rest

end

-- Flags hold from where they are written to the end of the group around them.
structure Flags where
  caseInsensitive : Bool
  multiLine : Bool
  dotMatchesNewLine : Bool
  unicode : Bool
  crlf : Bool
  swapGreed : Bool

namespace Flags

def initial : Flags := ⟨false, false, false, true, false, false⟩

def change (flags : Flags) : Flag × Bool → Flags
  | (.caseInsensitive, on) => { flags with caseInsensitive := on }
  | (.multiLine, on) => { flags with multiLine := on }
  | (.dotMatchesNewLine, on) => { flags with dotMatchesNewLine := on }
  | (.unicode, on) => { flags with unicode := on }
  | (.crlf, on) => { flags with crlf := on }
  | (.swapGreed, on) => { flags with swapGreed := on }
  | (.ignoreSpace, _) => flags

def apply (flags : Flags) (changes : FlagChanges) : Flags := changes.foldl change flags

end Flags

def foldCase (flags : Flags) (set : Charset) : Charset :=
  if !flags.caseInsensitive then set
  else if flags.unicode then .folded set
  else .inter (.folded set) (.range 0 127)

-- Without the flag for Unicode, whatever could match half a character is refused.
def negate (flags : Flags) (negated : Bool) (set : Charset) : Option Charset :=
  if !negated then some set
  else if flags.unicode then some (.compl set)
  else none

def shortClass (flags : Flags) (kind : ShortClass) (negated : Bool) : Option Charset :=
  negate flags negated <|
    match kind, flags.unicode with
    | .digit, true => .digit
    | .space, true => .space
    | .word, true => .word
    | .digit, false => .asciiDigit
    | .space, false => .asciiSpace
    | .word, false => .asciiWord

def NamedClass.charset : NamedClass → Charset
  | alnum => .union .asciiDigit .asciiLetter
  | alpha => .asciiLetter
  | ascii => .range 0 127
  | blank => .union (.single '\t') (.single ' ')
  | cntrl => .union (.range 0 31) (.range 127 127)
  | digit => .asciiDigit
  | graph => .chars '!' '~'
  | lower => .asciiLower
  | print => .chars ' ' '~'
  | punct => .diff (.chars '!' '~') (.union .asciiDigit .asciiLetter)
  | space => .asciiSpace
  | upper => .asciiUpper
  | word => .asciiWord
  | xdigit => .hexDigit

def property (flags : Flags) (property : Property) (negated : Bool) : Option Charset := do
  if !flags.unicode then none
  negate flags negated (foldCase flags (← property.charset?))

def admitsLetter (flags : Flags) (letter : Letter) : Bool :=
  flags.unicode || letter.char.toNat < 128

mutual

def setOf (flags : Flags) : SetTree → Option Charset
  | .empty => some .empty
  | .letter letter =>
      if admitsLetter flags letter then some (.single letter.char) else none
  | .range first last =>
      if admitsLetter flags first && admitsLetter flags last then
        some (.chars first.char last.char)
      else none
  | .named kind negated => negate flags negated (foldCase flags kind.charset)
  | .short kind negated => shortClass flags kind negated
  | .property named negated => property flags named negated
  | .bracket negated set => do negate flags negated (foldCase flags (← setOf flags set))
  | .union items => do return .ofList (← setsOf flags items)
  | .op kind a b => do
      let a := foldCase flags (← setOf flags a)
      let b := foldCase flags (← setOf flags b)
      match kind with
      | .intersection => return .inter a b
      | .difference => return .diff a b
      | .symmetricDifference => return .union (.diff a b) (.diff b a)

def setsOf (flags : Flags) : List SetTree → Option (List Charset)
  | [] => some []
  | item :: rest => do return (← setOf flags item) :: (← setsOf flags rest)

end

def wordSet (flags : Flags) : Charset := if flags.unicode then .word else .asciiWord

def lookOf (flags : Flags) : Anchor → Look
  | .lineStart =>
      if !flags.multiLine then .textStart else if flags.crlf then .crlfStart else .lineStart
  | .lineEnd => if !flags.multiLine then .textEnd else if flags.crlf then .crlfEnd else .lineEnd
  | .textStart => .textStart
  | .textEnd => .textEnd
  | .border => .border (wordSet flags)
  | .noBorder => .noBorder (wordSet flags)
  | .wordStart => .wordStart (wordSet flags)
  | .wordEnd => .wordEnd (wordSet flags)
  | .wordStartHalf => .wordStartHalf (wordSet flags)
  | .wordEndHalf => .wordEndHalf (wordSet flags)

def letterSet (flags : Flags) (letter : Letter) : Option Charset :=
  let single := Charset.single letter.char
  if flags.unicode then some (foldCase flags single)
  else if letter.char.toNat < 128 then some (foldCase flags single)
  else if letter.asByte then none
  else some single

def dotSet (flags : Flags) : Option Charset :=
  if !flags.unicode then none
  else if flags.dotMatchesNewLine then some .full
  else if flags.crlf then some (.compl (.union (.single '\n') (.single '\r')))
  else some (.compl (.single '\n'))

def primitiveOf (flags : Flags) : Primitive → Option Term
  | .letter letter => (letterSet flags letter).map .set
  | .dot => (dotSet flags).map .set
  | .anchor kind => some (.look (lookOf flags kind))
  | .short kind negated => (shortClass flags kind negated).map .set
  | .property named negated => (property flags named negated).map .set

mutual

def resolve (flags : Flags) : Tree → Option (Term × Flags)
  | .empty => some (.empty, flags)
  | .flags changes => some (.empty, flags.apply changes)
  | .primitive primitive => do return (← primitiveOf flags primitive, flags)
  | .bracket negated set => do
      return (.set (← negate flags negated (foldCase flags (← setOf flags set))), flags)
  | .repeated body min max isLazy => do
      let (body, _) ← resolve flags body
      return (.repeated body min max (isLazy != flags.swapGreed), flags)
  | .group marked changes body => do
      let (body, _) ← resolve (flags.apply changes) body
      return (if marked then .marked body else body, flags)
  | .choice branches => do
      let (branches, flags) ← resolveAll flags branches
      return (.choice branches, flags)
  | .sequence parts => do
      let (parts, flags) ← resolveAll flags parts
      return (.sequence parts, flags)

def resolveAll (flags : Flags) : List Tree → Option (List Term × Flags)
  | [] => some ([], flags)
  | tree :: rest => do
      let (term, flags) ← resolve flags tree
      let (terms, flags) ← resolveAll flags rest
      return (term :: terms, flags)

end

def Term.ofTree? (tree : Tree) : Option Term := (resolve .initial tree).map (·.1)

end RecordRules.Pattern
