import RecordRules.Pattern.Charset

set_option autoImplicit false

namespace RecordRules

-- A place is looked at through the characters on its two sides. That is enough for the ends of texts
-- and lines and for the borders of words.
inductive Look where
  | textStart | textEnd
  | lineStart | lineEnd
  | crlfStart | crlfEnd
  | border (word : Charset)
  | noBorder (word : Charset)
  | wordStart (word : Charset)
  | wordEnd (word : Charset)
  | wordStartHalf (word : Charset)
  | wordEndHalf (word : Charset)
deriving DecidableEq

namespace Look

def inWord (word : Charset) : Option Char → Bool
  | some c => word.contains c
  | none => false

def holds : Look → Option Char → Option Char → Bool
  | textStart, before, _ => before.isNone
  | textEnd, _, after => after.isNone
  | lineStart, before, _ => before.isNone || before = some '\n'
  | lineEnd, _, after => after.isNone || after = some '\n'
  | crlfStart, before, after =>
      before.isNone || before = some '\n' || (before = some '\r' && after ≠ some '\n')
  | crlfEnd, before, after =>
      after.isNone || after = some '\r' || (after = some '\n' && before ≠ some '\r')
  | border word, before, after => inWord word before != inWord word after
  | noBorder word, before, after => inWord word before == inWord word after
  | wordStart word, before, after => !inWord word before && inWord word after
  | wordEnd word, before, after => inWord word before && !inWord word after
  | wordStartHalf word, before, _ => !inWord word before
  | wordEndHalf word, _, after => !inWord word after

end Look

inductive Pattern where
  | empty
  | char (set : Charset)
  | look (kind : Look)
  | cat (a b : Pattern)
  | alt (a b : Pattern)
  | repeated (a : Pattern) (min : Nat) (max : Option Nat)

namespace Pattern

def literal (text : String) : Pattern :=
  text.toList.foldr (fun c rest => cat (char (.single c)) rest) empty

def sequence (parts : List Pattern) : Pattern := parts.foldr cat empty

def choice : List Pattern → Pattern
  | [] => char .empty
  | [a] => a
  | a :: rest => alt a (choice rest)

def many (a : Pattern) : Pattern := repeated a 0 none

def many1 (a : Pattern) : Pattern := repeated a 1 none

def optional (a : Pattern) : Pattern := repeated a 0 (some 1)

def times (count : Nat) (a : Pattern) : Pattern := repeated a count (some count)

def whole (a : Pattern) : Pattern := sequence [look .textStart, a, look .textEnd]

end Pattern

end RecordRules
