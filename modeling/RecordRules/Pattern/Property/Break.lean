import RecordRules.Pattern.Property.Derived
import RecordRules.Unicode.Emoji
import RecordRules.Unicode.Script

set_option autoImplicit false

namespace RecordRules.Pattern.Property

def table? (name : String) (entries : List (List String × List Unicode.Stretch)) :
    Option (List Unicode.Stretch) :=
  (entries.find? (·.1.contains name)).map (·.2)

def script? (name : String) : Option Charset := (table? name Unicode.scripts).map .table

def tableSet (name : String) (entries : List (List String × List Unicode.Stretch)) : Charset :=
  .table ((table? name entries).getD [])

def regionalIndicator : Charset := tableSet "ri" Unicode.binaryProperties

def prependedMark : Charset := tableSet "pcm" Unicode.binaryProperties

def lineFeed : Charset := .single '\n'

def carriageReturn : Charset := .single '\r'

def zeroWidthJoiner : Charset := .range 0x200D 0x200D

namespace GraphemeBreak

def extend : Charset := .union graphemeExtend (tableSet "emod" Unicode.emojiProperties)

def control : Charset :=
  .diff
    (.union (ofCategories [.cc, .cf, .zl, .zp])
      (.diff (tableSet "di" Unicode.binaryProperties) assigned))
    (.ofList [lineFeed, carriageReturn, .range 0x200C 0x200D, prependedMark, extend])

def prepend : Charset :=
  .union prependedMark
    (.table [⟨0xD4E, 0xD4E, 1⟩, ⟨0x111C2, 0x111C3, 1⟩, ⟨0x113D1, 0x113D1, 1⟩, ⟨0x1193F, 0x11941, 2⟩,
      ⟨0x11A3A, 0x11A3A, 1⟩, ⟨0x11A84, 0x11A89, 1⟩, ⟨0x11D46, 0x11D46, 1⟩, ⟨0x11F02, 0x11F02, 1⟩])

def spacingMark : Charset :=
  .diff (.union (ofCategories [.mc]) (.table [⟨0xE33, 0xE33, 1⟩, ⟨0xEB3, 0xEB3, 1⟩]))
    (.union extend
      (.table [⟨0x102B, 0x102C, 1⟩, ⟨0x1038, 0x1038, 1⟩, ⟨0x1062, 0x1064, 1⟩, ⟨0x1067, 0x106D, 1⟩,
        ⟨0x1083, 0x1083, 1⟩, ⟨0x1087, 0x108C, 1⟩, ⟨0x108F, 0x108F, 1⟩, ⟨0x109A, 0x109C, 1⟩,
        ⟨0x1A61, 0x1A63, 2⟩, ⟨0x1A64, 0x1A64, 1⟩, ⟨0xAA7B, 0xAA7D, 2⟩, ⟨0x11720, 0x11721, 1⟩]))

def leading : Charset := .union (.range 0x1100 0x115F) (.range 0xA960 0xA97C)

def vowel : Charset :=
  .table [⟨0x1160, 0x11A7, 1⟩, ⟨0xD7B0, 0xD7C6, 1⟩, ⟨0x16D63, 0x16D63, 1⟩, ⟨0x16D67, 0x16D6A, 1⟩]

def trailing : Charset := .union (.range 0x11A8 0x11FF) (.range 0xD7CB 0xD7FB)

def openSyllable : Charset := .table [⟨0xAC00, 0xD788, 28⟩]

def closedSyllable : Charset := .diff (.range 0xAC00 0xD7A3) openSyllable

def charset? : String → Option Charset
  | "control" | "cn" => some control
  | "cr" => some carriageReturn
  | "extend" | "ex" => some extend
  | "l" => some leading
  | "lf" => some lineFeed
  | "lv" => some openSyllable
  | "lvt" => some closedSyllable
  | "prepend" | "pp" => some prepend
  | "regionalindicator" | "ri" => some regionalIndicator
  | "spacingmark" | "sm" => some spacingMark
  | "t" => some trailing
  | "v" => some vowel
  | "zwj" => some zeroWidthJoiner
  | _ => none

end GraphemeBreak

namespace WordBreak

def extend : Charset := .union GraphemeBreak.extend (ofCategories [.mc])

def format : Charset :=
  .diff (ofCategories [.cf]) (.ofList [.range 0x200B 0x200D, prependedMark, extend])

def katakana : Charset :=
  .union (tableSet "kana" Unicode.scripts)
    (.table [⟨0x3031, 0x3035, 1⟩, ⟨0x309B, 0x309C, 1⟩, ⟨0x30A0, 0x30A0, 1⟩, ⟨0x30FC, 0x30FC, 1⟩,
      ⟨0xFF70, 0xFF70, 1⟩])

def hebrewLetter : Charset := .inter (tableSet "hebr" Unicode.scripts) (ofCategories [.lo])

def unspaced : Charset :=
  .ofList <|
    ["thai", "laoo", "mymr", "khmr", "tale", "talu", "lana", "tavt", "ahom"].map fun name =>
      tableSet name Unicode.scripts

-- Alphabetic characters and some signs that are used within words, but no characters of a script
-- whose words have no visible borders.
def letter : Charset :=
  .diff
    (.union alphabetic
      (.table [⟨0x2C2, 0x2C5, 1⟩, ⟨0x2D2, 0x2D7, 1⟩, ⟨0x2DE, 0x2DF, 1⟩, ⟨0x2E5, 0x2EB, 1⟩,
        ⟨0x2ED, 0x2ED, 1⟩, ⟨0x2EF, 0x2FF, 1⟩, ⟨0x55A, 0x55C, 1⟩, ⟨0x55E, 0x55E, 1⟩,
        ⟨0x58A, 0x58A, 1⟩, ⟨0x5F3, 0x5F3, 1⟩, ⟨0x70F, 0x70F, 1⟩, ⟨0xA708, 0xA716, 1⟩,
        ⟨0xA720, 0xA721, 1⟩, ⟨0xA789, 0xA78A, 1⟩, ⟨0xAB5B, 0xAB5B, 1⟩]))
    (.ofList [tableSet "ideo" Unicode.binaryProperties, katakana, hebrewLetter, unspaced,
      tableSet "hira" Unicode.scripts, extend])

def midLetter : Charset := .oneOf ":\u00b7\u0387\u055f\u05f4\u2027\ufe13\ufe55\uff1a"

def midNumber : Charset :=
  .oneOf ",;\u037e\u0589\u060c\u060d\u066c\u07f8\u2044\ufe10\ufe14\ufe50\ufe54\uff0c\uff1b"

def midNumberLetter : Charset := .oneOf ".\u2018\u2019\u2024\ufe52\uff07\uff0e"

def numeric : Charset :=
  .ofList [ofCategories [.nd], .single '\u066b', .diff prependedMark (.single '\u070f')]

def newline : Charset := .oneOf "\x0b\x0c\u0085\u2028\u2029"

def space : Charset := .diff (ofCategories [.zs]) (.oneOf "\u00a0\u2007\u202f")

def charset? : String → Option Charset
  | "aletter" | "le" => some letter
  | "cr" => some carriageReturn
  | "doublequote" | "dq" => some (.single '"')
  | "extend" => some extend
  | "extendnumlet" | "ex" => some (.union (ofCategories [.pc]) (.single '\u202f'))
  | "format" | "fo" => some format
  | "hebrewletter" | "hl" => some hebrewLetter
  | "katakana" | "ka" => some katakana
  | "lf" => some lineFeed
  | "midletter" | "ml" => some midLetter
  | "midnum" | "mn" => some midNumber
  | "midnumlet" | "mb" => some midNumberLetter
  | "newline" | "nl" => some newline
  | "numeric" | "nu" => some numeric
  | "regionalindicator" | "ri" => some regionalIndicator
  | "singlequote" | "sq" => some (.single '\'')
  | "wsegspace" => some space
  | "zwj" => some zeroWidthJoiner
  | _ => none

end WordBreak

namespace SentenceBreak

def extend : Charset := .ofList [graphemeExtend, ofCategories [.mc], zeroWidthJoiner]

def numeric : Charset := .union WordBreak.numeric (.single '\u066c')

def format : Charset := .diff (ofCategories [.cf]) (.ofList [.range 0x200C 0x200D, numeric, extend])

def separator : Charset := .oneOf "\u0085\u2028\u2029"

def space : Charset := .diff .space (.ofList [separator, lineFeed, carriageReturn])

def lower : Charset :=
  .diff lowercase (.ofList [graphemeExtend, .range 0x10D0 0x10FA, .range 0x10FD 0x10FF])

def upper : Charset :=
  .diff (.union uppercase (ofCategories [.lt]))
    (.union (.range 0x1C90 0x1CBA) (.range 0x1CBD 0x1CBF))

def letter : Charset :=
  .diff (.union alphabetic (.single '\u05f3')) (.ofList [lower, upper, extend])

def ambiguousTerminal : Charset := .oneOf ".\u2024\ufe52\uff0e"

def terminal : Charset := .diff (tableSet "sterm" Unicode.binaryProperties) ambiguousTerminal

def continuing : Charset :=
  .ofList [
    .oneOf "\x2c\x2d:;\u037e\u055d\u060c\u060d\u07f8\u1802\u1808\u2013\u2014\u3001",
    .oneOf "\ufe10\ufe11\ufe13\ufe14\ufe31\ufe32\ufe50\ufe51\ufe54\ufe55\ufe58\ufe63",
    .oneOf "\uff0c\uff0d\uff1a\uff1b\uff64"]

def closing : Charset :=
  .diff
    (.union (ofCategories [.ps, .pe, .pi, .pf])
      (.table [⟨0x22, 0x22, 1⟩, ⟨0x27, 0x27, 1⟩, ⟨0x275B, 0x2760, 1⟩, ⟨0x2E00, 0x2E01, 1⟩,
        ⟨0x2E06, 0x2E08, 1⟩, ⟨0x2E0B, 0x2E0B, 1⟩, ⟨0x1F676, 0x1F678, 1⟩]))
    (.union ambiguousTerminal terminal)

def charset? : String → Option Charset
  | "aterm" | "at" => some ambiguousTerminal
  | "close" | "cl" => some closing
  | "cr" => some carriageReturn
  | "extend" | "ex" => some extend
  | "format" | "fo" => some format
  | "lf" => some lineFeed
  | "lower" | "lo" => some lower
  | "numeric" | "nu" => some numeric
  | "oletter" | "le" => some letter
  | "scontinue" | "sc" => some continuing
  | "sep" | "se" => some separator
  | "sp" => some space
  | "sterm" | "st" => some terminal
  | "upper" | "up" => some upper
  | _ => none

end SentenceBreak

end RecordRules.Pattern.Property
