import RecordRules.Check.Address
import RecordRules.Check.Basic
import RecordRules.Pattern.Match
import RecordRules.Text.Cut

set_option autoImplicit false

namespace RecordRules.Format

open Pattern Charset

def digit : Pattern := char Charset.digit

def between (first last : Char) : Pattern := char (chars first last)

def spaces : Pattern := many (char Charset.space)

def comma : Pattern := sequence [spaces, literal ",", spaces]

def hexDigits (count : Nat) : Pattern := times count (char hexDigit)

def alpha : Pattern := whole (many1 (char asciiLetter))

def alphanumeric : Pattern := whole (many1 (char (union asciiLetter asciiDigit)))

def numeric : Pattern :=
  whole (sequence [optional (char (oneOf "-+")), many1 digit,
    optional (sequence [literal ".", many1 digit])])

def uuid : Pattern :=
  whole (sequence [hexDigits 8, literal "-", hexDigits 4, literal "-", hexDigits 4, literal "-",
    hexDigits 4, literal "-", hexDigits 12])

def hostLabel : Pattern :=
  let plain := union asciiLetter asciiDigit
  sequence [char plain,
    optional (sequence [repeated (char (union plain (single '-'))) 0 (some 61), char plain])]

def email : Pattern :=
  let mailbox := ofList [asciiLetter, asciiDigit, oneOf ".!#$%&'*+/=?^_`\x7b|\x7d~-"]
  whole (sequence [many1 (char mailbox), literal "@", hostLabel,
    many (sequence [literal ".", hostLabel])])

def inLine : Charset := compl (single '\n')

def url : Pattern :=
  whole (sequence [literal "http", optional (literal "s"), literal "://",
    char (compl (union Charset.space (oneOf "/$.?#"))), char inLine,
    many (char (compl Charset.space))])

def hexColor : Pattern :=
  whole (sequence [literal "#", choice [hexDigits 3, hexDigits 4, hexDigits 6, hexDigits 8]])

def byte : Pattern :=
  choice [sequence [literal "25", between '0' '5'], sequence [literal "2", between '0' '4', digit],
    sequence [literal "1", digit, digit], sequence [optional (between '1' '9'), digit]]

def percent : Pattern :=
  sequence [choice [literal "100", sequence [optional (between '1' '9'), digit]], literal "%"]

def opacity : Pattern :=
  choice [
    sequence [choice [literal "0", literal "1"],
      optional (sequence [literal ".", many1 (literal "0")])],
    sequence [optional (literal "0"), literal ".", many1 digit]]

def hue : Pattern :=
  choice [literal "360", sequence [literal "3", between '0' '5', digit],
    sequence [between '1' '2', digit, digit], sequence [optional (between '1' '9'), digit]]

def triple (a b c : Pattern) : Pattern := sequence [a, comma, b, comma, c]

def channels : Pattern := choice [triple byte byte byte, triple percent percent percent]

def call (name : String) (arguments : Pattern) : Pattern :=
  whole (sequence [literal name, literal "(", spaces, arguments, spaces, literal ")"])

def withOpacity (arguments : Pattern) : Pattern := sequence [arguments, comma, opacity]

def rgb : Pattern := call "rgb" channels

def rgba : Pattern := call "rgba" (withOpacity channels)

def hsl : Pattern := call "hsl" (triple hue percent percent)

def hsla : Pattern := call "hsla" (withOpacity (triple hue percent percent))

def isLowercase (text : String) : Bool :=
  text.toList.all (fun c => !Unicode.isAlphabetic c || Unicode.isLowercase c)

def isUppercase (text : String) : Bool :=
  text.toList.all (fun c => !Unicode.isAlphabetic c || Unicode.isUppercase c)

end RecordRules.Format

namespace RecordRules.Check

variable {n : Nat}

def format (pattern : Pattern) (expected : String) : Check n :=
  ofText pattern.isMatch (.invalidFormat expected)

def letters (pattern : Pattern) (code message : String) : Check n :=
  ofText pattern.isMatch (.ofCode code message)

def address (test : List Char → Bool) (expected : String) : Check n :=
  ofText (fun text => test text.toList) (.invalidFormat expected)

def part (test : List Char → List Char → Bool) (code key phrase : String) (part : String) :
    Check n :=
  ofText (fun text => test part.toList text.toList)
    ((Violation.ofCode code s!"String must {phrase} '{part}'").withParam key part)

def contains (param : String) : Check n := part Text.occurs "contains" "substring" "contain" param

def excludes (param : String) : Check n :=
  part (fun part text => !Text.occurs part text) "excludes" "substring" "not contain" param

def startsWith (param : String) : Check n :=
  part Text.startsWith "startswith" "prefix" "start with" param

def endsWith (param : String) : Check n :=
  part Text.endsWith "endswith" "suffix" "end with" param

end RecordRules.Check
