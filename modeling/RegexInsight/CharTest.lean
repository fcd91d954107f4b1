import RegexInsight.Letters
import RegexInsight.Tree

/-! What one instruction asks of one character: literals, sets and classes under a mode. The sets that
`\p` can ask for by name approximate those of the Unicode standard: punctuation, symbols, digits and
scripts are blocks of their most common characters. -/
namespace RegexInsight

inductive Category where
  | letter
  | uppercaseLetter
  | lowercaseLetter
  | number
  | decimalNumber
  | punctuation
  | symbol
  | separator
  | spaceSeparator
  | control
deriving DecidableEq, Repr, Inhabited

inductive Script where
  | latin
  | greek
  | cyrillic
  | han
  | hiragana
  | katakana
  | arabic
  | hebrew
deriving DecidableEq, Repr, Inhabited

inductive Property where
  | any
  | ascii
  | asciiHexDigit
  | alphabetic
  | whiteSpace
  | uppercase
  | lowercase
  | category (category : Category)
  | script (script : Script)
deriving DecidableEq, Repr, Inhabited

def inBlocks (blocks : List (Nat × Nat)) (c : Char) : Bool :=
  blocks.any fun (low, high) => low ≤ c.toNat && c.toNat ≤ high

def decimalDigitBlocks : List (Nat × Nat) :=
  [(0x30, 0x39), (0x660, 0x669), (0x6F0, 0x6F9), (0x966, 0x96F), (0x9E6, 0x9EF), (0xE50, 0xE59),
    (0xFF10, 0xFF19)]

def symbolBlocks : List (Nat × Nat) :=
  [(0xA2, 0xA6), (0xA9, 0xA9), (0xAC, 0xAC), (0xAE, 0xB1), (0xD7, 0xD7), (0xF7, 0xF7),
    (0x20A0, 0x20CF), (0x2100, 0x214F), (0x2190, 0x23FF), (0x2500, 0x27BF), (0x1F300, 0x1FAFF)]

def punctuationBlocks : List (Nat × Nat) :=
  [(0xA1, 0xA1), (0xA7, 0xA7), (0xAB, 0xAB), (0xB6, 0xB7), (0xBB, 0xBB), (0xBF, 0xBF),
    (0x2010, 0x2027), (0x2030, 0x205E), (0x3001, 0x3003), (0x3008, 0x3011), (0xFF01, 0xFF0F)]

def spaceBlocks : List (Nat × Nat) :=
  [(0x20, 0x20), (0xA0, 0xA0), (0x1680, 0x1680), (0x2000, 0x200A), (0x202F, 0x202F),
    (0x205F, 0x205F), (0x3000, 0x3000)]

def isSymbol (c : Char) : Bool :=
  ['$', '+', '<', '=', '>', '^', '\x60', '|', '~'].contains c || inBlocks symbolBlocks c

def isPunctuation (c : Char) : Bool :=
  if isAscii c then isAsciiPunctuation c && !isSymbol c else inBlocks punctuationBlocks c

def isSpaceSeparator (c : Char) : Bool := inBlocks spaceBlocks c

namespace Script

def blocks : Script → List (Nat × Nat)
  | latin =>
    [(0x41, 0x5A), (0x61, 0x7A), (0xAA, 0xAA), (0xBA, 0xBA), (0xC0, 0xD6), (0xD8, 0xF6),
      (0xF8, 0x24F), (0x1E00, 0x1EFF), (0x2C60, 0x2C7F), (0xA720, 0xA7FF), (0xFF21, 0xFF3A),
      (0xFF41, 0xFF5A)]
  | greek => [(0x370, 0x3FF), (0x1F00, 0x1FFF)]
  | cyrillic => [(0x400, 0x52F), (0x2DE0, 0x2DFF), (0xA640, 0xA69F)]
  | han =>
    [(0x2E80, 0x2FDF), (0x3005, 0x3005), (0x3007, 0x3007), (0x3021, 0x3029), (0x3400, 0x4DBF),
      (0x4E00, 0x9FFF), (0xF900, 0xFAFF), (0x20000, 0x2FA1F)]
  | hiragana => [(0x3041, 0x309F)]
  | katakana => [(0x30A0, 0x30FF), (0x31F0, 0x31FF), (0xFF66, 0xFF9D)]
  | arabic =>
    [(0x600, 0x6FF), (0x750, 0x77F), (0x8A0, 0x8FF), (0xFB50, 0xFDFF), (0xFE70, 0xFEFF)]
  | hebrew => [(0x591, 0x5F4), (0xFB1D, 0xFB4F)]

def ofName? : String → Option Script
  | "Latin" | "Latn" => some latin
  | "Greek" | "Grek" => some greek
  | "Cyrillic" | "Cyrl" => some cyrillic
  | "Han" | "Hani" => some han
  | "Hiragana" | "Hira" => some hiragana
  | "Katakana" | "Kana" => some katakana
  | "Arabic" | "Arab" => some arabic
  | "Hebrew" | "Hebr" => some hebrew
  | _ => none

end Script

namespace Category

def holds : Category → Char → Bool
  | letter, c => isAlphabetic c && !isNumeric c
  | uppercaseLetter, c => isUppercase c && isAlphabetic c
  | lowercaseLetter, c => isLowercase c && isAlphabetic c
  | number, c => isNumeric c
  | decimalNumber, c => inBlocks decimalDigitBlocks c
  | punctuation, c => isPunctuation c
  | symbol, c => isSymbol c
  | separator, c => isSpaceSeparator c || c == '\u2028' || c == '\u2029'
  | spaceSeparator, c => isSpaceSeparator c
  | control, c => isControl c

def ofName? : String → Option Category
  | "L" | "Letter" => some letter
  | "Lu" | "Uppercase_Letter" => some uppercaseLetter
  | "Ll" | "Lowercase_Letter" => some lowercaseLetter
  | "N" | "Number" => some number
  | "Nd" | "Decimal_Number" | "digit" => some decimalNumber
  | "P" | "Punctuation" | "punct" => some punctuation
  | "S" | "Symbol" => some symbol
  | "Z" | "Separator" => some separator
  | "Zs" | "Space_Separator" => some spaceSeparator
  | "Cc" | "Control" | "cntrl" => some control
  | _ => none

end Category

namespace Property

def holds : Property → Char → Bool
  | any, _ => true
  | ascii, c => isAscii c
  | asciiHexDigit, c => isHexDigit c
  | alphabetic, c => isAlphabetic c
  | whiteSpace, c => isWhiteSpace c
  | uppercase, c => isUppercase c
  | lowercase, c => isLowercase c
  | category k, c => k.holds c
  | script s, c => inBlocks s.blocks c

def ofName? : String → Option Property
  | "Any" => some any
  | "ASCII" => some ascii
  | "ASCII_Hex_Digit" | "AHex" => some asciiHexDigit
  | "Alphabetic" | "Alpha" => some alphabetic
  | "White_Space" | "space" => some whiteSpace
  | "Uppercase" | "Upper" => some uppercase
  | "Lowercase" | "Lower" => some lowercase
  | name => (Category.ofName? name).map category

def find? (name : String) : Option String → Option Property
  | none => ofName? name
  | some value =>
    if name == "General_Category" || name == "gc" then (Category.ofName? value).map category
    else if name == "Script" || name == "sc" || name == "Script_Extensions" || name == "scx" then
      (Script.ofName? value).map script
    else none

end Property

structure Mode where
  ignoreCase : Bool
  multiline : Bool
  dotAll : Bool
deriving DecidableEq, Repr, Inhabited

def isLineTerminator (c : Char) : Bool :=
  c == '\n' || c == '\r' || c == '\u2028' || c == '\u2029'

def isWordChar (c : Char) : Bool := c.isAlphanum || c == '_'

def isSpaceChar (c : Char) : Bool := (isWhiteSpace c && c != '\u0085') || c == '\uFEFF'

inductive CharTest where
  | dot
  | digit
  | word
  | space
  | property (property : Property)
deriving DecidableEq, Repr, Inhabited

namespace CharTest

def ofKind? : SetKind → Option CharTest
  | .dot => some dot
  | .digit => some digit
  | .word => some word
  | .space => some space
  | .property name value => (Property.find? name value).map property

def holds (mode : Mode) : CharTest → Char → Bool
  | dot, c => mode.dotAll || !isLineTerminator c
  | digit, c => c.isDigit
  | word, c => isWordChar c
  | space, c => isSpaceChar c
  | property p, c => p.holds c

end CharTest

inductive ClassItem where
  | char (value : Char)
  | range (min max : Char)
  | set (test : CharTest) (negate : Bool)
deriving DecidableEq, Repr, Inhabited

namespace ClassItem

def ofKind? : MemberKind → Option ClassItem
  | .char value => some (char value)
  | .range min max => some (range min max)
  | .set s => (CharTest.ofKind? s.kind).map (set · s.negate)

def holds (mode : Mode) : ClassItem → Char → Bool
  | char value, c => c == value
  | range min max, c => min ≤ c && c ≤ max
  | set test negate, c => test.holds mode c != negate

end ClassItem

namespace Mode

/-- Whether a literal `b` accepts the character `a`. -/
def sameChar (mode : Mode) (a b : Char) : Bool :=
  a == b || (mode.ignoreCase && foldCase a == foldCase b)

/-- Whether one of the items holds the character or, when case is ignored, one of its two
counterparts. -/
def anyItem (mode : Mode) (items : List ClassItem) (c : Char) : Bool :=
  if mode.ignoreCase then
    let lower := foldCase c
    let upper := raiseCase c
    items.any fun item => item.holds mode c || item.holds mode lower || item.holds mode upper
  else items.any fun item => item.holds mode c

end Mode

end RegexInsight
