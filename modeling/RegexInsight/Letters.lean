import RegexInsight.CaseTable
import RegexInsight.LetterTable
import RegexInsight.WordTable

/-! Character classes of Unicode 17, the word class of Unicode 16, and the case mappings of Unicode 17,
of one character and of a text. ASCII is answered without a table. A character may have a form of two
or three characters, and a capital sigma that ends a word has its own lower-case form. -/
namespace RegexInsight

def isAlphabetic (c : Char) : Bool :=
  if c.toNat < 0x80 then c.isAlpha else inRanges alphabeticRanges c

def isNumeric (c : Char) : Bool :=
  if c.toNat < 0x80 then c.isDigit else inRanges numericRanges c

def isAlphanumeric (c : Char) : Bool := isAlphabetic c || isNumeric c

def isUppercase (c : Char) : Bool :=
  if c.toNat < 0x80 then c.isUpper else inRuns uppercaseRuns c

def isLowercase (c : Char) : Bool :=
  if c.toNat < 0x80 then c.isLower else inRuns lowercaseRuns c

def isCased (c : Char) : Bool := isLowercase c || isUppercase c || inRanges titlecaseRanges c

def isCaseIgnorable (c : Char) : Bool := inRanges caseIgnorableRanges c

/-- The property `White_Space`. -/
def isWhiteSpace (c : Char) : Bool :=
  let n := c.toNat
  (0x09 ≤ n && n ≤ 0x0D) || n == 0x20 || n == 0x85 || n == 0xA0 || n == 0x1680 ||
    (0x2000 ≤ n && n ≤ 0x200A) || n == 0x2028 || n == 0x2029 || n == 0x202F || n == 0x205F ||
    n == 0x3000

/-- The general category `Cc`. -/
def isControl (c : Char) : Bool := c.toNat < 0x20 || (0x7F ≤ c.toNat && c.toNat < 0xA0)

/-- The letters, marks, decimal digits, connectors and joiners that make up a word. What a word is
stays fixed by Unicode 16, so a letter newer than that stands between words. -/
def isWordLetter (c : Char) : Bool :=
  if c.toNat < 0x80 then c.isAlphanum || c == '_' else inRanges wordRanges c

def isAscii (c : Char) : Bool := c.toNat < 0x80

def isHexDigit (c : Char) : Bool :=
  c.isDigit || ('a' ≤ c && c ≤ 'f') || ('A' ≤ c && c ≤ 'F')

def isAsciiPunctuation (c : Char) : Bool := 0x20 < c.toNat && c.toNat < 0x7F && !c.isAlphanum

def hexValue? (c : Char) : Option Nat :=
  if c.isDigit then some (c.toNat - 0x30)
  else if 'a' ≤ c && c ≤ 'f' then some (c.toNat - 0x57)
  else if 'A' ≤ c && c ≤ 'F' then some (c.toNat - 0x37)
  else none

def octalValue? (c : Char) : Option Nat :=
  if '0' ≤ c && c ≤ '7' then some (c.toNat - 0x30) else none

def lowerForm (c : Char) : List Char :=
  if c.toNat < 0x80 then [c.toLower]
  else if c == '\u0130' then ['i', '\u0307']
  else [(caseImage lowerRuns c).getD c]

def upperForm (c : Char) : List Char :=
  if c.toNat < 0x80 then [c.toUpper]
  else match findEntry (fun entry => (entry.1, entry.1)) longUpperForms c.toNat with
    | some entry => entry.2.map Char.ofNat
    | none => [(caseImage upperRuns c).getD c]

/-- The lower-case counterpart, where it is one character. -/
def foldCase (c : Char) : Char :=
  match lowerForm c with
  | [l] => l
  | _ => c

def raiseCase (c : Char) : Char :=
  match upperForm c with
  | [u] => u
  | _ => c

def meetsCased (cs : List Char) : Bool :=
  match cs.dropWhile isCaseIgnorable with
  | [] => false
  | c :: _ => isCased c

/-- The lower-case text, last character first: `before` is what was read, last character first. -/
def lowerOnto (before out : List Char) : List Char → List Char
  | [] => out
  | c :: rest =>
    let form :=
      if c == 'Σ' then [if meetsCased before && !meetsCased rest then 'ς' else 'σ']
      else lowerForm c
    lowerOnto (c :: before) (form.reverse ++ out) rest

def lowerText (cs : List Char) : List Char := (lowerOnto [] [] cs).reverse

def upperText (cs : List Char) : List Char := cs.flatMap upperForm

end RegexInsight
