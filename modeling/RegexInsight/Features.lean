import RegexInsight.Regex
import RegexInsight.Text

/-! What can be seen in a pattern that hints at its purpose. Some signals come from the tree, others
from the shape of the source text. The latter are hints, not proofs of what the pattern accepts. -/
namespace RegexInsight

structure Features where
  startAnchor : Bool
  endAnchor : Bool
  wordBoundary : Bool
  alternation : Bool
  lookaround : Bool
  captureGroups : Nat
  namedGroups : Nat
  atSign : Bool
  colon : Bool
  /-- Colons of the source text, those of `(?:` left out. -/
  colonCount : Nat
  slash : Bool
  backslash : Bool
  escapedDot : Bool
  hyphen : Bool
  underscore : Bool
  plus : Bool
  question : Bool
  openParen : Bool
  letterT : Bool
  zoneMarker : Bool
  digitClass : Bool
  hexClass : Bool
  wordClass : Bool
  quantified : Bool
  braceQuantifier : Bool
  /-- The counts of quantifiers in braces with equal bounds, ascending. -/
  exactCounts : List Nat
  http : Bool
  uuidShape : Bool
  semverShape : Bool
  ipv4Shape : Bool
  isoDateShape : Bool
  timeShape : Bool
  logLevelWords : Nat
  unicodeProperty : Bool
deriving DecidableEq, Repr, Inhabited

namespace Features

def fullyAnchored (f : Features) : Bool := f.startAnchor && f.endAnchor

def hasCount (f : Features) (n : Nat) : Bool := f.exactCounts.contains n

end Features

/-- A hint in a source text: texts that follow each other directly, each given by its spellings. -/
abbrev Shape := List (List String)

namespace Shape

/-- What follows the shape if it stands at the start of a text. No spelling continues another one of
the same list, so at most one of them fits. -/
def after? : Shape → List Char → Option (List Char)
  | [], cs => some cs
  | spellings :: shape, cs =>
    match spellings.find? fun s => s.toList.isPrefixOf cs with
    | none => none
    | some s => after? shape (cs.drop s.length)

def find? (shape : Shape) : List Char → Option (List Char)
  | [] => shape.after? []
  | c :: cs =>
    match shape.after? (c :: cs) with
    | some rest => some rest
    | none => find? shape cs

def inOrder : List Shape → List Char → Bool
  | [], _ => true
  | shape :: shapes, cs =>
    match shape.find? cs with
    | none => false
    | some rest => inOrder shapes rest

def inSomeLine (shapes : List Shape) (cs : List Char) : Bool :=
  (splitText (· == '\n') cs).any (inOrder shapes)

def digit : List String := ["\\d", "[0-9]"]

def dash : List String := ["\\-", "-"]

/-- Counts of 8, 4 and 12, the first two with a dash behind them. -/
def uuid : List Shape :=
  [[["\x7b8\x7d"], dash], [["\x7b4\x7d"], dash], [["\x7b12\x7d"]]]

def semver : Shape :=
  [digit, ["+", "*"], ["\\."], digit, ["+", "*"], ["\\."], digit, ["+", "*"]]

/-- Up to three digits with a literal dot before or behind them, or the last block of 0 to 255. -/
def ipv4 : List Shape :=
  [[["\\d\x7b1,3\x7d\\.\\d\x7b1,3\x7d"]], [["\\.\\d\x7b1,3\x7d)\x7b3\x7d"]],
    [["\\d\x7b1,3\x7d\\.)\x7b3\x7d"]], [["25[0-5]"]]]

def isoDate : List Shape := [[digit, ["\x7b4\x7d"], dash], [["-"]]]

def time : Shape :=
  [["\\d\x7b2\x7d", "\\d\\d", "2[0-3]", "[01]\\d", "[0-1][0-9]"], [":"],
    ["\\d\x7b2\x7d", "\\d\\d", "[0-5]\\d", "[0-5][0-9]"]]

end Shape

def logLevels : List String :=
  ["trace", "debug", "info", "notice", "warn", "warning", "error", "err", "fatal", "critical",
    "crit"]

/-- The words of a text that name log levels, in small letters and each one once. A word is as long
a run of word characters as there is. -/
def logLevelsIn (cs : List Char) : List String :=
  let words := (splitText (fun c => !isWordLetter c) cs).map fun w =>
    String.ofList (w.map Char.toLower)
  logLevels.filter words.contains

/-- The elements and class members that stand for one character, and whether a dot among them is
marked as a literal one. -/
def literalsOf (p : ParsedPattern) : List (Char × Bool) :=
  p.pattern.nodes.filterMap fun
    | .element (.char span value) =>
      some (value, value == '.' && (p.raw span).head? == some '\\')
    | .member ⟨_, .char value⟩ => some (value, value == '.')
    | _ => none

def setsOf (p : ParsedPattern) : List SetKind :=
  p.pattern.nodes.filterMap fun
    | .element (.set _ ⟨kind, false⟩) => some kind
    | .member ⟨_, .set ⟨kind, false⟩⟩ => some kind
    | _ => none

def classRangesOf (p : ParsedPattern) : List (List (Char × Char)) :=
  p.pattern.elements.filterMap fun
    | .bracket _ false members => some (members.filterMap fun m =>
        match m.kind with
        | .range min max => some (min, max)
        | _ => none)
    | _ => none

def coversRange (ranges : List (Char × Char)) (low high : Char) : Bool :=
  ranges.any fun (min, max) => min ≤ low && high ≤ max

def coversDigits (ranges : List (Char × Char)) : Bool := coversRange ranges '0' '9'

def coversLetters (ranges : List (Char × Char)) : Bool :=
  coversRange ranges 'a' 'z' || coversRange ranges 'A' 'Z'

def coversHexLetters (ranges : List (Char × Char)) : Bool :=
  (coversRange ranges 'a' 'f' || coversRange ranges 'A' 'F') && !coversLetters ranges

def bracedBoundsOf (p : ParsedPattern) : List (Nat × Option Nat) :=
  p.pattern.elements.filterMap fun
    | .quantifier span min max _ inner =>
      if (p.raw ⟨inner.span.stop, span.stop⟩).head? == some '\x7b' then some (min, max) else none
    | _ => none

def insertAscending (n : Nat) : List Nat → List Nat
  | [] => [n]
  | m :: ms =>
    if n < m then n :: m :: ms
    else if n = m then m :: ms
    else m :: insertAscending n ms

namespace ParsedPattern

def features (p : ParsedPattern) : Features :=
  let source := p.source.toList
  let nodes := p.pattern.nodes
  let elements := p.pattern.elements
  let literals := literalsOf p
  let hasLiteral := fun c => literals.any (·.1 == c)
  let sets := setsOf p
  let ranges := classRangesOf p
  let braced := bracedBoundsOf p
  let isAnchor := fun a => elements.any fun
    | .anchor _ b => a == b
    | _ => false
  let captures := elements.filterMap fun
    | .group _ capture _ => capture
    | _ => none
  { startAnchor := isAnchor .start
    endAnchor := isAnchor .stop
    wordBoundary := isAnchor .wordBoundary || isAnchor .nonWordBoundary
    alternation := nodes.any Node.isAlternation
    lookaround := elements.any fun
      | .look .. => true
      | _ => false
    captureGroups := captures.length
    namedGroups := captures.countP (·.name.isSome)
    atSign := hasLiteral '@'
    colon := hasLiteral ':'
    colonCount := (replaceText "(?:".toList [] source).count ':'
    slash := hasLiteral '/'
    backslash := hasLiteral '\\'
    escapedDot := literals.contains ('.', true)
    hyphen := hasLiteral '-'
    underscore := hasLiteral '_'
    plus := hasLiteral '+'
    question := hasLiteral '?'
    openParen := hasLiteral '('
    letterT := hasLiteral 'T'
    zoneMarker := hasLiteral 'Z'
    digitClass := sets.contains .digit || ranges.any coversDigits
    hexClass :=
      (sets.any fun
        | .property name _ => name == "ASCII_Hex_Digit" || name == "AHex"
        | _ => false) ||
      ranges.any fun r => coversDigits r && coversHexLetters r
    wordClass := sets.contains .word || ranges.any fun r => coversDigits r && coversLetters r
    quantified := elements.any Element.isQuantifier
    braceQuantifier := !braced.isEmpty
    exactCounts := (braced.filterMap fun (min, max) => if max = some min then max else none).foldr
      insertAscending []
    http := holdsText "http".toList (source.map Char.toLower)
    uuidShape := Shape.inSomeLine Shape.uuid source
    semverShape := (Shape.find? Shape.semver source).isSome
    ipv4Shape := Shape.ipv4.any fun s => (s.find? source).isSome
    isoDateShape := Shape.inSomeLine Shape.isoDate source
    timeShape := (Shape.find? Shape.time source).isSome
    logLevelWords := (logLevelsIn (replaceText "\\b".toList " ".toList source)).length
    unicodeProperty :=
      holdsText "\\p\x7b".toList source || holdsText "\\P\x7b".toList source }

end ParsedPattern
end RegexInsight
