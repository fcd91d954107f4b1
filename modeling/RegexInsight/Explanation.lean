import RegexInsight.Tree
import RegexInsight.Text

/-! A pattern in words: how it is framed, one line for each of its parts, and what its flags and
anchors demand. -/
namespace RegexInsight

structure Explanation where
  summary : List String
  components : List String
  constraints : List String
deriving DecidableEq, Repr, Inhabited

namespace Explanation

def maxInnerItems : Nat := 3

def literalChar (c : Char) : List Char :=
  if c == '\n' then ['\\', 'n']
  else if c == '\r' then ['\\', 'r']
  else if c == '\t' then ['\\', 't']
  else if c == '\x0c' then ['\\', 'f']
  else if c == '\x0b' then ['\\', 'v']
  else if c == '\x00' then ['\\', '0']
  else if isControl c then
    ['\\', 'u', '\x7b'] ++ (hexNumeral 4 c.toNat).map Char.toUpper ++ ['\x7d']
  else [c]

def literalLine (run : List Char) : String :=
  "Literal \"" ++ String.ofList (run.flatMap literalChar) ++ "\""

/-- The line of a run that is given last character first, none if it is empty. -/
def runLine (run : List Char) : List String :=
  if run.isEmpty then [] else [literalLine run.reverse]

def setLine (flags : Flags) (s : CharSet) : String :=
  match s.kind, s.negate with
  | .dot, _ => if flags.dotAll then "Any character" else "Any character except line breaks"
  | .digit, false => "Digit (0-9)"
  | .digit, true => "Non-digit character"
  | .word, false => "Word character (letter, digit, underscore)"
  | .word, true => "Non-word character"
  | .space, false => "Whitespace character"
  | .space, true => "Non-whitespace character"
  | .property name value, negate =>
    let property := match value with
      | some value => name ++ "=" ++ value
      | none => name
    if negate then "Character without Unicode property " ++ property
    else "Character with Unicode property " ++ property

def memberText (flags : Flags) (m : ClassMember) : String :=
  match m.kind with
  | .char value => String.ofList (literalChar value)
  | .range min max => String.ofList (literalChar min ++ ['-'] ++ literalChar max)
  | .set s => (setLine flags s).map Char.toLower

def classLine (flags : Flags) (negate : Bool) (members : List ClassMember) : String :=
  let shown := ", ".intercalate (members.map (memberText flags))
  match negate, members.isEmpty with
  | false, true => "Nothing (empty class never matches)"
  | true, true => "Any character"
  | false, false => "One of: " ++ shown
  | true, false => "Any character except: " ++ shown

def anchorLine (flags : Flags) (a : Anchor) : String :=
  let scope := if flags.multiline then "line" else "string"
  match a with
  | .start => s!"Start of {scope} anchor"
  | .stop => s!"End of {scope} anchor"
  | .wordBoundary => "Word boundary"
  | .nonWordBoundary => "Non-word boundary"

def referenceLine : Reference → String
  | .index n => s!"Matches same text as Capturing Group #{n}"
  | .name name => s!"Matches same text as Capturing Group '{name}'"

def timesText : Nat → Option Nat → String
  | 0, some 1 => "optionally"
  | 0, none => "zero or more times"
  | 1, none => "one or more times"
  | min, none => s!"between {min} and unlimited times"
  | min, some max =>
    if min = max then s!"exactly {min} times" else s!"between {min} and {max} times"

def branchLine (lines : List String) : String :=
  if lines.isEmpty then "Empty string" else ", ".intercalate lines

def innerText (branches : List (List String)) : String :=
  let items := match branches with
    | [only] => only
    | many => many.map branchLine
  let shown :=
    if maxInnerItems < items.length then items.take maxInnerItems ++ ["…"] else items
  if items.isEmpty then "Empty string"
  else (if 1 < branches.length then " | " else ", ").intercalate shown

def groupLine (capture : Option Capture) (inner : String) : String :=
  match capture with
  | some ⟨_, some name⟩ => s!"Capturing Group '{name}' ({inner})"
  | some ⟨index, none⟩ => s!"Capturing Group #{index} ({inner})"
  | none => s!"Non-capturing group ({inner})"

def lookLine (direction : Direction) (negate : Bool) (inner : String) : String :=
  let polarity := if negate then "Negative" else "Positive"
  let name := match direction with
    | .ahead => "look-ahead"
    | .behind => "look-behind"
  s!"{polarity} {name} ({inner})"

mutual

def elementLine (flags : Flags) : Element → String
  | .char _ value => literalLine [value]
  | .set _ s => setLine flags s
  | .bracket _ negate members => classLine flags negate members
  | .group _ capture branches => groupLine capture (innerText (branchesLines flags branches))
  | .quantifier _ min max greedy inner =>
    elementLine flags inner ++ ", " ++ timesText min max ++ (if greedy then "" else " (lazy)")
  | .anchor _ a => anchorLine flags a
  | .look _ direction negate branches =>
    lookLine direction negate (innerText (branchesLines flags branches))
  | .backreference _ target => referenceLine target

/-- One line for each element, except that neighbouring characters share one. `run` holds the
characters that were read last, the newest first. -/
def elementsLines (flags : Flags) (run : List Char) : List Element → List String
  | [] => runLine run
  | .char _ value :: es => elementsLines flags (value :: run) es
  | e :: es => runLine run ++ elementLine flags e :: elementsLines flags [] es

def branchLines (flags : Flags) : Branch → List String
  | .mk _ elements => elementsLines flags [] elements

def branchesLines (flags : Flags) : List Branch → List (List String)
  | [] => []
  | b :: bs => branchLines flags b :: branchesLines flags bs

end

def componentLines (flags : Flags) (p : Pattern) : List String :=
  match branchesLines flags p.branches with
  | [] | [[]] => ["Empty pattern"]
  | [only] => only
  | many =>
    s!"Matches one of {many.length} alternatives:" ::
      many.zipIdx.map fun (lines, i) => toString (i + 1) ++ ". " ++ branchLine lines

def framingLine : List Branch → String
  | [] => "Matches the empty string."
  | [only] =>
    let count := only.elements.length
    let ending := if count = 1 then "" else "s"
    if count = 0 then "Matches the empty string."
    else s!"Matches a single sequence of {count} element{ending}."
  | many => s!"Matches any one of {many.length} alternatives."

def summaryLines (flags : Flags) (p : Pattern) : List String :=
  framingLine p.branches ::
    (if flags.ignoreCase then ["Letters are matched without regard to case."] else []) ++
    (if flags.global then ["Searches for every match in the input, not just the first."] else [])

def flagLine : Char → String
  | 'g' => "Global (g): finds all matches instead of stopping at the first"
  | 'i' => "Case-insensitive (i): upper and lower case letters are treated alike"
  | 'm' => "Multiline (m): ^ and $ match at line boundaries"
  | 's' => "Dot-all (s): . also matches line terminators"
  | 'u' => "Unicode (u): enables code point escapes and property classes"
  | _ => "Sticky (y): matching starts exactly at the current position"

def anchoringLine (p : Pattern) : List String :=
  match p.branches with
  | [] => []
  | first :: _ =>
    match first.elements.head?.any Element.isStartAnchor,
        first.elements.getLast?.any Element.isEndAnchor with
    | true, true => ["Anchored: the match must cover the whole input"]
    | true, false => ["Start-anchored: the match must begin at the start"]
    | false, true => ["End-anchored: the match must finish at the end"]
    | false, false => []

def constraintLines (flags : Flags) (p : Pattern) : List String :=
  (flags.entries.filter (·.2)).map (fun (letter, _) => flagLine letter) ++ anchoringLine p

end Explanation

def Pattern.explain (p : Pattern) (flags : Flags) : Explanation :=
  ⟨Explanation.summaryLines flags p, Explanation.componentLines flags p,
    Explanation.constraintLines flags p⟩

end RegexInsight
