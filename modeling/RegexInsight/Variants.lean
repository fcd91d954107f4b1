import RegexInsight.Regex
import RegexInsight.Text

/-! Small changes to a text that matches: some that a pattern would be expected to accept, and some
that make the text look wrong. -/
namespace RegexInsight

/-- What a pattern looks like it deals with. This decides which changes make sense. -/
structure PatternTraits where
  allowsWhitespace : Bool
  digitClass : Bool
  wordClass : Bool
  hyphen : Bool
  dot : Bool
  colon : Bool
  fullyAnchored : Bool
deriving DecidableEq, Repr, Inhabited

def ParsedPattern.traits (p : ParsedPattern) : PatternTraits :=
  let source := p.source.toList
  let holds := fun (part : String) => holdsText part.toList source
  { allowsWhitespace := holds "\\s" || source.contains ' '
    digitClass := holds "\\d" || holds "0-9"
    wordClass := holds "\\w" || holds "a-z" || holds "A-Z"
    hyphen := source.contains '-'
    dot := holds "\\."
    colon := source.contains ':'
    fullyAnchored :=
      p.pattern.elements.any Element.isStartAnchor && p.pattern.elements.any Element.isEndAnchor }

structure Variant where
  text : List Char
  edit : String
deriving DecidableEq, Repr, Inhabited

namespace Variant

/-- Capital letters at even places and small ones at odd places. -/
def alternatingCase (cs : List Char) : List Char :=
  cs.zipIdx.flatMap fun (c, i) => if i % 2 = 0 then upperForm c else lowerForm c

def replaceChar (old : Char) (new cs : List Char) : List Char :=
  cs.flatMap fun c => if c == old then new else [c]

def replaceFirst? (p : Char → Bool) (new cs : List Char) : Option (List Char) :=
  match cs.dropWhile (!p ·) with
  | [] => none
  | _ :: rest => some (cs.takeWhile (!p ·) ++ new ++ rest)

def tolerable (t : PatternTraits) (seed : List Char) : List Variant :=
  (if t.allowsWhitespace then
    [⟨' ' :: seed, "a leading space"⟩, ⟨seed ++ [' '], "a trailing space"⟩] ++
      (if seed.contains ' ' then
        [⟨replaceChar ' ' [' ', ' '] seed, "doubled internal spaces"⟩]
      else [])
  else []) ++
  (if seed.any isAlphabetic then
    [⟨upperText seed, "upper case"⟩, ⟨lowerText seed, "lower case"⟩,
      ⟨alternatingCase seed, "alternating case"⟩]
  else []) ++
  (if t.hyphen && seed.contains '-' then
    [⟨replaceChar '-' ['_'] seed, "underscores instead of hyphens"⟩] else []) ++
  (if t.dot && seed.contains '.' then
    [⟨replaceChar '.' ['-'] seed, "hyphens instead of dots"⟩] else []) ++
  (if t.colon && seed.contains ':' then
    [⟨replaceChar ':' ['-'] seed, "hyphens instead of colons"⟩] else []) ++
  (if 2 ≤ seed.length then [⟨seed.dropLast, "the last character removed"⟩] else []) ++
  (if 3 ≤ seed.length then
    [⟨seed ++ seed.getLast?.toList, "the last character repeated"⟩] else [])

def intolerable (t : PatternTraits) (seed : List Char) : List Variant :=
  let replaced := fun (p : Char → Bool) (new : List Char) (edit : String) =>
    ((replaceFirst? p new seed).map fun text => (⟨text, edit⟩ : Variant)).toList
  [⟨seed ++ [' '], "a trailing space appended"⟩, ⟨seed ++ ['\t'], "a trailing tab appended"⟩,
    ⟨seed ++ ['§'], "a stray symbol appended"⟩] ++
  (if t.digitClass then
    replaced Char.isDigit ['x'] "its first digit replaced by a letter" ++
      [⟨seed ++ ['x'], "a letter appended"⟩]
  else []) ++
  (if t.wordClass then
    ⟨seed ++ ['!'], "an exclamation mark appended"⟩ ::
      replaced isAlphabetic ['!'] "its first letter replaced by '!'"
  else []) ++
  (if t.dot then replaced (· == '.') ['.', '.'] "a doubled dot" else []) ++
  (if t.hyphen then replaced (· == '-') ['-', '-'] "a doubled hyphen" else []) ++
  (if t.colon then replaced (· == ':') [':', ':'] "a doubled colon" else []) ++
  (if t.fullyAnchored then []
  else
    [⟨['x', 'x', '_'] ++ seed ++ ['_', 'x', 'x'], "unrelated text around it"⟩,
      ⟨'\x7b' :: seed ++ ['\x7d'], "brace delimiters around it"⟩])

/-- Adds a variant to a list that is not full, unless its text is the seed or is there already. -/
def add (cap : Nat) (seed : List Char) (kept : List Variant) (v : Variant) : List Variant :=
  if cap ≤ kept.length || v.text == seed || kept.any (·.text == v.text) then kept else kept ++ [v]

def keep (cap : Nat) (seed : List Char) (vs : List Variant) : List Variant :=
  vs.foldl (add cap seed) []

def maxShouldMatch : Nat := 8

def maxShouldNotMatch : Nat := 10

def shouldMatch (seed : List Char) (t : PatternTraits) : List Variant :=
  keep maxShouldMatch seed (tolerable t seed)

def shouldNotMatch (seed : List Char) (t : PatternTraits) : List Variant :=
  keep maxShouldNotMatch seed (intolerable t seed)

end Variant
end RegexInsight
