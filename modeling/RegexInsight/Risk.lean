import RegexInsight.Binary64
import RegexInsight.Regex
import RegexInsight.Text

/-! Warnings about a pattern. The rules are heuristics, and each gives at most one warning, with the
places that it is about. A pattern that may take long to fail is tried on a text that nearly matches;
how long that took is given. -/
namespace RegexInsight

structure ProbeSettings where
  enabled : Bool
  thresholdMs : Nat
  stepLimit : Nat
deriving DecidableEq, Repr, Inhabited

namespace Probe

def fillerLength : Nat := 28

/-- A text that a repeated letter matches but for its last character. -/
def input : String := String.ofList (List.replicate fillerLength 'a' ++ ['!'])

def trial? (settings : ProbeSettings) (source : String) (flags : Flags) :
    Option (Unit → Except RunError Bool) :=
  match Regex.build source flags.withoutGlobal with
  | .error _ => none
  | .ok r => some fun _ =>
    { r with stepLimit := settings.stepLimit }.isMatch (Subject.ofString input)

/-- The time of the trial run if it counts: it came to an answer or was stopped by its limit. -/
def measure? (settings : ProbeSettings) (source : String) (flags : Flags) (elapsed : Nat) :
    Option Nat :=
  match trial? settings source flags with
  | none => none
  | some run =>
    match run () with
    | .ok _ | .error .stepLimit => some elapsed
    | .error .stuck => none

/-- Nanoseconds as milliseconds, by way of the seconds. Each operation is rounded. -/
def millis (elapsed : Nat) : Binary64 :=
  let whole := Binary64.ofRatio (elapsed / 1000000000) 1
  let part := Binary64.ofRatio (elapsed % 1000000000) 1000000000
  (whole.add part).mul (.ofRatio 1000 1)

def note? (settings : ProbeSettings) (source : String) (flags : Flags) (elapsed : Nat) :
    Option String :=
  let took := millis elapsed
  if settings.enabled && (Binary64.ofRatio settings.thresholdMs 1).less took then
    (measure? settings source flags elapsed).map fun _ =>
      let length := fillerLength + 1
      s!"A bounded probe on a {length}-character near-miss input took about {took.nearest} ms"
  else none

end Probe

inductive Severity where
  | info
  | low
  | medium
  | high
deriving DecidableEq, Repr, Inhabited

def Severity.name : Severity → String
  | info => "info"
  | low => "low"
  | medium => "medium"
  | high => "high"

inductive WarningId where
  | nestedQuantifiers
  | potentialBacktracking
  | ambiguousWildcard
  | unanchoredMismatch
  | dotallExpected
  | multilineAnchors
  | emptyAlternation
  | overbroadClass
  | redundantQuantifier
  | lookaroundComplexity
  | stickyGlobal
  | unicodeFlagMismatch
deriving DecidableEq, Repr, Inhabited

def WarningId.name : WarningId → String
  | nestedQuantifiers => "NESTED_QUANTIFIERS"
  | potentialBacktracking => "POTENTIAL_BACKTRACKING"
  | ambiguousWildcard => "AMBIGUOUS_WILDCARD"
  | unanchoredMismatch => "UNANCHORED_MISMATCH"
  | dotallExpected => "DOTALL_EXPECTED"
  | multilineAnchors => "MULTILINE_ANCHORS"
  | emptyAlternation => "EMPTY_ALTERNATION"
  | overbroadClass => "OVERBROAD_CLASS"
  | redundantQuantifier => "REDUNDANT_QUANTIFIER"
  | lookaroundComplexity => "LOOKAROUND_COMPLEXITY"
  | stickyGlobal => "STICKY_GLOBAL"
  | unicodeFlagMismatch => "UNICODE_FLAG_MISMATCH"

structure Evidence where
  spans : List Span
  examples : List String
  note : Option String
deriving DecidableEq, Repr, Inhabited

structure Warning where
  id : WarningId
  severity : Severity
  title : String
  message : String
  evidence : Option Evidence
deriving DecidableEq, Repr, Inhabited

/-- What is known besides the pattern. Without settings there is no trial run; `elapsed` is how many
nanoseconds one takes. -/
structure RiskContext where
  sample : Option String
  probe : Option ProbeSettings
  elapsed : Nat
deriving DecidableEq, Repr, Inhabited

def Warning.about? (id : WarningId) (severity : Severity) (title message : String)
    (spans : List Span) (examples : List String) : Option Warning :=
  if spans.isEmpty then none else some ⟨id, severity, title, message, some ⟨spans, examples, none⟩⟩

def dropRepeats : List String → List String
  | [] => []
  | [s] => [s]
  | s :: t :: rest => if s = t then dropRepeats (t :: rest) else s :: dropRepeats (t :: rest)

namespace Element.Repetition

def isUnbounded (r : Repetition) : Bool := r.max.isNone

def isGreedyUnbounded (r : Repetition) : Bool := r.greedy && r.isUnbounded

def repeatsDot (r : Repetition) : Bool := r.inner.asSet?.any CharSet.isDot

def isNested (r : Repetition) : Bool := !r.inner.repetitions.isEmpty

/-- Whether what is repeated can match the same text in several ways. -/
def isAmbiguous (r : Repetition) : Bool :=
  let inside := r.inner.repetitions
  inside.any (fun q => q.isGreedyUnbounded && q.repeatsDot) || inside.any isUnbounded ||
    ((Node.element r.inner).walk.any Node.isAlternation && !inside.isEmpty)

end Element.Repetition

namespace ParsedPattern

def repetitions (p : ParsedPattern) : List Element.Repetition :=
  p.pattern.elements.filterMap Element.repetition?

def anchorSpans (p : ParsedPattern) (which : Anchor → Bool) : List Span :=
  p.pattern.elements.filterMap fun
    | .anchor span a => if which a then some span else none
    | _ => none

def nestedQuantifiers (p : ParsedPattern) : Option Warning :=
  Warning.about? .nestedQuantifiers .high "Nested quantifiers"
    "A repeated group contains another quantifier. Inputs that almost match can trigger heavy backtracking."
    ((p.repetitions.filter (·.isNested)).map (·.span)) []

def ambiguousSpans (p : ParsedPattern) : List Span :=
  (p.repetitions.filter fun r => r.isGreedyUnbounded && r.isAmbiguous).map (·.span)

/-- Graver if nested quantifiers were found before. -/
def potentialBacktracking (p : ParsedPattern) (context : RiskContext) (nested : Bool) :
    Option Warning :=
  if p.ambiguousSpans.isEmpty then none
  else
    let note := context.probe.bind fun settings =>
      Probe.note? settings p.source p.flags context.elapsed
    some ⟨.potentialBacktracking, if nested then .high else .medium,
      "Potential catastrophic backtracking",
      "An unbounded repetition wraps a sub-pattern that can match the same text in several ways, so inputs that fail to match may take exponential time.",
      some ⟨p.ambiguousSpans, [], note⟩⟩

def ambiguousWildcard (p : ParsedPattern) : Option Warning :=
  Warning.about? .ambiguousWildcard .medium "Ambiguous wildcard"
    "A greedy '.' repetition can consume more text than intended and may run past the field you expect. A narrower class or a lazy quantifier is often safer."
    ((p.repetitions.filter fun r => r.greedy && r.repeatsDot && r.max.all (r.min < ·)).map (·.span))
    []

/-- With the global flag a pattern is meant to find parts of a text, and may be anchored at one end. -/
def unanchoredMismatch (p : ParsedPattern) : Option Warning :=
  let starts := p.anchorSpans (· == .start)
  let stops := p.anchorSpans (· == .stop)
  if p.flags.global || starts.isEmpty == stops.isEmpty then none
  else if stops.isEmpty then
    Warning.about? .unanchoredMismatch .low "Partial anchoring"
      "The pattern is anchored at the start but not at the end, so trailing text can still be accepted. If the whole value is meant to be validated, a '$' is likely missing."
      starts []
  else
    Warning.about? .unanchoredMismatch .low "Partial anchoring"
      "The pattern is anchored at the end but not at the start, so leading text can still be accepted. If the whole value is meant to be validated, a '^' is likely missing."
      stops []

def dotallExpected (p : ParsedPattern) (context : RiskContext) : Option Warning :=
  if p.flags.dotAll || !context.sample.any (·.toList.contains '\n') then none
  else
    Warning.about? .dotallExpected .low "Dot-all flag may be expected"
      "The sample contains line breaks, but '.' does not match them unless the s flag is set. Matches may stop at the end of a line."
      ((p.pattern.elements.filter fun e => e.asSet?.any CharSet.isDot).map Element.span) []

def multilineAnchors (p : ParsedPattern) : Option Warning :=
  if !p.flags.multiline then none
  else
    Warning.about? .multilineAnchors .info "Multiline anchors"
      "With the m flag, ^ and $ match at every line boundary. A multi-line input can pass even if only one of its lines matches."
      (p.anchorSpans fun a => a == .start || a == .stop) []

def emptyAlternation (p : ParsedPattern) : Option Warning :=
  Warning.about? .emptyAlternation .medium "Empty alternative"
    "One branch of an alternation is empty, so the alternation can match the empty string. This is likely a stray '|'."
    ((p.pattern.nodes.filter fun n => n.branches?.any fun branches =>
      1 < branches.length && branches.any (·.elements.isEmpty)).map Node.span) []

def complementPairs : List String :=
  ["\\s\\S", "\\S\\s", "\\d\\D", "\\D\\d", "\\w\\W", "\\W\\w"]

def complementPair? (raw : List Char) : Option String :=
  complementPairs.find? fun pair => holdsText pair.toList raw

def overbroadClass (p : ParsedPattern) : Option Warning :=
  let found := p.pattern.elements.filterMap fun
    | .bracket span _ _ => (complementPair? (p.raw span)).map fun pair => (span, "[" ++ pair ++ "]")
    | _ => none
  Warning.about? .overbroadClass .info "Overbroad character class"
    "A class combines a set with its complement, so it likely matches any character, line breaks included."
    (found.map (·.1)) (dropRepeats (found.map (·.2)))

def shorthand? (counted : String) : Option String :=
  if counted = "\x7b0,\x7d" then some "*"
  else if counted = "\x7b1,\x7d" then some "+"
  else if counted = "\x7b0,1\x7d" then some "?"
  else none

/-- The source text of a quantifier, its lazy mark left out. -/
def countedText (p : ParsedPattern) (r : Element.Repetition) : String :=
  let suffix := p.raw ⟨r.inner.span.stop, r.span.stop⟩
  String.ofList (if suffix.getLast? == some '?' then suffix.dropLast else suffix)

def redundantQuantifier (p : ParsedPattern) : Option Warning :=
  let found := p.repetitions.filterMap fun r =>
    let counted := p.countedText r
    (shorthand? counted).map fun short => (r.span, counted ++ " → " ++ short)
  Warning.about? .redundantQuantifier .info "Redundant quantifier"
    "A counted quantifier is equivalent to a shorter form (*, + or ?), which may be easier to read."
    (found.map (·.1)) (dropRepeats (found.map (·.2)))

def lookaroundComplexity (p : ParsedPattern) : Option Warning :=
  Warning.about? .lookaroundComplexity .info "Lookaround"
    "Lookarounds can make a pattern harder to read, and lookbehind may not be supported by every regex engine."
    (p.pattern.elements.filterMap fun
      | .look span _ _ _ => some span
      | _ => none) []

def stickyGlobal (p : ParsedPattern) : Option Warning :=
  if p.flags.sticky && p.flags.global then
    some ⟨.stickyGlobal, .info, "Sticky and global flags combined",
      "With both y and g set, repeated matching can stop at the first position that does not match, which may skip later matches.",
      none⟩
  else none

def unicodeEscapes : List String := ["\\p\x7b", "\\P\x7b", "\\u\x7b"]

def unicodeFlagMismatch (p : ParsedPattern) : Option Warning :=
  let examples := (unicodeEscapes.filter fun e => holdsText e.toList p.source.toList).map fun e =>
    e ++ "…\x7d"
  if p.flags.unicode || examples.isEmpty then none
  else
    some ⟨.unicodeFlagMismatch, .low, "Unicode escapes without the u flag",
      "Property or code point escapes are likely read as plain characters unless the u flag is set.",
      some ⟨[], examples, none⟩⟩

def risks (p : ParsedPattern) (context : RiskContext) : List Warning :=
  let nested := p.nestedQuantifiers
  [nested, p.potentialBacktracking context nested.isSome, p.ambiguousWildcard,
    p.unanchoredMismatch, p.dotallExpected context, p.multilineAnchors, p.emptyAlternation,
    p.overbroadClass, p.redundantQuantifier, p.lookaroundComplexity, p.stickyGlobal,
    p.unicodeFlagMismatch].filterMap id

end ParsedPattern

end RegexInsight
