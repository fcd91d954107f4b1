import RegexInsight.Binary64
import RegexInsight.Features

/-! A guess at what a pattern is meant for. Each label collects points for the features that speak
for it, and the label with the most points wins unless they are too few. -/
namespace RegexInsight

inductive IntentLabel where
  | general
  | emailLike
  | urlLike
  | uuid
  | ipv4
  | ipv6
  | isoDate
  | time24h
  | timestamp
  | semver
  | hexString
  | alphanumericId
  | logLevel
  | phoneLike
  | filePath
deriving DecidableEq, Repr, Inhabited

namespace IntentLabel

def key : IntentLabel → String
  | general => "general"
  | emailLike => "email-like"
  | urlLike => "url-like"
  | uuid => "uuid"
  | ipv4 => "ipv4"
  | ipv6 => "ipv6"
  | isoDate => "iso-date"
  | time24h => "time24h"
  | timestamp => "timestamp"
  | semver => "semver"
  | hexString => "hex-string"
  | alphanumericId => "alphanumeric-id"
  | logLevel => "log-level"
  | phoneLike => "phone-like"
  | filePath => "file-path"

def displayName : IntentLabel → String
  | general => "general pattern"
  | emailLike => "email-like address"
  | urlLike => "URL-like string"
  | uuid => "UUID"
  | ipv4 => "IPv4 address"
  | ipv6 => "IPv6 address"
  | isoDate => "ISO date"
  | time24h => "24-hour time"
  | timestamp => "timestamp"
  | semver => "semantic version"
  | hexString => "hex string"
  | alphanumericId => "alphanumeric identifier"
  | logLevel => "log-level token"
  | phoneLike => "phone-like number"
  | filePath => "file path"

/-- The labels that are weighed, the earlier one being preferred. -/
def candidates : List IntentLabel :=
  [emailLike, urlLike, uuid, ipv4, ipv6, isoDate, time24h, timestamp, semver, hexString,
    alphanumericId, logLevel, phoneLike, filePath]

/-- What speaks for and against a label: whether a signal is there, its points, and the reason that
is given for it. -/
def rules (f : Features) : IntentLabel → List (Bool × Int × String)
  | general => []
  | emailLike =>
    [(f.atSign, 45, "Contains a literal '@' separator"),
      (f.escapedDot, 15, "Contains a literal dot, as in a domain"),
      (f.fullyAnchored, 10, "Anchored to match a whole value"),
      (f.wordBoundary, 5, "Uses word boundaries"),
      (f.alternation, -5, "")]
  | urlLike =>
    [(f.colon && f.slash, 35, "Contains ':' and '/' like a URL scheme"),
      (f.http, 25, "Mentions http"),
      (f.escapedDot, 10, "Contains a literal dot, as in a host name"),
      (f.atSign, -10, "")]
  | uuid =>
    [(f.uuidShape, 60, "Groups of 8-4-4-4-12 characters"),
      (f.hexClass, 15, "Uses a hexadecimal character class"),
      (f.hasCount 8 && f.hasCount 4 && f.hasCount 12, 10, "Repetition counts of 8, 4 and 12"),
      (f.hyphen, 5, "Uses hyphen separators")]
  | ipv4 =>
    [(f.ipv4Shape, 55, "Dot-separated groups of 1-3 digits"),
      (f.digitClass, 10, "Uses digit classes"),
      (f.escapedDot, 10, "Contains literal dots"),
      (f.colon, -20, "")]
  | ipv6 =>
    [(2 ≤ f.colonCount, 40, "Contains several ':' separators"),
      (5 ≤ f.colonCount, 15, "Colon count fits an IPv6 address"),
      (f.hexClass, 20, "Uses a hexadecimal character class"),
      (f.atSign || f.slash, -15, "")]
  | isoDate =>
    [(f.isoDateShape, 55, "Four digits followed by hyphenated parts"),
      (f.hyphen, 10, "Uses hyphen separators"),
      (f.hasCount 4 && f.hasCount 2, 10, "Repetition counts of 4 and 2"),
      (f.colon, -15, "")]
  | time24h =>
    [(f.timeShape, 50, "Two-digit parts separated by ':'"),
      (f.colon, 15, "Contains a ':' separator"),
      (f.hasCount 2, 5, "Repetition count of 2"),
      (f.hyphen, -10, "")]
  | timestamp =>
    [(f.isoDateShape && f.timeShape, 60, "Combines a date and a time of day"),
      (f.letterT, 15, "Contains a 'T' date/time separator"),
      (f.zoneMarker || f.plus, 5, "Allows a time zone designator")]
  | semver =>
    [(f.semverShape, 60, "Three dot-separated numeric parts"),
      (f.escapedDot, 10, "Contains literal dots"),
      (f.hyphen, 5, "Allows a pre-release suffix"),
      (f.plus, 5, "Allows build metadata")]
  | hexString =>
    [(f.hexClass, 40, "Uses a hexadecimal character class"),
      (f.quantified, 10, "Repeats the hex class"),
      (f.fullyAnchored, 10, "Anchored to match a whole value"),
      (f.hyphen, -15, ""),
      (f.colon, -10, "")]
  | alphanumericId =>
    [(f.wordClass, 30, "Uses letter and digit classes"),
      (f.underscore || f.hyphen, 10, "Allows '_' or '-' separators"),
      (f.braceQuantifier, 10, "Constrains the length"),
      (f.fullyAnchored, 10, "Anchored to match a whole value"),
      (f.atSign, -20, ""),
      (f.escapedDot, -10, "")]
  | logLevel =>
    [(2 ≤ f.logLevelWords, 60, "Lists log level words"),
      (f.alternation, 15, "Alternates between fixed tokens"),
      (f.wordBoundary, 10, "Uses word boundaries")]
  | phoneLike =>
    [(f.digitClass, 20, "Uses digit classes"),
      (f.hyphen, 15, "Uses hyphen separators"),
      (f.hasCount 3 && f.hasCount 4, 20, "Digit groups of 3 and 4 like a phone number"),
      (f.plus, 10, "Allows a '+' country prefix"),
      (f.openParen, 5, "Allows parentheses around an area code"),
      (f.fullyAnchored, 5, "Anchored to match a whole value"),
      (f.atSign, -20, ""),
      (f.escapedDot, -15, "")]
  | filePath =>
    [(f.slash || f.backslash, 35, "Contains path separators"),
      (f.escapedDot, 10, "Contains a literal dot, as in a file extension"),
      (f.colon && f.slash, -25, ""),
      (f.atSign, -10, "")]

end IntentLabel

structure Score where
  label : IntentLabel
  points : Int
  rationale : List String
deriving DecidableEq, Repr, Inhabited

namespace Score

def ofRules (label : IntentLabel) (rules : List (Bool × Int × String)) : Score :=
  let applied := rules.filter (·.1)
  ⟨label, applied.foldl (fun points rule => points + rule.2.1) 0,
    (applied.filter (0 < ·.2.1)).map (·.2.2)⟩

def clamped (s : Score) : Nat := min s.points.toNat 100

def all (f : Features) : List Score :=
  IntentLabel.candidates.map fun label => ofRules label (label.rules f)

/-- Keeps the better of two scores, the earlier one of equals. -/
def better (best : Option Score) (s : Score) : Option Score :=
  match best with
  | some b => if s.clamped ≤ b.clamped then some b else some s
  | none => some s

def pickBest? (scores : List Score) : Option Score := scores.foldl better none

end Score

namespace Confidence

def maximum : Binary64 := .ofRatio 9 10

def threshold : Binary64 := .ofRatio 6 10

def fallbackMaximum : Binary64 := .ofRatio 55 100

def share (points : Nat) : Binary64 := (Binary64.ofRatio points 100).mul (.ofRatio 6 10)

/-- The confidence that some points give: 0.35 and 0.006 a point, from 0 up to the maximum. -/
def ofPoints (points : Int) : Binary64 :=
  let base := Binary64.ofRatio 35 100
  let value := if 0 ≤ points then base.add (share points.natAbs) else base.sub (share points.natAbs)
  value.min maximum

end Confidence

structure Intent where
  label : IntentLabel
  confidence : Binary64
  rationale : List String
deriving DecidableEq, Repr, Inhabited

namespace Intent

def maxRationale : Nat := 3

def fallback (confidence : Binary64) : Intent :=
  ⟨.general, confidence.min Confidence.fallbackMaximum,
    ["No strong intent signals were found in the pattern"]⟩

def ofScores (scores : List Score) : Intent :=
  match Score.pickBest? scores with
  | none => fallback (Confidence.ofPoints 0)
  | some best =>
    let confidence := Confidence.ofPoints best.clamped
    if confidence.less Confidence.threshold then fallback confidence
    else
      let reasons := best.rationale.take maxRationale
      ⟨best.label, confidence,
        if reasons.isEmpty then ["Pattern structure resembles a " ++ best.label.displayName]
        else reasons⟩

end Intent

def ParsedPattern.intent (p : ParsedPattern) : Intent := .ofScores (Score.all p.features)

end RegexInsight
