import RegexInsight.Explanation
import RegexInsight.Intent
import RegexInsight.Settings

/-! All that is said of one pattern, and of its matches in a sample if there is one, and the same as a
JSON text with two spaces for each level. The fields stand in a fixed order. -/
namespace RegexInsight

/-- The matches in a sample. With an error there are none. -/
structure Preview where
  found : List MatchRecord
  truncated : Bool
  error : Option String
deriving DecidableEq, Repr, Inhabited

structure Report where
  source : String
  flags : Flags
  explanation : Explanation
  intent : Intent
  preview : Option Preview
  warnings : List Warning
  estimate : Option Estimate
  features : FeatureSettings

def RunError.message : RunError → String
  | stepLimit => stepLimitMessage
  | stuck => "Machine stuck"

namespace ParsedPattern

def preview (p : ParsedPattern) (settings : ExecutionSettings) (sample : Subject) : Preview :=
  match p.regex p.flags with
  | .error e => ⟨[], false, some e.message⟩
  | .ok r =>
    match { r with stepLimit := settings.stepLimit }.collect sample settings.maxMatches with
    | .error e => ⟨[], false, some e.message⟩
    | .ok found => ⟨found.found, found.truncated, none⟩

/-- The estimate from the matches of a preview. Without them nothing is tried. -/
def estimateFrom (p : ParsedPattern) (settings : EstimatorSettings) (sample : Subject)
    (preview : Preview) : Estimate :=
  match preview.error with
  | none => p.estimate sample preview.found settings
  | some error =>
    ⟨[], [], [s!"Estimation skipped: the sample could not be run to completion ({error})"], 0⟩

def trial? (p : ParsedPattern) (settings : Settings) : Option (Unit → Except RunError Bool) :=
  if settings.features.riskDetection && settings.probe.enabled && !p.ambiguousSpans.isEmpty then
    Probe.trial? settings.probe p.source p.flags
  else none

/-- The report on a pattern. Parts that are switched off or that lack a sample are left out. A trial run
takes `elapsed` nanoseconds. -/
def report (p : ParsedPattern) (settings : Settings) (sample : Option String) (elapsed : Nat) :
    Report :=
  let subject := sample.map Subject.ofString
  let preview := subject.map (p.preview settings.execution)
  let probe := if settings.probe.enabled then some settings.probe else none
  { source := p.source
    flags := p.flags
    explanation := p.pattern.explain p.flags
    intent := p.intent
    preview := preview
    warnings := if settings.features.riskDetection then p.risks ⟨sample, probe, elapsed⟩ else []
    estimate :=
      match subject, preview with
      | some subject, some preview =>
        if settings.features.estimation then
          some (p.estimateFrom settings.estimator subject preview)
        else none
      | _, _ => none
    features := settings.features }

end ParsedPattern

inductive JsonValue where
  | null
  | bool (value : Bool)
  | nat (value : Nat)
  | fraction (value : Binary64)
  | string (value : String)
  | array (items : List JsonValue)
  | object (fields : List (String × JsonValue))

namespace JsonValue

def option {α : Type} (f : α → JsonValue) : Option α → JsonValue
  | none => null
  | some a => f a

def list {α : Type} (f : α → JsonValue) (as : List α) : JsonValue := array (as.map f)

def escape (c : Char) : List Char :=
  if c == '"' then ['\\', '"']
  else if c == '\\' then ['\\', '\\']
  else if c == '\n' then ['\\', 'n']
  else if c == '\r' then ['\\', 'r']
  else if c == '\t' then ['\\', 't']
  else if c == '\x08' then ['\\', 'b']
  else if c == '\x0C' then ['\\', 'f']
  else if c.toNat < 0x20 then ['\\', 'u'] ++ hexNumeral 4 c.toNat
  else [c]

def quote (s : String) : String := "\"" ++ String.ofList (s.toList.flatMap escape) ++ "\""

def lineAt (level : Nat) : String := "\n" ++ String.ofList (List.replicate (2 * level) ' ')

mutual

def write (level : Nat) : JsonValue → String
  | null => "null"
  | bool value => if value then "true" else "false"
  | nat value => toString value
  | fraction value => let (digits, places) := value.shortest; Binary64.numeral digits places
  | string value => quote value
  | array [] => "[]"
  | array (item :: items) =>
    "[" ++ lineAt (level + 1) ++ write (level + 1) item ++ writeItems (level + 1) items ++
      lineAt level ++ "]"
  | object [] => "\x7b\x7d"
  | object ((key, value) :: fields) =>
    "\x7b" ++ lineAt (level + 1) ++ quote key ++ ": " ++ write (level + 1) value ++
      writeFields (level + 1) fields ++ lineAt level ++ "\x7d"

def writeItems (level : Nat) : List JsonValue → String
  | [] => ""
  | item :: items => "," ++ lineAt level ++ write level item ++ writeItems level items

def writeFields (level : Nat) : List (String × JsonValue) → String
  | [] => ""
  | (key, value) :: fields =>
    "," ++ lineAt level ++ quote key ++ ": " ++ write level value ++ writeFields level fields

end

end JsonValue

open JsonValue

def Span.json (s : Span) : JsonValue := object [("start", nat s.start), ("end", nat s.stop)]

def Span.jsonPair (s : Span) : JsonValue := array [nat s.start, nat s.stop]

def Explanation.json (e : Explanation) : JsonValue :=
  object [("summary", list string e.summary), ("components", list string e.components),
    ("constraints", list string e.constraints)]

def Intent.json (i : Intent) : JsonValue :=
  object [("label", string i.label.key), ("confidence", fraction i.confidence),
    ("rationale", list string i.rationale)]

def GroupRecord.json (g : GroupRecord) : JsonValue :=
  object [("index", nat g.index), ("name", option string g.name), ("value", string g.value),
    ("span", option Span.jsonPair g.span)]

def MatchRecord.json (m : MatchRecord) : JsonValue :=
  object [("span", m.span.jsonPair), ("text", string m.text), ("line", nat m.line),
    ("groups", list GroupRecord.json m.groups)]

def Preview.json (p : Preview) : JsonValue :=
  object [("matches", list MatchRecord.json p.found), ("truncated", bool p.truncated),
    ("error", option string p.error)]

def Evidence.json (e : Evidence) : JsonValue :=
  object [("spans", list Span.json e.spans), ("examples", list string e.examples),
    ("note", option string e.note)]

def Warning.json (w : Warning) : JsonValue :=
  object [("id", string w.id.name), ("severity", string w.severity.name), ("title", string w.title),
    ("message", string w.message), ("evidence", option Evidence.json w.evidence)]

def Finding.json (f : Finding) : JsonValue :=
  object [("text", string (String.ofList f.text)), ("reason", string f.reason)]

def Estimate.json (e : Estimate) : JsonValue :=
  object [("likely_false_positives", list Finding.json e.falsePositives),
    ("likely_false_negatives", list Finding.json e.falseNegatives),
    ("notes", list string e.notes), ("attempts", nat e.attempts)]

def FeatureSettings.json (f : FeatureSettings) : JsonValue :=
  object [("risk_detection", bool f.riskDetection), ("fp_fn_estimation", bool f.estimation)]

namespace Report

def json (r : Report) : JsonValue :=
  object [("pattern", string r.source), ("flags", string r.flags.text),
    ("explanation", r.explanation.json), ("intent", r.intent.json),
    ("preview", option Preview.json r.preview), ("warnings", list Warning.json r.warnings),
    ("estimate", option Estimate.json r.estimate), ("features", r.features.json)]

def jsonText (r : Report) : String := r.json.write 0 ++ "\n"

end Report

end RegexInsight
