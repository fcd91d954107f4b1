import RegexInsight.Report

/-! Reports for a reader: sections of lines, with a blank line after each, in which some parts are bold,
dimmed, underlined or in color. -/
namespace RegexInsight

inductive Color where
  | red
  | green
  | yellow
  | blue
  | cyan
deriving DecidableEq, Repr, Inhabited

def Color.code : Color → Nat
  | red => 31
  | green => 32
  | yellow => 33
  | blue => 34
  | cyan => 36

structure Styled where
  text : String
  bold : Bool
  dimmed : Bool
  underline : Bool
  color : Option Color
deriving DecidableEq, Repr, Inhabited

namespace Styled

def plain (text : String) : Styled := ⟨text, false, false, false, none⟩

def strong (text : String) : Styled := { plain text with bold := true }

def faint (text : String) : Styled := { plain text with dimmed := true }

def colored (color : Color) (text : String) : Styled := { plain text with color := some color }

def strongColored (color : Color) (text : String) : Styled :=
  { colored color text with bold := true }

/-- The numbers that switch the style on: looks in ascending order, then the color. -/
def codes (s : Styled) : List Nat :=
  (if s.bold then [1] else []) ++ (if s.dimmed then [2] else []) ++
    (if s.underline then [4] else []) ++ (s.color.map Color.code).toList

def sequence (codes : List Nat) : String :=
  "\x1b[" ++ ";".intercalate (codes.map toString) ++ "m"

def reset : String := sequence [0]

/-- The part as it is sent to a terminal. Where the text itself ends a style, the style is switched
on again. -/
def render (color : Bool) (s : Styled) : String :=
  if !color || s.codes.isEmpty then s.text
  else
    let on := sequence s.codes
    let text := replaceText reset.toList (reset ++ on).toList s.text.toList
    on ++ String.ofList text ++ reset

end Styled

abbrev StyledLine := List Styled

namespace StyledLine

def blank : StyledLine := []

def ofText (text : String) : StyledLine := [Styled.plain text]

def indented (spaces : Nat) (parts : StyledLine) : StyledLine :=
  Styled.plain (String.ofList (List.replicate spaces ' ')) :: parts

def render (color : Bool) (line : StyledLine) : String :=
  String.join (line.map (Styled.render color))

def renderAll (color : Bool) (lines : List StyledLine) : String :=
  String.join (lines.map fun line => render color line ++ "\n")

end StyledLine

open Styled StyledLine

def padRight (size : Nat) (text : String) : String :=
  text ++ String.ofList (List.replicate (size - text.length) ' ')

def padLeft (size : Nat) (text : String) : String :=
  String.ofList (List.replicate (size - text.length) ' ') ++ text

def sectionLines (title : String) (lines : List StyledLine) : List StyledLine :=
  [{ strong title with underline := true }] :: lines ++ [blank]

def item (text : String) : StyledLine := indented 2 (ofText text)

def Explanation.lines (e : Explanation) : List StyledLine :=
  sectionLines "Summary" (e.summary.map item) ++
    sectionLines "Components" (e.components.map item) ++
    (if e.constraints.isEmpty then []
    else sectionLines "Constraints" (e.constraints.map fun line => item ("- " ++ line)))

def Intent.lines (i : Intent) : List StyledLine :=
  let confidence := Binary64.numeral (i.confidence.fixed 2) 2
  sectionLines "Intent"
    (indented 2 [colored .cyan i.label.displayName, plain s!" (confidence {confidence})"] ::
      i.rationale.map fun reason => indented 2 [plain "- ", faint reason])

def GroupRecord.line (g : GroupRecord) : StyledLine :=
  let label := "#" ++ toString g.index ++
    match g.name with
    | none => ""
    | some name => s!" <{name}>"
  indented 6 [plain (label ++ ": "),
    if g.span.isSome then plain (quoted g.value) else faint "(unmatched)"]

def MatchRecord.lines (m : MatchRecord) : List StyledLine :=
  let place := padRight 4 (toString m.line) ++ " " ++ padLeft 5 (toString m.span.start) ++ ".." ++
    padRight 5 (toString m.span.stop)
  indented 2 [plain s!"line {place} ", colored .green (quoted m.text)] ::
    m.groups.map GroupRecord.line

def Preview.lines (p : Preview) : List StyledLine :=
  let count := p.found.length
  let remark :=
    match p.error with
    | some error => [indented 2 [strongColored .yellow "!", plain (" " ++ error)]]
    | none => if p.found.isEmpty then [item "No matches in the sample"] else []
  sectionLines s!"Matches ({count})"
    (remark ++ p.found.flatMap MatchRecord.lines ++
      if p.truncated then [indented 2 [faint "More matches exist; output was capped"]] else [])

def Severity.badge : Severity → Styled
  | high => strongColored .red "[HIGH]"
  | medium => strongColored .yellow "[MEDIUM]"
  | low => colored .cyan "[LOW]"
  | info => faint "[INFO]"

def Evidence.lines (e : Evidence) : List StyledLine :=
  let place := fun (s : Span) => toString s.start ++ ".." ++ toString s.stop
  let detail := fun (text : String) => indented 6 (ofText text)
  (if e.spans.isEmpty then [] else [detail ("at: " ++ ", ".intercalate (e.spans.map place))]) ++
    (if e.examples.isEmpty then [] else [detail ("e.g. " ++ ", ".intercalate e.examples)]) ++
    e.note.toList.map fun note => indented 6 [faint note]

def Warning.lines (w : Warning) : List StyledLine :=
  let name := w.id.name
  indented 2 [w.severity.badge, plain " ", strong w.title, plain " ", faint s!"({name})"] ::
    indented 6 (ofText w.message) :: (w.evidence.map Evidence.lines).getD []

def warningLines (warnings : List Warning) : List StyledLine :=
  let count := warnings.length
  sectionLines s!"Warnings ({count})"
    (if warnings.isEmpty then [indented 2 [colored .green "No risks detected"]]
    else warnings.flatMap Warning.lines)

def Finding.line (f : Finding) : StyledLine :=
  indented 4 [colored .yellow (quoted (String.ofList f.text)), plain " ", faint f.reason]

def findingLines (title : String) (findings : List Finding) : List StyledLine :=
  if findings.isEmpty then [item (title ++ ": none found")]
  else item (title ++ ":") :: findings.map Finding.line

def Estimate.lines (e : Estimate) : List StyledLine :=
  sectionLines "False positive / negative estimate"
    (findingLines "Likely false positives" e.falsePositives ++
      findingLines "Likely false negatives" e.falseNegatives ++
      e.notes.map fun note => indented 2 [faint "note:", plain (" " ++ note)])

namespace Report

def headerLines (r : Report) : List StyledLine :=
  [[strongColored .blue "Regex Explanation"], [colored .blue "================="],
    [strong ("/" ++ r.source ++ "/" ++ r.flags.text)], blank]

def lines (r : Report) : List StyledLine :=
  r.headerLines ++ r.explanation.lines ++ r.intent.lines ++
    (r.preview.map Preview.lines).getD [] ++
    (if r.features.riskDetection then warningLines r.warnings else []) ++
    (r.estimate.map Estimate.lines).getD []

def text (color : Bool) (r : Report) : String := renderAll color r.lines

end Report

namespace PatternError

def lines (source : String) (e : PatternError) : List StyledLine :=
  [strongColored .red "error:", plain (" " ++ e.message)] ::
    match e.offset? with
    | none => []
    | some offset =>
      [item source, indented (2 + min offset source.length) [strongColored .red "^"]]

def text (source : String) (color : Bool) (e : PatternError) : String :=
  "\n".intercalate ((e.lines source).map (StyledLine.render color))

end PatternError

end RegexInsight
