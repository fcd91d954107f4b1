import RegexInsight.Arguments
import RegexInsight.ReportText

/-! The commands, with what they print and their exit status. -/
namespace RegexInsight

structure Completion where
  status : Nat
  output : String
  errors : String
deriving DecidableEq, Repr, Inhabited

namespace CommandLine

variable {m : Type → Type} [Monad m]

def programName : String := "regexplain"

def version : String := "0.1.0"

def usage : String :=
  s!"Usage: {programName} explain [OPTIONS] <PATTERN>\n" ++
    s!"       {programName} init [--force]\n"

def printed (output : String) : Completion := ⟨0, output, ""⟩

def failed (message : String) (cause : Option String) : Completion :=
  ⟨1, "", "Error: " ++ message ++ "\n" ++
    match cause with
    | none => ""
    | some cause => "\nCaused by:\n    " ++ cause ++ "\n"⟩

def misused : Completion := ⟨2, "", usage⟩

/-- A malformed text has a cause of its own, so that the causes are numbered. -/
def causeText : LoadError → String
  | .text .malformed => "0: " ++ SettingsFault.malformed.message
  | e => e.message

def settingsFor (files : FileAccess m) (directory : String) (a : ExplainArguments) :
    m (Except Completion Settings) := do
  let switched := fun (s : Settings) => { s with
    features := ⟨s.features.riskDetection && !a.noRisks, s.features.estimation && !a.noEstimate⟩ }
  match a.config with
  | none => return .ok (switched (← SettingsFile.discover files directory))
  | some path =>
    match ← SettingsFile.load files path with
    | .ok settings => return .ok (switched settings)
    | .error e =>
      return .error (failed s!"Failed to load configuration from {path}" (some (causeText e)))

def sampleFor (files : FileAccess m) (a : ExplainArguments) :
    m (Except Completion (Option String)) := do
  match a.sample, a.sampleFile with
  | some text, _ => return .ok (some text)
  | none, none => return .ok none
  | none, some path =>
    match ← files.read path with
    | .ok text => return .ok (some text)
    | .error e => return .error (failed s!"Failed to read sample file {path}" (some e.message))

/-- Makes the report and writes it to its file, or prints it. The stopwatch gives the nanoseconds that a
run takes. -/
def explain (files : FileAccess m) (stopwatch : (Unit → Except RunError Bool) → m Nat)
    (directory : String) (color : Bool) (source : String) (a : ExplainArguments) : m Completion := do
  let color := color && !a.plain && a.output.isNone
  match ← settingsFor files directory a with
  | .error failure => return failure
  | .ok settings =>
    match ← sampleFor files a with
    | .error failure => return failure
    | .ok sample =>
      match parsePattern source (a.flags.getD "") with
      | .error e => return ⟨2, "", e.text source color ++ "\n"⟩
      | .ok p =>
        let elapsed ← match p.trial? settings with
          | none => pure 0
          | some trial => stopwatch trial
        let report := p.report settings sample elapsed
        let text :=
          match a.format.getD .terminal with
          | .json => report.jsonText
          | .terminal => report.text color
        match a.output with
        | none => return printed text
        | some path =>
          match ← files.write path text with
          | .error e => return failed e.message none
          | .ok () => return printed ""

def init (files : FileAccess m) (force : Bool) : m Completion := do
  match ← SettingsFile.init files "." force with
  | .error e => return failed e.message none
  | .ok _ => return printed ("Created " ++ SettingsFile.name ++ " configuration file\n")

def run (files : FileAccess m) (stopwatch : (Unit → Except RunError Bool) → m Nat)
    (directory : String) (color : Bool) (words : List String) : m Completion :=
  match Arguments.request? words with
  | none => return misused
  | some .version => return printed s!"{programName} {version}\n"
  | some .help => return printed usage
  | some (.init force) => init files force
  | some (.explain source arguments) =>
    explain files stopwatch directory color source arguments

/-- Whether output is in color, by what the environment says and whether a terminal shows it. A
variable says yes unless it is `0`. -/
def wantsColor (color noColor forceColor : Option String) (isTerminal : Bool) : Bool :=
  if forceColor.any (· != "0") then true
  else if noColor.isSome then false
  else color.all (· != "0") && isTerminal

end CommandLine
end RegexInsight
