import RegexInsight.Estimate
import RegexInsight.FileStore
import RegexInsight.Risk
import RegexInsight.TomlDocument

/-! What can be chosen about a report: the parts that are made, and the caps on the work. Settings are
kept in configuration texts, in which a table may also be written as an array of its fields in order.
What is not said keeps its standard value, and what is not known is skipped. -/
namespace RegexInsight

structure FeatureSettings where
  riskDetection : Bool
  estimation : Bool
deriving DecidableEq, Repr, Inhabited

structure ExecutionSettings where
  maxMatches : Nat
  stepLimit : Nat
deriving DecidableEq, Repr, Inhabited

structure Settings where
  features : FeatureSettings
  estimator : EstimatorSettings
  probe : ProbeSettings
  execution : ExecutionSettings
deriving DecidableEq, Repr, Inhabited

namespace Settings

def standard : Settings where
  features := ⟨true, true⟩
  estimator := ⟨250, 500, 2000, 100000⟩
  probe := ⟨true, 40, 5000000⟩
  execution := ⟨1000, 1000000⟩

/-- The caps and their names. A cap of zero would leave out work without a word. -/
def caps (s : Settings) : List (String × Nat) :=
  [("estimator.max_candidates", s.estimator.maxCandidates),
    ("estimator.max_line_chars", s.estimator.maxLineChars),
    ("estimator.max_total_work", s.estimator.maxTotalWork),
    ("estimator.test_step_limit", s.estimator.testStepLimit),
    ("probe.step_limit", s.probe.stepLimit),
    ("execution.max_matches", s.execution.maxMatches),
    ("execution.step_limit", s.execution.stepLimit)]

def zeroCaps (s : Settings) : List String := (s.caps.filter (·.2 == 0)).map (·.1)

end Settings

inductive SettingsFault where
  | malformed
  | zeroCaps (names : List String)
deriving DecidableEq, Repr, Inhabited

def SettingsFault.message : SettingsFault → String
  | malformed => "Failed to parse configuration:"
  | zeroCaps names =>
    "Configuration error: Invalid .regexplain.toml: must be greater than zero: " ++
      ", ".intercalate names

namespace TomlValue

mutual

/-- Whether every number in a value can be represented, which is asked of skipped values too. -/
def isReadable : TomlValue → Bool
  | text | dateTime | boolean _ => true
  | integer n => -Int.ofNat (Nat.pow 2 127) ≤ n && n < Int.ofNat (Nat.pow 2 128)
  | float tooLarge => !tooLarge
  | array _ items => areReadable items
  | table _ entries => entriesReadable entries

def areReadable : List TomlValue → Bool
  | [] => true
  | item :: items => item.isReadable && areReadable items

def entriesReadable : List (String × TomlValue) → Bool
  | [] => true
  | (_, value) :: entries => value.isReadable && entriesReadable entries

end

/-- The values of some fields, by name from a table and by place from an array. A date stands for a
table that says nothing. -/
def fields? (names : List String) : TomlValue → Option (List (Option TomlValue))
  | table _ entries =>
    if entriesReadable (entries.filter fun (key, _) => !names.contains key) then
      some (names.map fun name => TomlEntries.find? entries name)
    else none
  | array _ items => some ((List.range names.length).map (items[·]?))
  | dateTime => some (names.map fun _ => none)
  | _ => none

def boolean? (standard : Bool) : Option TomlValue → Option Bool
  | none => some standard
  | some (boolean value) => some value
  | some _ => none

def nat? (standard : Nat) : Option TomlValue → Option Nat
  | none => some standard
  | some (integer (.ofNat n)) => if n < Nat.pow 2 64 then some n else none
  | some _ => none

end TomlValue

open TomlValue

def FeatureSettings.ofToml? (d : FeatureSettings) : Option TomlValue → Option FeatureSettings
  | none => some d
  | some value =>
    match value.fields? ["risk_detection", "fp_fn_estimation"] with
    | some [a, b] => do return ⟨← boolean? d.riskDetection a, ← boolean? d.estimation b⟩
    | _ => none

def EstimatorSettings.ofToml? (d : EstimatorSettings) : Option TomlValue → Option EstimatorSettings
  | none => some d
  | some value =>
    match value.fields?
      ["max_candidates", "max_line_chars", "max_total_work", "test_step_limit"] with
    | some [a, b, c, e] => do
      return ⟨← nat? d.maxCandidates a, ← nat? d.maxLineChars b, ← nat? d.maxTotalWork c,
        ← nat? d.testStepLimit e⟩
    | _ => none

def ProbeSettings.ofToml? (d : ProbeSettings) : Option TomlValue → Option ProbeSettings
  | none => some d
  | some value =>
    match value.fields? ["enabled", "threshold_ms", "step_limit"] with
    | some [a, b, c] => do
      return ⟨← boolean? d.enabled a, ← nat? d.thresholdMs b, ← nat? d.stepLimit c⟩
    | _ => none

def ExecutionSettings.ofToml? (d : ExecutionSettings) : Option TomlValue → Option ExecutionSettings
  | none => some d
  | some value =>
    match value.fields? ["max_matches", "step_limit"] with
    | some [a, b] => do return ⟨← nat? d.maxMatches a, ← nat? d.stepLimit b⟩
    | _ => none

namespace Settings

def ofToml? (d : Settings) (value : TomlValue) : Option Settings :=
  match value.fields? ["features", "estimator", "probe", "execution"] with
  | some [a, b, c, e] => do
    return ⟨← d.features.ofToml? a, ← d.estimator.ofToml? b, ← d.probe.ofToml? c,
      ← d.execution.ofToml? e⟩
  | _ => none

def ofText (text : String) : Except SettingsFault Settings :=
  match TomlDocument.read? text.toList with
  | none => .error .malformed
  | some entries =>
    match standard.ofToml? (.table .header entries) with
    | none => .error .malformed
    | some settings =>
      if settings.zeroCaps.isEmpty then .ok settings else .error (.zeroCaps settings.zeroCaps)

def switchText (value : Bool) : String := if value then "true" else "false"

def tableText (name : String) (entries : List (String × String)) : String :=
  let lines := entries.map fun (key, value) => key ++ " = " ++ value ++ "\n"
  "\n[" ++ name ++ "]\n" ++ String.join lines

def text (s : Settings) : String :=
  "# regexplain configuration\n" ++
    tableText "features"
      [("risk_detection", switchText s.features.riskDetection),
        ("fp_fn_estimation", switchText s.features.estimation)] ++
    tableText "estimator"
      [("max_candidates", toString s.estimator.maxCandidates),
        ("max_line_chars", toString s.estimator.maxLineChars),
        ("max_total_work", toString s.estimator.maxTotalWork),
        ("test_step_limit", toString s.estimator.testStepLimit)] ++
    tableText "probe"
      [("enabled", switchText s.probe.enabled), ("threshold_ms", toString s.probe.thresholdMs),
        ("step_limit", toString s.probe.stepLimit)] ++
    tableText "execution"
      [("max_matches", toString s.execution.maxMatches),
        ("step_limit", toString s.execution.stepLimit)]

end Settings

inductive LoadError where
  | file (error : FileError)
  | text (fault : SettingsFault)
deriving DecidableEq, Repr, Inhabited

def LoadError.message : LoadError → String
  | file error => error.message
  | text fault => fault.message

inductive InitError where
  | taken
  | file (error : FileError)
deriving DecidableEq, Repr, Inhabited

def InitError.message : InitError → String
  | taken => "Configuration file already exists. Use --force to overwrite."
  | file error => error.message

namespace SettingsFile

variable {m : Type → Type} [Monad m]

def name : String := ".regexplain.toml"

def searchDepth : Nat := 10

def load (files : FileAccess m) (path : String) : m (Except LoadError Settings) := do
  match ← files.read path with
  | .error e => return .error (.file e)
  | .ok content =>
    match Settings.ofText content with
    | .error e => return .error (.text e)
    | .ok settings => return .ok settings

def firstUsable (files : FileAccess m) : List String → m Settings
  | [] => return Settings.standard
  | directory :: rest => do
    match ← load files (Paths.join directory name) with
    | .ok settings => return settings
    | .error _ => firstUsable files rest

/-- The settings for a directory: those of the nearest usable file in it or above it. -/
def discover (files : FileAccess m) (directory : String) : m Settings :=
  firstUsable files (Paths.ancestors searchDepth directory)

def init (files : FileAccess m) (directory : String) (force : Bool) :
    m (Except InitError String) := do
  let path := Paths.join directory name
  if (← files.isPresent path) && !force then return .error .taken
  match ← files.write path Settings.standard.text with
  | .error e => return .error (.file e)
  | .ok () => return .ok path

end SettingsFile

end RegexInsight
