import RegexInsight.Text

/-! The words of a command line. Options of one letter may be joined, and a value may stand in the
word of its option or in the next one. -/
namespace RegexInsight

inductive OutputFormat where
  | json
  | terminal
deriving DecidableEq, Repr, Inhabited

structure ExplainArguments where
  pattern : Option String
  flags : Option String
  sample : Option String
  sampleFile : Option String
  format : Option OutputFormat
  output : Option String
  config : Option String
  noRisks : Bool
  noEstimate : Bool
  plain : Bool
deriving DecidableEq, Repr, Inhabited

inductive Request where
  | explain (pattern : String) (arguments : ExplainArguments)
  | init (force : Bool)
  | version
  | help
deriving DecidableEq, Repr, Inhabited

/-- Why the reading of a command line ends early: help was asked for, or it makes no sense. -/
inductive Interruption where
  | help
  | misuse
deriving DecidableEq, Repr, Inhabited

namespace Arguments

inductive ValueOption where
  | flags
  | sample
  | sampleFile
  | format
  | output
  | config
deriving DecidableEq, Repr, Inhabited

inductive Switch where
  | noRisks
  | noEstimate
  | plain
  | verbose
  | help
deriving DecidableEq, Repr, Inhabited

inductive OptionName where
  | value (option : ValueOption)
  | switch (switch : Switch)
deriving DecidableEq, Repr, Inhabited

def ofLong? : String → Option OptionName
  | "flags" => some (.value .flags)
  | "sample" => some (.value .sample)
  | "sample-file" => some (.value .sampleFile)
  | "format" => some (.value .format)
  | "output" => some (.value .output)
  | "config" => some (.value .config)
  | "no-risks" => some (.switch .noRisks)
  | "no-estimate" => some (.switch .noEstimate)
  | "plain" => some (.switch .plain)
  | "verbose" => some (.switch .verbose)
  | "help" => some (.switch .help)
  | _ => none

def ofShort? : Char → Option OptionName
  | 'f' => some (.value .flags)
  | 's' => some (.value .sample)
  | 'o' => some (.value .output)
  | 'c' => some (.value .config)
  | 'v' => some (.switch .verbose)
  | 'h' => some (.switch .help)
  | _ => none

def noArguments : ExplainArguments :=
  ⟨none, none, none, none, none, none, none, false, false, false⟩

/-- The arguments so far, the option that waits for its value, and whether only positional words
may follow. -/
structure State where
  arguments : ExplainArguments
  waiting : Option ValueOption
  positionalOnly : Bool
deriving DecidableEq, Repr, Inhabited

def once {α : Type} (old : Option α) (value : α) : Except Interruption (Option α) :=
  if old.isSome then .error .misuse else .ok (some value)

def oncePath (old : Option String) (value : String) : Except Interruption (Option String) :=
  if value.isEmpty then .error .misuse else once old value

def formatOf : String → Except Interruption OutputFormat
  | "json" => .ok .json
  | "terminal" => .ok .terminal
  | _ => .error .misuse

def setValue (state : State) (option : ValueOption) (value : String) :
    Except Interruption State := do
  let a := state.arguments
  let arguments ←
    match option with
    | .flags => do pure { a with flags := ← once a.flags value }
    | .sample => do pure { a with sample := ← once a.sample value }
    | .sampleFile => do pure { a with sampleFile := ← oncePath a.sampleFile value }
    | .format => do pure { a with format := ← once a.format (← formatOf value) }
    | .output => do pure { a with output := ← oncePath a.output value }
    | .config => do pure { a with config := ← oncePath a.config value }
  return { state with arguments, waiting := none }

def setSwitch (state : State) (switch : Switch) : Except Interruption State :=
  let a := state.arguments
  match switch with
  | .noRisks =>
    if a.noRisks then .error .misuse
    else .ok { state with arguments := { a with noRisks := true } }
  | .noEstimate =>
    if a.noEstimate then .error .misuse
    else .ok { state with arguments := { a with noEstimate := true } }
  | .plain =>
    if a.plain then .error .misuse else .ok { state with arguments := { a with plain := true } }
  | .verbose => .ok state
  | .help => .error .help

def setPattern (state : State) (word : String) : Except Interruption State :=
  if state.arguments.pattern.isSome then .error .misuse
  else .ok { state with arguments := { state.arguments with pattern := some word } }

def takeWord (state : State) (word : String) : Except Interruption State :=
  match state.waiting with
  | some option => setValue state option word
  | none => setPattern state word

def splitValue (word : List Char) : String × Option String :=
  match word.dropWhile (· != '=') with
  | [] => (String.ofList word, none)
  | _ :: value => (String.ofList (word.takeWhile (· != '=')), some (String.ofList value))

/-- A word behind two hyphens. As long as there is no pattern, an unknown one is taken as a word
that is no option. -/
def takeLong (state : State) (word : List Char) : Except Interruption State :=
  let (name, value) := splitValue word
  match ofLong? name with
  | none =>
    if state.arguments.pattern.isSome then .error .misuse
    else takeWord state (String.ofList ('-' :: '-' :: word))
  | some known =>
    if state.waiting.isSome then .error .misuse
    else
      match known, value with
      | .value option, some value => setValue state option value
      | .value option, none => .ok { state with waiting := some option }
      | .switch switch, none => setSwitch state switch
      | .switch _, some _ => .error .misuse

/-- Joined letters. What follows an option that takes a value is its value, behind an equals sign or
not. -/
def takeLetters (state : State) : List Char → Except Interruption State
  | [] => .ok state
  | c :: cs =>
    match ofShort? c with
    | none => .error .misuse
    | some (.switch switch) =>
      match setSwitch state switch with
      | .error e => .error e
      | .ok state => takeLetters state cs
    | some (.value option) =>
      match cs with
      | [] => .ok { state with waiting := some option }
      | '=' :: value => setValue state option (String.ofList value)
      | value => setValue state option (String.ofList value)

/-- A word behind one hyphen. As long as there is no pattern, one with an unknown letter is taken as
a word that is no option. -/
def takeShort (state : State) (letters : List Char) : Except Interruption State :=
  if state.arguments.pattern.isNone && letters.any (fun c => (ofShort? c).isNone) then
    takeWord state (String.ofList ('-' :: letters))
  else if state.waiting.isSome then .error .misuse
  else takeLetters state letters

def step (state : State) (word : String) : Except Interruption State :=
  if state.positionalOnly then setPattern state word
  else
    match word.toList with
    | ['-', '-'] =>
      if state.waiting.isSome then .error .misuse else .ok { state with positionalOnly := true }
    | '-' :: '-' :: rest => takeLong state rest
    | '-' :: c :: rest => takeShort state (c :: rest)
    | _ => takeWord state word

def explain (words : List String) : Except Interruption Request := do
  let state ← words.foldlM step ⟨noArguments, none, false⟩
  let a := state.arguments
  match a.pattern with
  | none => .error .misuse
  | some pattern =>
    if state.waiting.isSome || (a.sample.isSome && a.sampleFile.isSome) then .error .misuse
    else .ok (.explain pattern a)

def init (force : Bool) : List String → Except Interruption Request
  | [] => .ok (.init force)
  | "--force" :: words => if force then .error .misuse else init true words
  | "--help" :: _ => .error .help
  | "--" :: words => if words.isEmpty then .ok (.init force) else .error .misuse
  | word :: _ => if "-h".isPrefixOf word then .error .help else .error .misuse

def help : List String → Except Interruption Request
  | [] => .ok .help
  | [word] => if ["explain", "init", "help"].contains word then .ok .help else .error .misuse
  | _ => .error .misuse

def commands : List String → Except Interruption Request
  | "explain" :: words => explain words
  | "init" :: words => init false words
  | "help" :: words => help words
  | "--version" :: _ => .ok .version
  | "--help" :: _ => .ok .help
  | word :: _ =>
    if "-V".isPrefixOf word then .ok .version
    else if "-h".isPrefixOf word then .ok .help
    else .error .misuse
  | [] => .error .misuse

def request? (words : List String) : Option Request :=
  match commands words with
  | .ok request => some request
  | .error .help => some .help
  | .error .misuse => none

end Arguments
end RegexInsight
