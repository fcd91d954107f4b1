import RegexInsight.Variants

/-! A guess at what a pattern wrongly accepts or wrongly rejects. Texts that matched are changed a
little and tried again. Three limits bound the work, and each leaves a remark when it is hit. -/
namespace RegexInsight

structure EstimatorSettings where
  maxCandidates : Nat
  maxLineChars : Nat
  maxTotalWork : Nat
  testStepLimit : Nat
deriving DecidableEq, Repr, Inhabited

structure Finding where
  text : List Char
  reason : String
deriving DecidableEq, Repr, Inhabited

structure Estimate where
  falsePositives : List Finding
  falseNegatives : List Finding
  notes : List String
  attempts : Nat
deriving DecidableEq, Repr, Inhabited

namespace Subject

def lineStart (s : Subject) : Nat → Nat
  | 0 => 0
  | i + 1 => if s.chars[i]? == some '\n' then i + 1 else lineStart s i

def lineExceeds (s : Subject) : Nat → Nat → Bool
  | 0, i => s.chars[i]?.any (· != '\n')
  | count + 1, i => s.chars[i]?.any (· != '\n') && lineExceeds s count (i + 1)

/-- The byte at which the line of `byte` is cut, if it has more than `maxChars` characters. -/
def lineCut? (s : Subject) (byte maxChars : Nat) : Option Nat :=
  let start := s.lineStart ((s.charAtByte? byte).getD s.size)
  if s.lineExceeds maxChars start then some (s.byteAt (start + maxChars)) else none

def sliceBytes? (s : Subject) (span : Span) : Option (List Char) :=
  match s.charAtByte? span.start, s.charAtByte? span.stop with
  | some a, some b => if a ≤ b then some (s.chars.extract a b).toList else none
  | _, _ => none

/-- The text of a span up to the place where its line is cut; none if it starts behind that. -/
def window? (s : Subject) (span : Span) (cut : Option Nat) : Option (List Char) :=
  match cut with
  | none => s.sliceBytes? span
  | some cut => if cut ≤ span.start then none else s.sliceBytes? ⟨span.start, min span.stop cut⟩

end Subject

namespace Estimate

def maxFindings : Nat := 6

def maxSeeds : Nat := 40

def maxSeedChars : Nat := 300

/-- A span that may give a seed, and the byte whose line decides where it is cut. -/
structure Candidate where
  span : Span
  line : Nat

def candidatesOf (m : MatchRecord) : List Candidate :=
  let groups := m.groups.filterMap fun g => if 2 ≤ g.value.length then g.span else none
  (m.span :: groups).map fun span => ⟨span, m.span.start⟩

/-- The seeds so far, how many candidates they came from, whether a long line was met, and whether
candidates were left out. -/
structure Seeds where
  seeds : List (List Char)
  considered : Nat
  lineCut : Bool
  capped : Bool
deriving DecidableEq, Repr, Inhabited

def Seeds.add (seed : List Char) (s : Seeds) : Seeds :=
  if seed.isEmpty || s.seeds.contains seed then s else { s with seeds := s.seeds ++ [seed] }

def gather (settings : EstimatorSettings) (sample : Subject) (s : Seeds) : List Candidate → Seeds
  | [] => s
  | c :: cs =>
    let cut := sample.lineCut? c.line settings.maxLineChars
    let s := { s with lineCut := s.lineCut || cut.isSome }
    if settings.maxCandidates ≤ s.considered then { s with capped := true }
    else
      let seed := ((sample.window? c.span cut).getD []).take maxSeedChars
      let s := Seeds.add seed { s with considered := s.considered + 1 }
      if maxSeeds ≤ s.seeds.length then s else gather settings sample s cs

def seedsOf (settings : EstimatorSettings) (sample : Subject) (found : List MatchRecord) : Seeds :=
  gather settings sample ⟨[], 0, false, false⟩ (found.flatMap candidatesOf)

def Seeds.notes (settings : EstimatorSettings) (s : Seeds) : List String :=
  let length := settings.maxLineChars
  let count := settings.maxCandidates
  (if s.lineCut then
    [s!"Sample lines longer than {length} characters were truncated for estimation"] else []) ++
  (if s.capped then
    [s!"Estimation capped: only the first {count} seed candidates were considered"] else [])

def rejectedReason (seed : List Char) (edit : String) : String :=
  "Likely false negative: the pattern rejects \"" ++ String.ofList seed ++ "\" with " ++ edit

def acceptedReason (seed : List Char) (edit : String) : String :=
  "Likely false positive: the pattern still matches \"" ++ String.ofList seed ++ "\" with " ++ edit

/-- The texts tried so far, what was found among them, and whether the budget ran out. -/
structure Trial where
  used : Nat
  found : List Finding
  exhausted : Bool

section
variable {m : Type → Type} [Monad m]

/-- Tries variants within a budget of `limit` tests and keeps those that match if and only if
`wrong`. A test that hits the step limit says nothing. -/
def tryVariants (test : List Char → m (Option Bool)) (limit : Nat) (wrong : Bool)
    (reason : String → String) (t : Trial) : List Variant → m Trial
  | [] => pure t
  | v :: vs =>
    if t.found.any (·.text == v.text) then tryVariants test limit wrong reason t vs
    else if limit ≤ t.used then pure { t with exhausted := true }
    else do
      let answer ← test v.text
      let found := if answer == some wrong then t.found ++ [⟨v.text, reason v.edit⟩] else t.found
      tryVariants test limit wrong reason ⟨t.used + 1, found, false⟩ vs

def trySide (test : List Char → m (Option Bool)) (limit : Nat) (wrong : Bool)
    (reason : String → String) (t : Trial) (vs : List Variant) : m Trial :=
  if t.found.length < maxFindings then tryVariants test limit wrong reason t vs else pure t

structure Tally where
  used : Nat
  negatives : List Finding
  positives : List Finding
  exhausted : Bool

def trySeed (test : List Char → m (Option Bool)) (limit : Nat) (traits : PatternTraits)
    (seed : List Char) (t : Tally) : m Tally := do
  let rejected ← trySide test limit false (rejectedReason seed) ⟨t.used, t.negatives, false⟩
    (Variant.shouldMatch seed traits)
  if rejected.exhausted then pure ⟨rejected.used, rejected.found, t.positives, true⟩
  else do
    let accepted ← trySide test limit true (acceptedReason seed) ⟨rejected.used, t.positives, false⟩
      (Variant.shouldNotMatch seed traits)
    pure ⟨accepted.used, rejected.found, accepted.found, accepted.exhausted⟩

def trySeeds (test : List Char → m (Option Bool)) (limit : Nat) (traits : PatternTraits)
    (t : Tally) : List (List Char) → m Tally
  | [] => pure t
  | seed :: seeds => do
    let t ← trySeed test limit traits seed t
    if t.exhausted || (maxFindings ≤ t.negatives.length && maxFindings ≤ t.positives.length) then
      pure t
    else trySeeds test limit traits t seeds

end

def test (r : Regex) (cs : List Char) : Option Bool := (r.isMatch (.ofChars cs)).toOption

def skippedNote (e : BuildError) : String :=
  "Estimation skipped: the pattern could not be compiled for testing (" ++ e.message ++ ")"

def noMatchesNote : String :=
  "No matches in the sample. Add sample text containing at least one expected match to estimate likely false positives and negatives."

end Estimate

/-- The estimate, with `test` to ask what the pattern says of a text. -/
def ParsedPattern.estimateWith {m : Type → Type} [Monad m]
    (test : Regex → List Char → m (Option Bool)) (p : ParsedPattern) (sample : Subject)
    (found : List MatchRecord) (settings : EstimatorSettings) : m Estimate :=
  match p.regex p.flags.withoutGlobal with
  | .error e => pure ⟨[], [], [Estimate.skippedNote e], 0⟩
  | .ok r =>
    if found.isEmpty then pure ⟨[], [], [Estimate.noMatchesNote], 0⟩
    else do
      let seeds := Estimate.seedsOf settings sample found
      let tally ← Estimate.trySeeds (test { r with stepLimit := settings.testStepLimit })
        settings.maxTotalWork p.traits ⟨0, [], [], false⟩ seeds.seeds
      let used := tally.used
      pure
        { falsePositives := tally.positives.take Estimate.maxFindings
          falseNegatives := tally.negatives.take Estimate.maxFindings
          notes := seeds.notes settings ++
            (if tally.exhausted then [s!"Estimation capped: stopped after {used} variant tests"]
            else [])
          attempts := used }

def ParsedPattern.estimate (p : ParsedPattern) (sample : Subject) (found : List MatchRecord)
    (settings : EstimatorSettings) : Estimate :=
  Id.run (p.estimateWith (fun r cs => pure (Estimate.test r cs)) sample found settings)

end RegexInsight
