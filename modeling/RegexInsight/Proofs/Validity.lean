import RegexInsight.Risk
import RegexInsight.Report
import RegexInsight.Proofs.EnclosedPattern

/-! When a pattern is accepted. Of the flags only unicode mode is asked, so whoever makes a program of
an accepted pattern under flags of his own gets one, and the same one but for where it is tried. -/
namespace RegexInsight

/-- A program as far as the flags do not matter: whether it is tried at the start of a text alone is
left out. -/
def Program.code (p : Program) : Array Inst × Nat × Nat := (p.insts, p.groupCount, p.slotCount)

theorem compile_code (multiline multiline' : Bool) (tree : PatternTree) :
    (compile multiline' tree).map Program.code = (compile multiline tree).map Program.code := by
  unfold compile
  dsimp only
  cases branchesCheck tree.names tree.pattern.branches 0 with
  | error e => rfl
  | ok n =>
    dsimp only
    cases fitting (n + 1) <;> rfl

namespace Regex

/-- What is made of a source: the instructions, and the groups with their names. -/
def code (r : Regex) : String × (Array Inst × Nat × Nat) × List (Option String) :=
  (r.source, r.program.code, r.names)

theorem ofTree_code (source : String) (tree : PatternTree) (flags flags' : Flags) :
    (ofTree source flags' tree).map code = (ofTree source flags tree).map code := by
  have h := compile_code flags.multiline flags'.multiline tree
  unfold ofTree
  cases hc : compile flags.multiline tree with
  | error e =>
    cases hc' : compile flags'.multiline tree with
    | error e' =>
      rw [hc, hc'] at h
      cases h
      cases e <;> rfl
    | ok program' =>
      rw [hc, hc'] at h
      cases h
  | ok program =>
    cases hc' : compile flags'.multiline tree with
    | error e' =>
      rw [hc, hc'] at h
      cases h
    | ok program' =>
      rw [hc, hc'] at h
      have hcode : program'.code = program.code := Except.ok.inj h
      exact congrArg (fun c => Except.ok (source, c, tree.names)) hcode

theorem build_code (source : String) {flags flags' : Flags} (h : flags'.unicode = flags.unicode) :
    (build source flags').map code = (build source flags).map code := by
  unfold build
  rw [h]
  cases parse flags.unicode source.toList with
  | error e => rfl
  | ok tree => exact ofTree_code source tree flags flags'

theorem isMatch_ne_stuck {unicode multiline : Bool} {tree : PatternTree} {r : Regex}
    (hw : tree.WellFormed unicode) (hc : compile multiline tree = .ok r.program) (s : Subject) :
    r.isMatch s ≠ .error .stuck := by
  obtain ⟨answer, hanswer⟩ := capturesFrom_settles hw hc s (Nat.zero_le _)
  unfold isMatch
  rcases hanswer.cases r.stepLimit with hlimit | hok
  · have hlimit : r.capturesFrom s 0 = .error .stepLimit := hlimit
    rw [hlimit]
    rintro ⟨⟩
  · have hok : r.capturesFrom s 0 = .ok answer := hok
    rw [hok]
    rintro ⟨⟩

end Regex

theorem append_ne_append {a b : String} {x y : List Char} (ha : x <+: a.toList) (hb : y <+: b.toList)
    (hlength : x.length = y.length) (hne : x ≠ y) (c d : String) : a ++ c ≠ b ++ d := by
  intro heq
  have hx : x <+: (b ++ d).toList := by
    rw [← heq, String.toList_append]
    exact ha.trans (List.prefix_append _ _)
  have hy : y <+: (b ++ d).toList := by
    rw [String.toList_append]
    exact hb.trans (List.prefix_append _ _)
  exact hne ((List.prefix_of_prefix_length_le hx hy (Nat.le_of_eq hlength)).eq_of_length hlength)

/-- The remark on a pattern that has no program is known by how it begins. -/
theorem Estimate.skippedNote_ne {a : String} {x : List Char} (ha : x <+: a.toList)
    (hlength : x.length = 12) (hne : x ≠ "Estimation s".toList) (b : String) (e : BuildError) :
    skippedNote e ≠ a ++ b := by
  have hstart : "Estimation s".toList <+:
      "Estimation skipped: the pattern could not be compiled for testing (".toList := by
    decide +kernel
  have hstartLength : "Estimation s".toList.length = 12 := by decide +kernel
  unfold skippedNote
  rw [String.append_assoc]
  exact append_ne_append hstart ha (hstartLength.trans hlength.symm) hne.symm _ b

theorem Estimate.skippedNote_not_mem_ite {a : String} {x : List Char} (ha : x <+: a.toList)
    (hlength : x.length = 12) (hne : x ≠ "Estimation s".toList) (b c : String) (e : BuildError)
    (made : Bool) : skippedNote e ∉ if made then [a ++ b ++ c] else [] := by
  intro hmem
  split at hmem
  · have heq := List.mem_singleton.mp hmem
    rw [String.append_assoc] at heq
    exact skippedNote_ne ha hlength hne _ e heq
  · cases hmem

namespace ParsedPattern

variable {p : ParsedPattern}

theorem build_eq_regex (hp : parse p.flags.unicode p.source.toList = .ok p.tree) {flags : Flags}
    (hf : flags.unicode = p.flags.unicode) : Regex.build p.source flags = p.regex flags := by
  rw [Regex.build, hf, hp]
  rfl

theorem regex_ok {program : Program} (hc : compile p.flags.multiline p.tree = .ok program)
    (flags : Flags) : ∃ r, p.regex flags = .ok r ∧ compile flags.multiline p.tree = .ok r.program ∧
      r.names = p.tree.names := by
  have h := compile_code p.flags.multiline flags.multiline p.tree
  rw [hc] at h
  cases hc' : compile flags.multiline p.tree with
  | error e =>
    rw [hc'] at h
    cases h
  | ok program' =>
    refine ⟨⟨p.source, flags, p.tree.names, program', Regex.defaultStepLimit⟩, ?_, rfl, rfl⟩
    rw [regex, Regex.ofTree, hc']

theorem preview_error (hp : parse p.flags.unicode p.source.toList = .ok p.tree) {program : Program}
    (hc : compile p.flags.multiline p.tree = .ok program) (settings : ExecutionSettings)
    (sample : Subject) : (p.preview settings sample).error = none ∨
      (p.preview settings sample).error = some stepLimitMessage := by
  obtain ⟨r, hr, hprogram, -⟩ := regex_ok hc p.flags
  obtain ⟨answer, hanswer⟩ := Regex.collectFrom_settles hp hprogram sample settings.maxMatches []
    (Nat.zero_le _)
  unfold preview
  rw [hr]
  dsimp only
  rcases hanswer.cases settings.stepLimit with hlimit | hok
  · have hlimit : ({ r with stepLimit := settings.stepLimit } : Regex).collect sample
        settings.maxMatches = .error .stepLimit := hlimit
    rw [hlimit]
    exact .inr rfl
  · have hok : ({ r with stepLimit := settings.stepLimit } : Regex).collect sample
        settings.maxMatches = .ok answer := hok
    rw [hok]
    exact .inl rfl

theorem skippedNote_not_mem {program : Program}
    (hc : compile p.flags.multiline p.tree = .ok program) (sample : Subject)
    (found : List MatchRecord) (settings : EstimatorSettings) (e : BuildError) :
    Estimate.skippedNote e ∉ (p.estimate sample found settings).notes := by
  obtain ⟨r, hr, -⟩ := regex_ok hc p.flags.withoutGlobal
  unfold estimate estimateWith
  rw [hr]
  dsimp only
  by_cases hfound : found.isEmpty
  · rw [if_pos hfound]
    intro hmem
    have hstart : "No matches i".toList <+: Estimate.noMatchesNote.toList := by decide +kernel
    refine Estimate.skippedNote_ne hstart (by decide +kernel) (by decide +kernel) "" e ?_
    rw [String.append_empty]
    exact List.mem_singleton.mp hmem
  · rw [if_neg hfound]
    intro hmem
    have hlines : "Sample lines".toList <+: "Sample lines longer than ".toList := by decide +kernel
    have hseeds : "Estimation c".toList <+: "Estimation capped: only the first ".toList := by
      decide +kernel
    have htests : "Estimation c".toList <+: "Estimation capped: stopped after ".toList := by
      decide +kernel
    rcases List.mem_append.mp hmem with hmem | hmem
    · rcases List.mem_append.mp hmem with hmem | hmem
      · exact Estimate.skippedNote_not_mem_ite hlines (by decide +kernel) (by decide +kernel) _ _ e _ hmem
      · exact Estimate.skippedNote_not_mem_ite hseeds (by decide +kernel) (by decide +kernel) _ _ e _ hmem
    · exact Estimate.skippedNote_not_mem_ite htests (by decide +kernel) (by decide +kernel) _ _ e _ hmem

end ParsedPattern

/-- What the stages of an analysis can rely on: under flags of the same mode a source always gives the
program of the tree, so no stage has an error of that kind to report. -/
structure ParsedPattern.Accepted (p : ParsedPattern) : Prop where
  builds : ∀ flags : Flags, flags.unicode = p.flags.unicode → ∃ r, Regex.build p.source flags = .ok r ∧
    p.regex flags = .ok r ∧ compile flags.multiline p.tree = .ok r.program ∧ r.names = p.tree.names
  preview : ∀ settings sample, (p.preview settings sample).error = none ∨
    (p.preview settings sample).error = some stepLimitMessage
  estimate : ∀ sample found settings e,
    Estimate.skippedNote e ∉ (p.estimate sample found settings).notes
  probe : ∀ settings elapsed, Probe.measure? settings p.source p.flags elapsed = some elapsed

theorem ParsedPattern.accepted {source flagText : String} {p : ParsedPattern}
    (h : parsePattern source flagText = .ok p) : p.Accepted := by
  obtain ⟨-, -, hp, program, hc⟩ := parsePattern_cases h
  have hbuilds : ∀ flags : Flags, flags.unicode = p.flags.unicode → ∃ r,
      Regex.build p.source flags = .ok r ∧ p.regex flags = .ok r ∧
        compile flags.multiline p.tree = .ok r.program ∧ r.names = p.tree.names := by
    intro flags hf
    obtain ⟨r, hr, hprogram, hnames⟩ := regex_ok hc flags
    exact ⟨r, (build_eq_regex hp hf).trans hr, hr, hprogram, hnames⟩
  refine ⟨hbuilds, preview_error hp hc, skippedNote_not_mem hc, fun settings elapsed => ?_⟩
  obtain ⟨r, hr, -, hprogram, -⟩ := hbuilds p.flags.withoutGlobal rfl
  have hstuck := Regex.isMatch_ne_stuck (r := { r with stepLimit := settings.stepLimit })
    (.of_parse hp) hprogram (.ofString Probe.input)
  rw [Probe.measure?, Probe.trial?, hr]
  dsimp only
  split
  · rfl
  · rfl
  · exact absurd ‹_› hstuck

theorem parsePattern_ok_iff (source flagText : String) :
    (∃ p, parsePattern source flagText = .ok p) ↔
      ∃ flags r, Flags.ofText? flagText = some flags ∧ Regex.build source flags = .ok r := by
  constructor
  · rintro ⟨p, h⟩
    obtain ⟨hflags, hsource, -⟩ := parsePattern_cases h
    obtain ⟨r, hr, -⟩ := (ParsedPattern.accepted h).builds p.flags rfl
    exact ⟨p.flags, r, hflags, hsource ▸ hr⟩
  · rintro ⟨flags, r, hflags, hr⟩
    unfold Regex.build at hr
    split at hr
    · cases hr
    · rename_i tree htree
      refine ⟨⟨source, flags, tree⟩, ?_⟩
      rw [parsePattern, hflags]
      dsimp only
      rw [htree]
      dsimp only
      rw [hr]

/-- Whether a source is accepted, and what is made of it, depends on unicode mode alone of all the
flags, and an accepted pattern is accepted by every stage. -/
theorem validity_of_source (source : String) :
    (∀ flags flags' : Flags, flags'.unicode = flags.unicode →
      (Regex.build source flags').map Regex.code = (Regex.build source flags).map Regex.code) ∧
    ∀ flagText,
      ((∃ p, parsePattern source flagText = .ok p) ↔
        ∃ flags r, Flags.ofText? flagText = some flags ∧ Regex.build source flags = .ok r) ∧
      ∀ p, parsePattern source flagText = .ok p →
        p.source = source ∧ Flags.ofText? flagText = some p.flags ∧ p.Accepted := by
  refine ⟨fun _ _ h => Regex.build_code source h, fun flagText =>
    ⟨parsePattern_ok_iff source flagText, fun p h => ?_⟩⟩
  obtain ⟨hflags, hsource, -⟩ := parsePattern_cases h
  exact ⟨hsource, hflags, ParsedPattern.accepted h⟩

/-- A source with an anchor, which is compiled under four sets of flags. -/
theorem validity_of_source_anchored :
    ∃ p, parsePattern "^(?<year>\\d{2,4})$|^\\k<year>" "gim" = .ok p ∧ p.Accepted ∧
      (Regex.build "^(?<year>\\d{2,4})$|^\\k<year>" .allOff).map Regex.code =
        (Regex.build "^(?<year>\\d{2,4})$|^\\k<year>" p.flags).map Regex.code := by
  have h : (parsePattern "^(?<year>\\d{2,4})$|^\\k<year>" "gim").toOption.map (·.flags.unicode) =
      some false := by decide +kernel
  obtain ⟨p, hp, hunicode⟩ := ok_of_toOption_map h
  obtain ⟨hcode, hvalid⟩ := validity_of_source "^(?<year>\\d{2,4})$|^\\k<year>"
  exact ⟨p, hp, ((hvalid "gim").2 p hp).2.2, hcode p.flags .allOff hunicode.symm⟩

end RegexInsight
