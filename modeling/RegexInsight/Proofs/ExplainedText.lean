import RegexInsight.Report
import RegexInsight.Proofs.IntentSelection
import RegexInsight.Proofs.LiteralLines
import RegexInsight.Proofs.ReadNames
import RegexInsight.Proofs.WarningExamples

/-! What is said of a pattern has no control in it: literals are shown with escapes, names have none, and the
rest is fixed wording and numerals. -/
namespace RegexInsight

open ControlFree

namespace Explanation

variable {flags : Flags}

theorem literalLine_controlFree (run : List Char) : ControlFree (literalLine run) :=
  between rfl (controlFree_ofList.mpr (spelled_no_control run)) rfl

theorem runLine_controlFree (run : List Char) : ∀ line ∈ runLine run, ControlFree line := by
  unfold runLine
  split
  · simp
  · simpa using literalLine_controlFree run.reverse

theorem setLine_controlFree (flags : Flags) {s : CharSet} (h : s.ControlFree) :
    ControlFree (setLine flags s) := by
  obtain ⟨kind, negate⟩ := s
  cases kind with
  | dot => cases hdot : flags.dotAll <;> simp only [setLine, hdot] <;> exact of_all rfl
  | digit | word | space => cases negate <;> exact of_all rfl
  | property name value =>
    obtain ⟨hname, hvalue⟩ := h
    cases value with
    | none => cases negate <;> exact (of_all rfl).append hname
    | some value =>
      have hproperty : ControlFree (name ++ "=" ++ value) :=
        (hname.append (of_all rfl)).append (hvalue value rfl)
      cases negate <;> exact (of_all rfl).append hproperty

theorem memberText_controlFree (flags : Flags) {m : ClassMember} (h : m.kind.ControlFree) :
    ControlFree (memberText flags m) := by
  obtain ⟨span, kind⟩ := m
  cases kind with
  | char value => exact controlFree_ofList.mpr (literalChar_no_control value)
  | range min max =>
    simp only [memberText, controlFree_ofList, List.forall_mem_append]
    exact ⟨⟨literalChar_no_control min, no_control_of_all rfl⟩, literalChar_no_control max⟩
  | set s => exact (setLine_controlFree flags h).toLower

theorem classLine_controlFree (flags : Flags) (negate : Bool) {members : List ClassMember}
    (h : ∀ m ∈ members, m.kind.ControlFree) : ControlFree (classLine flags negate members) := by
  have hshown : ControlFree (", ".intercalate (members.map (memberText flags))) := by
    apply intercalate (of_all rfl)
    simpa using fun m hm => memberText_controlFree flags (h m hm)
  unfold classLine
  dsimp only
  split
  · exact of_all rfl
  · exact of_all rfl
  · exact (of_all rfl).append hshown
  · exact (of_all rfl).append hshown

theorem anchorLine_controlFree (flags : Flags) (a : Anchor) : ControlFree (anchorLine flags a) := by
  have hscope : ControlFree (if flags.multiline then "line" else "string") := by
    split <;> exact of_all rfl
  cases a with
  | start | stop => exact between rfl hscope rfl
  | wordBoundary | nonWordBoundary => exact of_all rfl

theorem referenceLine_controlFree {target : Reference}
    (h : ∀ name, target = .name name → ControlFree name) : ControlFree (referenceLine target) := by
  cases target with
  | index n => exact (of_all rfl).append (nat n)
  | name name => exact between rfl (h name rfl) rfl

theorem timesText_controlFree (min : Nat) (max : Option Nat) : ControlFree (timesText min max) := by
  unfold timesText
  split
  iterate 3 exact of_all rfl
  · exact between rfl (nat _) rfl
  · split
    · exact between rfl (nat _) rfl
    · exact ((between rfl (nat _) rfl).append (nat _)).append (of_all rfl)

theorem branchLine_controlFree {lines : List String} (h : ∀ line ∈ lines, ControlFree line) :
    ControlFree (branchLine lines) := by
  unfold branchLine
  split
  · exact of_all rfl
  · exact intercalate (of_all rfl) h

theorem innerText_controlFree {branches : List (List String)}
    (h : ∀ lines ∈ branches, ∀ line ∈ lines, ControlFree line) :
    ControlFree (innerText branches) := by
  unfold innerText
  extract_lets items shown
  have hitems : ∀ line ∈ items, ControlFree line := by
    intro line hline
    simp only [items] at hline
    split at hline
    · exact h _ List.mem_cons_self line hline
    · obtain ⟨lines, hlines, rfl⟩ := List.mem_map.mp hline
      exact branchLine_controlFree (h lines hlines)
  have hshown : ∀ line ∈ shown, ControlFree line := by
    simp only [shown]
    split
    · simp only [List.forall_mem_append, List.forall_mem_singleton]
      exact ⟨fun line hline => hitems line (List.mem_of_mem_take hline), of_all rfl⟩
    · exact hitems
  split
  · exact of_all rfl
  · apply intercalate _ hshown
    split <;> exact of_all rfl

theorem groupLine_controlFree {capture : Option Capture} {inner : String}
    (h : ∀ c ∈ capture, ∀ name ∈ c.name, ControlFree name) (hinner : ControlFree inner) :
    ControlFree (groupLine capture inner) := by
  unfold groupLine
  split
  · rename_i index name
    have hname : ControlFree name := h _ rfl name rfl
    exact ((between rfl hname rfl).append hinner).append (of_all rfl)
  · exact ((between rfl (nat _) rfl).append hinner).append (of_all rfl)
  · exact between rfl hinner rfl

theorem lookLine_controlFree (direction : Direction) (negate : Bool) {inner : String}
    (h : ControlFree inner) : ControlFree (lookLine direction negate inner) := by
  cases direction <;> cases negate <;>
    exact ((((of_all rfl).append (of_all rfl)).append (of_all rfl)).append (of_all rfl)).append h
      |>.append (of_all rfl)

mutual

theorem elementLine_controlFree (flags : Flags) (e : Element)
    (h : e.Throughout Element.NamesControlFree) : ControlFree (elementLine flags e) := by
  have hself := h.self
  cases e with
  | char span value => exact literalLine_controlFree [value]
  | set span s => exact setLine_controlFree flags hself
  | bracket span negate members => exact classLine_controlFree flags negate hself
  | anchor span a => exact anchorLine_controlFree flags a
  | backreference span target =>
    refine referenceLine_controlFree ?_
    rintro name rfl
    exact hself
  | group span capture branches =>
    refine groupLine_controlFree ?_ (innerText_controlFree (branchesLines_controlFree flags branches
      fun b hb e he => h.held e (List.mem_flatMap.mpr ⟨b, hb, he⟩)))
    rintro ⟨index, name⟩ rfl _ rfl
    exact hself
  | look span direction negate branches =>
    exact lookLine_controlFree direction negate (innerText_controlFree
      (branchesLines_controlFree flags branches
        fun b hb e he => h.held e (List.mem_flatMap.mpr ⟨b, hb, he⟩)))
  | quantifier span min max greedy inner =>
    have hinner := elementLine_controlFree flags inner (h.held inner (List.mem_singleton_self inner))
    refine ((hinner.append (of_all rfl)).append (timesText_controlFree min max)).append ?_
    cases greedy <;> exact of_all rfl

theorem elementsLines_controlFree (flags : Flags) (run : List Char) (es : List Element)
    (h : ∀ e ∈ es, e.Throughout Element.NamesControlFree) :
    ∀ line ∈ elementsLines flags run es, ControlFree line := by
  cases es with
  | nil => exact runLine_controlFree run
  | cons e es =>
    obtain ⟨he, hes⟩ := List.forall_mem_cons.mp h
    have hline := elementLine_controlFree flags e he
    by_cases hchar : ∃ span value, e = .char span value
    · obtain ⟨span, value, rfl⟩ := hchar
      exact elementsLines_controlFree flags (value :: run) es hes
    · rw [elementsLines_of_other flags run es fun span value hsame => hchar ⟨span, value, hsame⟩]
      intro line hmem
      rcases List.mem_append.mp hmem with hmem | hmem
      · exact runLine_controlFree run line hmem
      · rcases List.mem_cons.mp hmem with rfl | hmem
        · exact hline
        · exact elementsLines_controlFree flags [] es hes line hmem

theorem branchLines_controlFree (flags : Flags) (b : Branch)
    (h : ∀ e ∈ b.elements, e.Throughout Element.NamesControlFree) :
    ∀ line ∈ branchLines flags b, ControlFree line := by
  cases b with
  | mk span es => exact elementsLines_controlFree flags [] es h

theorem branchesLines_controlFree (flags : Flags) (bs : List Branch)
    (h : ∀ b ∈ bs, ∀ e ∈ b.elements, e.Throughout Element.NamesControlFree) :
    ∀ lines ∈ branchesLines flags bs, ∀ line ∈ lines, ControlFree line := by
  cases bs with
  | nil => exact List.forall_mem_nil _
  | cons b bs =>
    obtain ⟨hb, hbs⟩ := List.forall_mem_cons.mp h
    exact List.forall_mem_cons.mpr
      ⟨branchLines_controlFree flags b hb, branchesLines_controlFree flags bs hbs⟩

end

variable {p : Pattern}

theorem componentLines_controlFree (flags : Flags) (h : ∀ e ∈ p.elements, e.NamesControlFree) :
    ∀ line ∈ componentLines flags p, ControlFree line := by
  have hbranches := branchesLines_controlFree flags p.branches fun b hb e he =>
    Pattern.forall_elements.mp h e (List.mem_flatMap.mpr ⟨b, hb, he⟩)
  unfold componentLines
  split
  iterate 2 exact List.forall_mem_singleton.mpr (of_all rfl)
  · rename_i only _ hlines
    exact hbranches only (hlines ▸ List.mem_singleton_self only)
  · intro line hline
    rcases List.mem_cons.mp hline with rfl | hline
    · exact between rfl (nat _) rfl
    · obtain ⟨⟨lines, i⟩, hmem, rfl⟩ := List.mem_map.mp hline
      have hlines := hbranches lines (List.fst_mem_of_mem_zipIdx hmem)
      exact ((nat _).append (of_all rfl)).append (branchLine_controlFree hlines)

theorem summaryLines_controlFree (flags : Flags) (p : Pattern) :
    ∀ line ∈ summaryLines flags p, ControlFree line := by
  have hframing : ControlFree (framingLine p.branches) := by
    unfold framingLine
    split
    · exact of_all rfl
    · dsimp only
      split
      · exact of_all rfl
      · refine ((between rfl (nat _) rfl).append ?_).append (of_all rfl)
        split <;> exact of_all rfl
    · exact between rfl (nat _) rfl
  simp only [summaryLines, List.forall_mem_append, List.forall_mem_cons]
  exact ⟨⟨hframing, forall_mem_ite (List.forall_mem_singleton.mpr (of_all rfl)) (List.forall_mem_nil _)⟩,
    forall_mem_ite (List.forall_mem_singleton.mpr (of_all rfl)) (List.forall_mem_nil _)⟩

theorem constraintLines_controlFree (flags : Flags) (p : Pattern) :
    ∀ line ∈ constraintLines flags p, ControlFree line := by
  have hflag : ∀ letter, ControlFree (flagLine letter) := by
    intro letter
    unfold flagLine
    split <;> exact of_all rfl
  have hanchors : ∀ line ∈ anchoringLine p, ControlFree line := by
    unfold anchoringLine
    split
    · simp
    · split
      iterate 3 exact List.forall_mem_singleton.mpr (of_all rfl)
      · simp
  intro line hline
  rcases List.mem_append.mp hline with hline | hline
  · obtain ⟨entry, -, rfl⟩ := List.mem_map.mp hline
    exact hflag entry.1
  · exact hanchors line hline

end Explanation

namespace IntentLabel

theorem displayName_controlFree (label : IntentLabel) : ControlFree label.displayName := by
  cases label <;> exact of_all rfl

theorem rules_controlFree (f : Features) (label : IntentLabel) :
    ∀ rule ∈ label.rules f, ControlFree rule.2.2 := by
  cases label <;> simp only [rules, List.forall_mem_cons, List.not_mem_nil, IsEmpty.forall_iff,
    implies_true, and_true] <;> and_intros <;> exact of_all rfl

end IntentLabel

theorem Score.rationale_controlFree {f : Features} {s : Score} (h : s ∈ Score.all f) :
    ∀ reason ∈ s.rationale, ControlFree reason := by
  obtain ⟨label, -, rfl⟩ := List.mem_map.mp h
  intro reason hreason
  obtain ⟨rule, hrule, rfl⟩ := List.mem_map.mp hreason
  have happlied : rule ∈ label.rules f := (List.filter_sublist.trans List.filter_sublist).subset hrule
  exact label.rules_controlFree f rule happlied

/-- The reasons of the best score are given, or one of two texts in their place. -/
theorem Intent.ofScores_rationale (scores : List Score) :
    (ofScores scores).rationale = ["No strong intent signals were found in the pattern"] ∨
      ∃ best, Score.pickBest? scores = some best ∧
        ((ofScores scores).rationale = best.rationale.take maxRationale ∨
          (ofScores scores).rationale =
            ["Pattern structure resembles a " ++ best.label.displayName]) := by
  cases hpick : Score.pickBest? scores with
  | none =>
    rw [ofScores, hpick]
    exact .inl rfl
  | some best =>
    rw [ofScores, hpick]
    dsimp only
    generalize Confidence.ofPoints best.clamped = confidence
    by_cases hfew : confidence.less Confidence.threshold
    · rw [if_pos hfew]
      exact .inl rfl
    · rw [if_neg hfew]
      refine .inr ⟨best, rfl, ?_⟩
      by_cases hreasons : (best.rationale.take maxRationale).isEmpty
      · exact .inr (if_pos hreasons)
      · exact .inl (if_neg hreasons)

theorem ParsedPattern.intent_controlFree (p : ParsedPattern) :
    ∀ reason ∈ p.intent.rationale, ControlFree reason := by
  rw [intent]
  obtain hnone | ⟨best, hpick, hreasons | hlabel⟩ :=
    Intent.ofScores_rationale (Score.all p.features)
  · rw [hnone]
    exact List.forall_mem_singleton.mpr (of_all rfl)
  · rw [hreasons]
    rw [Score.pickBest?_eq_argmax] at hpick
    have hmem : best ∈ Score.all p.features := List.argmax_mem hpick
    exact fun reason hreason =>
      Score.rationale_controlFree hmem reason (List.mem_of_mem_take hreason)
  · rw [hlabel]
    exact List.forall_mem_singleton.mpr ((of_all rfl).append best.label.displayName_controlFree)

namespace ParsedPattern

variable (p : ParsedPattern) (context : RiskContext)

theorem foundExamples_controlFree (id : WarningId) : ∀ s ∈ p.foundExamples id, ControlFree s := by
  have hpairs : ∀ pair ∈ complementPairs, ControlFree pair := by
    simp only [complementPairs, List.forall_mem_cons, List.not_mem_nil, IsEmpty.forall_iff,
      implies_true, and_true]
    and_intros <;> exact of_all rfl
  have hescapes : ∀ e ∈ unicodeEscapes, ControlFree e := by
    simp only [unicodeEscapes, List.forall_mem_cons, List.not_mem_nil, IsEmpty.forall_iff,
      implies_true, and_true]
    and_intros <;> exact of_all rfl
  intro s hs
  unfold foundExamples at hs
  split at hs
  · obtain ⟨e, -, hfound⟩ := List.mem_filterMap.mp hs
    split at hfound
    · obtain ⟨pair, hpair, rfl⟩ := Option.map_eq_some_iff.mp hfound
      have hfree := hpairs pair (List.mem_of_find?_eq_some hpair)
      exact between rfl hfree rfl
    · cases hfound
  · obtain ⟨r, -, hfound⟩ := List.mem_filterMap.mp hs
    obtain ⟨short, hshort, rfl⟩ := Option.map_eq_some_iff.mp hfound
    unfold shorthand? at hshort
    repeat' split at hshort
    all_goals
      cases hshort
    all_goals
      rename_i hcounted
      rw [hcounted]
      exact ((of_all rfl).append (of_all rfl)).append (of_all rfl)
  · obtain ⟨e, he, rfl⟩ := List.mem_map.mp hs
    exact (hescapes e (List.mem_of_mem_filter he)).append (of_all rfl)
  · cases hs

theorem probeNote_controlFree (settings : ProbeSettings) (source : String) (flags : Flags)
    (elapsed : Nat) : ∀ note ∈ Probe.note? settings source flags elapsed, ControlFree note := by
  intro note hnote
  obtain ⟨-, hmade⟩ := Option.ite_none_right_eq_some.mp hnote
  obtain ⟨_, -, rfl⟩ := Option.map_eq_some_iff.mp hmade
  exact ((between rfl (nat _) rfl).append (nat _)).append (of_all rfl)

end ParsedPattern

structure Warning.Worded (w : Warning) : Prop where
  title : ControlFree w.title
  message : ControlFree w.message
  note : ∀ e ∈ w.evidence, ∀ note ∈ e.note, ControlFree note

theorem worded_about? {id : WarningId} {severity : Severity} {title message : String}
    {spans : List Span} {examples : List String} (htitle : ControlFree title)
    (hmessage : ControlFree message) :
    ∀ w ∈ Warning.about? id severity title message spans examples, w.Worded :=
  forall_about? ⟨htitle, hmessage, by simp⟩

namespace ParsedPattern

variable (p : ParsedPattern) (context : RiskContext)

set_option maxRecDepth 1000 in
theorem risks_worded : ∀ w ∈ p.risks context, w.Worded := by
  have hnested : ∀ w ∈ p.nestedQuantifiers, w.Worded := worded_about? (of_all rfl) (of_all rfl)
  have hbacktracking : ∀ w ∈ p.potentialBacktracking context p.nestedQuantifiers.isSome,
      w.Worded := by
    refine forall_choice (by simp) ?_
    rintro _ ⟨⟩
    refine ⟨of_all rfl, of_all rfl, ?_⟩
    rintro _ ⟨⟩ note hnote
    obtain ⟨settings, -, hprobe⟩ := Option.bind_eq_some_iff.mp hnote
    exact probeNote_controlFree settings p.source p.flags context.elapsed note hprobe
  have hwildcard : ∀ w ∈ p.ambiguousWildcard, w.Worded := worded_about? (of_all rfl) (of_all rfl)
  have hanchors : ∀ w ∈ p.unanchoredMismatch, w.Worded :=
    forall_choice (by simp) (forall_choice (worded_about? (of_all rfl) (of_all rfl))
      (worded_about? (of_all rfl) (of_all rfl)))
  have hdotall : ∀ w ∈ p.dotallExpected context, w.Worded :=
    forall_choice (by simp) (worded_about? (of_all rfl) (of_all rfl))
  have hmultiline : ∀ w ∈ p.multilineAnchors, w.Worded :=
    forall_choice (by simp) (worded_about? (of_all rfl) (of_all rfl))
  have hempty : ∀ w ∈ p.emptyAlternation, w.Worded := worded_about? (of_all rfl) (of_all rfl)
  have hclass : ∀ w ∈ p.overbroadClass, w.Worded := worded_about? (of_all rfl) (of_all rfl)
  have hquantifier : ∀ w ∈ p.redundantQuantifier, w.Worded :=
    worded_about? (of_all rfl) (of_all rfl)
  have hlook : ∀ w ∈ p.lookaroundComplexity, w.Worded := worded_about? (of_all rfl) (of_all rfl)
  have hsticky : ∀ w ∈ p.stickyGlobal, w.Worded :=
    forall_choice (by simpa using ⟨of_all rfl, of_all rfl, by simp⟩) (by simp)
  have hunicode : ∀ w ∈ p.unicodeFlagMismatch, w.Worded :=
    forall_choice (by simp) (by simpa using ⟨of_all rfl, of_all rfl, by simp⟩)
  apply risks_forall
  simp only [List.forall_mem_cons]
  exact ⟨hnested, hbacktracking, hwildcard, hanchors, hdotall, hmultiline, hempty, hclass,
    hquantifier, hlook, hsticky, hunicode, List.forall_mem_nil _⟩

theorem examples_controlFree {w : Warning} (hw : w ∈ p.risks context) :
    ∀ e ∈ w.evidence, ∀ s ∈ e.examples, ControlFree s := by
  intro e he s hs
  rw [p.risks_list context w hw e he] at hs
  exact p.foundExamples_controlFree w.id s (mem_dropRepeats.mp hs)

end ParsedPattern
end RegexInsight
