import RegexInsight.Proofs.Enumeration
import RegexInsight.Proofs.EstimateSound
import RegexInsight.Proofs.KeptVariants
import RegexInsight.Proofs.ReportLines
import RegexInsight.Proofs.SeedCap
import RegexInsight.Proofs.WorkBudget

/-! The controls in a report. A match and its groups are quoted, and so is the text of a finding. The reason of
a finding shows the seed as it is, so the controls of that seed are in the report, line feeds among them, and
there are no others but the line feeds that end the lines. -/
namespace RegexInsight

open ControlFree

namespace Variant

variable (t : PatternTraits) (seed : List Char)

theorem forall_edit_singleton {v : Variant} (h : ControlFree v.edit) :
    ∀ w ∈ [v], ControlFree w.edit := List.forall_mem_singleton.mpr h

theorem tolerable_edits : ∀ v ∈ tolerable t seed, ControlFree v.edit := by
  have hnone : ∀ w ∈ ([] : List Variant), ControlFree w.edit := List.forall_mem_nil _
  simp only [tolerable, List.forall_mem_append]
  refine ⟨⟨⟨⟨⟨⟨forall_mem_ite ?spaces hnone, forall_mem_ite ?cases hnone⟩, ?hyphens⟩, ?dots⟩, ?colons⟩,
    ?shorter⟩, ?longer⟩
  case spaces =>
    exact List.forall_mem_append.mpr ⟨List.forall_mem_cons.mpr ⟨of_all rfl, forall_edit_singleton (of_all rfl)⟩,
      forall_mem_ite (forall_edit_singleton (of_all rfl)) hnone⟩
  case cases =>
    refine List.forall_mem_cons.mpr ⟨of_all rfl, ?_⟩
    exact List.forall_mem_cons.mpr ⟨of_all rfl, forall_edit_singleton (of_all rfl)⟩
  all_goals exact forall_mem_ite (forall_edit_singleton (of_all rfl)) hnone

theorem intolerable_edits : ∀ v ∈ intolerable t seed, ControlFree v.edit := by
  have hreplaced : ∀ (p : Char → Bool) (new : List Char) {edit : String}, ControlFree edit →
      ∀ v ∈ ((replaceFirst? p new seed).map fun text => (⟨text, edit⟩ : Variant)).toList,
        ControlFree v.edit := by
    intro p new edit h v hv
    obtain ⟨text, -, rfl⟩ := Option.map_eq_some_iff.mp (Option.mem_toList.mp hv)
    exact h
  have hnone : ∀ w ∈ ([] : List Variant), ControlFree w.edit := List.forall_mem_nil _
  simp only [intolerable, List.forall_mem_append]
  refine ⟨⟨⟨⟨⟨⟨?appended, forall_mem_ite ?digits hnone⟩, forall_mem_ite ?words hnone⟩, ?dots⟩,
    ?hyphens⟩, ?colons⟩, forall_mem_ite hnone ?around⟩
  case appended =>
    refine List.forall_mem_cons.mpr ⟨of_all rfl, ?_⟩
    exact List.forall_mem_cons.mpr ⟨of_all rfl, forall_edit_singleton (of_all rfl)⟩
  case digits =>
    exact List.forall_mem_append.mpr ⟨hreplaced _ _ (of_all rfl), forall_edit_singleton (of_all rfl)⟩
  case words => exact List.forall_mem_cons.mpr ⟨of_all rfl, hreplaced _ _ (of_all rfl)⟩
  case around => exact List.forall_mem_cons.mpr ⟨of_all rfl, forall_edit_singleton (of_all rfl)⟩
  all_goals exact forall_mem_ite (hreplaced _ _ (of_all rfl)) hnone

end Variant

namespace Estimate

variable {settings : EstimatorSettings}

theorem count_seed {c : Char} (hc : isControl c) {front edit : String} (hfront : ControlFree front)
    (hedit : ControlFree edit) (seed : List Char) :
    (front ++ String.ofList seed ++ "\" with " ++ edit).toList.count c = seed.count c := by
  have hbehind : ControlFree "\" with " := of_all rfl
  simp only [String.toList_append, String.toList_ofList, List.count_append,
    hfront.count_eq_zero hc, hbehind.count_eq_zero hc, hedit.count_eq_zero hc, Nat.zero_add,
    Nat.add_zero]

theorem finding_seed {traits : PatternTraits} {seeds : List (List Char)} {f : Finding}
    (h : Accepted traits seeds f ∨ Rejected traits seeds f) :
    ∃ seed ∈ seeds, ∀ c, isControl c → f.reason.toList.count c = seed.count c := by
  rcases h with ⟨seed, hseed, v, hv, rfl⟩ | ⟨seed, hseed, v, hv, rfl⟩
  · have hedit := Variant.intolerable_edits traits seed v (Variant.mem_of_mem_keep hv).1
    have hfront : ControlFree "Likely false positive: the pattern still matches \"" := of_all rfl
    exact ⟨seed, hseed, fun c hc => count_seed hc hfront hedit seed⟩
  · have hedit := Variant.tolerable_edits traits seed v (Variant.mem_of_mem_keep hv).1
    have hfront : ControlFree "Likely false negative: the pattern rejects \"" := of_all rfl
    exact ⟨seed, hseed, fun c hc => count_seed hc hfront hedit seed⟩

set_option maxRecDepth 1000 in
theorem noMatchesNote_controlFree : ControlFree noMatchesNote := of_all rfl

theorem Seeds.notes_controlFree (s : Seeds) : ∀ note ∈ s.notes settings, ControlFree note := by
  simp only [notes, List.forall_mem_append]
  refine ⟨forall_mem_ite (List.forall_mem_singleton.mpr ?_) (List.forall_mem_nil _),
    forall_mem_ite (List.forall_mem_singleton.mpr ?_) (List.forall_mem_nil _)⟩
  · exact between rfl (nat _) rfl
  · exact between rfl (nat _) rfl

end Estimate

namespace ParsedPattern

variable {p : ParsedPattern}

theorem preview_names (h : p.Accepted) (settings : ExecutionSettings) (sample : Subject) :
    ∀ m ∈ (p.preview settings sample).found, ∀ g ∈ m.groups, ∀ name ∈ g.name,
      some name ∈ p.tree.names := by
  obtain ⟨r, -, hr, -, hnames⟩ := h.builds p.flags rfl
  unfold preview
  rw [hr]
  dsimp only
  split
  · exact List.forall_mem_nil _
  · rename_i l hl
    obtain ⟨cs, -, hfound⟩ := Regex.collectFrom_lists hl
    rw [List.reverse_nil, List.nil_append] at hfound
    rw [hfound]
    intro m hm g hg name hname
    obtain ⟨c, -, rfl⟩ := List.mem_map.mp hm
    obtain ⟨i, -, rfl⟩ := List.mem_map.mp hg
    have hat : r.names[i]? = some (some name) := Option.join_eq_some_iff.mp hname
    exact hnames ▸ List.mem_of_getElem? hat

theorem estimate_notes_controlFree (h : p.Accepted) (sample : Subject) (found : List MatchRecord)
    (settings : EstimatorSettings) :
    ∀ note ∈ (p.estimate sample found settings).notes, ControlFree note := by
  obtain ⟨r, -, hr, -⟩ := h.builds p.flags.withoutGlobal rfl
  unfold estimate estimateWith
  rw [hr]
  dsimp only
  split
  · exact List.forall_mem_singleton.mpr Estimate.noMatchesNote_controlFree
  · refine List.forall_mem_append.mpr ⟨Estimate.Seeds.notes_controlFree _,
      forall_mem_ite (List.forall_mem_singleton.mpr ?_) (List.forall_mem_nil _)⟩
    exact between rfl (nat _) rfl

theorem estimateFrom_notes_controlFree (h : p.Accepted) (sample : Subject) {preview : Preview}
    (herror : ∀ error ∈ preview.error, ControlFree error) (settings : EstimatorSettings) :
    ∀ note ∈ (p.estimateFrom settings sample preview).notes, ControlFree note := by
  unfold estimateFrom
  split
  · exact p.estimate_notes_controlFree h sample preview.found settings
  · rename_i error hsome
    refine List.forall_mem_singleton.mpr ?_
    exact between rfl (herror error hsome) rfl

theorem estimateFrom_findings (h : p.Accepted) (sample : String) (preview : Preview)
    (settings : EstimatorSettings) {f : Finding}
    (hf : f ∈ (p.estimateFrom settings (.ofString sample) preview).falsePositives ++
      (p.estimateFrom settings (.ofString sample) preview).falseNegatives) :
    ∃ seed, seed <:+: sample.toList ∧ ∀ c, isControl c → f.reason.toList.count c = seed.count c := by
  unfold estimateFrom at hf
  split at hf
  · obtain ⟨r, -, hr, -⟩ := h.builds p.flags.withoutGlobal rfl
    have hsound := estimate_ok hr (.ofString sample) preview.found settings
    obtain ⟨seed, hseed, hcount⟩ := Estimate.finding_seed
      ((List.mem_append.mp hf).imp (hsound.positives f) (hsound.negatives f))
    obtain ⟨-, -, -, c, -, rfl⟩ := Estimate.mem_seedsOf hseed
    exact ⟨_, Estimate.seedText_isInfix settings sample.toList c, hcount⟩
  · cases hf

theorem report_clean {source flagText : String} (h : parsePattern source flagText = .ok p)
    (hsource : ControlFree source) (settings : Settings) (sample : Option String) (elapsed : Nat) :
    (p.report settings sample elapsed).Clean := by
  obtain ⟨-, hsame, hparse, -⟩ := parsePattern_cases h
  have haccepted := accepted h
  have herror : ∀ subject, ∀ error ∈ (p.preview settings.execution subject).error,
      ControlFree error := by
    intro subject error herror
    rcases haccepted.preview settings.execution subject with hnone | hlimit
    · rw [hnone] at herror
      cases herror
    · rw [hlimit] at herror
      cases herror
      exact of_all rfl
  have hsource : ControlFree p.source := hsame ▸ hsource
  refine ⟨hsource, ?explanation, Intent.lines_controlFree p.intent_controlFree, ?preview,
    ?warnings, ?notes⟩
  case explanation =>
    exact Explanation.lines_controlFree (Explanation.summaryLines_controlFree p.flags p.pattern)
      (Explanation.componentLines_controlFree p.flags (parse_elements_controlFree hparse))
      (Explanation.constraintLines_controlFree p.flags p.pattern)
  case preview =>
    intro preview hpreview
    obtain ⟨subject, -, rfl⟩ := Option.map_eq_some_iff.mp hpreview
    refine Preview.lines_controlFree (herror subject) fun m hm g hg name hname => ?_
    exact parse_names_controlFree hparse name
      (preview_names haccepted settings.execution subject m hm g hg name hname)
  case warnings =>
    have hrisks : ∀ context, ∀ w ∈ p.risks context, w.Worded ∧
        ∀ e ∈ w.evidence, ∀ s ∈ e.examples, ControlFree s := fun context w hw =>
      ⟨p.risks_worded context w hw, p.examples_controlFree context hw⟩
    have hwarnings : ∀ w ∈ (p.report settings sample elapsed).warnings, w.Worded ∧
        ∀ e ∈ w.evidence, ∀ s ∈ e.examples, ControlFree s :=
      forall_mem_ite (hrisks _) (List.forall_mem_nil _)
    exact warningLines_controlFree (fun w hw => (hwarnings w hw).1) fun w hw => (hwarnings w hw).2
  case notes =>
    intro e he
    cases sample with
    | none => cases he
    | some text =>
      obtain ⟨-, he⟩ := Option.ite_none_right_eq_some.mp he
      cases he
      exact estimateFrom_notes_controlFree haccepted _ (herror _) settings.estimator

theorem mem_findings (p : ParsedPattern) (settings : Settings) (sample : String) (elapsed : Nat)
    {f : Finding} :
    f ∈ (p.report settings (some sample) elapsed).findings ↔ settings.features.estimation = true ∧
      f ∈ (p.estimateFrom settings.estimator (.ofString sample)
          (p.preview settings.execution (.ofString sample))).falsePositives ++
        (p.estimateFrom settings.estimator (.ofString sample)
          (p.preview settings.execution (.ofString sample))).falseNegatives := by
  have hfindings : (p.report settings (some sample) elapsed).findings =
      ((if settings.features.estimation then some (p.estimateFrom settings.estimator
        (.ofString sample) (p.preview settings.execution (.ofString sample))) else none).map
          fun e => e.falsePositives ++ e.falseNegatives).getD [] := rfl
  rw [hfindings]
  cases settings.features.estimation <;> simp

theorem report_findings {source flagText : String} (h : parsePattern source flagText = .ok p)
    (settings : Settings) (sample : Option String) (elapsed : Nat) :
    ∀ f ∈ (p.report settings sample elapsed).findings, ∃ text ∈ sample, ∃ seed, seed <:+: text.toList ∧
      ∀ c, isControl c → f.reason.toList.count c = seed.count c := by
  intro f hf
  cases sample with
  | none => cases hf
  | some text =>
    obtain ⟨-, hmade⟩ := (p.mem_findings settings text elapsed).mp hf
    exact ⟨text, rfl, estimateFrom_findings (accepted h) text _ settings.estimator hmade⟩

/-- With a smaller budget there are findings left out, and no others, whatever the trial runs took. -/
theorem report_findings_subset (p : ParsedPattern) (settings : Settings) (sample : String)
    (elapsed elapsed' : Nat) {w : Nat} (hw : w ≤ settings.estimator.maxTotalWork) :
    (p.report { settings with estimator := { settings.estimator with maxTotalWork := w } }
      (some sample) elapsed').findings ⊆ (p.report settings (some sample) elapsed).findings := by
  intro f hf
  obtain ⟨hon, hmade⟩ := (p.mem_findings _ sample elapsed').mp hf
  refine (p.mem_findings settings sample elapsed).mpr ⟨hon, ?_⟩
  unfold estimateFrom at hmade ⊢
  cases herror : (p.preview settings.execution (.ofString sample)).error with
  | some error =>
    rw [herror] at hmade
    cases hmade
  | none =>
    rw [herror] at hmade
    obtain ⟨total, -, notes, -, hcut⟩ := p.estimate_cut (.ofString sample)
      (p.preview settings.execution (.ofString sample)).found settings.estimator
    obtain ⟨hpositives, hnegatives⟩ := hcut.found w _ hw
    exact List.mem_append.mpr
      ((List.mem_append.mp hmade).imp (hpositives.mem ·) (hnegatives.mem ·))

end ParsedPattern

/-- A control in a report is a line feed behind one of its lines or stands in the reason of a finding, and a
reason has the controls of some part of the sample. So the lines are as many as the parts of the report say, and
the text has no other control in it, just if the reasons have none. -/
theorem reportText_controls {source flagText : String} {p : ParsedPattern}
    (h : parsePattern source flagText = .ok p) (hsource : ControlFree source) (settings : Settings)
    (sample : Option String) (elapsed : Nat) :
    let r := p.report settings sample elapsed
    (∀ c, isControl c → (r.text false).toList.count c =
      (if c = '\n' then r.lineCount else 0) + (r.findings.map fun f => f.reason.toList.count c).sum) ∧
    (∀ f ∈ r.findings, ∃ text ∈ sample, ∃ seed, seed <:+: text.toList ∧
      ∀ c, isControl c → f.reason.toList.count c = seed.count c) ∧
    ((∀ c, isControl c → (r.text false).toList.count c = if c = '\n' then r.lineCount else 0) ↔
      ∀ f ∈ r.findings, ControlFree f.reason) := by
  intro r
  have hcount : ∀ c, isControl c → (r.text false).toList.count c =
      (if c = '\n' then r.lineCount else 0) +
        (r.findings.map fun f => f.reason.toList.count c).sum := fun c hc =>
    (ParsedPattern.report_clean h hsource settings sample elapsed).count_text hc
  refine ⟨hcount, ParsedPattern.report_findings h settings sample elapsed, fun hclean f hf => ?_,
    fun hfree c hc => ?_⟩
  · intro c hmem
    by_contra hc
    have hc : isControl c := by simpa using hc
    have hsum := hcount c hc
    rw [hclean c hc, Nat.left_eq_add] at hsum
    have hzero := List.sum_eq_zero_iff_forall_eq_nat.mp hsum _ (List.mem_map_of_mem hf)
    exact List.count_eq_zero.mp hzero hmem
  · have hzero : (r.findings.map fun f => f.reason.toList.count c).sum = 0 :=
      List.sum_eq_zero_iff_forall_eq_nat.mpr (List.forall_mem_map.mpr fun f hf => (hfree f hf).count_eq_zero hc)
    rw [hcount c hc, hzero, Nat.add_zero]

/-- A match with a line feed in it, one variant of which is tried. -/
theorem reportText_controls_line_feed :
    ∃ p, parsePattern "a[^b]b" "" = .ok p ∧ ControlFree "a[^b]b" ∧
      let r := p.report { Settings.standard with estimator := ⟨250, 500, 1, 100000⟩ } (some "a\nb") 0
      r.findings.map (·.reason) =
        ["Likely false negative: the pattern rejects \"a\nb\" with upper case"] ∧
          (r.text false).toList.count '\n' = r.lineCount + 1 := by
  have h : (parsePattern "a[^b]b" "").toOption.map (fun p => (p.report
      { Settings.standard with estimator := ⟨250, 500, 1, 100000⟩ } (some "a\nb") 0).findings.map
        (·.reason)) = some ["Likely false negative: the pattern rejects \"a\nb\" with upper case"] := by
    decide +kernel
  obtain ⟨p, hp, hfindings⟩ := ok_of_toOption_map h
  have hsource : ControlFree "a[^b]b" := .of_all rfl
  obtain ⟨hcount, -, -⟩ := reportText_controls hp hsource
    { Settings.standard with estimator := ⟨250, 500, 1, 100000⟩ } (some "a\nb") 0
  have hreasons := congrArg (List.map fun s : String => s.toList.count '\n') hfindings
  rw [List.map_map] at hreasons
  refine ⟨p, hp, hsource, hfindings, ?_⟩
  rw [hcount '\n' rfl]
  exact congrArg (fun counts : List Nat => _ + counts.sum) hreasons

/-- An escape character of the sample is in the report, whatever a trial run takes. -/
theorem reportText_escape :
    ∃ p, parsePattern "a.b" "" = .ok p ∧ ControlFree "a.b" ∧ isControl '\x1b' ∧
      ∀ elapsed, '\x1b' ∈ ((p.report .standard (some "a\x1bb") elapsed).text false).toList := by
  have h : (parsePattern "a.b" "").toOption.map (fun p =>
      (p.report { Settings.standard with estimator := ⟨250, 500, 1, 100000⟩ }
        (some "a\x1bb") 0).findings.any fun f => f.reason.toList.contains '\x1b') = some true := by
    decide +kernel
  obtain ⟨p, hp, hany⟩ := ok_of_toOption_map h
  obtain ⟨f, hfound, hescape⟩ := List.any_eq_true.mp hany
  have hsource : ControlFree "a.b" := .of_all rfl
  refine ⟨p, hp, hsource, rfl, fun elapsed => ?_⟩
  have hf : f ∈ (p.report .standard (some "a\x1bb") elapsed).findings :=
    p.report_findings_subset .standard "a\x1bb" elapsed 0 (by decide) hfound
  have hcount := (p.report_clean hp hsource .standard (some "a\x1bb") elapsed).count_text
    (show isControl '\x1b' from rfl)
  by_contra hnone
  rw [List.count_eq_zero.mpr hnone, if_neg (by decide), Nat.zero_add] at hcount
  have hzero := List.sum_eq_zero_iff_forall_eq_nat.mp hcount.symm _ (List.mem_map_of_mem hf)
  exact List.count_eq_zero.mp hzero (by simpa using hescape)

end RegexInsight
