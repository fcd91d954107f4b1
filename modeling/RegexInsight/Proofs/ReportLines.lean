import RegexInsight.ReportText
import RegexInsight.Proofs.ExplainedText
import RegexInsight.Proofs.Validity

/-! The lines of a report: how many there are, and that no part of them but the reason of a finding can have a
control in it. What comes from a sample is quoted, what comes from the pattern is known to be free of them. -/
namespace RegexInsight

open ControlFree StyledLine Styled

namespace StyledLine

def chars (line : StyledLine) : List Char := line.flatMap (·.text.toList)

/-- How often a character stands in some lines. -/
def occurrences (c : Char) (lines : List StyledLine) : Nat :=
  (lines.flatMap chars).count c

def ControlFree (line : StyledLine) : Prop := ∀ part ∈ line, RegexInsight.ControlFree part.text

section
variable {c : Char} {line : StyledLine} {lines more : List StyledLine}

@[simp] theorem occurrences_append :
    occurrences c (lines ++ more) = occurrences c lines + occurrences c more := by
  simp [occurrences]

theorem occurrences_cons :
    occurrences c (line :: lines) = line.chars.count c + occurrences c lines := by
  simp [occurrences]

theorem toList_render (line : StyledLine) : (render false line).toList = line.chars := by
  simp [render, Styled.render, chars, List.flatMap_map]

/-- A character stands in the text where it stands in the lines, and a line feed behind each line. -/
theorem count_renderAll (c : Char) (lines : List StyledLine) :
    (renderAll false lines).toList.count c =
      occurrences c lines + if c = '\n' then lines.length else 0 := by
  induction lines with
  | nil => simp [renderAll, occurrences]
  | cons line lines ih =>
    have hsplit : (renderAll false (line :: lines)).toList =
        line.chars ++ '\n' :: (renderAll false lines).toList := by
      simp [renderAll, toList_render]
    rw [hsplit, List.count_append, List.count_cons, ih, occurrences, occurrences, List.flatMap_cons,
      List.count_append]
    by_cases hc : c = '\n'
    · simp [hc]
      omega
    · simp [hc, Ne.symm hc]

theorem occurrences_eq_zero (hc : isControl c) (h : ∀ line ∈ lines, line.ControlFree) :
    occurrences c lines = 0 := by
  rw [occurrences, List.count_eq_zero]
  intro hmem
  obtain ⟨line, hline, hchar⟩ := List.mem_flatMap.mp hmem
  obtain ⟨part, hpart, hchar⟩ := List.mem_flatMap.mp hchar
  have hfree := h line hline part hpart c hchar
  simp [hc] at hfree

theorem ofText_controlFree {text : String} (h : RegexInsight.ControlFree text) :
    (ofText text).ControlFree := List.forall_mem_singleton.mpr h

theorem indented_controlFree (spaces : Nat) (h : line.ControlFree) :
    (indented spaces line).ControlFree :=
  List.forall_mem_cons.mpr ⟨replicate spaces rfl, h⟩

end

end StyledLine

section
variable {title text : String} {lines : List StyledLine}

theorem item_controlFree (h : ControlFree text) : (item text).ControlFree :=
  indented_controlFree 2 (ofText_controlFree h)

theorem sectionLines_controlFree (ht : ControlFree title) (h : ∀ line ∈ lines, line.ControlFree) :
    ∀ line ∈ sectionLines title lines, line.ControlFree := by
  simp only [sectionLines, List.cons_append, List.forall_mem_cons, List.forall_mem_append]
  exact ⟨List.forall_mem_singleton.mpr ht, h, List.forall_mem_nil _, List.forall_mem_nil _⟩

theorem occurrences_sectionLines {c : Char} (hc : isControl c) (ht : ControlFree title) :
    occurrences c (sectionLines title lines) = occurrences c lines := by
  have hblank : blank.ControlFree := List.forall_mem_nil _
  have htitle : occurrences c [[{ strong title with underline := true }]] = 0 :=
    occurrences_eq_zero hc (List.forall_mem_singleton.mpr (List.forall_mem_singleton.mpr ht))
  have hend : occurrences c [blank] = 0 :=
    occurrences_eq_zero hc (List.forall_mem_singleton.mpr hblank)
  have hsplit : sectionLines title lines =
      [[{ strong title with underline := true }]] ++ lines ++ [blank] := rfl
  rw [hsplit, occurrences_append, occurrences_append, htitle, hend, Nat.zero_add, Nat.add_zero]

@[simp] theorem length_sectionLines : (sectionLines title lines).length = lines.length + 2 := by
  simp [sectionLines]

end

def Explanation.lineCount (e : Explanation) : Nat :=
  (e.summary.length + 2) + (e.components.length + 2) +
    if e.constraints.isEmpty then 0 else e.constraints.length + 2

theorem Explanation.length_lines (e : Explanation) : e.lines.length = e.lineCount := by
  by_cases hnone : e.constraints = []
  · simp [lines, lineCount, hnone]
  · simp [lines, lineCount, hnone]
    omega

theorem Explanation.lines_controlFree {e : Explanation}
    (hsummary : ∀ line ∈ e.summary, RegexInsight.ControlFree line)
    (hcomponents : ∀ line ∈ e.components, RegexInsight.ControlFree line)
    (hconstraints : ∀ line ∈ e.constraints, RegexInsight.ControlFree line) :
    ∀ line ∈ e.lines, line.ControlFree := by
  have hitems : ∀ texts : List String, (∀ text ∈ texts, RegexInsight.ControlFree text) →
      ∀ line ∈ texts.map item, line.ControlFree := by
    intro texts htexts
    exact List.forall_mem_map.mpr fun text htext => item_controlFree (htexts text htext)
  simp only [lines, List.forall_mem_append]
  refine ⟨⟨sectionLines_controlFree (of_all rfl) (hitems _ hsummary),
    sectionLines_controlFree (of_all rfl) (hitems _ hcomponents)⟩, ?_⟩
  refine forall_mem_ite (List.forall_mem_nil _) (sectionLines_controlFree (of_all rfl)
    (List.forall_mem_map.mpr fun text htext => ?_))
  exact item_controlFree ((of_all rfl).append (hconstraints text htext))

def Intent.lineCount (i : Intent) : Nat := i.rationale.length + 3

theorem Intent.length_lines (i : Intent) : i.lines.length = i.lineCount := by
  simp [lines, lineCount]

theorem numeral_controlFree (digits places : Nat) : ControlFree (Binary64.numeral digits places) := by
  unfold Binary64.numeral
  extract_lets one tail zeros
  exact (((nat _).append (of_all rfl)).append (replicate _ rfl)).append (nat _)

theorem Intent.lines_controlFree {i : Intent} (h : ∀ reason ∈ i.rationale, ControlFree reason) :
    ∀ line ∈ i.lines, line.ControlFree := by
  refine sectionLines_controlFree (of_all rfl) (List.forall_mem_cons.mpr ⟨?_, ?_⟩)
  · refine indented_controlFree 2 ?_
    simp only [StyledLine.ControlFree, List.forall_mem_cons]
    exact ⟨i.label.displayName_controlFree,
      between rfl (numeral_controlFree _ 2) rfl, List.forall_mem_nil _⟩
  · refine List.forall_mem_map.mpr fun reason hreason => indented_controlFree 2 ?_
    simp only [StyledLine.ControlFree, List.forall_mem_cons]
    exact ⟨of_all rfl, h reason hreason, List.forall_mem_nil _⟩

theorem padRight_controlFree (size : Nat) {text : String} (h : ControlFree text) :
    ControlFree (padRight size text) := h.append (replicate _ rfl)

theorem padLeft_controlFree (size : Nat) {text : String} (h : ControlFree text) :
    ControlFree (padLeft size text) := (replicate _ rfl).append h

theorem GroupRecord.line_controlFree {g : GroupRecord} (h : ∀ name ∈ g.name, ControlFree name) :
    g.line.ControlFree := by
  unfold GroupRecord.line
  extract_lets label
  have hlabel : ControlFree label := by
    refine ((of_all rfl).append (nat _)).append ?_
    split
    · exact of_all rfl
    · rename_i name hname
      exact between rfl (h name hname) rfl
  refine indented_controlFree 6 ?_
  simp only [StyledLine.ControlFree, List.forall_mem_cons]
  refine ⟨hlabel.append (of_all rfl), ?_, List.forall_mem_nil _⟩
  split
  · exact controlFree_quoted g.value
  · exact of_all rfl

theorem MatchRecord.lines_controlFree {m : MatchRecord}
    (h : ∀ g ∈ m.groups, ∀ name ∈ g.name, ControlFree name) :
    ∀ line ∈ m.lines, line.ControlFree := by
  refine List.forall_mem_cons.mpr ⟨indented_controlFree 2 ?_,
    List.forall_mem_map.mpr fun g hg => g.line_controlFree (h g hg)⟩
  have hplace : ControlFree (padRight 4 (toString m.line) ++ " " ++
      padLeft 5 (toString m.span.start) ++ ".." ++ padRight 5 (toString m.span.stop)) :=
    (((((padRight_controlFree 4 (nat _)).append (of_all rfl)).append
      (padLeft_controlFree 5 (nat _))).append (of_all rfl)).append (padRight_controlFree 5 (nat _)))
  simp only [StyledLine.ControlFree, List.forall_mem_cons]
  exact ⟨between rfl hplace rfl, controlFree_quoted m.text,
    List.forall_mem_nil _⟩

/-- A remark if there are no matches to show, a line for each match and group, and a remark if there are
more. -/
def Preview.lineCount (p : Preview) : Nat :=
  (if p.error.isSome || p.found.isEmpty then 1 else 0) +
    (p.found.map fun m => m.groups.length + 1).sum + (if p.truncated then 1 else 0) + 2

theorem Preview.length_lines (p : Preview) : p.lines.length = p.lineCount := by
  obtain ⟨found, truncated, error⟩ := p
  have hmatches : (found.flatMap MatchRecord.lines).length =
      (found.map fun m => m.groups.length + 1).sum := by
    simp [List.length_flatMap, MatchRecord.lines]
  cases error with
  | some error => cases truncated <;> simp [lines, lineCount, hmatches] <;> omega
  | none =>
    by_cases hnone : found = []
    · cases truncated <;> simp [lines, lineCount, hnone]
    · cases truncated <;> simp [lines, lineCount, hmatches, hnone]

theorem Preview.lines_controlFree {p : Preview} (herror : ∀ error ∈ p.error, ControlFree error)
    (hfound : ∀ m ∈ p.found, ∀ g ∈ m.groups, ∀ name ∈ g.name, ControlFree name) :
    ∀ line ∈ p.lines, line.ControlFree := by
  unfold lines
  extract_lets count remark
  have hremark : ∀ line ∈ remark, line.ControlFree := by
    simp only [remark]
    split
    · rename_i error hsome
      refine List.forall_mem_singleton.mpr (indented_controlFree 2 ?_)
      simp only [StyledLine.ControlFree, List.forall_mem_cons]
      exact ⟨of_all rfl, (of_all rfl).append (herror error hsome), List.forall_mem_nil _⟩
    · exact forall_mem_ite (List.forall_mem_singleton.mpr (item_controlFree (of_all rfl)))
        (List.forall_mem_nil _)
  refine sectionLines_controlFree (between rfl (nat _) rfl) ?_
  simp only [List.forall_mem_append]
  refine ⟨⟨hremark, List.forall_mem_flatMap.mpr fun m hm => m.lines_controlFree (hfound m hm)⟩, ?_⟩
  exact forall_mem_ite (List.forall_mem_singleton.mpr
    (indented_controlFree 2 (List.forall_mem_singleton.mpr (of_all rfl)))) (List.forall_mem_nil _)

def Evidence.lineCount (e : Evidence) : Nat :=
  (if e.spans.isEmpty then 0 else 1) + (if e.examples.isEmpty then 0 else 1) + e.note.toList.length

def Warning.lineCount (w : Warning) : Nat := 2 + (w.evidence.map Evidence.lineCount).getD 0

theorem Warning.length_lines (w : Warning) : w.lines.length = w.lineCount := by
  have hevidence : ∀ e : Evidence, e.lines.length = e.lineCount := by
    intro e
    by_cases hspans : e.spans = [] <;> by_cases hexamples : e.examples = [] <;>
      simp [Evidence.lines, Evidence.lineCount, hspans, hexamples] <;> omega
  cases hnone : w.evidence with
  | none => simp [lines, lineCount, hnone]
  | some e =>
    simp [lines, lineCount, hnone, hevidence]
    omega

theorem Evidence.lines_controlFree {e : Evidence} (hexamples : ∀ s ∈ e.examples, ControlFree s)
    (hnote : ∀ note ∈ e.note, ControlFree note) : ∀ line ∈ e.lines, line.ControlFree := by
  unfold lines
  extract_lets place detail
  have hplaces : ∀ text ∈ e.spans.map place, ControlFree text := by
    refine List.forall_mem_map.mpr fun span _ => ?_
    exact ((nat _).append (of_all rfl)).append (nat _)
  have hdetail : ∀ text, ControlFree text → (detail text).ControlFree :=
    fun text htext => indented_controlFree 6 (ofText_controlFree htext)
  simp only [List.forall_mem_append]
  refine ⟨⟨forall_mem_ite (List.forall_mem_nil _) (List.forall_mem_singleton.mpr (hdetail _ ?_)),
    forall_mem_ite (List.forall_mem_nil _) (List.forall_mem_singleton.mpr (hdetail _ ?_))⟩, ?_⟩
  · exact (of_all rfl).append (intercalate (of_all rfl) hplaces)
  · exact (of_all rfl).append (intercalate (of_all rfl) hexamples)
  · refine List.forall_mem_map.mpr fun note hmem => ?_
    have hfree := hnote note (Option.mem_toList.mp hmem)
    exact indented_controlFree 6 (List.forall_mem_singleton.mpr hfree)

theorem Warning.lines_controlFree {w : Warning} (h : w.Worded)
    (hexamples : ∀ e ∈ w.evidence, ∀ s ∈ e.examples, ControlFree s) :
    ∀ line ∈ w.lines, line.ControlFree := by
  have hname : ControlFree w.id.name := by
    cases w.id <;> exact of_all rfl
  have hbadge : ControlFree w.severity.badge.text := by
    cases w.severity <;> exact of_all rfl
  have hhead : (indented 2 [w.severity.badge, plain " ", strong w.title, plain " ",
      faint s!"({w.id.name})"]).ControlFree := by
    refine indented_controlFree 2 ?_
    simp only [StyledLine.ControlFree, List.forall_mem_cons]
    exact ⟨hbadge, of_all rfl, h.title, of_all rfl,
      between rfl hname rfl, List.forall_mem_nil _⟩
  refine List.forall_mem_cons.mpr ⟨hhead, List.forall_mem_cons.mpr
    ⟨indented_controlFree 6 (ofText_controlFree h.message), ?_⟩⟩
  cases hnone : w.evidence with
  | none => simp
  | some e => simpa using e.lines_controlFree (hexamples e hnone) (h.note e hnone)

/-- A remark if there are no warnings, and the lines of each. -/
def warningsLineCount (warnings : List Warning) : Nat :=
  (if warnings.isEmpty then 1 else (warnings.map Warning.lineCount).sum) + 2

theorem length_warningLines (warnings : List Warning) :
    (warningLines warnings).length = warningsLineCount warnings := by
  by_cases hnone : warnings = []
  · simp [warningLines, warningsLineCount, hnone]
  · simp [warningLines, warningsLineCount, hnone, List.length_flatMap, Warning.length_lines]

theorem warningLines_controlFree {warnings : List Warning} (h : ∀ w ∈ warnings, w.Worded)
    (hexamples : ∀ w ∈ warnings, ∀ e ∈ w.evidence, ∀ s ∈ e.examples, ControlFree s) :
    ∀ line ∈ warningLines warnings, line.ControlFree := by
  refine sectionLines_controlFree (between rfl (nat _) rfl) ?_
  refine forall_mem_ite (List.forall_mem_singleton.mpr (indented_controlFree 2 ?_))
    (List.forall_mem_flatMap.mpr fun w hw => w.lines_controlFree (h w hw) (hexamples w hw))
  exact List.forall_mem_singleton.mpr (of_all rfl)

def Estimate.lineCount (e : Estimate) : Nat :=
  (e.falsePositives.length + 1) + (e.falseNegatives.length + 1) + e.notes.length + 2

theorem Estimate.length_lines (e : Estimate) : e.lines.length = e.lineCount := by
  have hfindings : ∀ title findings, (findingLines title findings).length = findings.length + 1 := by
    intro title findings
    by_cases hnone : findings = [] <;> simp [findingLines, hnone]
  simp [lines, lineCount, hfindings]
  omega

theorem Finding.occurrences_line {c : Char} (hc : isControl c) (f : Finding) :
    f.line.chars.count c = f.reason.toList.count c := by
  have hquoted := (controlFree_quoted (String.ofList f.text)).count_eq_zero hc
  have hindent : (String.ofList (List.replicate 4 ' ')).toList.count c = 0 :=
    (ControlFree.replicate 4 rfl).count_eq_zero hc
  have hblank : " ".toList.count c = 0 := ControlFree.count_eq_zero (of_all rfl) hc
  have hchars : f.line.chars = (String.ofList (List.replicate 4 ' ')).toList ++
      ((quoted (String.ofList f.text)).toList ++ (" ".toList ++ f.reason.toList)) := by
    simp [Finding.line, indented, chars, plain, colored, faint]
  rw [hchars, List.count_append, List.count_append, List.count_append, hquoted, hindent, hblank]
  simp

theorem occurrences_findingLines {c : Char} (hc : isControl c) {title : String}
    (ht : ControlFree title) (findings : List Finding) :
    occurrences c (findingLines title findings) =
      (findings.map fun f => f.reason.toList.count c).sum := by
  have htitle : ∀ text, ControlFree text → occurrences c [item (title ++ text)] = 0 := fun text h =>
    occurrences_eq_zero hc (List.forall_mem_singleton.mpr (item_controlFree (ht.append h)))
  have hlines : occurrences c (findings.map Finding.line) =
      (findings.map fun f => f.reason.toList.count c).sum := by
    induction findings with
    | nil => rfl
    | cons f findings ih =>
      rw [List.map_cons, occurrences_cons, f.occurrences_line hc, ih, List.map_cons, List.sum_cons]
  by_cases hnone : findings = []
  · simpa [findingLines, hnone] using htitle ": none found" (of_all rfl)
  · have hsplit : findingLines title findings = [item (title ++ ":")] ++ findings.map Finding.line := by
      simp [findingLines, hnone]
    rw [hsplit, occurrences_append, htitle ":" (of_all rfl), hlines, Nat.zero_add]

theorem Estimate.occurrences_lines {c : Char} (hc : isControl c) {e : Estimate}
    (hnotes : ∀ note ∈ e.notes, ControlFree note) : occurrences c e.lines =
      ((e.falsePositives ++ e.falseNegatives).map fun f => f.reason.toList.count c).sum := by
  have hremarks : occurrences c (e.notes.map fun note => indented 2 [faint "note:", plain (" " ++ note)]) =
      0 := by
    refine occurrences_eq_zero hc (List.forall_mem_map.mpr fun note hnote => indented_controlFree 2 ?_)
    simp only [StyledLine.ControlFree, List.forall_mem_cons]
    exact ⟨of_all rfl, (of_all rfl).append (hnotes note hnote), List.forall_mem_nil _⟩
  have htitle : ∀ lines, occurrences c (sectionLines "False positive / negative estimate" lines) =
      occurrences c lines := fun lines => occurrences_sectionLines hc (of_all rfl)
  rw [lines, htitle, occurrences_append, occurrences_append,
    occurrences_findingLines hc (of_all rfl), occurrences_findingLines hc (of_all rfl), hremarks,
    List.map_append, List.sum_append, Nat.add_zero]

namespace Report

variable {r : Report}

/-- The findings of the estimate, if one is made. -/
def findings (r : Report) : List Finding :=
  (r.estimate.map fun e => e.falsePositives ++ e.falseNegatives).getD []

/-- How many lines the parts of a report come to. -/
def lineCount (r : Report) : Nat :=
  4 + r.explanation.lineCount + r.intent.lineCount + (r.preview.map Preview.lineCount).getD 0 +
    (if r.features.riskDetection then warningsLineCount r.warnings else 0) +
    (r.estimate.map Estimate.lineCount).getD 0

theorem length_lines (r : Report) : r.lines.length = r.lineCount := by
  have hpreview : ((r.preview.map Preview.lines).getD []).length =
      (r.preview.map Preview.lineCount).getD 0 := by
    cases r.preview with
    | none => rfl
    | some p => exact p.length_lines
  have hestimate : ((r.estimate.map Estimate.lines).getD []).length =
      (r.estimate.map Estimate.lineCount).getD 0 := by
    cases r.estimate with
    | none => rfl
    | some e => exact e.length_lines
  have hwarnings : (if r.features.riskDetection then warningLines r.warnings else []).length =
      if r.features.riskDetection then warningsLineCount r.warnings else 0 := by
    split
    · exact length_warningLines r.warnings
    · rfl
  simp only [lines, lineCount, headerLines, List.length_append, List.length_cons, List.length_nil,
    r.explanation.length_lines, r.intent.length_lines, hpreview, hwarnings, hestimate]

/-- Nothing in a report but the reasons of findings can have a control in it. -/
structure Clean (r : Report) : Prop where
  source : RegexInsight.ControlFree r.source
  explanation : ∀ line ∈ r.explanation.lines, line.ControlFree
  intent : ∀ line ∈ r.intent.lines, line.ControlFree
  preview : ∀ p ∈ r.preview, ∀ line ∈ p.lines, line.ControlFree
  warnings : ∀ line ∈ warningLines r.warnings, line.ControlFree
  notes : ∀ e ∈ r.estimate, ∀ note ∈ e.notes, RegexInsight.ControlFree note

theorem headerLines_controlFree (h : RegexInsight.ControlFree r.source) :
    ∀ line ∈ r.headerLines, line.ControlFree := by
  have hflags : RegexInsight.ControlFree r.flags.text := by
    rw [Flags.text, controlFree_ofList]
    refine List.forall_mem_map.mpr fun entry hentry => ?_
    have hmem := List.mem_of_mem_filter hentry
    simp only [Flags.entries, List.mem_cons, List.not_mem_nil, or_false] at hmem
    rcases hmem with rfl | rfl | rfl | rfl | rfl | rfl <;> rfl
  simp only [headerLines, List.forall_mem_cons]
  exact ⟨List.forall_mem_singleton.mpr (of_all rfl), List.forall_mem_singleton.mpr (of_all rfl),
    List.forall_mem_singleton.mpr ((between rfl h rfl).append hflags),
    List.forall_mem_nil _, List.forall_mem_nil _⟩

/-- The controls of a clean report are the line feeds behind its lines and the controls in reasons. -/
theorem Clean.count_text (h : r.Clean) {c : Char} (hc : isControl c) :
    (r.text false).toList.count c = (if c = '\n' then r.lineCount else 0) +
      (r.findings.map fun f => f.reason.toList.count c).sum := by
  have hpreview : occurrences c ((r.preview.map Preview.lines).getD []) = 0 := by
    cases hnone : r.preview with
    | none => rfl
    | some p => exact occurrences_eq_zero hc (h.preview p hnone)
  have hwarnings :
      occurrences c (if r.features.riskDetection then warningLines r.warnings else []) = 0 := by
    split
    · exact occurrences_eq_zero hc h.warnings
    · rfl
  have hestimate : occurrences c ((r.estimate.map Estimate.lines).getD []) =
      (r.findings.map fun f => f.reason.toList.count c).sum := by
    unfold findings
    cases hnone : r.estimate with
    | none => rfl
    | some e => exact Estimate.occurrences_lines hc (h.notes e hnone)
  have hlines : occurrences c r.lines = (r.findings.map fun f => f.reason.toList.count c).sum := by
    rw [lines, occurrences_append, occurrences_append, occurrences_append, occurrences_append,
      occurrences_append, occurrences_eq_zero hc (headerLines_controlFree h.source),
      occurrences_eq_zero hc h.explanation, occurrences_eq_zero hc h.intent, hpreview, hwarnings,
      hestimate, Nat.zero_add]
  rw [text, count_renderAll, hlines, r.length_lines, Nat.add_comm]

end Report

end RegexInsight
