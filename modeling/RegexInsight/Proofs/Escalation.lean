import Mathlib.Data.List.Basic
import RegexInsight.Risk
import RegexInsight.Proofs.SearchAnswers

/-! Warnings that come together. Each rule gives its own warning, in the order of the rules. What can match
the same text in several ways holds a repetition inside of a repetition, so the warning about backtracking
never stands without the one about nesting, and it is never the milder one. -/
namespace RegexInsight

/-- The rules in the order of their warnings. -/
def WarningId.inOrder : List WarningId :=
  [.nestedQuantifiers, .potentialBacktracking, .ambiguousWildcard, .unanchoredMismatch,
    .dotallExpected, .multilineAnchors, .emptyAlternation, .overbroadClass, .redundantQuantifier,
    .lookaroundComplexity, .stickyGlobal, .unicodeFlagMismatch]

/-- A rule that gives no warning but its own. -/
def WarningId.Gives (id : WarningId) (found : Option Warning) : Prop := ∀ w ∈ found, w.id = id

namespace WarningId.Gives

variable {id : WarningId} {found other : Option Warning}

theorem none : id.Gives none := by simp [Gives]

theorem some {w : Warning} (h : w.id = id) : id.Gives (some w) := by simpa [Gives] using h

theorem choice {c : Prop} [Decidable c] (h : id.Gives found) (hother : id.Gives other) :
    id.Gives (if c then found else other) := by
  by_cases hc : c
  · simpa [hc] using h
  · simpa [hc] using hother

theorem about {severity : Severity} {title message : String} {spans : List Span}
    {examples : List String} : id.Gives (Warning.about? id severity title message spans examples) :=
  choice none (some rfl)

end WarningId.Gives

/-- Rules that give their own warnings give them in their order, and each at most once. -/
theorem ids_sublist {ids : List WarningId} {found : List (Option Warning)}
    (h : List.Forall₂ WarningId.Gives ids found) :
    ((found.filterMap id).map Warning.id).Sublist ids := by
  induction h with
  | nil => simp
  | @cons i w ids found hw _ ih =>
    cases w with
    | none => exact ih.cons i
    | some w =>
      have hid : w.id = i := hw w rfl
      simpa [hid] using ih

namespace Element.Repetition

theorem isNested_of_isAmbiguous {r : Repetition} (h : r.isAmbiguous) : r.isNested := by
  unfold isNested
  cases hinside : r.inner.repetitions with
  | nil => simp [isAmbiguous, hinside] at h
  | cons q qs => rfl

end Element.Repetition

namespace ParsedPattern

/-- The repetitions that hold a repetition. -/
def nestedSpans (p : ParsedPattern) : List Span := (p.repetitions.filter (·.isNested)).map (·.span)

theorem ambiguousSpans_sublist (p : ParsedPattern) : p.ambiguousSpans.Sublist p.nestedSpans := by
  apply List.Sublist.map
  apply List.monotone_filter_right
  intro r hr
  have hambiguous : r.isAmbiguous := (Bool.and_eq_true _ _ ▸ hr).2
  exact Element.Repetition.isNested_of_isAmbiguous hambiguous

variable {p : ParsedPattern} {context : RiskContext} {w : Warning}

/-- The warning about backtracking points at places, and is as grave as nesting makes it. -/
theorem potentialBacktracking_eq_some {nested : Bool}
    (h : p.potentialBacktracking context nested = some w) :
    p.ambiguousSpans ≠ [] ∧ w.severity = (if nested then .high else .medium) ∧
      ∃ note, w.evidence = some ⟨p.ambiguousSpans, [], note⟩ := by
  simp only [potentialBacktracking] at h
  split at h
  · cases h
  · rename_i hspans
    cases h
    exact ⟨by simpa using hspans, rfl, _, rfl⟩

theorem nestedQuantifiers_eq_some (h : p.nestedSpans ≠ []) : ∃ n, p.nestedQuantifiers = some n ∧
    n.id = .nestedQuantifiers ∧ n.evidence = some ⟨p.nestedSpans, [], none⟩ := by
  have hspans : p.nestedSpans.isEmpty = false := by simpa using h
  have hgiven : p.nestedQuantifiers = if p.nestedSpans.isEmpty then none else _ := rfl
  rw [hspans] at hgiven
  exact ⟨_, hgiven, rfl, rfl⟩

/-- What the rules behind the first two give, in their order. -/
def laterRisks (p : ParsedPattern) (context : RiskContext) : List (Option Warning) :=
  [p.ambiguousWildcard, p.unanchoredMismatch, p.dotallExpected context, p.multilineAnchors,
    p.emptyAlternation, p.overbroadClass, p.redundantQuantifier, p.lookaroundComplexity,
    p.stickyGlobal, p.unicodeFlagMismatch]

open WarningId.Gives in
theorem laterRisks_gives (p : ParsedPattern) (context : RiskContext) :
    List.Forall₂ WarningId.Gives (WarningId.inOrder.drop 2) (p.laterRisks context) := by
  have hwildcard : WarningId.ambiguousWildcard.Gives p.ambiguousWildcard := about
  have hanchors : WarningId.unanchoredMismatch.Gives p.unanchoredMismatch :=
    choice none (choice about about)
  have hdotall : WarningId.dotallExpected.Gives (p.dotallExpected context) :=
    choice none about
  have hmultiline : WarningId.multilineAnchors.Gives p.multilineAnchors := choice none about
  have hempty : WarningId.emptyAlternation.Gives p.emptyAlternation := about
  have hclass : WarningId.overbroadClass.Gives p.overbroadClass := about
  have hredundant : WarningId.redundantQuantifier.Gives p.redundantQuantifier := about
  have hlook : WarningId.lookaroundComplexity.Gives p.lookaroundComplexity := about
  have hsticky : WarningId.stickyGlobal.Gives p.stickyGlobal := choice (some rfl) none
  have hunicode : WarningId.unicodeFlagMismatch.Gives p.unicodeFlagMismatch :=
    choice none (some rfl)
  simp [WarningId.inOrder, laterRisks, *]

end ParsedPattern

/-- The warning about backtracking follows the one about nesting, which points at all of its places in the
same order. It is as grave as can be, and there is no other one of either kind. -/
theorem potentialBacktracking_escalated (p : ParsedPattern) (context : RiskContext) {w : Warning}
    (hw : w ∈ p.risks context) (hid : w.id = .potentialBacktracking) :
    ∃ n later, p.risks context = n :: w :: later ∧ n.id = .nestedQuantifiers ∧
      w.severity = .high ∧
      (∃ e f, w.evidence = some e ∧ n.evidence = some f ∧ e.spans ≠ [] ∧ e.spans.Sublist f.spans) ∧
      ∀ x ∈ later, x.id ≠ .nestedQuantifiers ∧ x.id ≠ .potentialBacktracking := by
  have hlater : ∀ x ∈ (p.laterRisks context).filterMap id,
      x.id ≠ .nestedQuantifiers ∧ x.id ≠ .potentialBacktracking := by
    intro x hx
    have hmem := (ids_sublist (p.laterRisks_gives context)).subset (List.mem_map_of_mem hx)
    constructor <;> (intro hxid; rw [hxid] at hmem; revert hmem; decide)
  have hrisks : p.risks context = [p.nestedQuantifiers,
      p.potentialBacktracking context p.nestedQuantifiers.isSome].filterMap id ++
        (p.laterRisks context).filterMap id :=
    List.filterMap_append (l := [p.nestedQuantifiers, p.potentialBacktracking context _])
  -- neither the rule before nor those behind give a warning of this kind
  have hbacktracking : p.potentialBacktracking context p.nestedQuantifiers.isSome = some w := by
    rw [hrisks, List.mem_append] at hw
    rcases hw with hfirst | hw
    · have hnested : WarningId.nestedQuantifiers.Gives p.nestedQuantifiers := .about
      simp only [List.mem_filterMap, List.mem_cons, List.not_mem_nil, or_false, id_eq,
        exists_eq_right] at hfirst
      rcases hfirst with hfirst | hfirst
      · have := hnested w hfirst.symm
        simp [hid] at this
      · exact hfirst.symm
    · exact absurd hid (hlater w hw).2
  obtain ⟨hspans, hseverity, note, hevidence⟩ :=
    ParsedPattern.potentialBacktracking_eq_some hbacktracking
  have hsublist := p.ambiguousSpans_sublist
  have hnestedSpans : p.nestedSpans ≠ [] := by
    intro hnil
    simp [hnil, hspans] at hsublist
  obtain ⟨n, hnested, hnid, hnevidence⟩ := ParsedPattern.nestedQuantifiers_eq_some hnestedSpans
  refine ⟨n, (p.laterRisks context).filterMap id, ?_, hnid, ?_,
    ⟨_, _, hevidence, hnevidence, hspans, hsublist⟩, hlater⟩
  · rw [hrisks, hbacktracking, hnested]
    rfl
  · simp [hseverity, hnested]

/-- Three repetitions hold others, of which one is lazy and one is bounded. Both warnings are given, and that
about backtracking only points at the third. -/
theorem potentialBacktracking_escalated_of_three :
    ∃ p, parsePattern "(?:a+b)*?(?:c|d?){2}(?:e|(f*)g)+" "" = .ok p ∧
      let context : RiskContext := ⟨none, some ⟨true, 0, 1000⟩, 1500000⟩
      ∃ w ∈ p.risks context, w.id = .potentialBacktracking ∧
        w.evidence.map (·.spans) = some [⟨20, 32⟩] ∧
        ∃ n later, p.risks context = n :: w :: later ∧ n.id = .nestedQuantifiers ∧
          w.severity = .high ∧
          (∃ e f, w.evidence = some e ∧ n.evidence = some f ∧ e.spans ≠ [] ∧
            e.spans.Sublist f.spans) ∧
          ∀ x ∈ later, x.id ≠ .nestedQuantifiers ∧ x.id ≠ .potentialBacktracking := by
  let context : RiskContext := ⟨none, some ⟨true, 0, 1000⟩, 1500000⟩
  have h : (parsePattern "(?:a+b)*?(?:c|d?){2}(?:e|(f*)g)+" "").toOption.map (fun p =>
      ((p.risks context).find? (·.id = .potentialBacktracking)).bind fun w =>
        w.evidence.map (·.spans)) = some (some [⟨20, 32⟩]) := by
    decide +kernel
  obtain ⟨p, hp, hspans⟩ := ok_of_toOption_map h
  obtain ⟨w, hw, hevidence⟩ := Option.bind_eq_some_iff.mp hspans
  have hmem := List.mem_of_find?_eq_some hw
  have hid : w.id = .potentialBacktracking := by simpa using List.find?_some hw
  exact ⟨p, hp, w, hmem, hid, hevidence, potentialBacktracking_escalated p context hmem hid⟩

end RegexInsight
