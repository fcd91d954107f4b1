import RegexInsight.Proofs.SearchAnswers
import RegexInsight.Risk

/-! The examples of a warning. A rule finds them one after the other in the order of the walk, and leaves out each
one that equals the one before it. So all that was found is listed, and nothing twice in a row; but an example
comes again behind a different one. -/
namespace RegexInsight

section
variable {s t : String} {rest l : List String}

theorem dropRepeats_cons_cons : dropRepeats (s :: t :: rest) =
    if s = t then dropRepeats (t :: rest) else s :: dropRepeats (t :: rest) := rfl

theorem dropRepeats_cons (s : String) (rest : List String) :
    ∃ more, dropRepeats (s :: rest) = s :: more := by
  induction rest generalizing s with
  | nil => exact ⟨[], rfl⟩
  | cons t rest ih =>
    rw [dropRepeats_cons_cons]
    by_cases h : s = t
    · obtain ⟨more, hmore⟩ := ih t
      exact ⟨more, by simp [h, hmore]⟩
    · exact ⟨dropRepeats (t :: rest), by simp [h]⟩

@[simp] theorem mem_dropRepeats : s ∈ dropRepeats l ↔ s ∈ l := by
  induction l with
  | nil => simp [dropRepeats]
  | cons x l ih =>
    cases l with
    | nil => simp [dropRepeats]
    | cons y l =>
      rw [dropRepeats_cons_cons]
      by_cases h : x = y
      · simp_all
      · simp [h, ih]

theorem dropRepeats_isChain (l : List String) : (dropRepeats l).IsChain (· ≠ ·) := by
  induction l with
  | nil => exact .nil
  | cons x l ih =>
    cases l with
    | nil => exact .singleton x
    | cons y l =>
      rw [dropRepeats_cons_cons]
      by_cases h : x = y
      · simpa [h] using ih
      · obtain ⟨more, hmore⟩ := dropRepeats_cons y l
        rw [if_neg h, hmore]
        rw [hmore] at ih
        exact .cons_cons h ih

theorem dropRepeats_of_nodup (h : l.Nodup) : dropRepeats l = l := by
  induction l with
  | nil => rfl
  | cons x l ih =>
    cases l with
    | nil => rfl
    | cons y l =>
      have hne : x ≠ y := fun hxy => by simp [hxy] at h
      rw [dropRepeats_cons_cons, if_neg hne, ih h.tail]

/-- No text has another one between two of its places. -/
def Unbroken (l : List String) : Prop := ∀ s t, [s, t, s].Sublist l → s = t

theorem Unbroken.tail (h : Unbroken (s :: l)) : Unbroken l := fun x y hxy => h x y (hxy.cons s)

theorem unbroken_repeat : Unbroken (s :: s :: rest) ↔ Unbroken (s :: rest) := by
  constructor
  · exact Unbroken.tail
  · intro h x y hxy
    by_contra hne
    cases hxy with
    | cons _ hxy => exact hne (h x y hxy)
    | cons_cons _ hrest =>
      -- the second place is not the repeat, so the repeat can stand for the first
      cases hrest with
      | cons _ hrest => exact hne (h s y (hrest.cons_cons s))
      | cons_cons => exact hne rfl

theorem unbroken_cons (hne : s ≠ t) :
    Unbroken (s :: t :: rest) ↔ s ∉ rest ∧ Unbroken (t :: rest) := by
  constructor
  · intro h
    refine ⟨fun hmem => hne ?_, h.tail⟩
    have hlater : [s].Sublist rest := List.singleton_sublist.mpr hmem
    exact h s t ((hlater.cons_cons t).cons_cons s)
  · rintro ⟨hnot, h⟩ x y hxy
    cases hxy with
    | cons _ hxy => exact h x y hxy
    | cons_cons _ hrest =>
      have hmem : s ∈ t :: rest := hrest.subset (by simp)
      simp [hne, hnot] at hmem

theorem dropRepeats_nodup_iff (l : List String) : (dropRepeats l).Nodup ↔ Unbroken l := by
  induction l with
  | nil => simp [dropRepeats, Unbroken]
  | cons x l ih =>
    cases l with
    | nil =>
      have hshort : Unbroken [x] := fun s t h => by
        have hlength := h.length_le
        simp at hlength
      simp [dropRepeats, hshort]
    | cons y l =>
      rw [dropRepeats_cons_cons]
      by_cases h : x = y
      · subst h
        simpa [unbroken_repeat] using ih
      · simp [h, unbroken_cons h, ih]

end

section
variable {P : Warning → Prop} {given other : Option Warning}

theorem forall_choice {c : Prop} [Decidable c] (h : ∀ w ∈ given, P w) (hother : ∀ w ∈ other, P w) :
    ∀ w ∈ (if c then given else other), P w := by
  by_cases hc : c
  · simpa [hc] using h
  · simpa [hc] using hother

theorem forall_about? {id : WarningId} {severity : Severity} {title message : String}
    {spans : List Span} {examples : List String}
    (h : P ⟨id, severity, title, message, some ⟨spans, examples, none⟩⟩) :
    ∀ w ∈ Warning.about? id severity title message spans examples, P w :=
  forall_choice (by simp) (by simpa using h)

theorem ParsedPattern.risks_forall (p : ParsedPattern) (context : RiskContext)
    (h : ∀ given ∈ [p.nestedQuantifiers,
      p.potentialBacktracking context p.nestedQuantifiers.isSome, p.ambiguousWildcard,
      p.unanchoredMismatch, p.dotallExpected context, p.multilineAnchors, p.emptyAlternation,
      p.overbroadClass, p.redundantQuantifier, p.lookaroundComplexity, p.stickyGlobal,
      p.unicodeFlagMismatch], ∀ w ∈ given, P w) : ∀ w ∈ p.risks context, P w := by
  intro w hw
  obtain ⟨given, hgiven, hsome⟩ := List.mem_filterMap.mp hw
  exact h given hgiven w hsome

end

/-- The examples of the warning are those that were found for it, repeats in a row left out. -/
def Warning.Lists (found : WarningId → List String) (w : Warning) : Prop :=
  ∀ e ∈ w.evidence, e.examples = dropRepeats (found w.id)

namespace ParsedPattern

/-- The examples that a rule finds, place by place in the order of the walk. -/
def foundExamples (p : ParsedPattern) : WarningId → List String
  | .overbroadClass => p.pattern.elements.filterMap fun
    | .bracket span _ _ => (complementPair? (p.raw span)).map fun pair => "[" ++ pair ++ "]"
    | _ => none
  | .redundantQuantifier => p.repetitions.filterMap fun r =>
    (shorthand? (p.countedText r)).map fun short => p.countedText r ++ " → " ++ short
  | .unicodeFlagMismatch =>
    (unicodeEscapes.filter fun e => holdsText e.toList p.source.toList).map fun e => e ++ "…\x7d"
  | _ => []

variable (p : ParsedPattern) (context : RiskContext)

theorem foundExamples_unicodeFlagMismatch_nodup :
    (p.foundExamples .unicodeFlagMismatch).Nodup := by
  have hall : (unicodeEscapes.map fun e => e ++ "…\x7d").Nodup := by decide +kernel
  exact hall.sublist (List.filter_sublist.map _)

theorem foundExamples_nodup {id : WarningId} (hclass : id ≠ .overbroadClass)
    (hquantifier : id ≠ .redundantQuantifier) : (p.foundExamples id).Nodup := by
  cases id with
  | overbroadClass => exact absurd rfl hclass
  | redundantQuantifier => exact absurd rfl hquantifier
  | unicodeFlagMismatch => exact p.foundExamples_unicodeFlagMismatch_nodup
  | _ => exact List.nodup_nil

theorem overbroadClass_lists : ∀ w ∈ p.overbroadClass, w.Lists p.foundExamples := by
  apply forall_about?
  rintro _ ⟨⟩
  dsimp only
  rw [foundExamples, List.map_filterMap]
  congr 2
  funext e
  cases e with
  | bracket span negate members =>
    show ((complementPair? (p.raw span)).map fun pair => (span, "[" ++ pair ++ "]")).map (·.2) = _
    simp [Function.comp_def]
  | _ => rfl

theorem redundantQuantifier_lists : ∀ w ∈ p.redundantQuantifier, w.Lists p.foundExamples := by
  apply forall_about?
  rintro _ ⟨⟩
  dsimp only
  rw [foundExamples, List.map_filterMap]
  congr 2
  funext r
  simp [Function.comp_def]

theorem unicodeFlagMismatch_lists : ∀ w ∈ p.unicodeFlagMismatch, w.Lists p.foundExamples := by
  refine forall_choice (by simp) ?_
  rintro _ ⟨⟩ _ ⟨⟩
  exact (dropRepeats_of_nodup p.foundExamples_unicodeFlagMismatch_nodup).symm

/-- Every rule lists what it has found; most rules find no examples. -/
theorem risks_list : ∀ w ∈ p.risks context, w.Lists p.foundExamples := by
  have hbare : ∀ {id severity title message spans note}, p.foundExamples id = [] →
      Warning.Lists p.foundExamples ⟨id, severity, title, message, some ⟨spans, [], note⟩⟩ := by
    rintro id severity title message spans note hfound _ ⟨⟩
    simp [hfound, dropRepeats]
  have hnested : ∀ w ∈ p.nestedQuantifiers, w.Lists p.foundExamples := forall_about? (hbare rfl)
  have hbacktracking : ∀ w ∈ p.potentialBacktracking context p.nestedQuantifiers.isSome,
      w.Lists p.foundExamples := forall_choice (by simp) (by simpa using hbare rfl)
  have hwildcard : ∀ w ∈ p.ambiguousWildcard, w.Lists p.foundExamples := forall_about? (hbare rfl)
  have hanchors : ∀ w ∈ p.unanchoredMismatch, w.Lists p.foundExamples :=
    forall_choice (by simp) (forall_choice (forall_about? (hbare rfl)) (forall_about? (hbare rfl)))
  have hdotall : ∀ w ∈ p.dotallExpected context, w.Lists p.foundExamples :=
    forall_choice (by simp) (forall_about? (hbare rfl))
  have hmultiline : ∀ w ∈ p.multilineAnchors, w.Lists p.foundExamples :=
    forall_choice (by simp) (forall_about? (hbare rfl))
  have hempty : ∀ w ∈ p.emptyAlternation, w.Lists p.foundExamples := forall_about? (hbare rfl)
  have hlook : ∀ w ∈ p.lookaroundComplexity, w.Lists p.foundExamples := forall_about? (hbare rfl)
  have hsticky : ∀ w ∈ p.stickyGlobal, w.Lists p.foundExamples :=
    forall_choice (by simp [Warning.Lists]) (by simp)
  apply risks_forall
  simp only [List.forall_mem_cons]
  exact ⟨hnested, hbacktracking, hwildcard, hanchors, hdotall, hmultiline, hempty,
    p.overbroadClass_lists, p.redundantQuantifier_lists, hlook, hsticky,
    p.unicodeFlagMismatch_lists, List.forall_mem_nil _⟩

end ParsedPattern

/-- The examples of a warning are all that its rule has found, none twice in a row. They are distinct exactly if
no example is found again behind another one, which only classes and counted quantifiers can bring about. -/
theorem examples_nodup_iff (p : ParsedPattern) (context : RiskContext) {w : Warning} {e : Evidence}
    (hw : w ∈ p.risks context) (he : w.evidence = some e) :
    (∀ s, s ∈ e.examples ↔ s ∈ p.foundExamples w.id) ∧
      e.examples.IsChain (· ≠ ·) ∧
      (e.examples.Nodup ↔ Unbroken (p.foundExamples w.id)) ∧
      (w.id ≠ .overbroadClass → w.id ≠ .redundantQuantifier → e.examples.Nodup) := by
  have hexamples : e.examples = dropRepeats (p.foundExamples w.id) :=
    p.risks_list context w hw e he
  rw [hexamples]
  refine ⟨fun s => mem_dropRepeats, dropRepeats_isChain _, dropRepeats_nodup_iff _, ?_⟩
  intro hclass hquantifier
  have hnodup := p.foundExamples_nodup hclass hquantifier
  rwa [dropRepeats_of_nodup hnodup]

/-- The two quantifiers at the front are next to each other, so they give one example. -/
theorem examples_nodup_iff_neighbours : ∃ p, parsePattern "a{0,}b{0,}c{1,}" "" = .ok p ∧
    ∃ w ∈ p.risks ⟨none, none, 0⟩, ∃ e, w.evidence = some e ∧
      e.examples = ["{0,} → *", "{1,} → +"] ∧
      (∀ s, s ∈ e.examples ↔ s ∈ p.foundExamples w.id) ∧
      e.examples.IsChain (· ≠ ·) ∧
      (e.examples.Nodup ↔ Unbroken (p.foundExamples w.id)) ∧
      (w.id ≠ .overbroadClass → w.id ≠ .redundantQuantifier → e.examples.Nodup) := by
  have h : (parsePattern "a{0,}b{0,}c{1,}" "").toOption.map (fun p =>
      (p.risks ⟨none, none, 0⟩).findSome? fun w => w.evidence.map (·.examples)) =
      some (some ["{0,} → *", "{1,} → +"]) := by
    decide +kernel
  obtain ⟨p, hp, hfound⟩ := ok_of_toOption_map h
  obtain ⟨w, hmem, hw⟩ := List.exists_of_findSome?_eq_some hfound
  obtain ⟨e, he, hexamples⟩ := Option.map_eq_some_iff.mp hw
  exact ⟨p, hp, w, hmem, e, he, hexamples, examples_nodup_iff p ⟨none, none, 0⟩ hmem he⟩

/-- A quantifier comes again behind another one, and its example with it. -/
theorem example_repeated : ∃ p, parsePattern "a{0,}b{1,}c{0,}" "" = .ok p ∧
    ∃ w ∈ p.risks ⟨none, none, 0⟩, ∃ e, w.evidence = some e ∧ ¬ e.examples.Nodup := by
  have h : (parsePattern "a{0,}b{1,}c{0,}" "").toOption.map (fun p =>
      (p.risks ⟨none, none, 0⟩).findSome? fun w => w.evidence.map (·.examples)) =
      some (some ["{0,} → *", "{1,} → +", "{0,} → *"]) := by
    decide +kernel
  obtain ⟨p, hp, hfound⟩ := ok_of_toOption_map h
  obtain ⟨w, hmem, hw⟩ := List.exists_of_findSome?_eq_some hfound
  obtain ⟨e, he, hexamples⟩ := Option.map_eq_some_iff.mp hw
  refine ⟨p, hp, w, hmem, e, he, ?_⟩
  rw [hexamples]
  decide

end RegexInsight
