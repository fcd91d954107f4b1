import RegexInsight.Intent
import RegexInsight.Risk
import RegexInsight.Proofs.EnclosedPattern

/-! A group that captures nothing is not seen. The rules behind the warnings look at the shape of
the tree, at pieces of its text, and at whether there is a place to point at. None of these tells
whether there is a group around the pattern. -/
namespace RegexInsight

theorem isEmpty_filterMap_eq {α β : Type} (g : α → Option β) (l : List α) :
    (l.filterMap g).isEmpty = !l.any fun x => (g x).isSome := by
  induction l with
  | nil => rfl
  | cons x l ih =>
    rw [List.filterMap_cons, List.any_cons]
    cases g x with
    | none => exact ih
    | some y => rfl

/-- Whether something is found in a list does not depend on the places of its entries. -/
theorem isEmpty_filterMap_map {α β : Type} {f : α → α} {g g' : α → Option β} {l : List α}
    (h : ∀ x ∈ l, (g' (f x)).isSome = (g x).isSome) :
    ((l.map f).filterMap g').isEmpty = (l.filterMap g).isEmpty := by
  rw [isEmpty_filterMap_eq, isEmpty_filterMap_eq, List.any_map]
  congr 1
  rw [Bool.eq_iff_iff, List.any_eq_true, List.any_eq_true]
  exact exists_congr fun x => and_congr_right fun hx => by rw [Function.comp_apply, h x hx]

theorem isEmpty_filter_eq {α : Type} (g : α → Bool) (l : List α) :
    (l.filter g).isEmpty = !l.any g := by
  rw [← List.filterMap_eq_filter, isEmpty_filterMap_eq]
  simp

namespace Element.Repetition

variable {f : Span → Span} (r : Repetition)

@[simp] theorem mapSpans_isNested : (r.mapSpans f).isNested = r.isNested := by
  simp [isNested, mapSpans, mapSpans_repetitions]

@[simp] theorem mapSpans_repeatsDot : (r.mapSpans f).repeatsDot = r.repeatsDot := by
  simp [repeatsDot, mapSpans]

@[simp] theorem mapSpans_isUnbounded : (r.mapSpans f).isUnbounded = r.isUnbounded := rfl

@[simp] theorem mapSpans_isGreedyUnbounded :
    (r.mapSpans f).isGreedyUnbounded = r.isGreedyUnbounded := rfl

@[simp] theorem mapSpans_isAmbiguous : (r.mapSpans f).isAmbiguous = r.isAmbiguous := by
  have hwalk : (Node.element (r.inner.mapSpans f)).walk = _ :=
    Node.mapSpans_walk (f := f) (.element r.inner)
  have halternation : Node.isAlternation ∘ Node.mapSpans f = Node.isAlternation := by
    funext n
    exact n.mapSpans_isAlternation
  have hinner : (r.mapSpans f).inner = r.inner.mapSpans f := rfl
  rw [isAmbiguous, isAmbiguous, hinner, mapSpans_repetitions, hwalk, List.any_map, List.any_map,
    List.any_map, halternation, List.isEmpty_map]
  simp [Function.comp_def]

end Element.Repetition

/-- What a warning says, its evidence left out. -/
def Warning.verdict (w : Warning) : WarningId × Severity × String := (w.id, w.severity, w.message)

theorem Warning.about?_verdict {id : WarningId} {severity : Severity} {title message : String}
    {spans spans' : List Span} {examples examples' : List String}
    (h : spans'.isEmpty = spans.isEmpty) :
    (about? id severity title message spans' examples').map verdict =
      (about? id severity title message spans examples).map verdict := by
  rw [about?, about?, h]
  split <;> rfl

namespace ParsedPattern

variable {p : ParsedPattern}

theorem repetitions_enclosed (p : ParsedPattern) :
    p.enclosed.repetitions = p.repetitions.map (·.mapSpans Span.enclosed) := by
  have hgroup : p.enclosingGroup.repetition? = none := rfl
  rw [repetitions, repetitions, elements_enclosed, List.filterMap_cons_none hgroup,
    List.filterMap_map, List.map_filterMap]
  congr 1
  funext e
  exact e.mapSpans_repetition?

theorem isEmpty_elements_enclosed {α : Type} {g g' : Element → Option α}
    (hgroup : ∀ span branches, g' (.group span none branches) = none)
    (h : ∀ e ∈ p.pattern.elements, (g' (e.mapSpans Span.enclosed)).isSome = (g e).isSome) :
    (p.enclosed.pattern.elements.filterMap g').isEmpty =
      (p.pattern.elements.filterMap g).isEmpty := by
  have hgroup : g' p.enclosingGroup = none := hgroup _ _
  rw [elements_enclosed, List.filterMap_cons_none hgroup]
  exact isEmpty_filterMap_map h

theorem repetitionSpans_enclosed {g : Element.Repetition → Bool}
    (h : ∀ r, g (r.mapSpans Span.enclosed) = g r) :
    ((p.enclosed.repetitions.filter g).map (·.span)).isEmpty =
      ((p.repetitions.filter g).map (·.span)).isEmpty := by
  have hg : g ∘ Element.Repetition.mapSpans Span.enclosed = g := by
    funext r
    exact h r
  rw [repetitions_enclosed, List.filter_map, hg]
  simp only [List.isEmpty_map]

theorem anchorSpans_enclosed (which : Anchor → Bool) :
    (p.enclosed.anchorSpans which).isEmpty = (p.anchorSpans which).isEmpty := by
  refine isEmpty_elements_enclosed (fun _ _ => rfl) fun e _ => ?_
  cases e with
  | anchor span a =>
    simp only [Element.mapSpans]
    split <;> rfl
  | _ => rfl

theorem nestedQuantifiers_enclosed : p.enclosed.nestedQuantifiers.map Warning.verdict =
    p.nestedQuantifiers.map Warning.verdict :=
  Warning.about?_verdict (repetitionSpans_enclosed fun r => r.mapSpans_isNested)

theorem potentialBacktracking_enclosed (context : RiskContext) (nested : Bool) :
    (p.enclosed.potentialBacktracking context nested).map Warning.verdict =
      (p.potentialBacktracking context nested).map Warning.verdict := by
  have hspans : p.enclosed.ambiguousSpans.isEmpty = p.ambiguousSpans.isEmpty :=
    repetitionSpans_enclosed fun r => by simp
  rw [potentialBacktracking, potentialBacktracking, hspans]
  split <;> rfl

theorem ambiguousWildcard_enclosed : p.enclosed.ambiguousWildcard.map Warning.verdict =
    p.ambiguousWildcard.map Warning.verdict :=
  Warning.about?_verdict (repetitionSpans_enclosed fun r => by
    rw [r.mapSpans_repeatsDot]
    rfl)

theorem unanchoredMismatch_enclosed : p.enclosed.unanchoredMismatch.map Warning.verdict =
    p.unanchoredMismatch.map Warning.verdict := by
  have hflags : p.enclosed.flags = p.flags := rfl
  rw [unanchoredMismatch, unanchoredMismatch, hflags, anchorSpans_enclosed, anchorSpans_enclosed]
  split
  · rfl
  · split
    · exact Warning.about?_verdict (anchorSpans_enclosed _)
    · exact Warning.about?_verdict (anchorSpans_enclosed _)

theorem dotallExpected_enclosed (context : RiskContext) :
    (p.enclosed.dotallExpected context).map Warning.verdict =
      (p.dotallExpected context).map Warning.verdict := by
  have hflags : p.enclosed.flags = p.flags := rfl
  rw [dotallExpected, dotallExpected, hflags]
  split
  · rfl
  · refine Warning.about?_verdict ?_
    rw [List.isEmpty_map, List.isEmpty_map, isEmpty_filter_eq, isEmpty_filter_eq,
      any_elements_enclosed (fun _ _ => rfl)]
    exact fun e => by rw [e.mapSpans_asSet?]

theorem multilineAnchors_enclosed : p.enclosed.multilineAnchors.map Warning.verdict =
    p.multilineAnchors.map Warning.verdict := by
  have hflags : p.enclosed.flags = p.flags := rfl
  rw [multilineAnchors, multilineAnchors, hflags]
  split
  · rfl
  · exact Warning.about?_verdict (anchorSpans_enclosed _)

theorem emptyAlternation_enclosed : p.enclosed.emptyAlternation.map Warning.verdict =
    p.emptyAlternation.map Warning.verdict := by
  refine Warning.about?_verdict ?_
  rw [List.isEmpty_map, List.isEmpty_map, isEmpty_filter_eq, isEmpty_filter_eq,
    any_nodes_enclosed rfl (fun _ => rfl)]
  · simp [Node.branches?, enclosingGroup, Function.comp_def]
  · intro n
    rw [n.mapSpans_branches?]
    cases n.branches? <;> simp [Function.comp_def]

theorem overbroadClass_enclosed (hp : parse p.flags.unicode p.source.toList = .ok p.tree) :
    p.enclosed.overbroadClass.map Warning.verdict = p.overbroadClass.map Warning.verdict := by
  refine Warning.about?_verdict ?_
  rw [List.isEmpty_map, List.isEmpty_map]
  refine isEmpty_elements_enclosed (fun _ _ => rfl) fun e he => ?_
  cases e with
  | bracket span negate members =>
    have hraw : p.enclosed.raw span.enclosed = p.raw span := raw_element_enclosed hp he span.start
    simp [Element.mapSpans, hraw]
  | _ => rfl

theorem countedText_enclosed (hp : parse p.flags.unicode p.source.toList = .ok p.tree)
    {r : Element.Repetition} (hr : r ∈ p.repetitions) :
    p.enclosed.countedText (r.mapSpans Span.enclosed) = p.countedText r := by
  obtain ⟨e, he, hr⟩ := List.mem_filterMap.mp hr
  obtain ⟨span, min, max, greedy, inner, rfl⟩ :
      ∃ span min max greedy inner, e = .quantifier span min max greedy inner := by
    cases e <;> cases hr
    exact ⟨_, _, _, _, _, rfl⟩
  cases hr
  have hraw : p.enclosed.raw ⟨inner.span.stop + 3, span.stop + 3⟩ =
      p.raw ⟨inner.span.stop, span.stop⟩ := raw_element_enclosed hp he inner.span.stop
  simp only [countedText, Element.Repetition.mapSpans, Element.mapSpans_span, Span.enclosed, hraw]

theorem redundantQuantifier_enclosed (hp : parse p.flags.unicode p.source.toList = .ok p.tree) :
    p.enclosed.redundantQuantifier.map Warning.verdict =
      p.redundantQuantifier.map Warning.verdict := by
  refine Warning.about?_verdict ?_
  rw [List.isEmpty_map, List.isEmpty_map]
  rw [repetitions_enclosed]
  exact isEmpty_filterMap_map fun r hr => by simp [countedText_enclosed hp hr]

theorem lookaroundComplexity_enclosed : p.enclosed.lookaroundComplexity.map Warning.verdict =
    p.lookaroundComplexity.map Warning.verdict :=
  Warning.about?_verdict (isEmpty_elements_enclosed (fun _ _ => rfl) fun e _ => by cases e <;> rfl)

theorem unicodeFlagMismatch_enclosed : p.enclosed.unicodeFlagMismatch = p.unicodeFlagMismatch := by
  have hflags : p.enclosed.flags = p.flags := rfl
  have hinside : ∀ e ∈ unicodeEscapes, StartsInside e.toList ∧ EndsInside e.toList := by
    decide +kernel
  have hfound : (unicodeEscapes.filter fun e => holdsText e.toList p.enclosed.source.toList) =
      unicodeEscapes.filter fun e => holdsText e.toList p.source.toList := by
    rw [enclosed_source]
    exact List.filter_congr fun e he => holdsText_enclose (hinside e he).1 (hinside e he).2 _
  rw [unicodeFlagMismatch, unicodeFlagMismatch, hfound, hflags]

theorem risks_enclosed (hp : parse p.flags.unicode p.source.toList = .ok p.tree)
    (context : RiskContext) :
    (p.enclosed.risks context).map Warning.verdict = (p.risks context).map Warning.verdict := by
  have hnested : p.enclosed.nestedQuantifiers.isSome = p.nestedQuantifiers.isSome := by
    simpa using congrArg Option.isSome (nestedQuantifiers_enclosed (p := p))
  have hsticky : p.enclosed.stickyGlobal = p.stickyGlobal := rfl
  have hmap : ∀ found : List (Option Warning), (found.filterMap id).map Warning.verdict =
      (found.map (Option.map Warning.verdict)).filterMap id := by
    intro found
    rw [List.map_filterMap, List.filterMap_map]
    rfl
  rw [risks, risks, hmap, hmap, hnested, hsticky, unicodeFlagMismatch_enclosed]
  simp only [List.map_cons, List.map_nil, nestedQuantifiers_enclosed,
    potentialBacktracking_enclosed, ambiguousWildcard_enclosed, unanchoredMismatch_enclosed,
    dotallExpected_enclosed, multilineAnchors_enclosed, emptyAlternation_enclosed,
    overbroadClass_enclosed hp, redundantQuantifier_enclosed hp, lookaroundComplexity_enclosed]

end ParsedPattern

/-- A pattern that is accepted is accepted in a group that captures nothing, and nothing but the
places tells the two apart. -/
theorem group_invisible {source flagText : String} {p : ParsedPattern}
    (h : parsePattern source flagText = .ok p) :
    ∃ q, parsePattern ("(?:" ++ source ++ ")") flagText = .ok q ∧
      q.tree.names = p.tree.names ∧
      (∃ r r', p.regex p.flags = .ok r ∧ q.regex q.flags = .ok r' ∧ r.Agrees r') ∧
      q.features = p.features ∧ q.intent = p.intent ∧
      ∀ context, (q.risks context).map Warning.verdict = (p.risks context).map Warning.verdict := by
  obtain ⟨_, _, hparse, program, hc⟩ := parsePattern_cases h
  have hfeatures := ParsedPattern.features_enclosed hparse
  refine ⟨p.enclosed, parsePattern_enclose h, rfl, ParsedPattern.regex_enclosed hparse p.flags hc,
    hfeatures, ?_, ParsedPattern.risks_enclosed hparse⟩
  rw [ParsedPattern.intent, ParsedPattern.intent, hfeatures]

/-- Two alternatives of which each is anchored, with a named group and a counted repetition. -/
theorem group_invisible_anchored :
    ∃ p, parsePattern "^(?<year>[0-9]{4})-|^(?:x+)*?" "i" = .ok p ∧
      ∃ q, parsePattern ("(?:" ++ "^(?<year>[0-9]{4})-|^(?:x+)*?" ++ ")") "i" = .ok q ∧
        q.tree.names = p.tree.names ∧
        (∃ r r', p.regex p.flags = .ok r ∧ q.regex q.flags = .ok r' ∧ r.Agrees r') ∧
        q.features = p.features ∧ q.intent = p.intent ∧
        ∀ context,
          (q.risks context).map Warning.verdict = (p.risks context).map Warning.verdict := by
  have h : (parsePattern "^(?<year>[0-9]{4})-|^(?:x+)*?" "i").toOption.isSome := by decide +kernel
  cases hp : parsePattern "^(?<year>[0-9]{4})-|^(?:x+)*?" "i" with
  | error e =>
    rw [hp] at h
    cases h
  | ok p => exact ⟨p, rfl, group_invisible hp⟩

end RegexInsight
