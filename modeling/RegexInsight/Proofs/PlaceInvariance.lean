import RegexInsight.Proofs.Outcomes
import RegexInsight.Proofs.Relocation

/-! What does not depend on places. Wherever the parts of a tree stand, the walk meets them in the same
order, the same program is made of them, and they match the same texts. -/
namespace RegexInsight

variable {f : Span → Span}

@[simp] theorem ClassMember.mapSpans_kind (m : ClassMember) : (m.mapSpans f).kind = m.kind := rfl

namespace Node

def mapSpans (f : Span → Span) : Node → Node
  | pattern p => pattern ⟨f p.span, p.branches.map (·.mapSpans f)⟩
  | branch b => branch (b.mapSpans f)
  | element e => element (e.mapSpans f)
  | member m => member (m.mapSpans f)

theorem mapSpans_children (n : Node) : (n.mapSpans f).children = n.children.map (mapSpans f) := by
  match n with
  | pattern p => simp [mapSpans, children]
  | branch b => simp [mapSpans, children]
  | element (.group ..) | element (.look ..) => simp [mapSpans, Element.mapSpans, children]
  | element (.bracket ..) | element (.quantifier ..) =>
    simp [mapSpans, Element.mapSpans, children]
  | element (.char ..) | element (.set ..) | element (.anchor ..) | element (.backreference ..) =>
    rfl
  | member _ => rfl

theorem mapSpans_walk (n : Node) : (n.mapSpans f).walk = n.walk.map (mapSpans f) :=
  walk_map mapSpans_children n

theorem walk_eq_descendants (n : Node) : n.walk = n :: n.descendants := by
  rw [walk_eq, descendants_eq_visit, visit_eq_flatMap]

@[simp] theorem mapSpans_element? (n : Node) :
    (n.mapSpans f).element? = n.element?.map (·.mapSpans f) := by
  cases n <;> rfl

@[simp] theorem mapSpans_capture? (n : Node) : (n.mapSpans f).capture? = n.capture? := by
  match n with
  | element (.group ..) | element (.look ..) | element (.bracket ..) => rfl
  | element (.quantifier ..) | element (.char ..) | element (.set ..) => rfl
  | element (.anchor ..) | element (.backreference ..) => rfl
  | pattern _ | branch _ | member _ => rfl

@[simp] theorem mapSpans_branches? (n : Node) :
    (n.mapSpans f).branches? = n.branches?.map (·.map (·.mapSpans f)) := by
  match n with
  | element (.group ..) | element (.look ..) => simp [mapSpans, Element.mapSpans, branches?]
  | element (.bracket ..) | element (.quantifier ..) | element (.char ..) | element (.set ..) => rfl
  | element (.anchor ..) | element (.backreference ..) => rfl
  | pattern _ | branch _ | member _ => rfl

@[simp] theorem mapSpans_isAlternation (n : Node) :
    (n.mapSpans f).isAlternation = n.isAlternation := by
  rw [isAlternation, isAlternation, mapSpans_branches?]
  cases n.branches? <;> simp

end Node

def Element.Repetition.mapSpans (f : Span → Span) (r : Repetition) : Repetition :=
  { r with span := f r.span, inner := r.inner.mapSpans f }

namespace Element

@[simp] theorem mapSpans_captures (e : Element) : (e.mapSpans f).captures = e.captures := by
  have hwalk : (Node.element (e.mapSpans f)).walk = _ := Node.mapSpans_walk (f := f) (.element e)
  rw [captures, captures, hwalk, List.filterMap_map]
  congr 1
  funext n
  exact n.mapSpans_capture?

@[simp] theorem mapSpans_captureSlots (e : Element) :
    captureSlots (e.mapSpans f) = captureSlots e := by
  rw [captureSlots_eq, captureSlots_eq, mapSpans_captures]

theorem mapSpans_repetition? (e : Element) :
    (e.mapSpans f).repetition? = e.repetition?.map (·.mapSpans f) := by
  cases e <;> rfl

@[simp] theorem mapSpans_asSet? (e : Element) : (e.mapSpans f).asSet? = e.asSet? := by
  cases e <;> rfl

theorem mapSpans_repetitions (e : Element) :
    (e.mapSpans f).repetitions = e.repetitions.map (·.mapSpans f) := by
  have hwalk : (Node.element (e.mapSpans f)).walk = _ := Node.mapSpans_walk (f := f) (.element e)
  rw [repetitions, repetitions, hwalk]
  simp only [List.filterMap_filterMap, List.filterMap_map, List.map_filterMap]
  congr 1
  funext n
  cases hn : n.element? with
  | none => simp [hn]
  | some x => simp [hn, mapSpans_repetition?]

end Element

section
variable {names : List (Option String)}

mutual

/-- What can be made a program of, can be made a program of the same length at another place. -/
theorem Element.mapSpans_check (e : Element) {n k : Nat} (h : e.check names n = .ok k) :
    (e.mapSpans f).check names n = .ok k := by
  cases e with
  | char span value => exact h
  | anchor span anchor => exact h
  | set span s =>
    rw [Element.mapSpans]
    rw [Element.check] at h ⊢
    split at h
    · cases h
    · rename_i hset
      rwa [if_neg hset]
  | bracket span negate members =>
    rw [Element.mapSpans]
    rw [Element.check] at h ⊢
    split at h
    · cases h
    · rename_i hmembers
      rw [List.find?_map]
      have : List.find? ((fun m => (ClassItem.ofKind? m.kind).isNone) ∘
          fun x : ClassMember => x.mapSpans f) members = none := hmembers
      rw [this]
      exact h
  | backreference span target =>
    rw [Element.mapSpans]
    rw [Element.check] at h ⊢
    split at h
    · cases h
    · rename_i hgroup
      rwa [if_neg hgroup]
  | group span capture branches =>
    rw [Element.mapSpans]
    cases capture with
    | none => exact branchesMapSpans_check branches h
    | some capture =>
      rw [Element.check] at h ⊢
      split at h
      · cases h
      · split at h
        · cases h
        · rename_i hbranches
          rw [branchesMapSpans_check branches hbranches]
          exact h
  | look span direction negate branches =>
    rw [Element.mapSpans]
    rw [Element.check] at h ⊢
    split at h
    · cases h
    · split at h
      · cases h
      · rename_i hbranches
        rw [branchesMapSpans_check branches hbranches]
        exact h
  | quantifier span min max greedy inner =>
    rw [Element.mapSpans]
    rw [Element.check] at h ⊢
    rw [Element.mapSpans_captureSlots]
    split at h
    · rename_i hmax
      rwa [if_pos hmax]
    · rename_i hmax
      rw [if_neg hmax]
      dsimp only at h ⊢
      split at h
      · cases h
      · split at h
        · cases h
        · rename_i hinner
          rw [inner.mapSpans_check hinner]
          exact h

theorem Branch.mapSpans_check (b : Branch) {n k : Nat} (h : b.check names n = .ok k) :
    (b.mapSpans f).check names n = .ok k := by
  cases b with
  | mk span elements => exact elementsMapSpans_check elements h

theorem elementsMapSpans_check (es : List Element) {n k : Nat}
    (h : elementsCheck names es n = .ok k) :
    elementsCheck names (elementsMapSpans f es) n = .ok k := by
  cases es with
  | nil => exact h
  | cons e es =>
    rw [elementsMapSpans]
    rw [elementsCheck] at h ⊢
    split at h
    · cases h
    · rename_i he
      rw [e.mapSpans_check he]
      exact elementsMapSpans_check es h

theorem branchesMapSpans_check (bs : List Branch) {n k : Nat}
    (h : branchesCheck names bs n = .ok k) :
    branchesCheck names (branchesMapSpans f bs) n = .ok k := by
  match bs with
  | [] => exact h
  | [b] => exact b.mapSpans_check h
  | b :: b' :: bs =>
    rw [branchesMapSpans, branchesMapSpans]
    rw [branchesCheck] at h ⊢
    · split at h
      · cases h
      · split at h
        · cases h
        · rename_i hb
          rw [b.mapSpans_check hb]
          dsimp only
          split at h
          · cases h
          · exact branchesMapSpans_check (b' :: bs) h
    · simp
    · simp

end
end

section
variable (a : Attempt)

mutual

theorem Element.mapSpans_outcomes (e : Element) : (e.mapSpans f).outcomes a = e.outcomes a := by
  funext p
  cases e with
  | char | set | anchor | backreference => rfl
  | bracket span negate members =>
    have hkinds : (members.map (·.mapSpans f)).filterMap (fun m => ClassItem.ofKind? m.kind) =
        members.filterMap fun m => ClassItem.ofKind? m.kind := by
      rw [List.filterMap_map]
      rfl
    rw [Element.mapSpans, Element.outcomes, Element.outcomes]
    unfold Attempt.inBracket
    rw [hkinds]
  | group span capture branches =>
    rw [Element.mapSpans]
    cases capture with
    | none => exact congrFun (branchesMapSpans_outcomes branches) p
    | some capture => rw [Element.outcomes, Element.outcomes, branchesMapSpans_outcomes branches]
  | look span direction negate branches =>
    rw [Element.mapSpans]
    cases direction with
    | ahead => rw [Element.outcomes, Element.outcomes, branchesMapSpans_outcomes branches]
    | behind => rw [Element.outcomes, Element.outcomes, branchesMapSpans_outcomes branches]
  | quantifier span min max greedy inner =>
    rw [Element.mapSpans, Element.outcomes, Element.outcomes, inner.mapSpans_outcomes,
      Element.mapSpans_captures]

theorem Branch.mapSpans_outcomes (b : Branch) : (b.mapSpans f).outcomes a = b.outcomes a := by
  cases b with
  | mk span elements => exact elementsMapSpans_outcomes elements

theorem elementsMapSpans_outcomes (es : List Element) :
    elementsOutcomes a (elementsMapSpans f es) = elementsOutcomes a es := by
  cases es with
  | nil => rfl
  | cons e es =>
    funext p
    rw [elementsMapSpans, elementsOutcomes, elementsOutcomes, e.mapSpans_outcomes,
      elementsMapSpans_outcomes es]

theorem branchesMapSpans_outcomes (bs : List Branch) :
    branchesOutcomes a (branchesMapSpans f bs) = branchesOutcomes a bs := by
  cases bs with
  | nil => rfl
  | cons b bs =>
    funext p
    rw [branchesMapSpans, branchesOutcomes, branchesOutcomes, b.mapSpans_outcomes,
      branchesMapSpans_outcomes bs]

end
end
end RegexInsight
