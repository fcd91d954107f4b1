import RegexInsight.Proofs.Layout
import RegexInsight.Proofs.PlaceInvariance

/-! The code of a tree does not depend on where its parts stand: wherever they do, the same
instructions are written one behind the other, so trees that differ in their spans only have the same
program. -/
namespace RegexInsight

variable {f : Span → Span}

mutual

@[simp] theorem Element.mapSpans_size (e : Element) : (e.mapSpans f).size = e.size := by
  cases e with
  | char | set | bracket | anchor | backreference => rfl
  | group span capture branches =>
    cases capture with
    | none => exact branchesMapSpans_size branches
    | some capture => exact congrArg (· + 2) (branchesMapSpans_size branches)
  | look span direction negate branches => exact congrArg (· + 2) (branchesMapSpans_size branches)
  | quantifier span min max greedy inner =>
    rw [Element.mapSpans, Element.size, Element.size, Element.mapSpans_captureSlots,
      Element.mapSpans_size inner]

theorem Branch.mapSpans_size (b : Branch) : (b.mapSpans f).size = b.size := by
  cases b with
  | mk span elements => exact elementsMapSpans_size elements

theorem elementsMapSpans_size (es : List Element) :
    elementsSize (elementsMapSpans f es) = elementsSize es := by
  cases es with
  | nil => rfl
  | cons e es =>
    rw [elementsMapSpans, elementsSize, elementsSize, Element.mapSpans_size e,
      elementsMapSpans_size es]

theorem branchesMapSpans_size (bs : List Branch) :
    branchesSize (branchesMapSpans f bs) = branchesSize bs := by
  match bs with
  | [] => rfl
  | [b] => exact Branch.mapSpans_size b
  | b :: b' :: bs =>
    have hrest := branchesMapSpans_size (b' :: bs)
    rw [branchesMapSpans] at hrest
    rw [branchesMapSpans, branchesMapSpans, branchesSize_cons_cons, branchesSize_cons_cons, hrest,
      Branch.mapSpans_size b]

end

section
variable (names : List (Option String))

mutual

theorem Element.mapSpans_emit (e : Element) (code : Code) :
    (e.mapSpans f).emit names code = e.emit names code := by
  cases e with
  | char | set | backreference => rfl
  | bracket span negate members =>
    rw [Element.mapSpans, Element.emit, Element.emit, List.filterMap_map]
    rfl
  | anchor span anchor => cases anchor <;> rfl
  | group span capture branches =>
    cases capture with
    | none =>
      rw [Element.mapSpans, Element.emit, Element.emit, branchesMapSpans_size,
        branchesMapSpans_emit branches]
    | some capture =>
      rw [Element.mapSpans, Element.emit, Element.emit, branchesMapSpans_size,
        branchesMapSpans_emit branches]
  | look span direction negate branches =>
    rw [Element.mapSpans, Element.emit, Element.emit, branchesMapSpans_size,
      branchesMapSpans_emit branches]
  | quantifier span min max greedy inner =>
    have hcopy : (inner.mapSpans f).emitCopy names = inner.emitCopy names := by
      funext code
      rw [Element.emitCopy, Element.emitCopy, Element.mapSpans_captureSlots,
        Element.mapSpans_emit inner]
    rw [Element.mapSpans, Element.emit_quantifier, Element.emit_quantifier, hcopy,
      Element.mapSpans_captureSlots, Element.mapSpans_size]

theorem Branch.mapSpans_emit (b : Branch) (code : Code) :
    (b.mapSpans f).emit names code = b.emit names code := by
  cases b with
  | mk span elements => exact elementsMapSpans_emit elements code

theorem elementsMapSpans_emit (es : List Element) (code : Code) :
    elementsEmit names (elementsMapSpans f es) code = elementsEmit names es code := by
  cases es with
  | nil => rfl
  | cons e es =>
    rw [elementsMapSpans, elementsEmit, elementsEmit, Element.mapSpans_emit e,
      elementsMapSpans_emit es]

theorem branchesMapSpans_emit (bs : List Branch) (stop : Nat) (code : Code) :
    branchesEmit names stop (branchesMapSpans f bs) code = branchesEmit names stop bs code := by
  match bs with
  | [] => rfl
  | [b] => exact Branch.mapSpans_emit b code
  | b :: b' :: bs =>
    have hrest := branchesMapSpans_emit (b' :: bs) stop
    rw [branchesMapSpans] at hrest
    rw [branchesMapSpans, branchesMapSpans, branchesEmit_cons_cons, branchesEmit_cons_cons, hrest,
      Branch.emitChoice, Branch.emitChoice, Branch.mapSpans_emit b, Branch.mapSpans_size]

end
end

end RegexInsight
