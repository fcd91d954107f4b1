import RegexInsight.Parser

/-! Trees that differ in their spans only. -/
namespace RegexInsight

def ClassMember.mapSpans (f : Span → Span) (m : ClassMember) : ClassMember :=
  { m with span := f m.span }

mutual

/-- The same element with all spans at and below it changed by `f`. -/
def Element.mapSpans (f : Span → Span) : Element → Element
  | .char span value => .char (f span) value
  | .set span s => .set (f span) s
  | .bracket span negate members => .bracket (f span) negate (members.map (·.mapSpans f))
  | .group span capture branches => .group (f span) capture (branchesMapSpans f branches)
  | .quantifier span min max greedy inner =>
    .quantifier (f span) min max greedy (inner.mapSpans f)
  | .anchor span anchor => .anchor (f span) anchor
  | .look span direction negate branches =>
    .look (f span) direction negate (branchesMapSpans f branches)
  | .backreference span target => .backreference (f span) target

def Branch.mapSpans (f : Span → Span) : Branch → Branch
  | .mk span elements => .mk (f span) (elementsMapSpans f elements)

def elementsMapSpans (f : Span → Span) : List Element → List Element
  | [] => []
  | e :: es => e.mapSpans f :: elementsMapSpans f es

def branchesMapSpans (f : Span → Span) : List Branch → List Branch
  | [] => []
  | b :: bs => b.mapSpans f :: branchesMapSpans f bs

end

variable {f : Span → Span}

@[simp] theorem elementsMapSpans_eq (es : List Element) :
    elementsMapSpans f es = es.map (·.mapSpans f) := by
  induction es with
  | nil => rfl
  | cons e es ih => rw [elementsMapSpans, ih, List.map_cons]

@[simp] theorem branchesMapSpans_eq (bs : List Branch) :
    branchesMapSpans f bs = bs.map (·.mapSpans f) := by
  induction bs with
  | nil => rfl
  | cons b bs ih => rw [branchesMapSpans, ih, List.map_cons]

@[simp] theorem Branch.mapSpans_mk (span : Span) (es : List Element) :
    (Branch.mk span es).mapSpans f = .mk (f span) (es.map (·.mapSpans f)) := by
  rw [Branch.mapSpans, elementsMapSpans_eq]

@[simp] theorem Branch.mapSpans_elements (b : Branch) :
    (b.mapSpans f).elements = b.elements.map (·.mapSpans f) := by
  cases b
  rw [Branch.mapSpans_mk]
  rfl

@[simp] theorem Element.mapSpans_span (e : Element) : (e.mapSpans f).span = f e.span := by
  cases e <;> rfl

@[simp] theorem Shell.mapSpans_element (s : Shell) (span : Span) (bs : List Branch) :
    (s.element span bs).mapSpans f = s.element (f span) (bs.map (·.mapSpans f)) := by
  cases s <;> simp [Shell.element, Element.mapSpans]

@[simp] theorem Element.mapSpans_isQuantifiable (unicode : Bool) (e : Element) :
    (e.mapSpans f).isQuantifiable unicode = e.isQuantifiable unicode := by
  cases e <;> rfl

def Element.bare (e : Element) : Element := e.mapSpans fun _ => ⟨0, 0⟩

def Branch.bare (b : Branch) : Branch := b.mapSpans fun _ => ⟨0, 0⟩

def PatternTree.bare (tree : PatternTree) : PatternTree :=
  ⟨⟨⟨0, 0⟩, tree.pattern.branches.map Branch.bare⟩, tree.names⟩

end RegexInsight
