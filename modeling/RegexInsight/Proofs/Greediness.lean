import RegexInsight.Proofs.Attempts
import RegexInsight.Proofs.Covering

/-! Greedy and lazy quantifiers. Making quantifiers greedy or lazy changes the order in which the
outcomes of a pattern are tried, and so what is captured. It does not change where there is a match,
unless a lookaround hands on captures that a reference goes on to ask for. Patterns are compared by
what they are once all of their quantifiers are greedy. -/
namespace RegexInsight

mutual

/-- The same element with all quantifiers at and below it greedy. -/
def Element.eager : Element → Element
  | .char span value => .char span value
  | .set span s => .set span s
  | .bracket span negate members => .bracket span negate members
  | .group span capture branches => .group span capture (branchesEager branches)
  | .quantifier span min max _ inner => .quantifier span min max true inner.eager
  | .anchor span anchor => .anchor span anchor
  | .look span direction negate branches => .look span direction negate (branchesEager branches)
  | .backreference span target => .backreference span target

def Branch.eager : Branch → Branch
  | .mk span elements => .mk span (elementsEager elements)

def elementsEager : List Element → List Element
  | [] => []
  | e :: es => e.eager :: elementsEager es

def branchesEager : List Branch → List Branch
  | [] => []
  | b :: bs => b.eager :: branchesEager bs

end

/-- The pattern with all quantifiers greedy. Two trees have the same one just if they differ in which of
their quantifiers are greedy. -/
def PatternTree.eager (tree : PatternTree) : PatternTree :=
  ⟨⟨tree.pattern.span, branchesEager tree.pattern.branches⟩, tree.names⟩

@[simp] theorem elementsEager_eq (es : List Element) : elementsEager es = es.map Element.eager := by
  induction es with
  | nil => rfl
  | cons e es ih => rw [elementsEager, ih, List.map_cons]

@[simp] theorem branchesEager_eq (bs : List Branch) : branchesEager bs = bs.map Branch.eager := by
  induction bs with
  | nil => rfl
  | cons b bs ih => rw [branchesEager, ih, List.map_cons]

theorem Branch.eager_elements (b : Branch) : b.eager.elements = b.elements.map Element.eager := by
  cases b with
  | mk span elements => exact elementsEager_eq elements

def Node.eager : Node → Node
  | pattern p => pattern ⟨p.span, branchesEager p.branches⟩
  | branch b => branch b.eager
  | element e => element e.eager
  | member m => member m

theorem Node.eager_children (n : Node) : n.eager.children = n.children.map eager := by
  match n with
  | pattern p => simp [eager, children]
  | branch b => simp [eager, children, Branch.eager_elements]
  | element (.group ..) | element (.look ..) => simp [eager, Element.eager, children]
  | element (.quantifier ..) => simp [eager, Element.eager, children]
  | element (.bracket ..) => simp [eager, Element.eager, children]
  | element (.char ..) | element (.set ..) | element (.anchor ..) | element (.backreference ..) => rfl
  | member _ => rfl

theorem Node.eager_capture? (n : Node) : n.eager.capture? = n.capture? := by
  match n with
  | element (.group ..) | element (.look ..) | element (.quantifier ..) => rfl
  | element (.bracket ..) | element (.char ..) | element (.set ..) => rfl
  | element (.anchor ..) | element (.backreference ..) => rfl
  | pattern _ | branch _ | member _ => rfl

theorem Node.eager_element? (n : Node) : n.eager.element? = n.element?.map Element.eager := by
  cases n <;> rfl

@[simp] theorem Element.eager_captures (e : Element) : e.eager.captures = e.captures := by
  have hwalk : (Node.element e.eager).walk = _ := Node.walk_map Node.eager_children (.element e)
  rw [captures, captures, hwalk, List.filterMap_map]
  exact congrArg (List.filterMap · _) (funext Node.eager_capture?)

@[simp] theorem Element.eager_captureSlots (e : Element) : captureSlots e.eager = captureSlots e := by
  rw [captureSlots_eq, captureSlots_eq, eager_captures]

namespace PatternTree

variable (tree : PatternTree)

theorem eager_walk :
    tree.eager.pattern.nodes = tree.pattern.nodes.map Node.eager :=
  Node.walk_map Node.eager_children (.pattern tree.pattern)

theorem eager_captures : tree.eager.pattern.captures = tree.pattern.captures := by
  rw [Pattern.captures, Pattern.captures, eager_walk, List.filterMap_map]
  exact congrArg (List.filterMap · _) (funext Node.eager_capture?)

theorem eager_elements : tree.eager.pattern.elements = tree.pattern.elements.map Element.eager := by
  rw [Pattern.elements, Pattern.elements, eager_walk, List.filterMap_map, List.map_filterMap]
  exact congrArg (List.filterMap · _) (funext Node.eager_element?)

end PatternTree

theorem Element.eager_formed {unicode : Bool} {total : Nat} {known : String → Prop} (e : Element) :
    e.eager.Formed unicode total known ↔ e.Formed unicode total known := by
  cases e with
  | quantifier span min max greedy inner =>
    refine and_congr_right fun _ => ?_
    cases inner with
    | look span direction => cases direction <;> rfl
    | char | set | bracket | group | quantifier | anchor | backreference => rfl
  | group | look => simp [eager, Formed]
  | char | set | bracket | anchor => rfl
  | backreference span target => cases target <;> rfl

theorem PatternTree.eager_wellFormed {unicode : Bool} {tree : PatternTree} :
    tree.eager.WellFormed unicode ↔ tree.WellFormed unicode := by
  have helements : (∀ e ∈ tree.eager.pattern.elements, e.Formed unicode tree.names.length
      fun name => some name ∈ tree.names) ↔ ∀ e ∈ tree.pattern.elements,
        e.Formed unicode tree.names.length fun name => some name ∈ tree.names := by
    rw [eager_elements, List.forall_mem_map]
    exact forall₂_congr fun e _ => e.eager_formed
  have hbranches : tree.eager.pattern.branches ≠ [] ↔ tree.pattern.branches ≠ [] := by
    simp [eager]
  constructor
  · intro h
    exact ⟨hbranches.mp h.branches, tree.eager_captures ▸ h.captures, h.distinct,
      helements.mp h.elements⟩
  · intro h
    exact ⟨hbranches.mpr h.branches, tree.eager_captures.trans h.captures, h.distinct,
      helements.mpr h.elements⟩

section
variable {names : List (Option String)}

mutual

/-- Greedy and lazy quantifiers are written in the same number of instructions. -/
theorem Element.eager_check (e : Element) (n : Nat) : e.eager.check names n = e.check names n := by
  cases e with
  | char | set | bracket | anchor | backreference => rfl
  | group span capture branches =>
    cases capture with
    | none => exact branchesEager_check branches n
    | some capture =>
      rw [Element.eager, Element.check, Element.check]
      simp only [branchesEager_check branches]
  | look span direction negate branches =>
    rw [Element.eager, Element.check, Element.check]
    simp only [branchesEager_check branches]
  | quantifier span min max greedy inner =>
    rw [Element.eager, Element.check, Element.check, Element.eager_captureSlots]
    simp only [Element.eager_check inner]

theorem Branch.eager_check (b : Branch) (n : Nat) : b.eager.check names n = b.check names n := by
  cases b with
  | mk span elements => exact elementsEager_check elements n

theorem elementsEager_check (es : List Element) (n : Nat) :
    elementsCheck names (elementsEager es) n = elementsCheck names es n := by
  cases es with
  | nil => rfl
  | cons e es =>
    rw [elementsEager, elementsCheck, elementsCheck, e.eager_check]
    simp only [elementsEager_check es]

theorem branchesEager_check (bs : List Branch) (n : Nat) :
    branchesCheck names (branchesEager bs) n = branchesCheck names bs n := by
  match bs with
  | [] => rfl
  | [b] => exact b.eager_check n
  | b :: b' :: bs =>
    have hrest := branchesEager_check (b' :: bs)
    rw [branchesEager] at hrest ⊢
    rw [branchesEager, branchesCheck, branchesCheck]
    · simp only [Branch.eager_check b, hrest]
    · simp
    · simp

end
end

namespace Element

def isLook : Element → Bool
  | look .. => true
  | _ => false

def isReference : Element → Bool
  | backreference .. => true
  | _ => false

/-- Groups can be compared where nothing looks around, and left out where nothing refers to them. -/
def Suits (grouped : Bool) : Element → Prop
  | look .. => grouped = false
  | backreference .. => grouped = true
  | _ => True

theorem suits_of_isLook {e : Element} (h : e.isLook = false) : e.Suits true := by
  cases e with
  | look => cases h
  | backreference => rfl
  | char | set | bracket | group | quantifier | anchor => trivial

theorem suits_of_isReference {e : Element} (h : e.isReference = false) : e.Suits false := by
  cases e with
  | backreference => cases h
  | look => rfl
  | char | set | bracket | group | quantifier | anchor => trivial

theorem eager_suits {grouped : Bool} (e : Element) : e.eager.Suits grouped ↔ e.Suits grouped := by
  cases e <;> rfl

end Element

section
variable {grouped : Bool} (a : Attempt)

mutual

theorem Element.eager_outcomes (e : Element) (h : e.Throughout (Element.Suits grouped)) :
    SameOutcomes grouped (e.outcomes a) (e.eager.outcomes a) := by
  cases e with
  | char | set | bracket => exact .unchanged (.consume rfl fun _ => id)
  | anchor => exact .unchanged (.anchor fun _ => id)
  | backreference => exact .unchanged (.refer h.self rfl rfl fun _ _ => id)
  | group span capture branches =>
    have hbranches := branchesEager_outcomes branches h.held
    cases capture with
    | none => exact hbranches
    | some capture => exact ⟨hbranches.1.group capture.index, hbranches.2.group capture.index⟩
  | look span direction negate branches =>
    have hbranches := branchesEager_outcomes branches h.held
    cases direction with
    | ahead => exact hbranches.ahead h.self negate
    | behind => exact hbranches.behind h.self negate
  | quantifier span min max greedy inner =>
    have hinner := Element.eager_outcomes inner (h.held inner List.mem_cons_self)
    exact ⟨hinner.1.quantifier rfl inner.eager_captures,
      hinner.2.quantifier rfl inner.eager_captures.symm⟩

theorem Branch.eager_outcomes (b : Branch) (h : ∀ e ∈ b.elements, e.Throughout (Element.Suits grouped)) :
    SameOutcomes grouped (b.outcomes a) (b.eager.outcomes a) := by
  cases b with
  | mk span elements => exact elementsEager_outcomes elements h

theorem elementsEager_outcomes (es : List Element)
    (h : ∀ e ∈ es, e.Throughout (Element.Suits grouped)) :
    SameOutcomes grouped (elementsOutcomes a es) (elementsOutcomes a (elementsEager es)) := by
  cases es with
  | nil => exact .nothing
  | cons e es =>
    obtain ⟨he, hes⟩ := List.forall_mem_cons.mp h
    exact (Element.eager_outcomes e he).seq (elementsEager_outcomes es hes)

theorem branchesEager_outcomes (bs : List Branch)
    (h : ∀ e ∈ bs.flatMap Branch.elements, e.Throughout (Element.Suits grouped)) :
    SameOutcomes grouped (branchesOutcomes a bs) (branchesOutcomes a (branchesEager bs)) := by
  cases bs with
  | nil => exact .unchanged fun _ _ _ _ hq => nomatch hq
  | cons b bs =>
    rw [List.flatMap_cons, List.forall_mem_append] at h
    exact (Branch.eager_outcomes b h.1).choice (branchesEager_outcomes bs h.2)

end
end

namespace PatternTree

variable {grouped : Bool} {tree tree' : PatternTree}

theorem eager_firstMatch (h : ∀ e ∈ tree.pattern.elements, e.Suits grouped) (mode : Mode)
    (text : Array Char) (start : Nat) :
    (tree.firstMatch mode text start).isSome ↔ (tree.eager.firstMatch mode text start).isSome := by
  rw [firstMatch, firstMatch, Option.isSome_map, Option.isSome_map]
  have hsame := branchesEager_outcomes ⟨mode, text, tree.names⟩ tree.pattern.branches
    (Pattern.forall_elements.mp h)
  exact hsame.head?_isSome (.refl (.start start))

/-- Of two trees that are the same but for their greediness both match at a place or neither. -/
theorem firstMatch_isSome_of_eager (he : tree'.eager = tree.eager)
    (h : ∀ e ∈ tree.pattern.elements, e.Suits grouped) (mode : Mode) (text : Array Char)
    (start : Nat) :
    (tree'.firstMatch mode text start).isSome = (tree.firstMatch mode text start).isSome := by
  have hsuits : ∀ t : PatternTree, (∀ e ∈ t.eager.pattern.elements, e.Suits grouped) ↔
      ∀ e ∈ t.pattern.elements, e.Suits grouped := by
    intro t
    rw [eager_elements, List.forall_mem_map]
    exact forall₂_congr fun e _ => e.eager_suits
  have h' : ∀ e ∈ tree'.pattern.elements, e.Suits grouped := by
    rwa [← hsuits, he, hsuits]
  rw [Bool.eq_iff_iff, eager_firstMatch h', he, eager_firstMatch h]

theorem eager_compile {multiline : Bool} {program : Program} (he : tree'.eager = tree.eager)
    (hc : compile multiline tree = .ok program) : ∃ program', compile multiline tree' = .ok program' := by
  obtain ⟨n, hcheck, hle, -⟩ := compile_cases hc
  refine compile_of_check multiline ?_ hle
  have heager : ∀ t : PatternTree, branchesCheck t.names t.pattern.branches 0 =
      branchesCheck t.eager.names t.eager.pattern.branches 0 :=
    fun t => (branchesEager_check t.pattern.branches 0).symm
  rw [heager, he, ← heager, hcheck]

end PatternTree

/-- Greediness does not decide whether there is a match. Let `tree'` differ from a well-formed `tree`
only in which quantifiers are greedy, and let there be no lookaround or no reference in it. If the one
can be compiled, so can the other, and at each position of any text either both match or neither, as
long as neither exceeds its limit. -/
theorem matchAt_isSome_of_eager {unicode multiline : Bool} {tree tree' : PatternTree}
    {program : Program} (hw : tree.WellFormed unicode) (he : tree'.eager = tree.eager)
    (hcase : (∀ e ∈ tree.pattern.elements, e.isLook = false) ∨
      ∀ e ∈ tree.pattern.elements, e.isReference = false)
    (hc : compile multiline tree = .ok program) :
    ∃ program', compile multiline tree' = .ok program' ∧
      ∀ (mode : Mode) (text : Array Char) (limit limit' start : Nat), start ≤ text.size →
        (⟨program, mode, text, limit⟩ : Machine).matchAt start ≠ .error .stepLimit →
        (⟨program', mode, text, limit'⟩ : Machine).matchAt start ≠ .error .stepLimit →
        ∃ found found', (⟨program, mode, text, limit⟩ : Machine).matchAt start = .ok found ∧
          (⟨program', mode, text, limit'⟩ : Machine).matchAt start = .ok found' ∧
          found'.isSome = found.isSome := by
  have hw' : tree'.WellFormed unicode := by
    rwa [← PatternTree.eager_wellFormed, he, PatternTree.eager_wellFormed]
  obtain ⟨program', hc'⟩ := PatternTree.eager_compile he hc
  refine ⟨program', hc', fun mode text limit limit' start hs hl hl' => ?_⟩
  refine ⟨_, _, ((hw.settles hc mode text hs).cases limit).resolve_left hl,
    ((hw'.settles hc' mode text hs).cases limit').resolve_left hl', ?_⟩
  rcases hcase with hlook | hreference
  · exact PatternTree.firstMatch_isSome_of_eager he
      (fun e hmem => Element.suits_of_isLook (hlook e hmem)) mode text start
  · exact PatternTree.firstMatch_isSome_of_eager he
      (fun e hmem => Element.suits_of_isReference (hreference e hmem)) mode text start

/-- The lazy loop takes nothing, and the greedy one takes as much as the reference leaves to it. -/
theorem matchAt_isSome_of_eager_reference :
    ∃ tree tree' program program', parse false "(a*?)\\1b?".toList = .ok tree ∧
      tree'.eager = tree.eager ∧ (∀ e ∈ tree.pattern.elements, e.isLook = false) ∧
      compile false tree = .ok program ∧ compile false tree' = .ok program' ∧
      (⟨program, ⟨false, false, false⟩, #['a', 'a', 'b'], 100⟩ : Machine).matchAt 0 =
        .ok (some #[some 0, some 0, some 0, some 0]) ∧
      (⟨program', ⟨false, false, false⟩, #['a', 'a', 'b'], 100⟩ : Machine).matchAt 0 =
        .ok (some #[some 0, some 3, some 0, some 1]) ∧
      ∃ found found', (⟨program, ⟨false, false, false⟩, #['a', 'a', 'b'], 100⟩ : Machine).matchAt 0 =
          .ok found ∧
        (⟨program', ⟨false, false, false⟩, #['a', 'a', 'b'], 100⟩ : Machine).matchAt 0 = .ok found' ∧
        found'.isSome = found.isSome := by
  let tree (greedy : Bool) : PatternTree := ⟨⟨⟨0, 9⟩, [.mk ⟨0, 9⟩ [.group ⟨0, 5⟩ (some ⟨1, none⟩)
    [.mk ⟨1, 4⟩ [.quantifier ⟨1, 4⟩ 0 none greedy (.char ⟨1, 2⟩ 'a')]],
      .backreference ⟨5, 7⟩ (.index 1), .quantifier ⟨7, 9⟩ 0 (some 1) true (.char ⟨7, 8⟩ 'b')]]⟩, [none]⟩
  let program (star : Inst) : Program := ⟨#[.save 2, star, .save 4, .char 'a', .checkProgress 4,
    .jump 1, .save 3, .backreference 1, .split 9 10, .char 'b', .accept], 1, 5, false⟩
  have hp : parse false "(a*?)\\1b?".toList = .ok (tree false) := by with_unfolding_all rfl
  have hlook : (tree false).pattern.elements.all fun e => e.isLook = false := by decide +kernel
  have hc : compile false (tree false) = .ok (program (.split 6 2)) := by with_unfolding_all rfl
  have hc' : compile false (tree true) = .ok (program (.split 2 6)) := by with_unfolding_all rfl
  have hlook := fun e he => of_decide_eq_true (List.all_eq_true.mp hlook e he)
  obtain ⟨program', hprogram, hsame⟩ :=
    matchAt_isSome_of_eager (.of_parse hp) (rfl : (tree true).eager = (tree false).eager) (.inl hlook) hc
  cases hc'.symm.trans hprogram
  exact ⟨tree false, tree true, _, _, hp, rfl, hlook, hc, hc', by decide +kernel, by decide +kernel,
    hsame _ _ 100 100 0 (Nat.zero_le _) (by decide +kernel) (by decide +kernel)⟩

end RegexInsight
