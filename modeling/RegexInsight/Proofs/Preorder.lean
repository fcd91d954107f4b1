import Mathlib.Data.List.Basic
import RegexInsight.Compile

/-! The walk with a stack lists a node and then, one after the other, the walks of what it holds.
With this equation every list that is filtered out of a walk follows the shape of the tree. -/
namespace RegexInsight
namespace Node

@[simp] theorem visit_nil (visited : Array Node) : visit visited [] = visited := by
  rw [visit]
  rfl

theorem visit_push (visited : Array Node) (n : Node) (stack : List Node) :
    visit visited (n :: stack) = visit (visited.push n) (n.children ++ stack) := by
  rw [visit, ← pushAll_eq]
  rfl

theorem visit_toList (visited : Array Node) (stack : List Node) :
    (visit visited stack).toList = visited.toList ++ (visit #[] stack).toList := by
  match stack with
  | [] => simp
  | n :: stack =>
    rw [visit_push, visit_push, visit_toList (visited.push n), visit_toList (#[].push n)]
    simp
termination_by weights stack
decreasing_by all_goals simp [weights, weights_append, weight_eq n]

theorem visit_cons (n : Node) (stack : List Node) :
    (visit #[] (n :: stack)).toList = n :: (visit #[] (n.children ++ stack)).toList := by
  rw [visit_push, visit_toList]
  simp

theorem visit_append (ns ms : List Node) :
    (visit #[] (ns ++ ms)).toList = (visit #[] ns).toList ++ (visit #[] ms).toList := by
  match ns with
  | [] => simp
  | n :: ns =>
    rw [List.cons_append, visit_cons, visit_cons, ← List.append_assoc, visit_append]
    rfl
termination_by weights ns
decreasing_by simp [weights, weights_append, weight_eq n]

theorem visit_eq_flatMap (ns : List Node) : (visit #[] ns).toList = ns.flatMap walk := by
  induction ns with
  | nil => simp
  | cons n ns ih =>
    rw [← List.singleton_append, visit_append, ih]
    rfl

theorem descendants_eq_visit (n : Node) : n.descendants = (visit #[] n.children).toList := by
  rw [descendants, pushAll_eq, List.append_nil]

/-- A node comes first, and then the walks of what it holds in source order. -/
theorem walk_eq (n : Node) : n.walk = n :: n.children.flatMap walk := by
  rw [walk, visit_cons, List.append_nil, visit_eq_flatMap]

theorem visit_map {g : Node → Node} (hg : ∀ n, (g n).children = n.children.map g) (ns : List Node) :
    (visit #[] (ns.map g)).toList = (visit #[] ns).toList.map g := by
  match ns with
  | [] => simp
  | n :: ns =>
    rw [List.map_cons, visit_cons, visit_cons, hg, ← List.map_append, visit_map hg (n.children ++ ns),
      List.map_cons]
termination_by weights ns
decreasing_by simp [weights, weights_append, weight_eq n]

theorem walk_map {g : Node → Node} (hg : ∀ n, (g n).children = n.children.map g) (n : Node) :
    (g n).walk = n.walk.map g := visit_map hg [n]

theorem filterMap_walk {α : Type} (f : Node → Option α) (n : Node) :
    n.walk.filterMap f = (f n).toList ++ n.children.flatMap fun m => m.walk.filterMap f := by
  rw [walk_eq, List.filterMap_cons, List.filterMap_flatMap]
  cases f n <;> rfl

def capture? : Node → Option Capture
  | element (.group _ capture _) => capture
  | _ => none

end Node

namespace Element

/-- The elements directly below an element, in source order. -/
def held : Element → List Element
  | group _ _ branches | look _ _ _ branches => branches.flatMap Branch.elements
  | quantifier _ _ _ _ inner => [inner]
  | _ => []

/-- The capture groups at and below an element, in the order of the walk. -/
def captures (e : Element) : List Capture := (Node.element e).walk.filterMap Node.capture?

/-- The elements at and below an element, in the order of the walk. -/
def parts (e : Element) : List Element := (Node.element e).walk.filterMap Node.element?

end Element

def Pattern.captures (p : Pattern) : List Capture := p.nodes.filterMap Node.capture?

def branchesCaptures (bs : List Branch) : List Capture :=
  bs.flatMap fun b => b.elements.flatMap Element.captures

namespace Node

theorem filterMap_walk_branches {α : Type} (f : Node → Option α) (hf : ∀ b, f (branch b) = none)
    (bs : List Branch) :
    (bs.map branch).flatMap (fun n => n.walk.filterMap f) =
      (bs.flatMap Branch.elements).flatMap fun e => (element e).walk.filterMap f := by
  rw [List.flatMap_map, List.flatMap_assoc]
  congr 1
  funext b
  rw [filterMap_walk, hf, children, List.flatMap_map]
  rfl

theorem filterMap_walk_members {α : Type} (f : Node → Option α) (hf : ∀ m, f (member m) = none)
    (ms : List ClassMember) : (ms.map member).flatMap (fun n => n.walk.filterMap f) = [] := by
  rw [List.flatMap_map, List.flatMap_eq_nil_iff]
  intro m _
  rw [filterMap_walk, hf]
  rfl

theorem filterMap_walk_element {α : Type} (f : Node → Option α) (hb : ∀ b, f (branch b) = none)
    (hm : ∀ m, f (member m) = none) (e : Element) :
    (element e).walk.filterMap f =
      (f (element e)).toList ++ e.held.flatMap fun x => (element x).walk.filterMap f := by
  rw [filterMap_walk]
  congr 1
  cases e with
  | group _ _ bs => exact filterMap_walk_branches f hb bs
  | look _ _ _ bs => exact filterMap_walk_branches f hb bs
  | bracket _ _ ms => exact filterMap_walk_members f hm ms
  | quantifier | char | set | anchor | backreference => rfl

end Node

namespace Element

theorem captures_eq (e : Element) :
    e.captures = (Node.element e).capture?.toList ++ e.held.flatMap captures :=
  Node.filterMap_walk_element _ (fun _ => rfl) (fun _ => rfl) e

theorem parts_eq (e : Element) : e.parts = e :: e.held.flatMap parts :=
  Node.filterMap_walk_element _ (fun _ => rfl) (fun _ => rfl) e

@[simp] theorem captures_group (span : Span) (c : Option Capture) (bs : List Branch) :
    (group span c bs).captures = c.toList ++ branchesCaptures bs := by
  rw [captures_eq, held, List.flatMap_assoc]
  rfl

@[simp] theorem captures_look (span : Span) (d : Direction) (negate : Bool) (bs : List Branch) :
    (look span d negate bs).captures = branchesCaptures bs := by
  rw [captures_eq, held, List.flatMap_assoc]
  rfl

@[simp] theorem captures_quantifier (span : Span) (min : Nat) (max : Option Nat) (greedy : Bool)
    (inner : Element) : (quantifier span min max greedy inner).captures = inner.captures := by
  rw [captures_eq, held, List.flatMap_singleton]
  rfl

theorem captures_of_held_eq_nil {e : Element} (h : e.held = [])
    (hc : (Node.element e).capture? = none) : e.captures = [] := by
  rw [captures_eq, h, hc]
  rfl

@[simp] theorem captures_char (span : Span) (value : Char) : (char span value).captures = [] :=
  captures_of_held_eq_nil rfl rfl

end Element

theorem Pattern.captures_eq (p : Pattern) : p.captures = branchesCaptures p.branches := by
  rw [captures, nodes, Node.filterMap_walk, Node.children,
    Node.filterMap_walk_branches _ (fun _ => rfl), List.flatMap_assoc]
  rfl

theorem Pattern.elements_eq (p : Pattern) :
    p.elements = (p.branches.flatMap Branch.elements).flatMap Element.parts := by
  rw [elements, nodes, Node.filterMap_walk, Node.children,
    Node.filterMap_walk_branches _ (fun _ => rfl)]
  rfl

/-- All elements at and below an element have a property. -/
def Element.Throughout (P : Element → Prop) (e : Element) : Prop := ∀ x ∈ e.parts, P x

namespace Element.Throughout

variable {P : Element → Prop} {e : Element}

theorem self (h : e.Throughout P) : P e := h e (e.parts_eq ▸ List.mem_cons_self)

theorem held (h : e.Throughout P) : ∀ x ∈ e.held, x.Throughout P := by
  intro x hx y hy
  rw [Throughout, Element.parts_eq] at h
  exact h y (List.mem_cons_of_mem _ (List.mem_flatMap.mpr ⟨x, hx, hy⟩))

end Element.Throughout

/-- All elements of a pattern have a property if those at its top have it throughout. -/
theorem Pattern.forall_elements {P : Element → Prop} {p : Pattern} :
    (∀ x ∈ p.elements, P x) ↔ ∀ e ∈ p.branches.flatMap Branch.elements, e.Throughout P := by
  rw [elements_eq]
  exact List.forall_mem_flatMap

theorem captureSlots_eq (e : Element) :
    captureSlots e = e.captures.flatMap fun c => [c.index * 2, c.index * 2 + 1] := by
  rw [captureSlots, Element.captures]
  induction (Node.element e).walk with
  | nil => rfl
  | cons n ns ih =>
    rw [List.flatMap_cons, List.filterMap_cons, ih]
    match n with
    | .element (.group _ (some c) _) => rfl
    | .element (.group _ none _) | .pattern _ | .branch _ | .member _ => rfl
    | .element (.char ..) | .element (.set ..) | .element (.bracket ..) | .element (.look ..) => rfl
    | .element (.quantifier ..) | .element (.anchor ..) | .element (.backreference ..) => rfl

end RegexInsight
