import RegexInsight.Tree

/-! Walking through a pattern. The walk keeps a stack of nodes still to be visited, and visits each
node before what it holds. -/
namespace RegexInsight

inductive Node where
  | pattern (p : Pattern)
  | branch (b : Branch)
  | element (e : Element)
  | member (m : ClassMember)

mutual

def Element.weight : Element → Nat
  | .char .. | .set .. | .anchor .. | .backreference .. => 1
  | .bracket _ _ members => members.length + 1
  | .group _ _ branches | .look _ _ _ branches => branchesWeight branches + 1
  | .quantifier _ _ _ _ inner => inner.weight + 1

def Branch.weight : Branch → Nat
  | .mk _ elements => elementsWeight elements + 1

def elementsWeight : List Element → Nat
  | [] => 0
  | e :: es => e.weight + elementsWeight es

def branchesWeight : List Branch → Nat
  | [] => 0
  | b :: bs => b.weight + branchesWeight bs

end

namespace Node

def span : Node → Span
  | pattern p => p.span
  | branch b => b.span
  | element e => e.span
  | member m => m.span

def element? : Node → Option Element
  | element e => some e
  | _ => none

def branches? : Node → Option (List Branch)
  | pattern p => some p.branches
  | element (.group _ _ branches) | element (.look _ _ _ branches) => some branches
  | _ => none

def isAlternation (n : Node) : Bool := n.branches?.any (1 < ·.length)

def children : Node → List Node
  | pattern p => p.branches.map branch
  | branch b => b.elements.map element
  | element (.group _ _ branches) | element (.look _ _ _ branches) => branches.map branch
  | element (.quantifier _ _ _ _ inner) => [element inner]
  | element (.bracket _ _ members) => members.map member
  | element _ | member _ => []

def weight : Node → Nat
  | pattern p => branchesWeight p.branches + 1
  | branch b => b.weight
  | element e => e.weight
  | member _ => 1

def weights : List Node → Nat
  | [] => 0
  | n :: ns => n.weight + weights ns

theorem weights_append (ns ms : List Node) : weights (ns ++ ms) = weights ns + weights ms := by
  induction ns with
  | nil => simp [weights]
  | cons n ns ih => simp [weights, ih, Nat.add_assoc]

theorem weights_branches (bs : List Branch) : weights (bs.map branch) = branchesWeight bs := by
  induction bs with
  | nil => rfl
  | cons b bs ih => simp [weights, branchesWeight, weight, ih]

theorem weights_elements (es : List Element) : weights (es.map element) = elementsWeight es := by
  induction es with
  | nil => rfl
  | cons e es ih => simp [weights, elementsWeight, weight, ih]

theorem weights_members (ms : List ClassMember) : weights (ms.map member) = ms.length := by
  induction ms with
  | nil => rfl
  | cons m ms ih => simp [weights, weight, ih, Nat.add_comm]

theorem weight_eq (n : Node) : n.weight = weights n.children + 1 := by
  match n with
  | pattern p => simp [weight, children, weights_branches]
  | branch (.mk _ es) => simp [weight, children, Branch.weight, Branch.elements, weights_elements]
  | member _ => rfl
  | element (.group ..) | element (.look ..) =>
    simp [weight, children, Element.weight, weights_branches]
  | element (.bracket ..) => simp [weight, children, Element.weight, weights_members]
  | element (.quantifier ..) => simp [weight, weights, children, Element.weight]
  | element (.char ..) | element (.set ..) | element (.anchor ..) | element (.backreference ..) =>
    rfl

/-- Pushes nodes onto a stack, the last one first, so that they come off in source order. -/
def pushAll (ns stack : List Node) : List Node := ns.reverse.foldl (fun stack n => n :: stack) stack

theorem pushAll_eq (ns stack : List Node) : pushAll ns stack = ns ++ stack := by
  simp [pushAll]

def next? : List Node → Option (Node × List Node)
  | [] => none
  | n :: stack => some (n, pushAll n.children stack)

theorem next?_weights {n : Node} {stack rest : List Node} (h : next? stack = some (n, rest)) :
    weights rest < weights stack := by
  match stack with
  | [] => cases h
  | m :: stack =>
    cases h
    simp [weights, pushAll_eq, weights_append, weight_eq n]

/-- Visits the nodes on the stack and all below them; `visited` holds the earlier ones. -/
def visit (visited : Array Node) (stack : List Node) : Array Node :=
  match _next : next? stack with
  | none => visited
  | some (n, rest) => visit (visited.push n) rest
termination_by weights stack
decreasing_by exact next?_weights _next

def walk (n : Node) : List Node := (visit #[] [n]).toList

def descendants (n : Node) : List Node := (visit #[] (pushAll n.children [])).toList

end Node

namespace Pattern

def nodes (p : Pattern) : List Node := (Node.pattern p).walk

def elements (p : Pattern) : List Element := p.nodes.filterMap Node.element?

end Pattern

def Element.repetitions (e : Element) : List Element.Repetition :=
  ((Node.element e).walk.filterMap Node.element?).filterMap Element.repetition?

end RegexInsight
