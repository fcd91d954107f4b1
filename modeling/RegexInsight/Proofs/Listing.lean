import Mathlib.Data.List.FinRange
import RegexInsight.Proofs.Preorder

/-! The walk against the shape of the tree. What it yields is the listing that a recursion over the
constructors gives. It comes to every place of the tree once, in the order of the places. The listings of
the nodes on the stack, one behind the other, are what is still to be yielded; so a node that comes on top is
followed by all that is below it before anything else. -/
namespace RegexInsight

mutual

/-- The nodes of an element, each before what it holds. -/
def Element.listing : Element → List Node
  | .group span capture branches =>
    .element (.group span capture branches) :: branchesListing branches
  | .look span direction negate branches =>
    .element (.look span direction negate branches) :: branchesListing branches
  | .quantifier span min max greedy inner =>
    .element (.quantifier span min max greedy inner) :: inner.listing
  | .bracket span negate members =>
    .element (.bracket span negate members) :: members.map Node.member
  | .char span value => [.element (.char span value)]
  | .set span set => [.element (.set span set)]
  | .anchor span anchor => [.element (.anchor span anchor)]
  | .backreference span target => [.element (.backreference span target)]

def Branch.listing : Branch → List Node
  | .mk span elements => .branch (.mk span elements) :: elementsListing elements

def elementsListing : List Element → List Node
  | [] => []
  | e :: es => e.listing ++ elementsListing es

def branchesListing : List Branch → List Node
  | [] => []
  | b :: bs => b.listing ++ branchesListing bs

end

namespace Node

/-- The nodes of a tree in pre-order. -/
def listing : Node → List Node
  | pattern p => pattern p :: branchesListing p.branches
  | branch b => b.listing
  | element e => e.listing
  | member m => [member m]

/-- The node at a place of the tree. A place is given by the numbers of the children on the way to it. -/
def at? (n : Node) : List Nat → Option Node
  | [] => some n
  | i :: place => n.children[i]?.bind fun m => m.at? place

/-- The iterator yields some nodes, while its stack goes from the first to the second. -/
inductive Yields : List Node → List Node → List Node → Prop
  | nothing (stack : List Node) : Yields stack [] stack
  | next {stack rest last ns : List Node} {n : Node} :
    next? stack = some (n, rest) → Yields rest ns last → Yields stack (n :: ns) last

theorem walk_members (ms : List ClassMember) : (ms.map member).flatMap Node.walk = ms.map member := by
  induction ms with
  | nil => rfl
  | cons m ms ih => rw [List.map_cons, List.flatMap_cons, ih, walk_eq, children]; rfl

end Node

mutual

theorem Element.walk_eq_listing (e : Element) : (Node.element e).walk = e.listing := by
  rw [Node.walk_eq]
  cases e with
  | group span capture branches => exact congrArg _ (branches_walk_eq_listing branches)
  | look span direction negate branches => exact congrArg _ (branches_walk_eq_listing branches)
  | quantifier span min max greedy inner =>
    rw [Node.children, List.flatMap_singleton, inner.walk_eq_listing, Element.listing]
  | bracket span negate members => exact congrArg _ (Node.walk_members members)
  | char | set | anchor | backreference => rfl

theorem Branch.walk_eq_listing (b : Branch) : (Node.branch b).walk = b.listing := by
  rw [Node.walk_eq]
  cases b with
  | mk span elements => exact congrArg _ (elements_walk_eq_listing elements)

theorem elements_walk_eq_listing (es : List Element) :
    (es.map Node.element).flatMap Node.walk = elementsListing es := by
  cases es with
  | nil => rfl
  | cons e es =>
    rw [List.map_cons, List.flatMap_cons, e.walk_eq_listing, elements_walk_eq_listing es,
      elementsListing]

theorem branches_walk_eq_listing (bs : List Branch) :
    (bs.map Node.branch).flatMap Node.walk = branchesListing bs := by
  cases bs with
  | nil => rfl
  | cons b bs =>
    rw [List.map_cons, List.flatMap_cons, b.walk_eq_listing, branches_walk_eq_listing bs,
      branchesListing]

end

namespace Node

theorem walk_eq_listing (n : Node) : n.walk = n.listing := by
  cases n with
  | pattern p => rw [walk_eq, listing, ← branches_walk_eq_listing]; rfl
  | branch b => exact b.walk_eq_listing
  | element e => exact e.walk_eq_listing
  | member m => rw [walk_eq, listing, children]; rfl

theorem listing_eq (n : Node) : n.listing = n :: n.children.flatMap listing := by
  rw [← n.walk_eq_listing, n.walk_eq, funext walk_eq_listing]

theorem descendants_eq (n : Node) : n.descendants = n.children.flatMap listing := by
  rw [descendants_eq_visit, visit_eq_flatMap, funext walk_eq_listing]

theorem weight_lt_of_mem {n m : Node} (h : m ∈ n.children) : m.weight < n.weight := by
  obtain ⟨front, back, hsplit⟩ := List.append_of_mem h
  rw [weight_eq n, hsplit, weights_append, weights]
  omega

section
variable {stack rest ns : List Node}

theorem next?_cons (n : Node) (stack : List Node) :
    next? (n :: stack) = some (n, n.children ++ stack) := by
  rw [next?, pushAll_eq]

/-- What is to be yielded from a stack on is the listings of its nodes, one behind the other. -/
theorem Yields.listings (h : Yields stack ns rest) :
    stack.flatMap listing = ns ++ rest.flatMap listing := by
  induction h with
  | nothing => rfl
  | @next stack rest last ns n hnext _ ih =>
    cases stack with
    | nil => cases hnext
    | cons top stack =>
      rw [next?_cons] at hnext
      cases hnext
      rw [List.flatMap_append] at ih
      rw [List.flatMap_cons, listing_eq, List.cons_append, ih, List.cons_append]

/-- The nodes on top of a stack are yielded with all that is below them, and the rest of it is left. -/
theorem yields_listings (ns rest : List Node) : Yields (ns ++ rest) (ns.flatMap listing) rest := by
  match ns with
  | [] => exact .nothing rest
  | n :: ns =>
    have hbelow := yields_listings (n.children ++ ns) rest
    rw [List.flatMap_append, List.append_assoc] at hbelow
    rw [List.flatMap_cons, listing_eq]
    exact .next (next?_cons n _) hbelow
termination_by weights ns
decreasing_by simp [weights, weights_append, weight_eq n]

end

/-- The nodes of a tree with their places, each before what it holds. -/
def placed (n : Node) : List (List Nat × Node) :=
  ([], n) :: (List.finRange n.children.length).flatMap fun i =>
    (placed n.children[i.val]).map fun x => (i.val :: x.1, x.2)
termination_by n.weight
decreasing_by exact weight_lt_of_mem (List.getElem_mem i.isLt)

theorem flatMap_finRange {α β : Type} (l : List α) (f : α → List β) :
    (List.finRange l.length).flatMap (fun i => f l[i.val]) = l.flatMap f := by
  conv_rhs => rw [← List.map_getElem_finRange l, List.flatMap_map]

theorem placed_map_snd (n : Node) : n.placed.map Prod.snd = n.walk := by
  have hchild : ∀ i : Fin n.children.length, ((placed n.children[i.val]).map fun x =>
      (i.val :: x.1, x.2)).map Prod.snd = n.children[i.val].walk := by
    intro i
    rw [List.map_map, ← placed_map_snd]
    rfl
  rw [placed, walk_eq, List.map_cons, List.map_flatMap]
  simp only [hchild, flatMap_finRange]
termination_by n.weight
decreasing_by exact weight_lt_of_mem (List.getElem_mem i.isLt)

theorem placed_pairwise (n : Node) : (n.placed.map Prod.fst).Pairwise (· < ·) := by
  rw [List.pairwise_map, placed, List.pairwise_cons]
  constructor
  · intro x hx
    obtain ⟨i, -, hx⟩ := List.mem_flatMap.mp hx
    obtain ⟨y, -, rfl⟩ := List.mem_map.mp hx
    exact List.nil_lt_cons _ _
  · rw [List.pairwise_flatMap]
    constructor
    · intro i _
      rw [List.pairwise_map]
      exact (List.pairwise_map.mp (placed_pairwise n.children[i.val])).imp fun hlt =>
        List.cons_lt_cons_self.mpr hlt
    · refine (List.pairwise_lt_finRange _).imp fun {i j} hij x hx y hy => ?_
      obtain ⟨x, -, rfl⟩ := List.mem_map.mp hx
      obtain ⟨y, -, rfl⟩ := List.mem_map.mp hy
      exact List.cons_lt_cons_iff.mpr (.inl hij)
termination_by n.weight
decreasing_by exact weight_lt_of_mem (List.getElem_mem i.isLt)

theorem mem_placed {n m : Node} {place : List Nat} :
    (place, m) ∈ n.placed ↔ n.at? place = some m := by
  induction place generalizing n with
  | nil =>
    rw [placed, at?]
    simp [eq_comm]
  | cons i place ih =>
    rw [placed, at?, Option.bind_eq_some_iff]
    simp only [List.mem_cons, Prod.mk.injEq, reduceCtorEq, false_and, false_or, List.mem_flatMap,
      List.mem_finRange, true_and, List.mem_map, Prod.exists, List.cons.injEq]
    constructor
    · rintro ⟨j, place', m', hmem, ⟨rfl, rfl⟩, rfl⟩
      exact ⟨_, List.getElem?_eq_getElem j.isLt, ih.mp hmem⟩
    · rintro ⟨child, hchild, hplace⟩
      obtain ⟨hlt, rfl⟩ := List.getElem?_eq_some_iff.mp hchild
      exact ⟨⟨i, hlt⟩, place, m, ih.mpr hplace, ⟨rfl, rfl⟩, rfl⟩

end Node

/-- The walk yields the nodes of a tree in pre-order, and `descendants` those below its root. It comes to every
place of the tree once, in the order of the places. Whenever a node is on top of the stack, the nodes at and
below it come next, one more than it has descendants, and leave the rest of the stack as it was. -/
theorem walk_yields_listing (n : Node) :
    (n.walk = n.listing ∧ n.descendants = n.listing.tail) ∧
    (∃ placed : List (List Nat × Node), placed.map Prod.snd = n.walk ∧
      (placed.map Prod.fst).Pairwise (· < ·) ∧
      ∀ place m, (place, m) ∈ placed ↔ n.at? place = some m) ∧
    ∀ before m rest, Node.Yields [n] before (m :: rest) →
      Node.Yields (m :: rest) m.listing rest ∧ m.listing.length = 1 + m.descendants.length ∧
        n.walk = before ++ m.listing ++ rest.flatMap Node.listing := by
  have htail : ∀ m : Node, m.listing = m :: m.descendants := fun m => by
    rw [m.descendants_eq, ← m.listing_eq]
  refine ⟨⟨n.walk_eq_listing, by rw [htail n, List.tail_cons]⟩,
    ⟨n.placed, n.placed_map_snd, n.placed_pairwise, fun _ _ => Node.mem_placed⟩, ?_⟩
  intro before m rest hbefore
  have hblock := Node.yields_listings [m] rest
  rw [List.flatMap_singleton, List.singleton_append] at hblock
  refine ⟨hblock, by rw [htail m, List.length_cons, Nat.add_comm], ?_⟩
  calc n.walk = [n].flatMap Node.listing := by rw [List.flatMap_singleton, n.walk_eq_listing]
    _ = before ++ (m :: rest).flatMap Node.listing := hbefore.listings
    _ = before ++ m.listing ++ rest.flatMap Node.listing := by
      rw [List.flatMap_cons, List.append_assoc]

/-- Between two characters, a group with two alternatives. -/
theorem walk_yields_listing_group :
    let first : Element := .char ⟨0, 1⟩ 'a'
    let group : Element := .group ⟨1, 6⟩ (some ⟨1, none⟩)
      [.mk ⟨2, 3⟩ [.char ⟨2, 3⟩ 'b'], .mk ⟨4, 5⟩ [.char ⟨4, 5⟩ 'c']]
    let last : Element := .char ⟨6, 7⟩ 'd'
    let only : Branch := .mk ⟨0, 7⟩ [first, group, last]
    let n : Node := .pattern ⟨⟨0, 7⟩, [only]⟩
    Node.Yields [n] [n, .branch only, .element first] [.element group, .element last] ∧
      Node.Yields [.element group, .element last] group.listing [.element last] ∧
      group.listing.length = 5 ∧ (Node.element group).descendants.length = 4 ∧
      n.walk = [n, .branch only, .element first] ++ group.listing ++ [.element last] := by
  intro first group last only n
  have hbefore : Node.Yields [n] [n, .branch only, .element first]
      [.element group, .element last] := .next rfl (.next rfl (.next rfl (.nothing _)))
  obtain ⟨hblock, hlength, hwalk⟩ := (walk_yields_listing n).2.2 _ _ _ hbefore
  have hfive : (Node.element group).listing.length = 5 := rfl
  exact ⟨hbefore, hblock, hfive, by omega, hwalk⟩

end RegexInsight
