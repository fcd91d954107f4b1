import Mathlib.Logic.Function.Basic
import RegexInsight.Machine
import RegexInsight.Proofs.Preorder

/-! What a tree matches, said without a program. An element that is met at some point of an attempt
has a list of outcomes, the points at which the rest may go on, the one to be tried first in front.
A pattern matches where its list is not empty, and the first outcome is its match. -/
namespace RegexInsight

/-- A point of an attempt: the position, and the spans of the groups that are set. -/
structure Point where
  pos : Nat
  groups : Nat → Option (Nat × Nat)

namespace Point

def start (pos : Nat) : Point := ⟨pos, fun _ => none⟩

def setGroup (i : Nat) (span : Option (Nat × Nat)) (p : Point) : Point :=
  { p with groups := Function.update p.groups i span }

def forget (captures : List Capture) (p : Point) : Point :=
  { p with groups := fun i => if i ∈ captures.map Capture.index then none else p.groups i }

/-- The slots of a match that began at `start`: two for the whole match, and two for each group. -/
def slots (start count : Nat) (p : Point) : Slots :=
  ((some (start, p.pos) :: (List.range count).map fun i => p.groups (i + 1)).flatMap fun span =>
    [span.map Prod.fst, span.map Prod.snd]).toArray

end Point

/-- What a tree is matched under: the mode, the text, and the names of its groups. -/
structure Attempt where
  mode : Mode
  text : Array Char
  names : List (Option String)

namespace Attempt

def consume (a : Attempt) (test : Char → Bool) (p : Point) : List Point :=
  if a.text[p.pos]?.any test then [{ p with pos := p.pos + 1 }] else []

def inSet (a : Attempt) (s : CharSet) (c : Char) : Bool :=
  (CharTest.ofKind? s.kind).any fun test => test.holds a.mode c != s.negate

def inBracket (a : Attempt) (negate : Bool) (members : List ClassMember) (c : Char) : Bool :=
  a.mode.anyItem (members.filterMap fun m => ClassItem.ofKind? m.kind) c != negate

def wordBefore (a : Attempt) (pos : Nat) : Bool := pos != 0 && a.text[pos - 1]?.any isWordChar

def wordAfter (a : Attempt) (pos : Nat) : Bool := a.text[pos]?.any isWordChar

/-- Whether the position is one that the anchor asks for. -/
def holdsAt (a : Attempt) (pos : Nat) : Anchor → Bool
  | .start => pos == 0 || (a.mode.multiline && a.text[pos - 1]?.any isLineTerminator)
  | .stop => pos == a.text.size || (a.mode.multiline && a.text[pos]?.any isLineTerminator)
  | .wordBoundary => a.wordBefore pos != a.wordAfter pos
  | .nonWordBoundary => a.wordBefore pos == a.wordAfter pos

/-- Whether the text has the same `length` characters at `i` and at `j`. -/
def sameText (a : Attempt) (length i j : Nat) : Bool :=
  (List.range length).all fun n => match a.text[i + n]?, a.text[j + n]? with
    | some x, some y => a.mode.sameChar x y
    | _, _ => false

/-- A reference to a group that is not set matches the empty text. -/
def refer (a : Attempt) (target : Reference) (p : Point) : List Point :=
  match (target.group? a.names).bind p.groups with
  | none => [p]
  | some (first, stop) =>
    if a.sameText (stop - first) first p.pos then [{ p with pos := p.pos + (stop - first) }] else []

end Attempt

/-- `count` iterations one after the other. -/
def times (body : Point → List Point) : Nat → Point → List Point
  | 0, p => [p]
  | count + 1, p => (body p).flatMap (times body count)

/-- Going on from the `taken` outcomes or from `p` itself, which comes last if greedy and else
first. -/
def prefer (greedy : Bool) (taken : List Point) (p : Point) : List Point :=
  if greedy then taken ++ [p] else p :: taken

/-- At most `count` iterations, each of which has to consume something. -/
def star (greedy : Bool) (body : Point → List Point) : Nat → Point → List Point
  | 0, p => [p]
  | count + 1, p =>
    prefer greedy (((body p).filter fun q => q.pos != p.pos).flatMap (star greedy body count)) p

/-- The iterations of a quantifier: `min` of them, and then a star, or one optional iteration after
the other up to `max`. As many iterations as the text has characters left are enough for a star. -/
def iterations (size min : Nat) (max : Option Nat) (greedy : Bool) (body : Point → List Point)
    (p : Point) : List Point :=
  match max with
  | none => (times body min p).flatMap fun q => star greedy body (size - q.pos) q
  | some max =>
    (times body min p).flatMap (times (fun q => prefer greedy (body q) q) (max - min))

/-- The first body that is found from position `start` on, or else from an earlier one. -/
def behind (body : Nat → Option Point) : Nat → Option Point
  | 0 => body 0
  | start + 1 => (body (start + 1)).or (behind body start)

/-- A lookaround consumes nothing, and what a body that was looked for has captured is kept. -/
def look (negate : Bool) (found : Option Point) (p : Point) : List Point :=
  match found with
  | some q => if negate then [] else [{ p with groups := q.groups }]
  | none => if negate then [p] else []

mutual

/-- The outcomes of an element. A group counts as unset while it is open, and an iteration begins
with the groups of its element unset. -/
def Element.outcomes (a : Attempt) : Element → Point → List Point
  | .char _ value, p => a.consume (a.mode.sameChar · value) p
  | .set _ s, p => a.consume (a.inSet s) p
  | .bracket _ negate members, p => a.consume (a.inBracket negate members) p
  | .anchor _ anchor, p => if a.holdsAt p.pos anchor then [p] else []
  | .backreference _ target, p => a.refer target p
  | .group _ none branches, p => branchesOutcomes a branches p
  | .group _ (some capture) branches, p =>
    (branchesOutcomes a branches (p.setGroup capture.index none)).map fun q =>
      q.setGroup capture.index (some (p.pos, q.pos))
  | .look _ .ahead negate branches, p => look negate (branchesOutcomes a branches p).head? p
  | .look _ .behind negate branches, p =>
    look negate (behind (fun start =>
      (branchesOutcomes a branches { p with pos := start }).find? fun q => q.pos == p.pos) p.pos) p
  | .quantifier _ min max greedy inner, p =>
    iterations a.text.size min max greedy (fun q => inner.outcomes a (q.forget inner.captures)) p

def Branch.outcomes (a : Attempt) : Branch → Point → List Point
  | .mk _ elements, p => elementsOutcomes a elements p

def elementsOutcomes (a : Attempt) : List Element → Point → List Point
  | [], p => [p]
  | e :: es, p => (e.outcomes a p).flatMap (elementsOutcomes a es)

def branchesOutcomes (a : Attempt) : List Branch → Point → List Point
  | [], _ => []
  | b :: bs, p => b.outcomes a p ++ branchesOutcomes a bs p

end

/-- The slots of the match at `start`, if there is one. -/
def PatternTree.firstMatch (tree : PatternTree) (mode : Mode) (text : Array Char) (start : Nat) :
    Option Slots :=
  (branchesOutcomes ⟨mode, text, tree.names⟩ tree.pattern.branches (.start start)).head?.map
    (·.slots start tree.names.length)

theorem mem_prefer {greedy : Bool} {taken : List Point} {p q : Point} :
    q ∈ prefer greedy taken p ↔ q ∈ taken ∨ q = p := by
  cases greedy <;> simp [prefer, or_comm]

theorem times_succ (body : Point → List Point) (count : Nat) (p : Point) :
    times body (count + 1) p = (times body count p).flatMap body := by
  induction count generalizing p with
  | zero => simp [times]
  | succ count ih =>
    rw [times, times, List.flatMap_assoc]
    congr 1
    funext q
    exact ih q

end RegexInsight
