import RegexInsight.CharTest
import RegexInsight.Parser
import RegexInsight.Walk

/-! The instructions of the matcher, and the way to them from a tree. Counted repetition is unrolled. The
size of a program is known from its tree, so what can be wrong with a tree is found before any
instruction is written. An emitter that finds it on the way writes the same program. -/
namespace RegexInsight

inductive Inst where
  | char (value : Char)
  | set (test : CharTest) (negate : Bool)
  | bracket (items : List ClassItem) (negate : Bool)
  /-- The end of the program, or of the body of a lookaround. -/
  | accept
  | jump (pc : Nat)
  /-- Goes on at `first`, and at `second` should that fail. -/
  | split (first second : Nat)
  | save (slot : Nat)
  | clear (slot : Nat)
  /-- Fails where the position is the one in the slot. -/
  | checkProgress (slot : Nat)
  | assertStart
  | assertEnd
  | wordBoundary (negate : Bool)
  | backreference (group : Nat)
  /-- Runs the body, which follows directly and ends with `accept`, and goes on at `resume`. -/
  | look (behind negate : Bool) (resume : Nat)
deriving DecidableEq, Repr, Inhabited

/-- The slots are two for each group, the whole match being group 0, and then one for each loop. -/
structure Program where
  insts : Array Inst
  groupCount : Nat
  slotCount : Nat
  anchored : Bool

def maxProgramLength : Nat := 200000

/-- What can be wrong with a tree, and the byte at which the element in question starts. -/
inductive CompileError where
  | tooLarge
  | unknownProperty (byte : Nat)
  | unknownName (byte : Nat)
deriving DecidableEq, Repr, Inhabited

def captureSlots (e : Element) : List Nat :=
  (Node.element e).walk.flatMap fun
    | .element (.group _ (some capture) _) => [capture.index * 2, capture.index * 2 + 1]
    | _ => []

def Reference.group? (names : List (Option String)) : Reference → Option Nat
  | .index n => some n
  | .name s => (names.idxOf? (some s)).map (· + 1)

/-- The instructions that a repetition takes around the copies of its element: `clears` before each
copy, one split before each copy that is optional, and four for a loop. -/
def repeatedSize (min : Nat) (max : Option Nat) (clears size : Nat) : Nat :=
  min * (clears + size) +
    match max with
    | none => clears + size + 4
    | some max => (max - min) * (clears + size + 1)

mutual

def Element.size : Element → Nat
  | .char .. | .set .. | .bracket .. | .anchor .. | .backreference .. => 1
  | .group _ none branches => branchesSize branches
  | .group _ (some _) branches | .look _ _ _ branches => branchesSize branches + 2
  | .quantifier _ min max _ inner =>
    if max = some 0 then 0 else repeatedSize min max (captureSlots inner).length inner.size

def Branch.size : Branch → Nat
  | .mk _ elements => elementsSize elements

def elementsSize : List Element → Nat
  | [] => 0
  | e :: es => e.size + elementsSize es

/-- Each alternative but the last has a split before it and a jump after it. -/
def branchesSize : List Branch → Nat
  | [] => 0
  | [b] => b.size
  | b :: bs => b.size + 2 + branchesSize bs

end

def fitting (length : Nat) : Except CompileError Nat :=
  if length ≤ maxProgramLength then .ok length else .error .tooLarge

mutual

/-- The length of a program after an element that follows `n` instructions, or the first thing that
is wrong on the way there. Of repeated copies the first one tells all. -/
def Element.check (names : List (Option String)) : Element → Nat → Except CompileError Nat
  | .char .., n | .anchor .., n => fitting (n + 1)
  | .set span s, n =>
    if (CharTest.ofKind? s.kind).isNone then .error (.unknownProperty span.start)
    else fitting (n + 1)
  | .bracket _ _ members, n =>
    match members.find? fun m => (ClassItem.ofKind? m.kind).isNone with
    | some m => .error (.unknownProperty m.span.start)
    | none => fitting (n + 1)
  | .backreference span target, n =>
    if (target.group? names).isNone then .error (.unknownName span.start) else fitting (n + 1)
  | .group _ none branches, n => branchesCheck names branches n
  | .group _ (some _) branches, n | .look _ _ _ branches, n =>
    match fitting (n + 1) with
    | .error e => .error e
    | .ok n => match branchesCheck names branches n with
      | .error e => .error e
      | .ok n => fitting (n + 1)
  | .quantifier _ min max _ inner, n =>
    if max = some 0 then .ok n
    else
      let clears := (captureSlots inner).length
      let lead := if min = 0 then (if max.isNone then 2 else 1) else 0
      match fitting (n + lead + clears) with
      | .error e => .error e
      | .ok start => match inner.check names start with
        | .error e => .error e
        | .ok stop => fitting (n + repeatedSize min max clears (stop - start))

def Branch.check (names : List (Option String)) : Branch → Nat → Except CompileError Nat
  | .mk _ elements, n => elementsCheck names elements n

def elementsCheck (names : List (Option String)) : List Element → Nat → Except CompileError Nat
  | [], n => .ok n
  | e :: es, n => match e.check names n with
    | .error e => .error e
    | .ok n => elementsCheck names es n

def branchesCheck (names : List (Option String)) : List Branch → Nat → Except CompileError Nat
  | [], n => .ok n
  | [b], n => b.check names n
  | b :: bs, n => match fitting (n + 1) with
    | .error e => .error e
    | .ok n => match b.check names n with
      | .error e => .error e
      | .ok n => match fitting (n + 1) with
        | .error e => .error e
        | .ok n => branchesCheck names bs n

end

structure Code where
  insts : Array Inst
  slots : Nat

namespace Code

def pc (code : Code) : Nat := code.insts.size

def push (inst : Inst) (code : Code) : Code := { code with insts := code.insts.push inst }

/-- A split that goes into what follows first if it is greedy, and to `exit` first if it is lazy. -/
def pushSplit (greedy : Bool) (exit : Nat) (code : Code) : Code :=
  code.push (if greedy then .split (code.pc + 1) exit else .split exit (code.pc + 1))

def pushClears (slots : List Nat) (code : Code) : Code :=
  slots.foldl (fun code slot => code.push (.clear slot)) code

def repeated (greedy : Bool) (min : Nat) (max : Option Nat) (size : Nat) (copy : Code → Code)
    (code : Code) : Code :=
  let code := Nat.repeat copy (if size = 0 then 0 else min) code
  match max with
  | some max =>
    Nat.repeat (fun code => copy (code.pushSplit greedy (code.pc + 1 + size))) (max - min) code
  | none =>
    let head := code.pc
    let slot := code.slots
    let entered := (code.pushSplit greedy (head + size + 4)).push (.save slot)
    let looped := copy { entered with slots := slot + 1 }
    (looped.push (.checkProgress slot)).push (.jump head)

end Code

mutual

def Element.emit (names : List (Option String)) : Element → Code → Code
  | .char _ value, code => code.push (.char value)
  | .set _ s, code => code.push (.set ((CharTest.ofKind? s.kind).getD .dot) s.negate)
  | .bracket _ negate members, code =>
    code.push (.bracket (members.filterMap fun m => ClassItem.ofKind? m.kind) negate)
  | .anchor _ .start, code => code.push .assertStart
  | .anchor _ .stop, code => code.push .assertEnd
  | .anchor _ .wordBoundary, code => code.push (.wordBoundary false)
  | .anchor _ .nonWordBoundary, code => code.push (.wordBoundary true)
  | .backreference _ target, code => code.push (.backreference ((target.group? names).getD 0))
  | .group _ none branches, code =>
    branchesEmit names (code.pc + branchesSize branches) branches code
  | .group _ (some capture) branches, code =>
    let opened := code.push (.save (capture.index * 2))
    (branchesEmit names (opened.pc + branchesSize branches) branches opened).push
      (.save (capture.index * 2 + 1))
  | .look _ direction negate branches, code =>
    let stop := code.pc + 1 + branchesSize branches
    (branchesEmit names stop branches
      (code.push (.look (direction == .behind) negate (stop + 1)))).push .accept
  | .quantifier _ min max greedy inner, code =>
    if max = some 0 then code
    else
      let slots := captureSlots inner
      code.repeated greedy min max (slots.length + inner.size)
        fun code => inner.emit names (code.pushClears slots)

def Branch.emit (names : List (Option String)) : Branch → Code → Code
  | .mk _ elements, code => elementsEmit names elements code

def elementsEmit (names : List (Option String)) : List Element → Code → Code
  | [], code => code
  | e :: es, code => elementsEmit names es (e.emit names code)

/-- Writes alternatives that end before the instruction `stop`. -/
def branchesEmit (names : List (Option String)) (stop : Nat) : List Branch → Code → Code
  | [], code => code
  | [b], code => b.emit names code
  | b :: bs, code =>
    branchesEmit names stop bs
      ((b.emit names (code.pushSplit true (code.pc + b.size + 2))).push (.jump stop))

end

def Branch.startsAnchored (b : Branch) : Bool := b.elements.head?.any Element.isStartAnchor

def compile (multiline : Bool) (tree : PatternTree) : Except CompileError Program :=
  let branches := tree.pattern.branches
  let groupCount := tree.names.length
  match branchesCheck tree.names branches 0 with
  | .error e => .error e
  | .ok n => match fitting (n + 1) with
    | .error e => .error e
    | .ok _ =>
      let code := (branchesEmit tree.names (branchesSize branches) branches
        ⟨#[], (groupCount + 1) * 2⟩).push .accept
      .ok ⟨code.insts, groupCount, code.slots, !multiline && branches.all Branch.startsAnchored⟩

end RegexInsight
