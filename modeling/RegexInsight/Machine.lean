import RegexInsight.Compile

/-! The backtracking machine. One step executes one instruction. Choices that were left and slot
values that were overwritten lie on one trail, so going back to a choice restores the slots on the
way. A run that waits for a lookaround is kept as a whole while the body of the lookaround runs. -/
namespace RegexInsight

abbrev Slots := Array (Option Nat)

inductive TrailEntry where
  | resume (pc pos : Nat)
  | restore (slot : Nat) (old : Option Nat)
deriving DecidableEq, Repr, Inhabited

/-- A run that has met a lookaround at position `pos`. The body was started at position `start`. -/
structure Waiting where
  body : Nat
  behind : Bool
  negate : Bool
  resume : Nat
  pos : Nat
  start : Nat
  slots : Slots
  trail : List TrailEntry
  target : Option Nat

/-- A state of the machine. Inside a lookbehind a match has to end at `target`. -/
structure Config where
  pc : Nat
  pos : Nat
  slots : Slots
  trail : List TrailEntry
  target : Option Nat
  waiting : List Waiting

/-- What a step leads to. A machine is stuck where an instruction, a slot or a character that it
asks for does not exist. -/
inductive Outcome where
  | running (config : Config)
  | matched (stop : Nat) (slots : Slots)
  | failed (slots : Slots)
  | stuck

namespace Config

def unwind (slots : Slots) : List TrailEntry → Slots × Option (Nat × Nat × List TrailEntry)
  | [] => (slots, none)
  | .resume pc pos :: trail => (slots, some (pc, pos, trail))
  | .restore slot old :: trail => unwind (slots.setIfInBounds slot old) trail

/-- Goes on at the last choice of a run. A run without one has failed: a lookbehind then tries the
next earlier start, and the run that waits for a lookaround goes on or fails in turn. -/
def backtrack (slots : Slots) (trail : List TrailEntry) (target : Option Nat)
    (waiting : List Waiting) : Outcome :=
  match unwind slots trail, waiting with
  | (slots, some (pc, pos, trail)), waiting => .running ⟨pc, pos, slots, trail, target, waiting⟩
  | (slots, none), [] => .failed slots
  | (slots, none), w :: waiting =>
    if w.behind && 0 < w.start then
      .running ⟨w.body, w.start - 1, slots, [], some w.pos,
        { w with start := w.start - 1 } :: waiting⟩
    else if w.negate then .running ⟨w.resume, w.pos, w.slots, w.trail, w.target, waiting⟩
    else backtrack w.slots w.trail w.target waiting
termination_by structural waiting

/-- Takes the captures of a lookaround's body over into the run that waited for it, from slot
`i` on. -/
def merge (inner : Slots) : Nat → Nat → Slots → List TrailEntry → Slots × List TrailEntry
  | 0, _, slots, trail => (slots, trail)
  | count + 1, i, slots, trail =>
    let old := slots[i]?.join
    let new := inner[i]?.join
    if old == new then merge inner count (i + 1) slots trail
    else merge inner count (i + 1) (slots.setIfInBounds i new) (.restore i old :: trail)

def succeed (pos : Nat) (slots : Slots) : List Waiting → Outcome
  | [] => .matched pos slots
  | w :: waiting =>
    if w.negate then backtrack w.slots w.trail w.target waiting
    else
      let (merged, trail) := merge slots (slots.size - 2) 2 w.slots w.trail
      .running ⟨w.resume, w.pos, merged, trail, w.target, waiting⟩

def sameText? (mode : Mode) (text : Array Char) : Nat → Nat → Nat → Option Bool
  | 0, _, _ => some true
  | length + 1, a, b =>
    match text[a]?, text[b]? with
    | some x, some y =>
      if mode.sameChar x y then sameText? mode text length (a + 1) (b + 1) else some false
    | _, _ => none

def atWordBoundary? (text : Array Char) (pos : Nat) : Option Bool :=
  let after := text[pos]?.any isWordChar
  if pos = 0 then some after
  else text[pos - 1]?.map fun before => isWordChar before != after

def atLineStart? (mode : Mode) (text : Array Char) (pos : Nat) : Option Bool :=
  if pos = 0 then some true
  else if mode.multiline then text[pos - 1]?.map isLineTerminator
  else some false

def atLineEnd? (mode : Mode) (text : Array Char) (pos : Nat) : Option Bool :=
  if pos = text.size then some true
  else if mode.multiline then text[pos]?.map isLineTerminator
  else some false

/-- How many characters a reference to a group consumes: none while the group is not set. `none`
stands for a mismatch, and the outer `none` for a slot or character that does not exist. -/
def referenceLength? (mode : Mode) (text : Array Char) (slots : Slots) (group pos : Nat) :
    Option (Option Nat) :=
  match slots[group * 2]?, slots[group * 2 + 1]? with
  | some (some start), some (some stop) =>
    if stop < start then some (some 0)
    else if text.size < pos + (stop - start) then some none
    else (sameText? mode text (stop - start) start pos).map fun same =>
      if same then some (stop - start) else none
  | some _, some _ => some (some 0)
  | _, _ => none

def continueIf (test : Option Bool) (c : Config) : Outcome :=
  match c, test with
  | ⟨pc, pos, slots, trail, target, waiting⟩, some true =>
    .running ⟨pc + 1, pos, slots, trail, target, waiting⟩
  | ⟨_, _, slots, trail, target, waiting⟩, some false => backtrack slots trail target waiting
  | _, none => .stuck

def consumeIf (test : Char → Bool) (text : Array Char) (c : Config) : Outcome :=
  match c with
  | ⟨pc, pos, slots, trail, target, waiting⟩ =>
    if text[pos]?.any test then .running ⟨pc + 1, pos + 1, slots, trail, target, waiting⟩
    else backtrack slots trail target waiting

def step (program : Program) (mode : Mode) (text : Array Char) (c : Config) : Outcome :=
  match program.insts[c.pc]? with
  | none => .stuck
  | some (.char value) => c.consumeIf (mode.sameChar · value) text
  | some (.set test negate) => c.consumeIf (fun x => test.holds mode x != negate) text
  | some (.bracket items negate) => c.consumeIf (fun x => mode.anyItem items x != negate) text
  | some .assertStart => c.continueIf (atLineStart? mode text c.pos)
  | some .assertEnd => c.continueIf (atLineEnd? mode text c.pos)
  | some (.wordBoundary negate) =>
    c.continueIf ((atWordBoundary? text c.pos).map (· != negate))
  | some (.checkProgress slot) => c.continueIf (c.slots[slot]?.map (· != some c.pos))
  | some inst =>
    match c with
    | ⟨pc, pos, slots, trail, target, waiting⟩ =>
      match inst with
      | .accept =>
        if target.all (· == pos) then succeed pos slots waiting
        else backtrack slots trail target waiting
      | .jump next => .running ⟨next, pos, slots, trail, target, waiting⟩
      | .split first second =>
        .running ⟨first, pos, slots, .resume second pos :: trail, target, waiting⟩
      | .save slot =>
        match slots[slot]? with
        | none => .stuck
        | some old =>
          .running ⟨pc + 1, pos, slots.setIfInBounds slot (some pos), .restore slot old :: trail,
            target, waiting⟩
      | .clear slot =>
        match slots[slot]? with
        | none => .stuck
        | some none => .running ⟨pc + 1, pos, slots, trail, target, waiting⟩
        | some old =>
          .running ⟨pc + 1, pos, slots.setIfInBounds slot none, .restore slot old :: trail, target,
            waiting⟩
      | .backreference group =>
        match referenceLength? mode text slots group pos with
        | none => .stuck
        | some none => backtrack slots trail target waiting
        | some (some length) => .running ⟨pc + 1, pos + length, slots, trail, target, waiting⟩
      | .look behind negate resume =>
        .running ⟨pc + 1, pos, slots, [], if behind then some pos else none,
          ⟨pc + 1, behind, negate, resume, pos, pos, slots, trail, target⟩ :: waiting⟩
      | _ => .stuck

end Config

inductive RunError where
  | stepLimit
  | stuck
deriving DecidableEq, Repr, Inhabited

structure Machine where
  program : Program
  mode : Mode
  text : Array Char
  limit : Nat

namespace Machine

def run (m : Machine) : Nat → Config → Except RunError (Option (Nat × Slots))
  | 0, _ => .error .stepLimit
  | budget + 1, c =>
    match c.step m.program m.mode m.text with
    | .running c => run m budget c
    | .matched stop slots => .ok (some (stop, slots))
    | .failed _ => .ok none
    | .stuck => .error .stuck

def initial (m : Machine) (start : Nat) : Config :=
  ⟨0, start, (Array.replicate m.program.slotCount none).setIfInBounds 0 (some start), [], none, []⟩

def matchAt (m : Machine) (start : Nat) : Except RunError (Option Slots) :=
  match m.run m.limit (m.initial start) with
  | .error e => .error e
  | .ok none => .ok none
  | .ok (some (stop, slots)) =>
    .ok (some ((slots.setIfInBounds 1 (some stop)).extract 0 ((m.program.groupCount + 1) * 2)))

def scan (m : Machine) : Nat → Nat → Except RunError (Option Slots)
  | 0, _ => .ok none
  | count + 1, start =>
    match m.matchAt start with
    | .ok none => scan m count (start + 1)
    | result => result

def search (m : Machine) (start : Nat) (sticky : Bool) : Except RunError (Option Slots) :=
  if m.program.anchored then
    if 0 < start then .ok none else m.matchAt start
  else if sticky then m.matchAt start
  else m.scan (m.text.size + 1 - start) start

end Machine
end RegexInsight
