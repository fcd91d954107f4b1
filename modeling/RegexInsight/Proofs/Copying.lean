import Mathlib.Logic.Function.Iterate
import Mathlib.Tactic.SplitIfs
import RegexInsight.Machine

/-! A machine that copies the slots for each choice that it leaves, and again for each lookaround. It needs no
log of what was overwritten: to go back to a choice is to take its copy. -/
namespace RegexInsight
namespace Copying

/-- A choice that was left, with a copy of the slots. -/
structure Choice where
  pc : Nat
  pos : Nat
  slots : Slots

/-- A run: its slots, the choices that it has left, the last one first, and the slots that it began with. -/
structure Run where
  slots : Slots
  choices : List Choice
  entry : Slots
  target : Option Nat

/-- A run that has met a lookaround. -/
structure Waiting where
  body : Nat
  behind : Bool
  negate : Bool
  resume : Nat
  pos : Nat
  start : Nat
  run : Run

structure State where
  pc : Nat
  pos : Nat
  run : Run
  waiting : List Waiting

inductive Outcome where
  | running (state : State)
  | matched (stop : Nat) (slots : Slots)
  | failed (slots : Slots)
  | stuck

def Run.begin (slots : Slots) (target : Option Nat) : Run := ⟨slots, [], slots, target⟩

/-- Goes on at the last choice of a run, with the slots that were copied for it. A run that has no choice left
leaves the slots that it began with. -/
def back (run : Run) (waiting : List Waiting) : Outcome :=
  match run.choices, waiting with
  | choice :: choices, waiting =>
    .running ⟨choice.pc, choice.pos, { run with slots := choice.slots, choices }, waiting⟩
  | [], [] => .failed run.entry
  | [], w :: waiting =>
    if w.behind && 0 < w.start then
      .running ⟨w.body, w.start - 1, .begin run.entry (some w.pos),
        { w with start := w.start - 1 } :: waiting⟩
    else if w.negate then .running ⟨w.resume, w.pos, w.run, waiting⟩
    else back w.run waiting
termination_by structural waiting

section
variable {run : Run} {waiting : List Waiting} {w : Waiting} {choice : Choice} {choices : List Choice}

theorem back_choice (h : run.choices = choice :: choices) : back run waiting =
    .running ⟨choice.pc, choice.pos, { run with slots := choice.slots, choices }, waiting⟩ := by
  unfold back
  rw [h]

theorem back_failed (h : run.choices = []) : back run [] = .failed run.entry := by
  unfold back
  rw [h]

theorem back_waiting (h : run.choices = []) : back run (w :: waiting) =
    if w.behind && 0 < w.start then
      .running ⟨w.body, w.start - 1, .begin run.entry (some w.pos),
        { w with start := w.start - 1 } :: waiting⟩
    else if w.negate then .running ⟨w.resume, w.pos, w.run, waiting⟩
    else back w.run waiting := by
  cases run
  cases h
  rfl

end

/-- The slots with the captures of `inner`. -/
def capturing (slots inner : Slots) : Slots :=
  slots.mapIdx fun i old => if i < 2 then old else inner[i]?.getD old

def succeed (pos : Nat) (slots : Slots) : List Waiting → Outcome
  | [] => .matched pos slots
  | w :: waiting =>
    if w.negate then back w.run waiting
    else .running ⟨w.resume, w.pos, { w.run with slots := capturing w.run.slots slots }, waiting⟩

/-- What an instruction asks for. -/
inductive Action where
  | go (pc pos : Nat)
  | fail
  | choose (first second : Nat)
  | write (slot : Nat) (value : Option Nat)
  | look (behind negate : Bool) (resume : Nat)
  | accept
  | stuck

namespace Action

def check (test : Option Bool) (pc pos : Nat) : Action :=
  match test with
  | some true => .go (pc + 1) pos
  | some false => .fail
  | none => .stuck

def consume (test : Char → Bool) (text : Array Char) (pc pos : Nat) : Action :=
  if text[pos]?.any test then .go (pc + 1) (pos + 1) else .fail

def set (slots : Slots) (slot : Nat) (value : Option Nat) : Action :=
  if slot < slots.size then .write slot value else .stuck

section
variable {slots : Slots} {slot : Nat} {old value : Option Nat}

theorem set_of_none (h : slots[slot]? = none) : set slots slot value = .stuck :=
  if_neg (Nat.not_lt.mpr (Array.getElem?_eq_none_iff.mp h))

theorem set_of_some (h : slots[slot]? = some old) : set slots slot value = .write slot value :=
  if_pos (Array.getElem?_eq_some_iff.mp h).1

end

/-- What an instruction asks for at `pos`. -/
def ofInst (mode : Mode) (text : Array Char) (pc pos : Nat) (slots : Slots) (target : Option Nat) :
    Inst → Action
  | .char value => consume (mode.sameChar · value) text pc pos
  | .set test negate => consume (fun x => test.holds mode x != negate) text pc pos
  | .bracket items negate => consume (fun x => mode.anyItem items x != negate) text pc pos
  | .accept => if target.all (· == pos) then .accept else .fail
  | .jump next => .go next pos
  | .split first second => .choose first second
  | .save slot => set slots slot (some pos)
  | .clear slot => set slots slot none
  | .checkProgress slot => check (slots[slot]?.map (· != some pos)) pc pos
  | .assertStart => check (Config.atLineStart? mode text pos) pc pos
  | .assertEnd => check (Config.atLineEnd? mode text pos) pc pos
  | .wordBoundary negate => check ((Config.atWordBoundary? text pos).map (· != negate)) pc pos
  | .backreference group =>
    match Config.referenceLength? mode text slots group pos with
    | none => .stuck
    | some none => .fail
    | some (some length) => .go (pc + 1) (pos + length)
  | .look behind negate resume => .look behind negate resume

end Action

namespace State

def act (s : State) : Action → Outcome
  | .go pc pos => .running { s with pc, pos }
  | .fail => back s.run s.waiting
  | .choose first second =>
    .running ⟨first, s.pos,
      { s.run with choices := ⟨second, s.pos, s.run.slots⟩ :: s.run.choices }, s.waiting⟩
  | .write slot value =>
    .running ⟨s.pc + 1, s.pos, { s.run with slots := s.run.slots.setIfInBounds slot value },
      s.waiting⟩
  | .look behind negate resume =>
    .running ⟨s.pc + 1, s.pos, .begin s.run.slots (if behind then some s.pos else none),
      ⟨s.pc + 1, behind, negate, resume, s.pos, s.pos, s.run⟩ :: s.waiting⟩
  | .accept => succeed s.pos s.run.slots s.waiting
  | .stuck => .stuck

def step (program : Program) (mode : Mode) (text : Array Char) (s : State) : Outcome :=
  match program.insts[s.pc]? with
  | none => .stuck
  | some inst => s.act (.ofInst mode text s.pc s.pos s.run.slots s.run.target inst)

end State

/-- The next outcome. A run that has ended stays where it is. -/
def next (m : Machine) : Outcome → Outcome
  | .running s => s.step m.program m.mode m.text
  | o => o

/-- The slots that the runs began with, the innermost first. -/
def entries (run : Run) (waiting : List Waiting) : List Slots :=
  run.entry :: waiting.map (·.run.entry)

def callers (slots : Slots) (waiting : List Waiting) : List Slots :=
  waiting.map (·.run.slots) ++ [slots]

/-- Each run began with the slots of the one that waits for it, and the outermost with `slots`. A call that has
failed has left them as they were. -/
def Outcome.Entered (slots : Slots) : Outcome → Prop
  | .running s => entries s.run s.waiting = callers slots s.waiting
  | .failed slots' => slots' = slots
  | _ => True

section
variable {program : Program} {mode : Mode} {text : Array Char} {m : Machine} {slots : Slots} {run : Run}
  {waiting : List Waiting} {s : State} {o : Outcome}

theorem back_entered (h : entries run waiting = callers slots waiting) :
    (back run waiting).Entered slots := by
  induction waiting generalizing run with
  | nil =>
    cases hchoices : run.choices with
    | nil =>
      rw [back_failed hchoices]
      exact (List.cons.inj h).1
    | cons choice choices =>
      rw [back_choice hchoices]
      exact h
  | cons w waiting ih =>
    cases hchoices : run.choices with
    | nil =>
      have houter : entries w.run waiting = callers slots waiting := (List.cons.inj h).2
      rw [back_waiting hchoices]
      split_ifs
      · exact h
      · exact houter
      · exact ih houter
    | cons choice choices =>
      rw [back_choice hchoices]
      exact h

theorem succeed_entered {pos : Nat} {inner : Slots}
    (h : entries run waiting = callers slots waiting) : (succeed pos inner waiting).Entered slots := by
  cases waiting with
  | nil => exact trivial
  | cons w waiting =>
    have houter : entries w.run waiting = callers slots waiting := (List.cons.inj h).2
    rw [succeed]
    split_ifs
    · exact back_entered houter
    · exact houter

/-- Only the slots of the innermost run are written, and those of a run that waits only when it goes on. -/
theorem act_entered (h : entries s.run s.waiting = callers slots s.waiting) (action : Action) :
    (s.act action).Entered slots := by
  cases action with
  | go | choose | write => exact h
  | fail => exact back_entered h
  | look => exact congrArg (s.run.slots :: ·) h
  | accept => exact succeed_entered h
  | stuck => exact trivial

theorem next_entered (h : o.Entered slots) : (next m o).Entered slots := by
  cases o with
  | running s =>
    rw [next, State.step]
    split
    · exact trivial
    · exact act_entered h _
  | matched | failed | stuck => exact h

theorem iterate_entered (h : o.Entered slots) (steps : Nat) :
    ((next m)^[steps] o).Entered slots := by
  induction steps generalizing o with
  | zero => exact h
  | succ steps ih => exact ih (next_entered h)

end
end Copying
end RegexInsight
