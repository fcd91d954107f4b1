import RegexInsight.Proofs.Copying
import RegexInsight.Proofs.SearchAnswers

/-! What going back restores. A run keeps one array of slots and logs the values that it overwrites, and each
choice that it leaves is marked with the length of the log. A machine that copies the slots for each choice
needs no log. Step by step the two come to the same state. So whatever was written in between, going back to a
choice is going back to the slots of the moment at which it was left, and a run that fails leaves the slots as
it found them. -/
namespace RegexInsight

/-- What overwrote slots, the last write first: each slot and what it held before. -/
abbrev WriteLog := List (Nat × Option Nat)

namespace WriteLog

/-- Takes back the last writes, until `length` of them are left. -/
def rollBack (log : WriteLog) (length : Nat) (slots : Slots) : Slots :=
  (log.take (log.length - length)).foldl (fun slots (slot, old) => slots.setIfInBounds slot old) slots

variable {log : WriteLog} {length slot : Nat} {old : Option Nat} {slots : Slots}

@[simp] theorem rollBack_length : rollBack log log.length slots = slots := by
  simp [rollBack]

theorem rollBack_cons (h : length ≤ log.length) :
    rollBack ((slot, old) :: log) length slots = rollBack log length (slots.setIfInBounds slot old) := by
  rw [rollBack, List.length_cons, Nat.succ_sub h, List.take_succ_cons, List.foldl_cons, rollBack]

end WriteLog

namespace Trail

/-- A choice that was left, and how long the log was then. -/
structure Mark where
  pc : Nat
  pos : Nat
  length : Nat

/-- The log that a trail keeps. -/
def log : List TrailEntry → WriteLog
  | [] => []
  | .resume _ _ :: trail => log trail
  | .restore slot old :: trail => (slot, old) :: log trail

/-- The choices that a trail keeps, the last one first. -/
def marks : List TrailEntry → List Mark
  | [] => []
  | .resume pc pos :: trail => ⟨pc, pos, (log trail).length⟩ :: marks trail
  | .restore _ _ :: trail => marks trail

theorem length_le_of_mem {trail : List TrailEntry} {mark : Mark} (h : mark ∈ marks trail) :
    mark.length ≤ (log trail).length := by
  induction trail with
  | nil => cases h
  | cons entry trail ih =>
    cases entry with
    | resume pc pos =>
      rcases List.mem_cons.mp h with rfl | h
      · exact Nat.le_refl _
      · exact ih h
    | restore slot old => exact Nat.le_succ_of_le (ih h)

end Trail

def Machine.next (m : Machine) : Outcome → Outcome
  | .running c => c.step m.program m.mode m.text
  | o => o

/-! What the copies would be. -/
namespace Config

open Trail

variable {program : Program} {mode : Mode} {text : Array Char} {slots inner : Slots}
  {trail : List TrailEntry} {target : Option Nat} {slot pc pos : Nat} {old value : Option Nat}

/-- The choices of a trail, each with the slots when the log is rolled back to where it was left. -/
def choices (slots : Slots) (trail : List TrailEntry) : List Copying.Choice :=
  (marks trail).map fun mark => ⟨mark.pc, mark.pos, (log trail).rollBack mark.length slots⟩

/-- The slots when the whole log is rolled back. -/
def entry (slots : Slots) (trail : List TrailEntry) : Slots := (log trail).rollBack 0 slots

def runOf (slots : Slots) (trail : List TrailEntry) (target : Option Nat) : Copying.Run :=
  ⟨slots, choices slots trail, entry slots trail, target⟩

@[simp] theorem choices_resume : choices slots (.resume pc pos :: trail) =
    ⟨pc, pos, slots⟩ :: choices slots trail := by
  simp [choices, marks, log]

@[simp] theorem choices_restore : choices slots (.restore slot old :: trail) =
    choices (slots.setIfInBounds slot old) trail := by
  apply List.map_congr_left
  intro mark hmark
  have hlength : mark.length ≤ (log trail).length := length_le_of_mem hmark
  rw [log, WriteLog.rollBack_cons hlength]

@[simp] theorem entry_resume : entry slots (.resume pc pos :: trail) = entry slots trail := rfl

@[simp] theorem entry_restore : entry slots (.restore slot old :: trail) =
    entry (slots.setIfInBounds slot old) trail := by
  rw [entry, log, WriteLog.rollBack_cons (Nat.zero_le _), entry]

theorem setIfInBounds_self : slots.setIfInBounds slot slots[slot]?.join = slots := by
  cases h : slots[slot]? with
  | none => rw [Array.setIfInBounds_eq_of_size_le (Array.getElem?_eq_none_iff.mp h)]
  | some old => exact setIfInBounds_same h

/-- A write that is logged leaves it as it is where going back leads to. -/
theorem runOf_write (h : slots[slot]?.join = old) :
    runOf (slots.setIfInBounds slot value) (.restore slot old :: trail) target =
      { runOf slots trail target with slots := slots.setIfInBounds slot value } := by
  simp only [runOf, choices_restore, entry_restore, Array.setIfInBounds_setIfInBounds, ← h,
    setIfInBounds_self]

/-- Going back on the trail is going back to the slots of the last choice, or to those of the entry. -/
theorem unwind_cases (slots : Slots) (trail : List TrailEntry) :
    (choices slots trail = [] ∧ unwind slots trail = (entry slots trail, none)) ∨
    ∃ choice trail', choices slots trail = choice :: choices choice.slots trail' ∧
      entry slots trail = entry choice.slots trail' ∧
      unwind slots trail = (choice.slots, some (choice.pc, choice.pos, trail')) := by
  induction trail generalizing slots with
  | nil => exact .inl ⟨rfl, rfl⟩
  | cons e trail ih =>
    cases e with
    | resume pc pos => exact .inr ⟨⟨pc, pos, slots⟩, trail, choices_resume, rfl, rfl⟩
    | restore slot old =>
      simp only [choices_restore, entry_restore, unwind]
      exact ih _

/-- Each slot is taken over. One that is the same already needs no write, which is as good as to write it. -/
theorem merge_succ (inner : Slots) (count i : Nat) (slots : Slots) (trail : List TrailEntry)
    (target : Option Nat) : ∃ trail', merge inner (count + 1) i slots trail =
        merge inner count (i + 1) (slots.setIfInBounds i inner[i]?.join) trail' ∧
      runOf (slots.setIfInBounds i inner[i]?.join) trail' target =
        { runOf slots trail target with slots := slots.setIfInBounds i inner[i]?.join } := by
  rw [merge]
  split
  · rename_i hsame
    have heq : slots.setIfInBounds i inner[i]?.join = slots := by
      rw [← beq_iff_eq.mp hsame, setIfInBounds_self]
    exact ⟨trail, by rw [heq], by rw [heq]; rfl⟩
  · exact ⟨_, rfl, runOf_write rfl⟩

theorem merge_runOf (count i : Nat) (slots : Slots) (trail : List TrailEntry) :
    runOf (merge inner count i slots trail).1 (merge inner count i slots trail).2 target =
      { runOf slots trail target with slots := (merge inner count i slots trail).1 } := by
  induction count generalizing i slots trail with
  | zero => rfl
  | succ count ih =>
    obtain ⟨trail', hmerge, hrun⟩ := merge_succ inner count i slots trail target
    rw [hmerge, ih, hrun]

theorem merge_getElem? (count i j : Nat) (slots : Slots) (trail : List TrailEntry) :
    (merge inner count i slots trail).1[j]? =
      if i ≤ j ∧ j < i + count then slots[j]?.map fun _ => inner[j]?.join else slots[j]? := by
  induction count generalizing i slots trail with
  | zero =>
    rw [if_neg (by omega)]
    rfl
  | succ count ih =>
    obtain ⟨trail', hmerge, -⟩ := merge_succ inner count i slots trail none
    rw [hmerge, ih]
    by_cases hj : j = i
    · subst hj
      rw [if_neg (by omega), if_pos (by omega)]
      cases hslot : slots[j]? with
      | none => simpa using hslot
      | some old =>
        rw [Array.getElem?_setIfInBounds_self_of_lt (Array.getElem?_eq_some_iff.mp hslot).1]
        rfl
    · rw [Array.getElem?_setIfInBounds_ne (Ne.symm hj)]
      congr 1
      exact propext (by omega)

theorem merge_eq_capturing (slots : Slots) (trail : List TrailEntry) :
    (merge inner (inner.size - 2) 2 slots trail).1 = Copying.capturing slots inner := by
  apply Array.ext_getElem?
  intro j
  rw [merge_getElem?, Copying.capturing, Array.getElem?_mapIdx]
  by_cases hfirst : j < 2
  · simp [hfirst, Nat.not_le.mpr hfirst]
  · by_cases hinner : j < inner.size
    · have hrange : 2 ≤ j ∧ j < 2 + (inner.size - 2) := by omega
      simp [hfirst, hrange, hinner]
    · have hrange : ¬ (2 ≤ j ∧ j < 2 + (inner.size - 2)) := by omega
      simp [hfirst, hrange, hinner]

end Config

/-! ### The two machines -/

def Waiting.copied (w : Waiting) : Copying.Waiting :=
  ⟨w.body, w.behind, w.negate, w.resume, w.pos, w.start, Config.runOf w.slots w.trail w.target⟩

def Config.copied (c : Config) : Copying.State :=
  ⟨c.pc, c.pos, runOf c.slots c.trail c.target, c.waiting.map Waiting.copied⟩

def Outcome.copied : Outcome → Copying.Outcome
  | running c => .running c.copied
  | matched stop slots => .matched stop slots
  | failed slots => .failed slots
  | stuck => .stuck

/-- The number of runs that wait. -/
def Outcome.depth? : Outcome → Option Nat
  | running c => some c.waiting.length
  | _ => none

namespace Config

variable {program : Program} {mode : Mode} {text : Array Char} {slot : Nat} {old value : Option Nat}

theorem backtrack_found {slots slots' : Slots} {trail trail' : List TrailEntry} {pc pos : Nat}
    (h : unwind slots trail = (slots', some (pc, pos, trail'))) (target : Option Nat)
    (waiting : List Waiting) : backtrack slots trail target waiting =
      .running ⟨pc, pos, slots', trail', target, waiting⟩ := by
  unfold backtrack
  rw [h]

theorem backtrack_copied (slots : Slots) (trail : List TrailEntry) (target : Option Nat)
    (waiting : List Waiting) : (backtrack slots trail target waiting).copied =
      Copying.back (runOf slots trail target) (waiting.map Waiting.copied) := by
  induction waiting generalizing slots trail target with
  | nil =>
    rcases unwind_cases slots trail with ⟨hnone, hunwind⟩ | ⟨choice, trail', hsome, hentry, hunwind⟩
    · unfold backtrack
      rw [hunwind, List.map_nil, Copying.back_failed hnone]
      rfl
    · rw [backtrack_found hunwind, Copying.back_choice hsome, runOf, hentry]
      rfl
  | cons w waiting ih =>
    rcases unwind_cases slots trail with ⟨hnone, hunwind⟩ | ⟨choice, trail', hsome, hentry, hunwind⟩
    · unfold backtrack
      rw [hunwind, List.map_cons, Copying.back_waiting hnone]
      by_cases hearlier : (w.behind && decide (0 < w.start)) = true
      · dsimp only
        rw [if_pos hearlier]
        exact (if_pos hearlier).symm
      · dsimp only
        rw [if_neg hearlier]
        refine Eq.trans ?_ (if_neg hearlier).symm
        by_cases hnegate : w.negate = true
        · rw [if_pos hnegate]
          exact (if_pos hnegate).symm
        · rw [if_neg hnegate]
          exact (ih ..).trans (if_neg hnegate).symm
    · rw [backtrack_found hunwind, Copying.back_choice hsome, runOf, hentry]
      rfl

theorem succeed_copied (pos : Nat) (slots : Slots) (waiting : List Waiting) :
    (succeed pos slots waiting).copied = Copying.succeed pos slots (waiting.map Waiting.copied) := by
  cases waiting with
  | nil => rfl
  | cons w waiting =>
    rw [succeed, List.map_cons, Copying.succeed]
    by_cases hnegate : w.negate = true
    · rw [if_pos hnegate]
      exact (backtrack_copied ..).trans (if_pos hnegate).symm
    · rw [if_neg hnegate]
      refine Eq.trans ?_ (if_neg hnegate).symm
      simp only [Outcome.copied, copied, merge_runOf]
      rw [merge_eq_capturing]
      rfl

theorem continueIf_copied (test : Option Bool) (c : Config) :
    (continueIf test c).copied = c.copied.act (.check test c.pc c.pos) := by
  rcases test with _ | _ | _
  · rfl
  · exact backtrack_copied ..
  · rfl

theorem consumeIf_copied (test : Char → Bool) (text : Array Char) (c : Config) :
    (consumeIf test text c).copied = c.copied.act (.consume test text c.pc c.pos) := by
  rw [consumeIf, Copying.Action.consume]
  split_ifs
  · rfl
  · exact backtrack_copied ..

theorem write_copied {c : Config} (h : c.slots[slot]? = some old) : Outcome.copied (.running
    ⟨c.pc + 1, c.pos, c.slots.setIfInBounds slot value, .restore slot old :: c.trail, c.target,
      c.waiting⟩) = c.copied.act (.write slot value) := by
  have hrun : runOf (c.slots.setIfInBounds slot value) (.restore slot old :: c.trail) c.target =
      { runOf c.slots c.trail c.target with slots := c.slots.setIfInBounds slot value } :=
    runOf_write (by rw [h, Option.join_some])
  simp only [Outcome.copied, copied, hrun]
  rfl

theorem step_copied (c : Config) :
    (c.step program mode text).copied = c.copied.step program mode text := by
  cases hi : program.insts[c.pc]? with
  | none => simp [step, Copying.State.step, copied, hi, Outcome.copied]
  | some inst =>
    have hstep : c.copied.step program mode text = c.copied.act
        (.ofInst mode text c.pc c.pos c.slots c.target inst) := by
      simp only [Copying.State.step, copied, runOf, hi]
    rw [hstep]
    cases inst with
    | char | set | bracket =>
      simp only [step, hi, consumeIf_copied]
      rfl
    | assertStart | assertEnd | wordBoundary | checkProgress =>
      simp only [step, hi, continueIf_copied]
      rfl
    | accept =>
      simp only [step, hi, Copying.Action.ofInst]
      split_ifs
      · exact succeed_copied ..
      · exact backtrack_copied ..
    | jump next =>
      simp only [step, hi]
      rfl
    | split first second =>
      simp only [step, hi, Outcome.copied, copied, runOf, choices_resume, entry_resume]
      rfl
    | save slot =>
      simp only [step, hi, Copying.Action.ofInst]
      cases hslot : c.slots[slot]? with
      | none =>
        rw [Copying.Action.set_of_none hslot]
        rfl
      | some old =>
        rw [Copying.Action.set_of_some hslot]
        exact write_copied hslot
    | clear slot =>
      simp only [step, hi, Copying.Action.ofInst]
      rcases hslot : c.slots[slot]? with _ | _ | old
      · rw [Copying.Action.set_of_none hslot]
        rfl
      · -- to clear a slot that is not set is to leave it as it is
        rw [Copying.Action.set_of_some hslot]
        simp only [Copying.State.act, copied, runOf, setIfInBounds_same hslot]
        rfl
      · rw [Copying.Action.set_of_some hslot]
        exact write_copied hslot
    | backreference group =>
      simp only [step, hi, Copying.Action.ofInst]
      rcases referenceLength? mode text c.slots group c.pos with _ | _ | length
      · rfl
      · exact backtrack_copied ..
      · rfl
    | look behind negate resume =>
      simp only [step, hi]
      rfl

/-- The slots that the runs in progress would leave if they failed now, the innermost first. -/
def entries (c : Config) : List Slots :=
  entry c.slots c.trail :: c.waiting.map fun w => entry w.slots w.trail

theorem copied_entries (c : Config) :
    Copying.entries c.copied.run c.copied.waiting = c.entries := by
  simp only [Copying.entries, entries, copied, List.map_map]
  rfl

theorem copied_callers (c : Config) (slots : Slots) :
    Copying.callers slots c.copied.waiting = c.waiting.map (·.slots) ++ [slots] := by
  simp only [Copying.callers, copied, List.map_map]
  rfl

end Config

namespace Machine

variable {m : Machine}

theorem next_copied (o : Outcome) : (m.next o).copied = Copying.next m o.copied := by
  cases o with
  | running c => exact c.step_copied
  | matched | failed | stuck => rfl

theorem iterate_copied (steps : Nat) (o : Outcome) :
    (m.next^[steps] o).copied = (Copying.next m)^[steps] o.copied :=
  Function.Semiconj.iterate_right (f := Outcome.copied) next_copied steps o

theorem run_eq_none_iff {steps : Nat} {c : Config} :
    m.run steps c = .ok none ↔ ∃ slots, m.next^[steps] (.running c) = .failed slots := by
  induction steps generalizing c with
  | zero => simp [run]
  | succ steps ih =>
    rw [run, Function.iterate_succ_apply, next]
    cases c.step m.program m.mode m.text with
    | running c => exact ih
    | matched | failed | stuck =>
      rw [Function.iterate_fixed rfl]
      simp

/-- Along a call, whatever lookarounds it begins, the machine is after each step where it would be if each
choice had a copy of the slots. If the call fails, its slots are those that it began with. While it runs, so
are those of each run in progress if its log is rolled back, where the body of a lookaround began with the
slots of the run that waits for it. -/
theorem rollback_exact (m : Machine) (pc pos : Nat) (slots : Slots) (target : Option Nat)
    (steps : Nat) :
    let call : Config := ⟨pc, pos, slots, [], target, []⟩
    let now := m.next^[steps] (.running call)
    now.copied = (Copying.next m)^[steps] (.running ⟨pc, pos, .begin slots target, []⟩) ∧
      (m.run steps call = .ok none ↔ now = .failed slots) ∧
      ∀ c, now = .running c → c.entries = c.waiting.map (·.slots) ++ [slots] := by
  intro call now
  have hcopied : now.copied = (Copying.next m)^[steps] (.running ⟨pc, pos, .begin slots target, []⟩) :=
    iterate_copied steps (.running call)
  have hbegin : Copying.Outcome.Entered slots (.running ⟨pc, pos, .begin slots target, []⟩) := rfl
  have hentered : now.copied.Entered slots := hcopied ▸ Copying.iterate_entered hbegin steps
  refine ⟨hcopied, ?_, ?_⟩
  · rw [run_eq_none_iff]
    constructor
    · rintro ⟨slots', hfailed⟩
      have hsame : slots' = slots := by
        change now = .failed slots' at hfailed
        rw [hfailed] at hentered
        exact hentered
      exact hsame ▸ hfailed
    · exact fun hfailed => ⟨slots, hfailed⟩
  · intro c hrunning
    rw [hrunning] at hentered
    rw [← c.copied_entries, ← c.copied_callers]
    exact hentered

/-- A call in which a lookbehind within a lookahead tries one start after the other. Both have captures that
are taken over, the loop around them clears these, and there is no match in the end. -/
theorem rollback_exact_lookarounds :
    ∃ tree program, parse true "(?:(?=(a)(?<=(b)a))a|b)*c".toList = .ok tree ∧
      compile false tree = .ok program ∧
      let m : Machine := ⟨program, ⟨false, false, false⟩, "ba".toList.toArray, 100⟩
      let start : Outcome := .running (m.initial 0)
      m.next^[100] start = .failed (m.initial 0).slots ∧
        ∃ c, m.next^[32] start = .running c ∧ c.waiting.length = 2 ∧
          c.entries = c.waiting.map (·.slots) ++ [(m.initial 0).slots] := by
  have h : ((parse true "(?:(?=(a)(?<=(b)a))a|b)*c".toList).toOption.bind fun tree =>
      (compile false tree).toOption.map fun program =>
        let m : Machine := ⟨program, ⟨false, false, false⟩, "ba".toList.toArray, 100⟩
        (m.run 100 (m.initial 0), (m.next^[32] (.running (m.initial 0))).depth?)) =
      some (.ok none, some 2) := by decide +kernel
  obtain ⟨tree, program, hp, hc, heq⟩ := ok_of_parse_compile h
  obtain ⟨hrun, hdepth⟩ := Prod.mk.inj heq
  refine ⟨tree, program, hp, hc, ?_⟩
  intro m start
  refine ⟨(rollback_exact m 0 0 (m.initial 0).slots none 100).2.1.mp hrun, ?_⟩
  change (m.next^[32] start).depth? = some 2 at hdepth
  cases hnow : m.next^[32] start with
  | running c =>
    rw [hnow] at hdepth
    exact ⟨c, rfl, Option.some.inj hdepth,
      (rollback_exact m 0 0 (m.initial 0).slots none 32).2.2 c hnow⟩
  | matched | failed | stuck =>
    rw [hnow] at hdepth
    cases hdepth

end Machine
end RegexInsight
