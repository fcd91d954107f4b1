import RegexInsight.Proofs.Attempts
import RegexInsight.Proofs.CodeBounds

/-! The machine asks for nothing that is not there. A run stays between the position at which it began
and the end of the text, and its trail leads back through positions that it has passed, down to that
first one. One step keeps this of the run at hand and of all runs that wait for it; so it holds of
every state that an attempt comes to. -/
namespace RegexInsight
namespace Config

/-- All slots of the program are there, and what they hold are positions of the text. -/
structure SlotsInside (program : Program) (text : Array Char) (slots : Slots) : Prop where
  size : slots.size = program.slotCount
  values : ∀ (i v : Nat), slots[i]? = some (some v) → v ≤ text.size

/-- The choices on the trail go back from `pos` to positions not before `start`, and what it restores
are slots of the program. -/
def TrailInside (program : Program) (text : Array Char) (start : Nat) :
    Nat → List TrailEntry → Prop
  | pos, [] => start ≤ pos
  | pos, .resume pc back :: trail =>
    pc < program.insts.size ∧ back ≤ pos ∧ TrailInside program text start back trail
  | pos, .restore slot old :: trail =>
    slot < program.slotCount ∧ (∀ v ∈ old, v ≤ text.size) ∧ TrailInside program text start pos trail

/-- A run that began at `start` has come to `pos` with these slots and this trail. -/
structure RunInside (program : Program) (text : Array Char) (start pos : Nat) (held : Slots)
    (left : List TrailEntry) : Prop where
  pos_le : pos ≤ text.size
  slots : SlotsInside program text held
  trail : TrailInside program text start pos left

/-- Where the run began that these runs wait for; the outermost one began at `first`. -/
def runStart (first : Nat) : List Waiting → Nat
  | [] => first
  | w :: _ => w.start

def WaitingInside (program : Program) (text : Array Char) (first : Nat) : List Waiting → Prop
  | [] => True
  | w :: waiting =>
    w.body < program.insts.size ∧ w.resume < program.insts.size ∧ w.start ≤ w.pos ∧
      RunInside program text (runStart first waiting) w.pos w.slots w.trail ∧
      WaitingInside program text first waiting

/-- The run at hand and the runs that wait for it are inside the program and the text. -/
structure InRange (program : Program) (text : Array Char) (first : Nat) (c : Config) : Prop where
  pc_lt : c.pc < program.insts.size
  run : RunInside program text (runStart first c.waiting) c.pos c.slots c.trail
  outer : WaitingInside program text first c.waiting

/-- How a step goes on from a run with this position, trail and runs that wait: the run goes ahead or
back to a choice on its trail, it enters a lookaround or a lookbehind begins anew one character
earlier, or the run ends and the one that waits for it goes on. -/
inductive Continues (c : Config) : Nat → List TrailEntry → List Waiting → Prop
  | ahead {pos : Nat} {trail : List TrailEntry} : pos ≤ c.pos → Continues c pos trail c.waiting
  | back {pos : Nat} {trail : List TrailEntry} : .resume c.pc c.pos ∈ trail →
    Continues c pos trail c.waiting
  | enters {trail : List TrailEntry} {waiting : List Waiting} (w : Waiting) :
    c.waiting = w :: waiting → w.pos = c.pos → Continues c c.pos trail waiting
  | earlier {pos : Nat} {trail : List TrailEntry} {w : Waiting} {waiting : List Waiting} :
    w.behind → c.waiting = { w with start := w.start - 1 } :: waiting → c.pos + 1 = w.start →
    Continues c pos trail (w :: waiting)
  | leaves {pos : Nat} {trail : List TrailEntry} {w : Waiting} {waiting : List Waiting} :
    Continues c w.pos w.trail waiting → Continues c pos trail (w :: waiting)

/-- What a step leads to from a run with this position, trail and runs that wait. -/
def After (program : Program) (text : Array Char) (first pos : Nat) (trail : List TrailEntry)
    (waiting : List Waiting) : Outcome → Prop
  | .running c => c.InRange program text first ∧ c.Continues pos trail waiting
  | .matched stop slots => first ≤ stop ∧ stop ≤ text.size ∧ SlotsInside program text slots
  | .failed _ => True
  | .stuck => False

/-- The slots that an instruction reads or writes; at the end of a lookaround these are all but the
first two. -/
def slotsUsed (c : Config) : Inst → List Nat
  | .save slot | .clear slot | .checkProgress slot => [slot]
  | .backreference group => [group * 2, group * 2 + 1]
  | .accept => if c.waiting.isEmpty then [] else List.range' 2 (c.slots.size - 2)
  | _ => []

/-- The characters that an instruction reads without asking first whether they are there. -/
def charsUsed (mode : Mode) (text : Array Char) (c : Config) : Inst → List Nat
  | .assertStart => if c.pos = 0 ∨ mode.multiline = false then [] else [c.pos - 1]
  | .assertEnd => if c.pos = text.size ∨ mode.multiline = false then [] else [c.pos]
  | .wordBoundary _ => if c.pos = 0 then [] else [c.pos - 1]
  | .backreference group =>
    match c.slots[group * 2]?.join, c.slots[group * 2 + 1]?.join with
    | some start, some stop =>
      if text.size < c.pos + (stop - start) then []
      else List.range' start (stop - start) ++ List.range' c.pos (stop - start)
    | _, _ => []
  | _ => []

/-- The instruction at hand exists, all that it uses exists, and the step that executes it goes on in
one of the ways in which a step can go on. -/
structure Safe (program : Program) (mode : Mode) (text : Array Char) (first : Nat) (c : Config) :
    Prop where
  inRange : c.InRange program text first
  uses : ∃ inst, program.insts[c.pc]? = some inst ∧
    (∀ i ∈ c.slotsUsed inst, i < program.slotCount) ∧
    ∀ i ∈ c.charsUsed mode text inst, i < text.size
  steps : After program text first c.pos c.trail c.waiting (c.step program mode text)

variable {program : Program} {mode : Mode} {text : Array Char} {first start pos : Nat}
  {slots : Slots} {trail : List TrailEntry} {target : Option Nat} {waiting : List Waiting}

theorem SlotsInside.set (h : SlotsInside program text slots) (i : Nat) {value : Option Nat}
    (hv : ∀ v ∈ value, v ≤ text.size) : SlotsInside program text (slots.setIfInBounds i value) := by
  refine ⟨by rw [Array.size_setIfInBounds]; exact h.size, fun j v hj => ?_⟩
  by_cases hij : i = j
  · subst hij
    rw [Array.getElem?_setIfInBounds_self] at hj
    split at hj
    · exact hv v (Option.some.inj hj)
    · cases hj
  · rw [Array.getElem?_setIfInBounds_ne hij] at hj
    exact h.values j v hj

theorem SlotsInside.lt {slot : Nat} {old : Option Nat} (h : SlotsInside program text slots)
    (hs : slots[slot]? = some old) : slot < program.slotCount :=
  h.size ▸ (Array.getElem?_eq_some_iff.mp hs).1

theorem SlotsInside.old {slot : Nat} {old : Option Nat} (h : SlotsInside program text slots)
    (hs : slots[slot]? = some old) : ∀ v ∈ old, v ≤ text.size := by
  rintro v rfl
  exact h.values slot v hs

theorem SlotsInside.getElem? {slot : Nat} (h : SlotsInside program text slots)
    (hlt : slot < program.slotCount) : ∃ old, slots[slot]? = some old := by
  have hsize : slot < slots.size := h.size.symm ▸ hlt
  exact ⟨slots[slot], Array.getElem?_eq_getElem hsize⟩

theorem TrailInside.start_le (h : TrailInside program text start pos trail) : start ≤ pos := by
  induction trail generalizing pos with
  | nil => exact h
  | cons entry trail ih =>
    cases entry with
    | resume pc back => exact Nat.le_trans (ih h.2.2) h.2.1
    | restore slot old => exact ih h.2.2

theorem TrailInside.ahead {pos' : Nat} (h : TrailInside program text start pos trail)
    (hle : pos ≤ pos') : TrailInside program text start pos' trail := by
  induction trail with
  | nil => exact Nat.le_trans h hle
  | cons entry trail ih =>
    cases entry with
    | resume pc back => exact ⟨h.1, Nat.le_trans h.2.1 hle, h.2.2⟩
    | restore slot old => exact ⟨h.1, h.2.1, ih h.2.2⟩

theorem RunInside.ahead {pos' : Nat} (h : RunInside program text start pos slots trail)
    (hle : pos ≤ pos') (hp : pos' ≤ text.size) : RunInside program text start pos' slots trail :=
  ⟨hp, h.slots, h.trail.ahead hle⟩

theorem RunInside.write {slot : Nat} {old value : Option Nat}
    (h : RunInside program text start pos slots trail) (hs : slots[slot]? = some old)
    (hv : ∀ v ∈ value, v ≤ text.size) :
    RunInside program text start pos (slots.setIfInBounds slot value)
      (.restore slot old :: trail) :=
  ⟨h.pos_le, h.slots.set slot hv, h.slots.lt hs, h.slots.old hs, h.trail⟩

/-- Going back restores slots to positions of the text, and leads to a choice on the trail. -/
theorem unwind_inside {slots' : Slots} {found : Option (Nat × Nat × List TrailEntry)}
    (hs : SlotsInside program text slots) (ht : TrailInside program text start pos trail)
    (h : unwind slots trail = (slots', found)) : SlotsInside program text slots' ∧
      ∀ pc back rest, found = some (pc, back, rest) → .resume pc back ∈ trail ∧
        pc < program.insts.size ∧ back ≤ pos ∧ TrailInside program text start back rest := by
  induction trail generalizing slots with
  | nil =>
    cases h
    exact ⟨hs, nofun⟩
  | cons entry trail ih =>
    cases entry with
    | resume pc back =>
      cases h
      refine ⟨hs, ?_⟩
      rintro _ _ _ ⟨⟩
      exact ⟨List.mem_cons_self, ht.1, ht.2.1, ht.2.2⟩
    | restore slot old =>
      obtain ⟨hslots, hfound⟩ := ih (hs.set slot ht.2.1) ht.2.2 h
      exact ⟨hslots, fun pc back rest he =>
        ⟨List.mem_cons_of_mem _ (hfound pc back rest he).1, (hfound pc back rest he).2⟩⟩

theorem After.leaves {o : Outcome} {w : Waiting}
    (h : After program text first w.pos w.trail waiting o) :
    After program text first pos trail (w :: waiting) o := by
  cases o with
  | running c => exact ⟨h.1, .leaves h.2⟩
  | matched | failed | stuck => exact h

/-- Going back stays in range: it leads to a choice of this run, or to the runs that wait for it. -/
theorem backtrack_after (h : RunInside program text (runStart first waiting) pos slots trail)
    (hw : WaitingInside program text first waiting) (target : Option Nat) :
    After program text first pos trail waiting (backtrack slots trail target waiting) := by
  induction waiting generalizing pos slots trail target with
  | nil =>
    cases hu : unwind slots trail with
    | mk slots' found =>
      obtain ⟨hslots, hfound⟩ := unwind_inside h.slots h.trail hu
      unfold backtrack
      rw [hu]
      cases found with
      | none => exact trivial
      | some choice =>
        obtain ⟨pc, back, rest⟩ := choice
        obtain ⟨hmem, hpc, hback, hrest⟩ := hfound pc back rest rfl
        exact ⟨⟨hpc, ⟨Nat.le_trans hback h.pos_le, hslots, hrest⟩, hw⟩, .back hmem⟩
  | cons w waiting ih =>
    obtain ⟨hbody, hresume, hstart, hrun, hwaiting⟩ := hw
    cases hu : unwind slots trail with
    | mk slots' found =>
      obtain ⟨hslots, hfound⟩ := unwind_inside h.slots h.trail hu
      unfold backtrack
      rw [hu]
      cases found with
      | some choice =>
        obtain ⟨pc, back, rest⟩ := choice
        obtain ⟨hmem, hpc, hback, hrest⟩ := hfound pc back rest rfl
        exact ⟨⟨hpc, ⟨Nat.le_trans hback h.pos_le, hslots, hrest⟩,
          hbody, hresume, hstart, hrun, hwaiting⟩, .back hmem⟩
      | none =>
        dsimp only
        split
        · -- the lookbehind begins anew, so its own start moves with it
          rename_i hbehind
          obtain ⟨hbehind, hpositive⟩ : w.behind = true ∧ 0 < w.start := by simpa using hbehind
          have hpos : w.start - 1 ≤ w.pos := by omega
          exact ⟨⟨hbody, ⟨Nat.le_trans hpos hrun.pos_le, hslots, Nat.le_refl _⟩,
            hbody, hresume, hpos, hrun, hwaiting⟩, .earlier hbehind rfl (Nat.sub_add_cancel hpositive)⟩
        · split
          · exact ⟨⟨hresume, hrun, hwaiting⟩, .leaves (.ahead (Nat.le_refl _))⟩
          · exact (ih hrun hwaiting w.target).leaves

theorem merge_inside {inner : Slots} (hi : SlotsInside program text inner) (count i : Nat)
    (hle : i + count ≤ program.slotCount)
    (h : RunInside program text start pos slots trail) :
    RunInside program text start pos (merge inner count i slots trail).1
      (merge inner count i slots trail).2 := by
  induction count generalizing i slots trail with
  | zero => exact h
  | succ count ih =>
    obtain ⟨old, hold⟩ := h.slots.getElem? (show i < program.slotCount by omega)
    obtain ⟨new, hnew⟩ := hi.getElem? (show i < program.slotCount by omega)
    unfold merge
    simp only [hold, hnew, Option.join_some]
    split
    · exact ih (i + 1) (by omega) h
    · exact ih (i + 1) (by omega) (h.write hold (hi.old hnew))

theorem succeed_after (hslots : 2 ≤ program.slotCount)
    (h : RunInside program text (runStart first waiting) pos slots trail)
    (hw : WaitingInside program text first waiting) :
    After program text first pos trail waiting (succeed pos slots waiting) := by
  cases waiting with
  | nil => exact ⟨h.trail.start_le, h.pos_le, h.slots⟩
  | cons w waiting =>
    obtain ⟨hbody, hresume, hstart, hrun, hwaiting⟩ := hw
    rw [succeed]
    by_cases hn : w.negate = true
    · rw [if_pos hn]
      exact (backtrack_after hrun hwaiting w.target).leaves
    · rw [if_neg hn]
      have hsize := h.slots.size
      have hmerged := merge_inside h.slots (slots.size - 2) 2 (by omega) hrun
      exact ⟨⟨hresume, hmerged, hwaiting⟩, .leaves (.ahead (Nat.le_refl _))⟩

theorem referenceLength?_inside {group : Nat} (hg : group * 2 + 1 < program.slotCount)
    (h : RunInside program text start pos slots trail) (mode : Mode) :
    ∃ found, referenceLength? mode text slots group pos = some found ∧
      ∀ length ∈ found, pos + length ≤ text.size := by
  obtain ⟨open?, hopen⟩ := h.slots.getElem? (show group * 2 < program.slotCount by omega)
  obtain ⟨close?, hclose⟩ := h.slots.getElem? hg
  have hpos := h.pos_le
  unfold referenceLength?
  rw [hopen, hclose]
  rcases open? with _ | opened
  · exact ⟨some 0, rfl, by simpa using hpos⟩
  rcases close? with _ | closed
  · exact ⟨some 0, rfl, by simpa using hpos⟩
  have hclosed := h.slots.values _ _ hclose
  dsimp only
  split
  · exact ⟨some 0, rfl, by simpa using hpos⟩
  · split
    · exact ⟨none, rfl, by simp⟩
    · rw [sameText?_eq [] _ _ _ (by omega) (by omega)]
      refine ⟨_, rfl, fun length hl => ?_⟩
      dsimp only at hl
      split at hl
      · cases hl
        omega
      · cases hl

section
variable {c : Config}

theorem InRange.go {pc pos' : Nat} (h : c.InRange program text first) (hpc : pc < program.insts.size)
    (hrun : RunInside program text (runStart first c.waiting) pos' slots trail)
    (hle : c.pos ≤ pos') (target : Option Nat) : After program text first c.pos c.trail c.waiting
      (.running ⟨pc, pos', slots, trail, target, c.waiting⟩) :=
  ⟨⟨hpc, hrun, h.outer⟩, .ahead hle⟩

theorem InRange.backtrack (h : c.InRange program text first) : After program text first c.pos c.trail
    c.waiting (Config.backtrack c.slots c.trail c.target c.waiting) :=
  backtrack_after h.run h.outer c.target

theorem InRange.consumeIf (h : c.InRange program text first) (hpc : c.pc + 1 < program.insts.size)
    (test : Char → Bool) : After program text first c.pos c.trail c.waiting
      (c.consumeIf test text) := by
  unfold Config.consumeIf
  dsimp only
  split
  · rename_i hx
    have hlt : c.pos < text.size := by
      by_contra hge
      simp [Array.getElem?_eq_none (Nat.le_of_not_lt hge)] at hx
    exact h.go hpc (h.run.ahead (Nat.le_succ _) hlt) (Nat.le_succ _) _
  · exact h.backtrack

theorem InRange.continueIf (h : c.InRange program text first) (hpc : c.pc + 1 < program.insts.size)
    {test : Option Bool} (ht : ∃ holds, test = some holds) :
    After program text first c.pos c.trail c.waiting (c.continueIf test) := by
  obtain ⟨holds, rfl⟩ := ht
  cases holds with
  | false => exact h.backtrack
  | true => exact h.go hpc h.run (Nat.le_refl _) _

theorem InRange.step_after (h : c.InRange program text first) (hp : program.Sound) (mode : Mode) :
    After program text first c.pos c.trail c.waiting (c.step program mode text) := by
  have hpc := h.pc_lt
  obtain ⟨inst, hi⟩ : ∃ inst, program.insts[c.pc]? = some inst :=
    ⟨program.insts[c.pc], Array.getElem?_eq_getElem hpc⟩
  have hb := hp.bounded c.pc inst hi
  have hpos := h.run.pos_le
  cases inst with
  | char value =>
    rw [step_consume hi (.inl ⟨value, rfl, rfl⟩)]
    exact h.consumeIf hb _
  | set test negate =>
    rw [step_consume hi (.inr (.inl ⟨test, negate, rfl, rfl⟩))]
    exact h.consumeIf hb _
  | bracket items negate =>
    rw [step_consume hi (.inr (.inr ⟨items, negate, rfl, rfl⟩))]
    exact h.consumeIf hb _
  | assertStart =>
    rw [step_continue hi (.inl ⟨rfl, rfl⟩)]
    exact h.continueIf hb ⟨(⟨mode, text, []⟩ : Attempt).holdsAt c.pos .start, atLineStart?_eq hpos⟩
  | assertEnd =>
    rw [step_continue hi (.inr (.inl ⟨rfl, rfl⟩))]
    exact h.continueIf hb ⟨(⟨mode, text, []⟩ : Attempt).holdsAt c.pos .stop, atLineEnd?_eq hpos⟩
  | wordBoundary negate =>
    rw [step_continue hi (.inr (.inr (.inl ⟨negate, rfl, rfl⟩)))]
    exact h.continueIf hb ⟨(⟨mode, text, []⟩ : Attempt).holdsAt c.pos _, atWordBoundary?_eq hpos negate⟩
  | checkProgress slot =>
    obtain ⟨old, hold⟩ := h.run.slots.getElem? hb.2
    rw [step_continue hi (.inr (.inr (.inr ⟨slot, rfl, rfl⟩)))]
    exact h.continueIf hb.1 ⟨_, by rw [hold]; rfl⟩
  | accept =>
    rw [step_accept hi]
    split
    · have hslots := hp.slots
      exact succeed_after (by omega) h.run h.outer
    · exact h.backtrack
  | jump next =>
    rw [step_jump hi]
    exact h.go hb h.run (Nat.le_refl _) _
  | split first second =>
    rw [step_split hi]
    have hleft : RunInside program text (runStart _ c.waiting) c.pos c.slots
        (.resume second c.pos :: c.trail) :=
      ⟨hpos, h.run.slots, hb.2, Nat.le_refl _, h.run.trail⟩
    exact h.go hb.1 hleft (Nat.le_refl _) _
  | save slot =>
    obtain ⟨old, hold⟩ := h.run.slots.getElem? hb.2
    rw [step_save hi hold]
    exact h.go hb.1 (h.run.write hold (by simpa using hpos)) (Nat.le_refl _) _
  | clear slot =>
    obtain ⟨old, hold⟩ := h.run.slots.getElem? hb.2
    simp only [step, hi, hold]
    cases old with
    | none => exact h.go hb.1 h.run (Nat.le_refl _) _
    | some old => exact h.go hb.1 (h.run.write hold (by simp)) (Nat.le_refl _) _
  | backreference group =>
    obtain ⟨found, hfound, hle⟩ := referenceLength?_inside hb.2 h.run mode
    cases found with
    | none =>
      rw [step_refer_fails hi hfound]
      exact h.backtrack
    | some length =>
      rw [step_refer hi hfound]
      exact h.go hb.1 (h.run.ahead (Nat.le_add_right _ _) (hle length rfl)) (Nat.le_add_right _ _) _
  | look behind negate resume =>
    rw [step_look hi]
    exact ⟨⟨hb.1, ⟨hpos, h.run.slots, Nat.le_refl _⟩, hb.1, hb.2, Nat.le_refl _, h.run, h.outer⟩,
      .enters _ rfl rfl⟩

theorem InRange.uses (h : c.InRange program text first) (hp : program.Sound) (mode : Mode) :
    ∃ inst, program.insts[c.pc]? = some inst ∧ (∀ i ∈ c.slotsUsed inst, i < program.slotCount) ∧
      ∀ i ∈ c.charsUsed mode text inst, i < text.size := by
  have hpc := h.pc_lt
  obtain ⟨inst, hi⟩ : ∃ inst, program.insts[c.pc]? = some inst :=
    ⟨program.insts[c.pc], Array.getElem?_eq_getElem hpc⟩
  have hb := hp.bounded c.pc inst hi
  have hpos := h.run.pos_le
  refine ⟨inst, hi, ?_, ?_⟩
  · intro i hi
    cases inst
    case save | clear | checkProgress =>
      cases List.mem_singleton.mp hi
      exact hb.2
    case backreference =>
      have hlast := hb.2
      rcases List.mem_pair.mp hi with rfl | rfl <;> omega
    case accept =>
      rw [slotsUsed] at hi
      split at hi
      · cases hi
      · have hsize := h.run.slots.size
        have hrange := List.mem_range'_1.mp hi
        omega
    all_goals cases hi
  · intro i hi
    cases inst
    case assertStart | assertEnd | wordBoundary =>
      rw [charsUsed] at hi
      split at hi
      · cases hi
      · cases List.mem_singleton.mp hi
        omega
    case backreference group =>
      rw [charsUsed] at hi
      split at hi
      · rename_i opened closed hopen hclose
        have hclosed := h.run.slots.values _ _ (Option.join_eq_some_iff.mp hclose)
        split at hi
        · cases hi
        · rcases List.mem_append.mp hi with hrange | hrange
          all_goals
            have := List.mem_range'_1.mp hrange
            omega
      · cases hi
    all_goals cases hi

theorem InRange.safe (h : c.InRange program text first) (hp : program.Sound) (mode : Mode) :
    c.Safe program mode text first :=
  ⟨h, h.uses hp mode, h.step_after hp mode⟩

end
end Config

namespace Machine

variable {m : Machine} {start : Nat}

theorem initial_inRange (hp : m.program.Sound) (hs : start ≤ m.text.size) :
    (m.initial start).InRange m.program m.text start := by
  have hblank : Config.SlotsInside m.program m.text (Array.replicate m.program.slotCount none) := by
    refine ⟨Array.size_replicate, fun i v hv => ?_⟩
    rw [Array.getElem?_replicate] at hv
    split at hv <;> cases hv
  exact ⟨hp.nonempty, ⟨hs, hblank.set 0 (by simpa using hs), Nat.le_refl _⟩, trivial⟩

theorem Leads.inRange {first : Nat} {c c' : Config} (hp : m.program.Sound)
    (h : m.Leads (.running c) (.running c')) (hc : c.InRange m.program m.text first) :
    c'.InRange m.program m.text first := by
  generalize ho : Outcome.running c = o at h
  generalize ho' : Outcome.running c' = o' at h
  induction h generalizing c with
  | refl =>
    subst ho
    cases ho'
    exact hc
  | @step now o hl ih =>
    cases ho
    have hafter := hc.step_after hp m.mode
    cases hs : now.step m.program m.mode m.text with
    | running next =>
      rw [hs] at hafter
      exact ih hafter.1 hs.symm ho'
    | matched | failed | stuck =>
      subst ho'
      rw [hs] at hl
      cases hl

theorem run_ne_stuck {first : Nat} (hp : m.program.Sound) (budget : Nat) {c : Config}
    (hc : c.InRange m.program m.text first) : m.run budget c ≠ .error .stuck := by
  induction budget generalizing c with
  | zero => rintro ⟨⟩
  | succ budget ih =>
    have hafter := hc.step_after hp m.mode
    rw [run]
    cases hs : c.step m.program m.mode m.text with
    | running next =>
      rw [hs] at hafter
      exact ih hafter.1
    | matched | failed => rintro ⟨⟩
    | stuck =>
      rw [hs] at hafter
      exact hafter.elim

end Machine

/-- Whatever an attempt comes to, within its limit or beyond it, is in range and goes on in range: an
attempt never asks for an instruction, a slot or a character that is not there. -/
theorem matchAt_inRange {unicode multiline : Bool} {source : List Char} {tree : PatternTree}
    {program : Program} (hp : parse unicode source = .ok tree)
    (hc : compile multiline tree = .ok program) (mode : Mode) (text : Array Char) (limit : Nat)
    {start : Nat} (hs : start ≤ text.size) :
    let m : Machine := ⟨program, mode, text, limit⟩
    m.matchAt start ≠ .error .stuck ∧
      ∀ c, m.Leads (.running (m.initial start)) (.running c) → c.Safe program mode text start := by
  intro m
  have hsound : m.program.Sound :=
    compile_sound (Reading.run_wellFormed (Reading.ofText_sound unicode source) hp).2 hc
  have hfirst := m.initial_inRange hsound hs
  refine ⟨fun hstuck => ?_, fun c hl => (hl.inRange hsound hfirst).safe hsound mode⟩
  rw [m.matchAt_eq] at hstuck
  cases hrun : m.run m.limit (m.initial start) with
  | ok found =>
    rw [hrun] at hstuck
    cases hstuck
  | error e =>
    rw [hrun] at hstuck
    cases hstuck
    exact m.run_ne_stuck hsound m.limit hfirst hrun

/-- A lookbehind inside of a loop, with a reference in its body. -/
theorem matchAt_inRange_lookbehind :
    ∃ tree program, parse true "(?:(a)(?<=\\1))*b".toList = .ok tree ∧
      compile false tree = .ok program ∧ 1 ≤ "aab".toList.toArray.size ∧
      (⟨program, ⟨false, false, false⟩, "aab".toList.toArray, 100⟩ : Machine).matchAt 1 ≠
        .error .stuck ∧
      ∀ c, (⟨program, ⟨false, false, false⟩, "aab".toList.toArray, 100⟩ : Machine).Leads
          (.running ((⟨program, ⟨false, false, false⟩, "aab".toList.toArray, 100⟩ :
            Machine).initial 1)) (.running c) →
        c.Safe program ⟨false, false, false⟩ "aab".toList.toArray 1 := by
  have h : ((parse true "(?:(a)(?<=\\1))*b".toList).toOption.bind fun tree =>
      (compile false tree).toOption).isSome = true := by decide +kernel
  cases hp : parse true "(?:(a)(?<=\\1))*b".toList with
  | error e =>
    rw [hp] at h
    cases h
  | ok tree =>
    rw [hp] at h
    cases hc : compile false tree with
    | error e => simp [Except.toOption, hc] at h
    | ok program =>
      have hs : 1 ≤ "aab".toList.toArray.size := by decide
      exact ⟨tree, program, rfl, hc, hs, matchAt_inRange hp hc ⟨false, false, false⟩ _ 100 hs⟩

/-- A run may go back: after a loop has taken the only character of the text and what follows does not
match there, the run goes on at the position before that character. -/
theorem attempt_goes_back :
    ∃ tree program c c', parse false "a*a".toList = .ok tree ∧ compile false tree = .ok program ∧
      (⟨program, ⟨false, false, false⟩, #['a'], 100⟩ : Machine).Leads (.running
        ((⟨program, ⟨false, false, false⟩, #['a'], 100⟩ : Machine).initial 0)) (.running c) ∧
      c.step program ⟨false, false, false⟩ #['a'] = .running c' ∧
      c.waiting = [] ∧ c'.waiting = [] ∧ c'.pos < c.pos := by
  let insts : Array Inst := #[.split 1 5, .save 2, .char 'a', .checkProgress 2, .jump 0, .char 'a',
    .accept]
  have h : ((parse false "a*a".toList).toOption.bind fun tree =>
      (compile false tree).toOption.map fun program =>
        (program.insts, program.groupCount, program.slotCount, program.anchored)) =
      some (insts, 0, 3, false) := by decide +kernel
  cases hp : parse false "a*a".toList with
  | error e =>
    rw [hp] at h
    cases h
  | ok tree =>
    rw [hp] at h
    cases hc : compile false tree with
    | error e => simp [Except.toOption, hc] at h
    | ok program =>
      obtain ⟨code, groups, slots, anchored⟩ := program
      obtain ⟨rfl, rfl, rfl, rfl⟩ : code = insts ∧ groups = 0 ∧ slots = 3 ∧ anchored = false := by
        simpa [Except.toOption, hc] using h
      refine ⟨tree, _, ⟨5, 1, #[some 0, none, some 0], [.restore 2 none, .resume 5 0], none, []⟩,
        ⟨5, 0, #[some 0, none, none], [], none, []⟩, rfl, hc, ?_, rfl, rfl, rfl, Nat.zero_lt_one⟩
      exact .step (.step (.step (.step (.step (.step (.step (.step (.refl _))))))))

end RegexInsight
