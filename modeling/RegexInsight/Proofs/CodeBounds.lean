import RegexInsight.Proofs.Refinement

/-! Nothing that is written points out of the program. Jumps and splits lead to instructions that are
there in the end, every instruction but the last has one behind it to go on at, and only slots of the
program are written or read. -/
namespace RegexInsight

/-- What the instruction at `i` leads to and the slots that it names exist in a program with so many
instructions and slots. -/
def Inst.Bounded (length slots i : Nat) : Inst → Prop
  | .accept => True
  | .jump pc => pc < length
  | .split first second => first < length ∧ second < length
  | .look _ _ resume => i + 1 < length ∧ resume < length
  | .save slot | .clear slot | .checkProgress slot => i + 1 < length ∧ slot < slots
  | .backreference group => i + 1 < length ∧ group * 2 + 1 < slots
  | .char _ | .set .. | .bracket .. | .assertStart | .assertEnd | .wordBoundary _ => i + 1 < length

namespace Code

def Bounded (length slots : Nat) (code : Code) : Prop :=
  ∀ (i : Nat) (inst : Inst), code.insts[i]? = some inst → inst.Bounded length slots i

/-- The code leaves room for one more instruction, and takes no more slots than there are. -/
structure Inside (length slots : Nat) (code : Code) : Prop where
  pc : code.pc < length
  slots : code.slots ≤ slots

variable {length slots : Nat} {before after code : Code}

theorem Inside.of_grows (h : after.Inside length slots) (hg : before.Grows after) :
    before.Inside length slots := by
  have hpc : before.pc ≤ after.pc := by simpa [Code.pc] using hg.insts.length_le
  exact ⟨Nat.lt_of_le_of_lt hpc h.pc, Nat.le_trans hg.slots h.slots⟩

theorem Bounded.push {inst : Inst} (h : code.Bounded length slots)
    (hi : inst.Bounded length slots code.pc) : (code.push inst).Bounded length slots := by
  intro i found hf
  rw [Code.push, Array.getElem?_push] at hf
  split at hf
  · rename_i heq
    cases hf
    exact heq ▸ hi
  · exact h i found hf

theorem Bounded.pushSplit {greedy : Bool} {exit : Nat} (h : code.Bounded length slots)
    (hnext : code.pc + 1 < length) (hexit : exit < length) :
    (code.pushSplit greedy exit).Bounded length slots := by
  refine h.push ?_
  cases greedy
  · exact ⟨hexit, hnext⟩
  · exact ⟨hnext, hexit⟩

theorem Bounded.pushClears {cleared : List Nat} (h : code.Bounded length slots)
    (hc : ∀ slot ∈ cleared, slot < slots) (hl : (code.pushClears cleared).pc < length) :
    (code.pushClears cleared).Bounded length slots := by
  induction cleared generalizing code with
  | nil => exact h
  | cons slot cleared ih =>
    rw [pushClears_cons] at hl ⊢
    have hnext : code.pc + 1 < length := by
      rw [pushClears_pc, push_pc] at hl
      omega
    exact ih (h.push ⟨hnext, hc slot List.mem_cons_self⟩)
      (fun s hs => hc s (List.mem_cons_of_mem _ hs)) hl

/-- What is written by `copy` stays bounded as long as it stays inside. -/
def Keeps (length slots : Nat) (copy : Code → Code) : Prop :=
  ∀ code, (copy code).Inside length slots → code.Bounded length slots →
    (copy code).Bounded length slots

section
variable {copy : Code → Code} {size : Nat}

theorem Keeps.repeat (hg : ∀ code, Grows code (copy code)) (h : Keeps length slots copy)
    (count : Nat) : Keeps length slots (Nat.repeat copy count) := by
  induction count with
  | zero => exact fun _ _ hb => hb
  | succ count ih =>
    intro code hi hb
    exact h _ hi (ih code (hi.of_grows (hg _)) hb)

theorem Keeps.option (hpc : ∀ code, (copy code).pc = code.pc + size) (h : Keeps length slots copy)
    (greedy : Bool) : Keeps length slots (Code.option greedy size copy) := by
  intro code hi hb
  have hexit : (Code.option greedy size copy code).pc = code.pc + 1 + size := by
    rw [Code.option, hpc, pushSplit_pc]
  have hend := hi.pc
  rw [hexit] at hend
  exact h _ hi (hb.pushSplit (by omega) hend)

theorem Keeps.loop (hpc : ∀ code, (copy code).pc = code.pc + size)
    (hg : ∀ code, Grows code (copy code)) (h : Keeps length slots copy) (greedy : Bool) :
    Keeps length slots (Code.loop greedy size copy) := by
  intro code hi hb
  have hbody := hi.of_grows (closeLoop_grows code.slots code.pc (copy (code.enterLoop greedy size)))
  have hslot : code.slots < slots :=
    Nat.lt_of_lt_of_le (Nat.lt_succ_self _) (hbody.of_grows (hg _)).slots
  have hlast := hpc (code.enterLoop greedy size)
  have hend := hi.pc
  rw [enterLoop_pc] at hlast
  rw [Code.loop, closeLoop_pc, hlast] at hend
  have hentered : (code.enterLoop greedy size).Bounded length slots := by
    have hsplit : (code.pushSplit greedy (code.pc + size + 4)).Bounded length slots :=
      hb.pushSplit (by omega) (by omega)
    have hnext : (code.pushSplit greedy (code.pc + size + 4)).pc + 1 < length := by
      rw [pushSplit_pc]
      omega
    exact hsplit.push ⟨hnext, hslot⟩
  have hchecked : ((copy (code.enterLoop greedy size)).push
      (.checkProgress code.slots)).Bounded length slots :=
    (h _ hbody hentered).push ⟨by omega, hslot⟩
  exact hchecked.push (show code.pc < length by omega)

theorem Keeps.repeated (hpc : ∀ code, (copy code).pc = code.pc + size)
    (hg : ∀ code, Grows code (copy code)) (h : Keeps length slots copy) (greedy : Bool) (min : Nat)
    (max : Option Nat) :
    Keeps length slots fun code => code.repeated greedy min max size copy := by
  intro code hi hb
  dsimp only at hi ⊢
  rw [repeated_eq] at hi ⊢
  cases max with
  | none =>
    exact h.loop hpc hg greedy _ hi (h.repeat hg _ code (hi.of_grows (loop_grows hg greedy _)) hb)
  | some max =>
    have hoption : ∀ code, Grows code (Code.option greedy size copy code) :=
      option_grows hg greedy
    exact (h.option hpc greedy).repeat hoption _ _ hi
      (h.repeat hg _ code (hi.of_grows (repeat_grows hoption _ _)) hb)

end
end Code

section
variable {names : List (Option String)} {length slots : Nat}

open Code

/-- The captures of an element are groups that have names. -/
def Numbered (names : List (Option String)) (captures : List Capture) : Prop :=
  ∀ c ∈ captures, c.index ≤ names.length

theorem Numbered.slot_lt {captures : List Capture} (h : Numbered names captures)
    (hs : (names.length + 1) * 2 ≤ slots) {c : Capture} (hc : c ∈ captures) :
    c.index * 2 + 1 < slots := by
  have := h c hc
  omega

mutual

theorem Element.emit_bounded (hs : (names.length + 1) * 2 ≤ slots) (e : Element) (code : Code)
    (hr : e.Resolved names) (hn : Numbered names e.captures)
    (hi : (e.emit names code).Inside length slots) (hb : code.Bounded length slots) :
    (e.emit names code).Bounded length slots := by
  have hpc := hi.pc
  cases e with
  | char | set | bracket =>
    rw [Element.emit, push_pc] at hpc
    exact hb.push hpc
  | anchor span anchor =>
    cases anchor
    all_goals
      rw [Element.emit, push_pc] at hpc
      exact hb.push hpc
  | backreference span target =>
    obtain ⟨group, hle, hgroup⟩ := hr
    rw [Element.emit, push_pc] at hpc
    rw [Element.emit, hgroup]
    exact hb.push ⟨hpc, by rw [Option.getD_some]; omega⟩
  | group span capture branches =>
    cases capture with
    | none =>
      rw [Element.captures_group, Option.toList_none, List.nil_append] at hn
      rw [Element.emit, branchesEmit_pc] at hpc
      exact branchesEmit_bounded hs branches _ hpc code hr.2 hn hi hb
    | some capture =>
      rw [Element.captures_group, Option.toList_some, List.singleton_append] at hn
      have hslot : capture.index * 2 + 1 < slots := Numbered.slot_lt hn hs List.mem_cons_self
      have hbody := hi.of_grows (push_grows _ _)
      have hopened := hbody.of_grows (branchesEmit_grows _ _ _ _)
      rw [Element.emit, push_pc] at hpc
      have hstop := hbody.pc
      rw [branchesEmit_pc] at hstop
      have hopen : (code.push (.save (capture.index * 2))).Bounded length slots := by
        have hnext := hopened.pc
        rw [push_pc] at hnext
        exact hb.push ⟨hnext, by omega⟩
      have hinside := branchesEmit_bounded hs branches _ hstop _ hr.2
        (fun c hc => hn c (List.mem_cons_of_mem _ hc)) hbody hopen
      exact hinside.push ⟨hpc, hslot⟩
  | look span direction negate branches =>
    rw [Element.captures_look] at hn
    have hbody := hi.of_grows (push_grows _ _)
    have hopened := hbody.of_grows (branchesEmit_grows _ _ _ _)
    have hnext := hopened.pc
    have hstop := hbody.pc
    rw [push_pc] at hnext
    rw [Element.emit, push_pc, branchesEmit_pc, push_pc] at hpc
    rw [branchesEmit_pc, push_pc] at hstop
    have hopen : (code.push (.look (direction == .behind) negate
        (code.pc + 1 + branchesSize branches + 1))).Bounded length slots := hb.push ⟨hnext, hpc⟩
    exact (branchesEmit_bounded hs branches _ hstop _ hr.2 hn hbody hopen).push trivial
  | quantifier span min max greedy inner =>
    rw [Element.captures_quantifier] at hn
    rw [Element.Resolved] at hr
    rw [Element.emit_quantifier] at hi ⊢
    split
    · exact hb
    · rename_i hmax
      rw [if_neg hmax] at hr hi
      have hcopy : Keeps length slots (inner.emitCopy names) := by
        intro code hi hb
        have hcleared := hi.of_grows (inner.emit_grows names _)
        refine Element.emit_bounded hs inner _ hr hn hi (hb.pushClears (fun slot hslot => ?_) hcleared.pc)
        rw [captureSlots_eq, List.mem_flatMap] at hslot
        obtain ⟨c, hc, hslot⟩ := hslot
        have hlast := Numbered.slot_lt hn hs hc
        rcases List.mem_pair.mp hslot with rfl | rfl <;> omega
      exact hcopy.repeated (inner.emitCopy_pc names) (inner.emitCopy_grows names) greedy min max
        code hi hb

theorem Branch.emit_bounded (hs : (names.length + 1) * 2 ≤ slots) (b : Branch) (code : Code)
    (hr : b.Resolved names) (hn : Numbered names (b.elements.flatMap Element.captures))
    (hi : (b.emit names code).Inside length slots) (hb : code.Bounded length slots) :
    (b.emit names code).Bounded length slots := by
  cases b with
  | mk span elements => exact elementsEmit_bounded hs elements code hr hn hi hb

theorem elementsEmit_bounded (hs : (names.length + 1) * 2 ≤ slots) (es : List Element)
    (code : Code) (hr : elementsResolved names es) (hn : Numbered names (es.flatMap Element.captures))
    (hi : (elementsEmit names es code).Inside length slots) (hb : code.Bounded length slots) :
    (elementsEmit names es code).Bounded length slots := by
  cases es with
  | nil => exact hb
  | cons e es =>
    rw [List.flatMap_cons] at hn
    have hfirst := hi.of_grows (elementsEmit_grows names es _)
    exact elementsEmit_bounded hs es _ hr.2 (fun c hc => hn c (List.mem_append_right _ hc)) hi
      (Element.emit_bounded hs e code hr.1 (fun c hc => hn c (List.mem_append_left _ hc)) hfirst hb)

theorem branchesEmit_bounded (hs : (names.length + 1) * 2 ≤ slots) (bs : List Branch) (stop : Nat)
    (hstop : stop < length) (code : Code) (hr : branchesResolved names bs)
    (hn : Numbered names (branchesCaptures bs))
    (hi : (branchesEmit names stop bs code).Inside length slots) (hb : code.Bounded length slots) :
    (branchesEmit names stop bs code).Bounded length slots := by
  match bs with
  | [] => exact hb
  | [b] =>
    rw [branchesCaptures, List.flatMap_singleton] at hn
    exact Branch.emit_bounded hs b code hr.1 hn hi hb
  | b :: b' :: bs =>
    rw [branchesCaptures, List.flatMap_cons] at hn
    rw [branchesEmit_cons_cons] at hi ⊢
    have hchoice := hi.of_grows (branchesEmit_grows names stop (b' :: bs) _)
    have hbranch := hchoice.of_grows (push_grows _ _)
    have hnext := hchoice.pc
    rw [Branch.emitChoice, push_pc, Branch.emit_pc, pushSplit_pc] at hnext
    have hsplit : (code.pushSplit true (code.pc + b.size + 2)).Bounded length slots :=
      hb.pushSplit (by omega) (by omega)
    have hfirst := Branch.emit_bounded hs b _ hr.1 (fun c hc => hn c (List.mem_append_left _ hc))
      hbranch hsplit
    exact branchesEmit_bounded hs (b' :: bs) stop hstop _ hr.2
      (fun c hc => hn c (List.mem_append_right _ hc)) hi (hfirst.push hstop)

end
end

/-- What holds of every program: there is something to begin with, slots for all groups, and nothing
points out of it. -/
structure Program.Sound (p : Program) : Prop where
  nonempty : 0 < p.insts.size
  slots : (p.groupCount + 1) * 2 ≤ p.slotCount
  bounded : ∀ (i : Nat) (inst : Inst), p.insts[i]? = some inst → inst.Bounded p.insts.size p.slotCount i

theorem compile_sound {unicode multiline : Bool} {tree : PatternTree} {program : Program}
    (hw : tree.WellFormed unicode) (hc : compile multiline tree = .ok program) :
    program.Sound := by
  have hresolved := hw.resolved hc
  obtain ⟨_, _, _, rfl⟩ := compile_cases hc
  have hsize : (tree.code.push .accept).insts.size = tree.code.pc + 1 := Code.push_pc _ _
  have hslots : (tree.names.length + 1) * 2 ≤ tree.code.slots := tree.code_grows.slots
  have hnumbered : Numbered tree.names (branchesCaptures tree.pattern.branches) := by
    intro c hcap
    rw [← Pattern.captures_eq] at hcap
    exact (hw.index_le hcap).2
  refine ⟨by rw [hsize]; exact Nat.succ_pos _, hslots, ?_⟩
  dsimp only
  rw [hsize]
  have hinside : tree.code.Inside (tree.code.pc + 1) tree.code.slots :=
    ⟨Nat.lt_succ_self _, Nat.le_refl _⟩
  have hstop : branchesSize tree.pattern.branches < tree.code.pc + 1 := by
    rw [PatternTree.code, branchesEmit_pc]
    omega
  have hblank : tree.blank.Bounded (tree.code.pc + 1) tree.code.slots := by
    simp [Code.Bounded, PatternTree.blank]
  have hcode := branchesEmit_bounded hslots tree.pattern.branches _ hstop tree.blank hresolved
    hnumbered hinside hblank
  exact hcode.push trivial

end RegexInsight
