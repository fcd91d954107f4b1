import RegexInsight.Proofs.Layout

/-! Instructions that are put in the place of others. Whatever is written behind an instruction stays as
it is when that one is replaced, so the target of a jump may be filled in as soon as it is known. -/
namespace RegexInsight
namespace Code

def patch (pc : Nat) (inst : Inst) (code : Code) : Code :=
  { code with insts := code.insts.setIfInBounds pc inst }

def patchSplit (greedy : Bool) (pc exit : Nat) (code : Code) : Code :=
  code.patch pc (if greedy then .split (pc + 1) exit else .split exit (pc + 1))

def patchJumps (jumps : List Nat) (stop : Nat) (code : Code) : Code :=
  jumps.foldl (fun code pc => code.patch pc (.jump stop)) code

@[simp] theorem patch_pc (pc : Nat) (inst : Inst) (code : Code) :
    (code.patch pc inst).pc = code.pc := by
  simp [patch, Code.pc]

@[simp] theorem patch_slots (pc : Nat) (inst : Inst) (code : Code) :
    (code.patch pc inst).slots = code.slots := rfl

@[simp] theorem patchSplit_pc (greedy : Bool) (pc exit : Nat) (code : Code) :
    (code.patchSplit greedy pc exit).pc = code.pc := patch_pc _ _ _

theorem pc_lt_push (code : Code) (inst : Inst) : code.pc < (code.push inst).pc := by
  rw [push_pc]
  exact Nat.lt_succ_self _

theorem push_patch {pc : Nat} {code : Code} (h : pc < code.pc) (old new : Inst) :
    (code.patch pc old).push new = (code.push new).patch pc old := by
  unfold push patch
  rw [Array.push_eq_append, Array.push_eq_append, Array.setIfInBounds_append_left h]

/-- An instruction that has yet to learn its targets may be written twice. -/
theorem patch_last (old new : Inst) (code : Code) :
    (code.push old).patch code.pc new = code.push new := by
  unfold push patch pc
  rw [Array.push_eq_append, Array.push_eq_append,
    Array.setIfInBounds_append_right (Nat.le_refl _), Nat.sub_self]
  rfl

@[simp] theorem patchJumps_pc (jumps : List Nat) (stop : Nat) (code : Code) :
    (code.patchJumps jumps stop).pc = code.pc := by
  induction jumps generalizing code with
  | nil => rfl
  | cons jump jumps ih =>
    unfold patchJumps at *
    rw [List.foldl_cons, ih, patch_pc]

theorem repeat_succ (copy : Code → Code) (count : Nat) :
    Nat.repeat copy (count + 1) = fun code => Nat.repeat copy count (copy code) := by
  funext code
  induction count with
  | zero => rfl
  | succ count ih => rw [Nat.repeat, ih, Nat.repeat]

/-- An operation that leaves what was written as it is, and does not read it either. -/
structure Adds (f : Code → Code) : Prop where
  pc_le : ∀ code, code.pc ≤ (f code).pc
  patch : ∀ {code : Code} {pc : Nat} (inst : Inst), pc < code.pc →
    f (code.patch pc inst) = (f code).patch pc inst

namespace Adds

variable {f g copy : Code → Code}

theorem comp (hf : Adds f) (hg : Adds g) : Adds fun code => g (f code) where
  pc_le code := Nat.le_trans (hf.pc_le code) (hg.pc_le _)
  patch inst h := by rw [hf.patch inst h, hg.patch inst (Nat.lt_of_lt_of_le h (hf.pc_le _))]

/-- What is written may depend on the place that it is written at and on the next slot. -/
theorem placed {f : Nat → Nat → Code → Code} (h : ∀ pc slots, Adds (f pc slots)) :
    Adds fun code => f code.pc code.slots code where
  pc_le code := (h _ _).pc_le code
  patch {code pc} inst hlt := by rw [patch_pc, patch_slots, (h _ _).patch inst hlt]

theorem id : Adds fun code => code := ⟨fun _ => Nat.le_refl _, fun _ _ => rfl⟩

theorem push (inst : Inst) : Adds (push inst) where
  pc_le code := by rw [push_pc]; exact Nat.le_succ _
  patch old h := push_patch h old inst

theorem pushPlaced (inst : Nat → Nat → Inst) :
    Adds fun code => code.push (inst code.pc code.slots) :=
  placed (f := fun pc slots => Code.push (inst pc slots)) fun _ _ => push _

theorem takeSlot : Adds fun code => { code with slots := code.slots + 1 } :=
  ⟨fun _ => Nat.le_refl _, fun _ _ => rfl⟩

theorem pushSplit (greedy : Bool) (exit : Nat → Nat) :
    Adds fun code => code.pushSplit greedy (exit code.pc) :=
  pushPlaced fun pc _ => if greedy then .split (pc + 1) (exit pc) else .split (exit pc) (pc + 1)

theorem pushClears (slots : List Nat) : Adds (pushClears slots) := by
  induction slots with
  | nil => exact id
  | cons slot slots ih => exact (push _).comp ih

theorem copies (h : Adds copy) (count : Nat) : Adds (Nat.repeat copy count) := by
  induction count with
  | zero => exact id
  | succ count ih => exact ih.comp h

theorem option (h : Adds copy) (greedy : Bool) (size : Nat) : Adds (option greedy size copy) :=
  (pushSplit greedy fun pc => pc + 1 + size).comp h

theorem loop (h : Adds copy) (greedy : Bool) (size : Nat) : Adds (loop greedy size copy) := by
  have hentered : Adds (enterLoop greedy size) :=
    ((pushSplit greedy fun pc => pc + size + 4).comp (pushPlaced fun _ slots => .save slots)).comp
      takeSlot
  exact placed (f := fun head slot code => (copy (code.enterLoop greedy size)).closeLoop slot head)
    fun _ _ => (hentered.comp h).comp ((push _).comp (push _))

theorem repeated (h : Adds copy) (greedy : Bool) (min : Nat) (max : Option Nat) (size : Nat) :
    Adds fun code => code.repeated greedy min max size copy := by
  cases max with
  | none => exact (h.copies _).comp (h.loop greedy size)
  | some max => exact (h.copies _).comp ((h.option greedy size).copies _)

/-- An instruction may be written when the place is come to and told its targets behind what follows. -/
theorem filled (h : Adds f) (old new : Inst) (code : Code) :
    (f (code.push old)).patch code.pc new = f (code.push new) := by
  rw [← h.patch new (code.pc_lt_push old), patch_last]

theorem filledSplit (h : Adds f) (greedy : Bool) (exit : Nat) (code : Code) :
    (f (code.push (.split 0 0))).patchSplit greedy code.pc exit = f (code.pushSplit greedy exit) :=
  h.filled _ _ _

theorem patchJumps (h : Adds f) {jumps : List Nat} {code : Code} (hj : ∀ pc ∈ jumps, pc < code.pc)
    (stop : Nat) : f (code.patchJumps jumps stop) = (f code).patchJumps jumps stop := by
  induction jumps generalizing code with
  | nil => rfl
  | cons jump jumps ih =>
    obtain ⟨hjump, hjumps⟩ := List.forall_mem_cons.mp hj
    unfold Code.patchJumps at *
    rw [List.foldl_cons, List.foldl_cons, ih (by simpa using hjumps), h.patch _ hjump]

end Adds
end Code

theorem emitChoice_adds {names : List (Option String)} {b : Branch} (h : Code.Adds (b.emit names))
    (stop : Nat) : Code.Adds (b.emitChoice names stop) :=
  (Code.Adds.pushSplit true fun pc => pc + b.size + 2).comp (h.comp (.push _))

mutual

theorem Element.emit_adds (names : List (Option String)) (e : Element) :
    Code.Adds (e.emit names) := by
  cases e with
  | char | set | bracket | backreference => exact .push _
  | anchor span anchor => cases anchor <;> exact .push _
  | group span capture branches =>
    have hbranches : Code.Adds fun code =>
        branchesEmit names (code.pc + branchesSize branches) branches code :=
      .placed (f := fun pc _ => branchesEmit names (pc + branchesSize branches) branches)
        fun _ _ => branchesEmit_adds names _ branches
    cases capture with
    | none => exact hbranches
    | some capture => exact (Code.Adds.push _).comp (hbranches.comp (.push _))
  | look span direction negate branches =>
    exact .placed (f := fun pc _ code => (branchesEmit names (pc + 1 + branchesSize branches) branches
      (code.push (.look (direction == .behind) negate (pc + 1 + branchesSize branches + 1)))).push
        .accept)
      fun _ _ => (Code.Adds.push _).comp ((branchesEmit_adds names _ branches).comp (.push _))
  | quantifier span min max greedy inner =>
    by_cases hmax : max = some 0
    · subst hmax
      exact .id
    · have hcopy : Code.Adds (inner.emitCopy names) :=
        (Code.Adds.pushClears _).comp (Element.emit_adds names inner)
      have hemit : Element.emit names (.quantifier span min max greedy inner) = fun code =>
          code.repeated greedy min max ((captureSlots inner).length + inner.size)
            (inner.emitCopy names) := by
        funext code
        rw [Element.emit_quantifier, if_neg hmax]
      rw [hemit]
      exact hcopy.repeated greedy min max _

theorem Branch.emit_adds (names : List (Option String)) (b : Branch) : Code.Adds (b.emit names) := by
  cases b with
  | mk span elements => exact elementsEmit_adds names elements

theorem elementsEmit_adds (names : List (Option String)) (es : List Element) :
    Code.Adds (elementsEmit names es) := by
  cases es with
  | nil => exact .id
  | cons e es => exact (Element.emit_adds names e).comp (elementsEmit_adds names es)

theorem branchesEmit_adds (names : List (Option String)) (stop : Nat) (bs : List Branch) :
    Code.Adds (branchesEmit names stop bs) := by
  match bs with
  | [] => exact .id
  | [b] => exact Branch.emit_adds names b
  | b :: b' :: bs =>
    exact (emitChoice_adds (Branch.emit_adds names b) stop).comp
      (branchesEmit_adds names stop (b' :: bs))

end

theorem Element.emitCopy_adds (names : List (Option String)) (e : Element) :
    Code.Adds (e.emitCopy names) :=
  (Code.Adds.pushClears _).comp (e.emit_adds names)

/-- An alternative that others follow is written with neither of its targets. -/
theorem Branch.emitChoice_eq (names : List (Option String)) (stop : Nat) (b : Branch) (code : Code) :
    let after := b.emit names (code.push (.split 0 0))
    let closed := after.push (.jump 0)
    b.emitChoice names stop code =
      (closed.patchSplit true code.pc closed.pc).patch after.pc (.jump stop) := by
  intro after closed
  have hexit : closed.pc = code.pc + b.size + 2 := by
    rw [Code.push_pc, emit_pc, Code.push_pc]
    omega
  have hafter : after.pc = (b.emit names (code.pushSplit true closed.pc)).pc := by
    rw [emit_pc, emit_pc, Code.push_pc, Code.pushSplit_pc]
  have hclosed : closed.patchSplit true code.pc closed.pc =
      (b.emit names (code.pushSplit true closed.pc)).push (.jump 0) :=
    ((b.emit_adds names).comp (.push _)).filledSplit true _ code
  rw [hclosed, hafter, Code.patch_last, hexit]
  rfl

end RegexInsight
