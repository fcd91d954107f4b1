import Mathlib.Data.List.Basic
import RegexInsight.Compile

/-! Where the code of a tree stands. Writing an element leaves what was written before as it is, adds
as many instructions as the size of the element says, and takes its loop slots from the next free
one on. -/
namespace RegexInsight
namespace Code

/-- The code `after` begins with the instructions of `before` and has no fewer slots. -/
structure Grows (before after : Code) : Prop where
  insts : before.insts.toList <+: after.insts.toList
  slots : before.slots ≤ after.slots

theorem Grows.refl (code : Code) : Grows code code := ⟨List.prefix_rfl, Nat.le_refl _⟩

theorem Grows.trans {a b c : Code} (h₁ : Grows a b) (h₂ : Grows b c) : Grows a c :=
  ⟨h₁.insts.trans h₂.insts, Nat.le_trans h₁.slots h₂.slots⟩

@[simp] theorem push_pc (inst : Inst) (code : Code) : (code.push inst).pc = code.pc + 1 := by
  simp [push, pc]

@[simp] theorem push_slots (inst : Inst) (code : Code) : (code.push inst).slots = code.slots := rfl

theorem push_grows (inst : Inst) (code : Code) : Grows code (code.push inst) :=
  ⟨by simp [push], Nat.le_refl _⟩

@[simp] theorem pushSplit_pc (greedy : Bool) (exit : Nat) (code : Code) :
    (code.pushSplit greedy exit).pc = code.pc + 1 := push_pc _ _

theorem pushSplit_grows (greedy : Bool) (exit : Nat) (code : Code) :
    Grows code (code.pushSplit greedy exit) := push_grows _ _

@[simp] theorem pushClears_nil (code : Code) : code.pushClears [] = code := rfl

theorem pushClears_cons (slot : Nat) (slots : List Nat) (code : Code) :
    code.pushClears (slot :: slots) = (code.push (.clear slot)).pushClears slots := rfl

@[simp] theorem pushClears_pc (slots : List Nat) (code : Code) :
    (code.pushClears slots).pc = code.pc + slots.length := by
  induction slots generalizing code with
  | nil => rfl
  | cons slot slots ih =>
    rw [pushClears_cons, ih, push_pc, List.length_cons]
    omega

@[simp] theorem pushClears_slots (slots : List Nat) (code : Code) :
    (code.pushClears slots).slots = code.slots := by
  induction slots generalizing code with
  | nil => rfl
  | cons slot slots ih => rw [pushClears_cons, ih, push_slots]

theorem pushClears_grows (slots : List Nat) (code : Code) :
    Grows code (code.pushClears slots) := by
  induction slots generalizing code with
  | nil => exact .refl _
  | cons slot slots ih => exact (push_grows _ _).trans (ih _)

/-- A loop is entered with a split and with the position in a slot of its own. -/
def enterLoop (greedy : Bool) (size : Nat) (code : Code) : Code :=
  let entered := (code.pushSplit greedy (code.pc + size + 4)).push (.save code.slots)
  { entered with slots := code.slots + 1 }

/-- A loop ends with the question whether anything was consumed and with the way back to `head`. -/
def closeLoop (slot head : Nat) (code : Code) : Code :=
  (code.push (.checkProgress slot)).push (.jump head)

def loop (greedy : Bool) (size : Nat) (copy : Code → Code) (code : Code) : Code :=
  (copy (code.enterLoop greedy size)).closeLoop code.slots code.pc

/-- A copy that may be left out. -/
def option (greedy : Bool) (size : Nat) (copy : Code → Code) (code : Code) : Code :=
  copy (code.pushSplit greedy (code.pc + 1 + size))

theorem repeated_eq (greedy : Bool) (min : Nat) (max : Option Nat) (size : Nat)
    (copy : Code → Code) (code : Code) :
    code.repeated greedy min max size copy =
      match max with
      | some max => Nat.repeat (option greedy size copy) (max - min)
          (Nat.repeat copy (if size = 0 then 0 else min) code)
      | none => loop greedy size copy (Nat.repeat copy (if size = 0 then 0 else min) code) := by
  cases max <;> rfl

@[simp] theorem enterLoop_pc (greedy : Bool) (size : Nat) (code : Code) :
    (code.enterLoop greedy size).pc = code.pc + 2 := by
  simp [enterLoop, pc, push, pushSplit]

theorem enterLoop_grows (greedy : Bool) (size : Nat) (code : Code) :
    Grows code (code.enterLoop greedy size) :=
  ⟨((pushSplit_grows _ _ _).trans (push_grows _ _)).insts, Nat.le_succ _⟩

@[simp] theorem closeLoop_pc (slot head : Nat) (code : Code) :
    (code.closeLoop slot head).pc = code.pc + 2 := by
  simp [closeLoop]

theorem closeLoop_grows (slot head : Nat) (code : Code) :
    Grows code (code.closeLoop slot head) := (push_grows _ _).trans (push_grows _ _)

section
variable {copy : Code → Code} {size : Nat}

theorem repeat_pc (hc : ∀ code, (copy code).pc = code.pc + size) (count : Nat) (code : Code) :
    (Nat.repeat copy count code).pc = code.pc + count * size := by
  induction count with
  | zero => simp [Nat.repeat]
  | succ count ih =>
    rw [Nat.repeat, hc, ih, Nat.succ_mul, Nat.add_assoc]

theorem repeat_grows (hc : ∀ code, Grows code (copy code)) (count : Nat) (code : Code) :
    Grows code (Nat.repeat copy count code) := by
  induction count with
  | zero => exact .refl _
  | succ count ih => exact ih.trans (hc _)

theorem repeat_id (hc : ∀ code, copy code = code) (count : Nat) (code : Code) :
    Nat.repeat copy count code = code := by
  induction count with
  | zero => rfl
  | succ count ih => rw [Nat.repeat, hc, ih]

theorem loop_grows (hc : ∀ code, Grows code (copy code)) (greedy : Bool) (code : Code) :
    Grows code (loop greedy size copy code) :=
  (enterLoop_grows _ _ _).trans ((hc _).trans (closeLoop_grows _ _ _))

theorem option_grows (hc : ∀ code, Grows code (copy code)) (greedy : Bool) (code : Code) :
    Grows code (option greedy size copy code) := (pushSplit_grows _ _ _).trans (hc _)

theorem repeated_grows (hc : ∀ code, Grows code (copy code)) (greedy : Bool) (min : Nat)
    (max : Option Nat) (code : Code) : Grows code (code.repeated greedy min max size copy) := by
  rw [repeated_eq]
  cases max with
  | none => exact (repeat_grows hc _ _).trans (loop_grows hc _ _)
  | some max => exact (repeat_grows hc _ _).trans (repeat_grows (option_grows hc _) _ _)

theorem repeated_pc (hc : ∀ code, (copy code).pc = code.pc + size) (greedy : Bool) (min : Nat)
    (max : Option Nat) (code : Code) :
    (code.repeated greedy min max size copy).pc = code.pc + (min * size +
      match max with
      | none => size + 4
      | some max => (max - min) * (size + 1)) := by
  have hmin : (if size = 0 then 0 else min) * size = min * size := by
    split
    · simp [*]
    · rfl
  rw [repeated_eq]
  cases max with
  | none =>
    rw [loop, closeLoop_pc, hc, enterLoop_pc, repeat_pc hc, hmin]
    dsimp only
    omega
  | some max =>
    have ho : ∀ code, (option greedy size copy code).pc = code.pc + (size + 1) := fun code => by
      rw [option, hc, pushSplit_pc]
      omega
    rw [repeat_pc ho, repeat_pc hc, hmin, Nat.add_assoc]

end

end Code

/-- Writes one iteration: the clears, and then the element. -/
def Element.emitCopy (names : List (Option String)) (e : Element) (code : Code) : Code :=
  e.emit names (code.pushClears (captureSlots e))

/-- Writes an alternative that others follow. -/
def Branch.emitChoice (names : List (Option String)) (stop : Nat) (b : Branch) (code : Code) :
    Code :=
  (b.emit names (code.pushSplit true (code.pc + b.size + 2))).push (.jump stop)

theorem branchesEmit_cons_cons (names : List (Option String)) (stop : Nat) (b b' : Branch)
    (bs : List Branch) (code : Code) :
    branchesEmit names stop (b :: b' :: bs) code =
      branchesEmit names stop (b' :: bs) (b.emitChoice names stop code) := rfl

theorem branchesSize_cons_cons (b b' : Branch) (bs : List Branch) :
    branchesSize (b :: b' :: bs) = b.size + 2 + branchesSize (b' :: bs) := rfl

theorem Element.emit_quantifier (names : List (Option String)) (span : Span) (min : Nat)
    (max : Option Nat) (greedy : Bool) (inner : Element) (code : Code) :
    (quantifier span min max greedy inner).emit names code =
      if max = some 0 then code
      else code.repeated greedy min max ((captureSlots inner).length + inner.size)
        (inner.emitCopy names) := rfl

mutual

theorem Element.emit_pc (names : List (Option String)) (e : Element) (code : Code) :
    (e.emit names code).pc = code.pc + e.size := by
  cases e with
  | char | set | bracket | backreference => exact Code.push_pc _ _
  | anchor span anchor => cases anchor <;> exact Code.push_pc _ _
  | group span capture branches =>
    cases capture with
    | none => exact branchesEmit_pc names _ branches code
    | some capture =>
      rw [Element.emit, Code.push_pc, branchesEmit_pc names _ branches, Code.push_pc, Element.size]
      omega
  | look span direction negate branches =>
    rw [Element.emit, Code.push_pc, branchesEmit_pc names _ branches, Code.push_pc, Element.size]
    omega
  | quantifier span min max greedy inner =>
    have hcopy : ∀ code, (inner.emitCopy names code).pc =
        code.pc + ((captureSlots inner).length + inner.size) := fun code => by
      rw [Element.emitCopy, Element.emit_pc names inner, Code.pushClears_pc, Nat.add_assoc]
    rw [Element.emit_quantifier, Element.size]
    split
    · rfl
    · rw [Code.repeated_pc hcopy]
      cases max <;> rfl

theorem Branch.emit_pc (names : List (Option String)) (b : Branch) (code : Code) :
    (b.emit names code).pc = code.pc + b.size := by
  cases b with
  | mk span elements => exact elementsEmit_pc names elements code

theorem elementsEmit_pc (names : List (Option String)) (es : List Element) (code : Code) :
    (elementsEmit names es code).pc = code.pc + elementsSize es := by
  cases es with
  | nil => rfl
  | cons e es =>
    rw [elementsEmit, elementsEmit_pc names es, Element.emit_pc names e, elementsSize, Nat.add_assoc]

theorem branchesEmit_pc (names : List (Option String)) (stop : Nat) (bs : List Branch)
    (code : Code) : (branchesEmit names stop bs code).pc = code.pc + branchesSize bs := by
  match bs with
  | [] => rfl
  | [b] => exact Branch.emit_pc names b code
  | b :: b' :: bs =>
    rw [branchesEmit_cons_cons, branchesEmit_pc names stop (b' :: bs), Branch.emitChoice,
      Code.push_pc, Branch.emit_pc names b, Code.pushSplit_pc, branchesSize_cons_cons]
    omega

end

mutual

theorem Element.emit_grows (names : List (Option String)) (e : Element) (code : Code) :
    code.Grows (e.emit names code) := by
  cases e with
  | char | set | bracket | backreference => exact Code.push_grows _ _
  | anchor span anchor => cases anchor <;> exact Code.push_grows _ _
  | group span capture branches =>
    cases capture with
    | none => exact branchesEmit_grows names _ branches code
    | some capture =>
      exact (Code.push_grows _ _).trans
        ((branchesEmit_grows names _ branches _).trans (Code.push_grows _ _))
  | look span direction negate branches =>
    exact (Code.push_grows _ _).trans
      ((branchesEmit_grows names _ branches _).trans (Code.push_grows _ _))
  | quantifier span min max greedy inner =>
    rw [Element.emit_quantifier]
    split
    · exact .refl _
    · exact Code.repeated_grows
        (fun _ => (Code.pushClears_grows _ _).trans (Element.emit_grows names inner _)) _ _ _ _

theorem Branch.emit_grows (names : List (Option String)) (b : Branch) (code : Code) :
    code.Grows (b.emit names code) := by
  cases b with
  | mk span elements => exact elementsEmit_grows names elements code

theorem elementsEmit_grows (names : List (Option String)) (es : List Element) (code : Code) :
    code.Grows (elementsEmit names es code) := by
  cases es with
  | nil => exact .refl _
  | cons e es => exact (Element.emit_grows names e _).trans (elementsEmit_grows names es _)

theorem branchesEmit_grows (names : List (Option String)) (stop : Nat) (bs : List Branch)
    (code : Code) : code.Grows (branchesEmit names stop bs code) := by
  match bs with
  | [] => exact .refl _
  | [b] => exact Branch.emit_grows names b code
  | b :: b' :: bs =>
    exact (Code.pushSplit_grows _ _ _).trans ((Branch.emit_grows names b _).trans
      ((Code.push_grows _ _).trans (branchesEmit_grows names stop (b' :: bs) _)))

end

theorem Element.emitCopy_pc (names : List (Option String)) (e : Element) (code : Code) :
    (e.emitCopy names code).pc = code.pc + ((captureSlots e).length + e.size) := by
  rw [emitCopy, emit_pc, Code.pushClears_pc, Nat.add_assoc]

theorem Element.emitCopy_grows (names : List (Option String)) (e : Element) (code : Code) :
    code.Grows (e.emitCopy names code) :=
  (Code.pushClears_grows _ _).trans (emit_grows names e _)

mutual

/-- An element without instructions leaves no trace in the code. -/
theorem Element.emit_of_size_eq_zero (names : List (Option String)) (e : Element) (code : Code)
    (h : e.size = 0) : e.emit names code = code := by
  cases e with
  | char | set | bracket | backreference | anchor | look => simp [Element.size] at h
  | group span capture branches =>
    cases capture with
    | none => exact branchesEmit_of_size_eq_zero names _ branches code h
    | some capture => simp [Element.size] at h
  | quantifier span min max greedy inner =>
    rw [Element.size] at h
    rw [Element.emit_quantifier]
    split at h
    · exact if_pos ‹_›
    · rw [if_neg ‹_›, Code.repeated_eq]
      unfold repeatedSize at h
      obtain ⟨hmin, hmax⟩ := Nat.add_eq_zero_iff.mp h
      cases max with
      | none => simp at hmax
      | some max =>
        have hnone : max - min = 0 := (Nat.mul_eq_zero.mp hmax).resolve_right (Nat.succ_ne_zero _)
        have hcopies : (if (captureSlots inner).length + inner.size = 0 then 0 else min) = 0 := by
          rcases Nat.mul_eq_zero.mp hmin with hm | hs <;> simp [*]
        dsimp only
        rw [hnone, hcopies]
        rfl

theorem Branch.emit_of_size_eq_zero (names : List (Option String)) (b : Branch) (code : Code)
    (h : b.size = 0) : b.emit names code = code := by
  cases b with
  | mk span elements => exact elementsEmit_of_size_eq_zero names elements code h

theorem elementsEmit_of_size_eq_zero (names : List (Option String)) (es : List Element)
    (code : Code) (h : elementsSize es = 0) : elementsEmit names es code = code := by
  cases es with
  | nil => rfl
  | cons e es =>
    rw [elementsSize, Nat.add_eq_zero_iff] at h
    rw [elementsEmit, Element.emit_of_size_eq_zero names e code h.1,
      elementsEmit_of_size_eq_zero names es code h.2]

theorem branchesEmit_of_size_eq_zero (names : List (Option String)) (stop : Nat) (bs : List Branch)
    (code : Code) (h : branchesSize bs = 0) : branchesEmit names stop bs code = code := by
  match bs with
  | [] => rfl
  | [b] => exact Branch.emit_of_size_eq_zero names b code h
  | b :: b' :: bs =>
    rw [branchesSize_cons_cons] at h
    omega

end

/-- That copies without instructions are not written one by one makes no difference. -/
theorem Element.repeat_emitCopy (names : List (Option String)) (e : Element) (count : Nat)
    (code : Code) :
    Nat.repeat (e.emitCopy names)
        (if (captureSlots e).length + e.size = 0 then 0 else count) code =
      Nat.repeat (e.emitCopy names) count code := by
  split
  · rename_i h
    obtain ⟨hclears, hsize⟩ := Nat.add_eq_zero_iff.mp h
    have hid : ∀ code, e.emitCopy names code = code := fun code => by
      rw [emitCopy, List.length_eq_zero_iff.mp hclears, Code.pushClears_nil,
        emit_of_size_eq_zero names e code hsize]
    rw [Code.repeat_id hid, Code.repeat_id hid]
  · rfl

/-- The code in which the slots of the groups are taken and nothing is written. -/
def PatternTree.blank (tree : PatternTree) : Code := ⟨#[], (tree.names.length + 1) * 2⟩

def PatternTree.code (tree : PatternTree) : Code :=
  branchesEmit tree.names (branchesSize tree.pattern.branches) tree.pattern.branches tree.blank

theorem PatternTree.code_grows (tree : PatternTree) : tree.blank.Grows tree.code :=
  branchesEmit_grows _ _ _ _

theorem compile_cases {multiline : Bool} {tree : PatternTree} {program : Program}
    (h : compile multiline tree = .ok program) :
    ∃ n, branchesCheck tree.names tree.pattern.branches 0 = .ok n ∧ n + 1 ≤ maxProgramLength ∧
      program = ⟨(tree.code.push .accept).insts, tree.names.length, (tree.code.push .accept).slots,
        !multiline && tree.pattern.branches.all Branch.startsAnchored⟩ := by
  unfold compile at h
  dsimp only at h
  split at h
  · cases h
  · rename_i n hcheck
    split at h
    · cases h
    · rename_i hfitting
      unfold fitting at hfitting
      split at hfitting
      · exact ⟨n, hcheck, ‹_›, (Except.ok.inj h).symm⟩
      · cases hfitting

theorem compile_of_check (multiline : Bool) {tree : PatternTree} {n : Nat}
    (hcheck : branchesCheck tree.names tree.pattern.branches 0 = .ok n)
    (hle : n + 1 ≤ maxProgramLength) : ∃ program, compile multiline tree = .ok program := by
  unfold compile
  dsimp only
  rw [hcheck]
  simp only [fitting, if_pos hle]
  exact ⟨_, rfl⟩

theorem ok_of_toOption_map {ε α β : Type} {x : Except ε α} {f : α → β} {b : β}
    (h : x.toOption.map f = some b) : ∃ a, x = .ok a ∧ f a = b := by
  cases x with
  | error e => cases h
  | ok a => exact ⟨a, rfl, Option.some.inj h⟩

theorem ok_of_parse_compile {unicode multiline : Bool} {source : List Char} {α : Type}
    {f : Program → α} {a : α} (h : ((parse unicode source).toOption.bind fun tree =>
      (compile multiline tree).toOption.map f) = some a) :
    ∃ tree program, parse unicode source = .ok tree ∧ compile multiline tree = .ok program ∧
      f program = a := by
  obtain ⟨tree, htree, hprogram⟩ := Option.bind_eq_some_iff.mp h
  obtain ⟨program, hc, hf⟩ := ok_of_toOption_map hprogram
  cases hp : parse unicode source with
  | error e =>
    rw [hp] at htree
    cases htree
  | ok found =>
    rw [hp] at htree
    cases htree
    exact ⟨tree, program, rfl, hc, hf⟩

end RegexInsight
