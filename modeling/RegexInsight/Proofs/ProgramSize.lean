import RegexInsight.Proofs.TreeChecks

/-! How long a program is and how many slots it has. A program has one instruction more than its tree
with all repetitions written out. A star takes one slot and ends with one question whether anything
was consumed, so the slots behind those of the groups are as many as the stars that were written: a
star in a counted repetition is written once for each copy. -/
namespace RegexInsight

mutual

/-- The number of instructions that an element takes when its repetitions are written out. What
belongs to alternatives as a whole, a split and a jump for each but the last, is counted where the
alternatives are held. -/
def Element.unrolled : Element → Nat
  | .group _ none branches => branchesUnrolled branches + 2 * (branches.length - 1)
  | .group _ (some _) branches | .look _ _ _ branches =>
    2 + (branchesUnrolled branches + 2 * (branches.length - 1))
  | .quantifier _ min max _ inner =>
    if max = some 0 then 0
    else
      let iteration := 2 * inner.captures.length + inner.unrolled
      min * iteration +
        match max with
        | none => iteration + 4
        | some max => (max - min) * (iteration + 1)
  | .char .. | .set .. | .bracket .. | .anchor .. | .backreference .. => 1

def Branch.unrolled : Branch → Nat
  | .mk _ elements => elementsUnrolled elements

def elementsUnrolled : List Element → Nat
  | [] => 0
  | e :: es => e.unrolled + elementsUnrolled es

def branchesUnrolled : List Branch → Nat
  | [] => 0
  | b :: bs => b.unrolled + branchesUnrolled bs

end

def Pattern.unrolled (p : Pattern) : Nat :=
  branchesUnrolled p.branches + 2 * (p.branches.length - 1)

theorem captureSlots_length (e : Element) : (captureSlots e).length = 2 * e.captures.length := by
  simp [captureSlots_eq, List.length_flatMap, Nat.mul_comm]

mutual

theorem Element.size_eq_unrolled (e : Element) : e.size = e.unrolled := by
  cases e with
  | char | set | bracket | anchor | backreference => rfl
  | group span capture branches =>
    cases capture with
    | none => exact branchesSize_eq_unrolled branches
    | some capture =>
      rw [Element.size, Element.unrolled, branchesSize_eq_unrolled branches, Nat.add_comm]
  | look span direction negate branches =>
    rw [Element.size, Element.unrolled, branchesSize_eq_unrolled branches, Nat.add_comm]
  | quantifier span min max greedy inner =>
    rw [Element.size, Element.unrolled, captureSlots_length, Element.size_eq_unrolled inner]
    rfl

theorem Branch.size_eq_unrolled (b : Branch) : b.size = b.unrolled := by
  cases b with
  | mk span elements => exact elementsSize_eq_unrolled elements

theorem elementsSize_eq_unrolled (es : List Element) : elementsSize es = elementsUnrolled es := by
  cases es with
  | nil => rfl
  | cons e es =>
    rw [elementsSize, elementsUnrolled, Element.size_eq_unrolled e, elementsSize_eq_unrolled es]

theorem branchesSize_eq_unrolled (bs : List Branch) :
    branchesSize bs = branchesUnrolled bs + 2 * (bs.length - 1) := by
  match bs with
  | [] => rfl
  | [b] => exact Branch.size_eq_unrolled b
  | b :: b' :: bs =>
    rw [branchesSize_cons_cons, branchesUnrolled, Branch.size_eq_unrolled b,
      branchesSize_eq_unrolled (b' :: bs)]
    simp only [List.length_cons]
    omega

end

/-- Whether the instruction is the question at the end of a loop. -/
def Inst.closesLoop : Inst → Bool
  | .checkProgress _ => true
  | _ => false

/-- Each copy has the loops of the element, and a star is a loop itself. -/
def repeatedLoops (min : Nat) (max : Option Nat) (loops : Nat) : Nat :=
  min * loops +
    match max with
    | none => loops + 1
    | some max => (max - min) * loops

mutual

/-- The number of loops that are written for an element. -/
def Element.loops : Element → Nat
  | .group _ _ branches | .look _ _ _ branches => branchesLoops branches
  | .quantifier _ min max _ inner =>
    if max = some 0 then 0 else repeatedLoops min max inner.loops
  | .char .. | .set .. | .bracket .. | .anchor .. | .backreference .. => 0

def Branch.loops : Branch → Nat
  | .mk _ elements => elementsLoops elements

def elementsLoops : List Element → Nat
  | [] => 0
  | e :: es => e.loops + elementsLoops es

def branchesLoops : List Branch → Nat
  | [] => 0
  | b :: bs => b.loops + branchesLoops bs

end

namespace Code

/-- Between the two `count` loops were written: each took a slot and was closed. -/
structure Loops (count : Nat) (before after : Code) : Prop where
  slots : after.slots = before.slots + count
  closed : after.insts.countP Inst.closesLoop = before.insts.countP Inst.closesLoop + count

namespace Loops

variable {copy : Code → Code} {a b c : Code} {count more : Nat}

theorem refl (code : Code) : Loops 0 code code := ⟨rfl, rfl⟩

theorem trans (h₁ : Loops count a b) (h₂ : Loops more b c) : Loops (count + more) a c :=
  ⟨by rw [h₂.slots, h₁.slots, Nat.add_assoc], by rw [h₂.closed, h₁.closed, Nat.add_assoc]⟩

theorem push (inst : Inst) (code : Code) (h : inst.closesLoop = false) :
    Loops 0 code (code.push inst) :=
  ⟨rfl, by simp [Code.push, h]⟩

theorem pushSplit (greedy : Bool) (exit : Nat) (code : Code) :
    Loops 0 code (code.pushSplit greedy exit) := by
  refine push _ code ?_
  cases greedy <;> rfl

theorem push_after (h : Loops count a b) (inst : Inst) (hi : inst.closesLoop = false) :
    Loops count a (b.push inst) := h.trans (push inst b hi)

theorem after_zero (h : Loops 0 a b) (h₂ : Loops count b c) : Loops count a c := by
  rw [← Nat.zero_add count]
  exact h.trans h₂

theorem pushClears (slots : List Nat) (code : Code) : Loops 0 code (code.pushClears slots) := by
  induction slots generalizing code with
  | nil => exact refl code
  | cons slot slots ih => exact (push _ code rfl).trans (ih _)

theorem copies (h : ∀ code, Loops more code (copy code)) (count : Nat) (code : Code) :
    Loops (count * more) code (Nat.repeat copy count code) := by
  induction count with
  | zero =>
    rw [Nat.zero_mul]
    exact refl code
  | succ count ih =>
    rw [Nat.succ_mul]
    exact ih.trans (h _)

theorem option (h : ∀ code, Loops more code (copy code)) (greedy : Bool) (size : Nat) (code : Code) :
    Loops more code (Code.option greedy size copy code) :=
  (pushSplit greedy _ code).after_zero (h _)

/-- A loop takes its slot when it is entered and asks its question when it is closed. -/
theorem loop (h : ∀ code, Loops more code (copy code)) (greedy : Bool) (size : Nat) (code : Code) :
    Loops (more + 1) code (Code.loop greedy size copy code) := by
  have hbody := h (code.enterLoop greedy size)
  have hentered : (code.enterLoop greedy size).insts.countP Inst.closesLoop =
      code.insts.countP Inst.closesLoop :=
    ((pushSplit greedy _ code).push_after (.save code.slots) rfl).closed
  have hslots : (Code.loop greedy size copy code).slots =
      (copy (code.enterLoop greedy size)).slots := rfl
  refine ⟨?_, ?_⟩
  · rw [hslots, hbody.slots, enterLoop, Nat.add_right_comm, Nat.add_assoc]
  · rw [Code.loop, closeLoop, (push (.jump code.pc) _ rfl).closed, Code.push, Array.countP_push,
      hbody.closed, hentered]
    rfl

end Loops
end Code

mutual

theorem Element.emit_loops (names : List (Option String)) (e : Element) (code : Code) :
    Code.Loops e.loops code (e.emit names code) := by
  cases e with
  | char | set | bracket | backreference => exact Code.Loops.push _ code rfl
  | anchor span anchor => cases anchor <;> exact Code.Loops.push _ code rfl
  | group span capture branches =>
    cases capture with
    | none => exact branchesEmit_loops names _ branches code
    | some capture =>
      exact ((Code.Loops.push _ code rfl).after_zero
        (branchesEmit_loops names _ branches _)).push_after _ rfl
  | look span direction negate branches =>
    exact ((Code.Loops.push _ code rfl).after_zero
      (branchesEmit_loops names _ branches _)).push_after _ rfl
  | quantifier span min max greedy inner =>
    have hcopy : ∀ code, Code.Loops inner.loops code (inner.emitCopy names code) := fun code =>
      (Code.Loops.pushClears _ code).after_zero (Element.emit_loops names inner _)
    rw [Element.emit_quantifier, Element.loops]
    split
    · exact .refl code
    · rw [Code.repeated_eq, Element.repeat_emitCopy]
      cases max with
      | none => exact (Code.Loops.copies hcopy min code).trans (.loop hcopy greedy _ _)
      | some max =>
        exact (Code.Loops.copies hcopy min code).trans (.copies (.option hcopy greedy _) _ _)

theorem Branch.emit_loops (names : List (Option String)) (b : Branch) (code : Code) :
    Code.Loops b.loops code (b.emit names code) := by
  cases b with
  | mk span elements => exact elementsEmit_loops names elements code

theorem elementsEmit_loops (names : List (Option String)) (es : List Element) (code : Code) :
    Code.Loops (elementsLoops es) code (elementsEmit names es code) := by
  cases es with
  | nil => exact .refl code
  | cons e es => exact (Element.emit_loops names e code).trans (elementsEmit_loops names es _)

theorem branchesEmit_loops (names : List (Option String)) (stop : Nat) (bs : List Branch)
    (code : Code) : Code.Loops (branchesLoops bs) code (branchesEmit names stop bs code) := by
  match bs with
  | [] => exact .refl code
  | [b] => exact Branch.emit_loops names b code
  | b :: b' :: bs =>
    have hchoice : Code.Loops b.loops code (b.emitChoice names stop code) :=
      ((Code.Loops.pushSplit true _ code).after_zero (Branch.emit_loops names b _)).push_after _ rfl
    exact hchoice.trans (branchesEmit_loops names stop (b' :: bs) _)

end

section
variable {unicode multiline : Bool} {tree : PatternTree} {program : Program}

theorem PatternTree.code_loops (tree : PatternTree) :
    Code.Loops (branchesLoops tree.pattern.branches) tree.blank tree.code :=
  branchesEmit_loops _ _ _ _

theorem compile_insts_size (h : compile multiline tree = .ok program) :
    program.insts.size = tree.pattern.unrolled + 1 := by
  obtain ⟨-, -, -, rfl⟩ := compile_cases h
  have hpc : tree.code.pc = tree.pattern.unrolled := by
    rw [PatternTree.code, branchesEmit_pc, branchesSize_eq_unrolled]
    exact Nat.zero_add _
  rw [← hpc]
  exact Array.size_push _

theorem compile_groupCount (h : compile multiline tree = .ok program) :
    program.groupCount = tree.names.length := by
  obtain ⟨-, -, -, rfl⟩ := compile_cases h
  rfl

theorem compile_closesLoop (h : compile multiline tree = .ok program) :
    program.insts.countP Inst.closesLoop = branchesLoops tree.pattern.branches := by
  obtain ⟨-, -, -, rfl⟩ := compile_cases h
  rw [(tree.code_loops.push_after .accept rfl).closed, PatternTree.blank, Array.countP_empty,
    Nat.zero_add]

theorem compile_slotCount (h : compile multiline tree = .ok program) :
    program.slotCount = 2 * (program.groupCount + 1) + branchesLoops tree.pattern.branches := by
  obtain ⟨-, -, -, rfl⟩ := compile_cases h
  rw [(tree.code_loops.push_after .accept rfl).slots, PatternTree.blank, Nat.mul_comm]

theorem PatternTree.WellFormed.compile_of_known (hw : tree.WellFormed unicode)
    (hk : SetsKnown tree.pattern.written) (multiline : Bool) :
    if tree.pattern.unrolled + 1 ≤ 200000 then ∃ program, compile multiline tree = .ok program
    else compile multiline tree = .error .tooLarge := by
  have hsize : branchesSize tree.pattern.branches = tree.pattern.unrolled := branchesSize_eq_unrolled _
  have hall := hw.compile_checked multiline
  rw [hsize] at hall
  rcases hall with ⟨-, hle, hc⟩ | ⟨hlt, hc⟩ | ⟨byte, hunknown, -⟩
  · rwa [if_pos (show _ ≤ 200000 from hle)]
  · rwa [if_neg (show ¬ _ ≤ 200000 from Nat.not_le_of_lt hlt)]
  · exact absurd hk hunknown

theorem PatternTree.WellFormed.compile_error (hw : tree.WellFormed unicode) {e : CompileError}
    (h : compile multiline tree = .error e) : e = .tooLarge ∨ ∃ byte, e = .unknownProperty byte := by
  rcases hw.compile_checked multiline with ⟨-, -, program, hc⟩ | ⟨-, hc⟩ | ⟨byte, -, hc⟩
  · cases hc.symm.trans h
  · exact .inl (Except.error.inj (h.symm.trans hc))
  · exact .inr ⟨byte, Except.error.inj (h.symm.trans hc)⟩

/-- A tree that was read with known properties only has a program of exactly the size of the tree
written out, and a slot more than those of the groups for each star that was written, just if that
size is within the limit; else it is too large. Whatever the properties, a tree that was read is
refused for its size or for the name of a property and for nothing else. -/
theorem compile_size {source : List Char} (hp : parse unicode source = .ok tree) (multiline : Bool) :
    ((∀ e ∈ tree.pattern.elements, ∀ s ∈ e.sets, s.Known) →
      if tree.pattern.unrolled + 1 ≤ 200000 then
        ∃ program, compile multiline tree = .ok program ∧
          program.insts.size = tree.pattern.unrolled + 1 ∧
          program.groupCount = tree.names.length ∧
          program.slotCount =
            2 * (program.groupCount + 1) + program.insts.countP Inst.closesLoop ∧
          program.insts.countP Inst.closesLoop = branchesLoops tree.pattern.branches
      else compile multiline tree = .error .tooLarge) ∧
    (∀ e, compile multiline tree = .error e → e = .tooLarge ∨ ∃ byte, e = .unknownProperty byte) ∧
    ∀ text flags e, Regex.ofTree text flags tree = .error e →
      e = .tooLarge ∨ ∃ offset, e = .unknownProperty offset ∧ e.message = "Invalid property name" := by
  have hw := PatternTree.WellFormed.of_parse hp
  refine ⟨fun hknown => ?_, fun e he => hw.compile_error he, fun text flags e he => ?_⟩
  · have hc := hw.compile_of_known (fun e he => hknown e (tree.pattern.written_subset he)) multiline
    split at hc
    · obtain ⟨program, hc⟩ := hc
      rw [if_pos ‹_›]
      refine ⟨program, hc, compile_insts_size hc, compile_groupCount hc, ?_, compile_closesLoop hc⟩
      rw [compile_closesLoop hc, compile_slotCount hc]
    · rwa [if_neg ‹_›]
  · unfold Regex.ofTree at he
    cases hc : compile flags.multiline tree with
    | ok program =>
      rw [hc] at he
      cases he
    | error cause =>
      rw [hc] at he
      rcases hw.compile_error hc with rfl | ⟨byte, rfl⟩
      · exact .inl (Except.error.inj he).symm
      · obtain rfl := Except.error.inj he
        exact .inr ⟨_, rfl, rfl⟩

/-- Two trees on either side of the limit. The group is cleared twice for each of its copies, by the
star and by the repetition around it, and each copy of the star takes a slot. -/
theorem compile_size_limit :
    ∃ tree tree', parse true "(?:(a)*){18181}\\p{Lu}{8}".toList = .ok tree ∧
      parse true "(?:(a)*){18181}\\p{Lu}{9}".toList = .ok tree' ∧
      (∃ program, compile false tree = .ok program ∧ program.insts.size = 200000 ∧
        program.slotCount = 4 + 18181) ∧
      compile false tree' = .error .tooLarge := by
  let star : Element := .quantifier ⟨3, 7⟩ 0 none true
    (.group ⟨3, 6⟩ (some ⟨1, none⟩) [.mk ⟨4, 5⟩ [.char ⟨4, 5⟩ 'a']])
  let tree (n : Nat) : PatternTree := ⟨⟨⟨0, 24⟩, [.mk ⟨0, 24⟩
    [.quantifier ⟨0, 15⟩ 18181 (some 18181) true (.group ⟨0, 8⟩ none [.mk ⟨3, 7⟩ [star]]),
      .quantifier ⟨15, 24⟩ n (some n) true (.set ⟨15, 21⟩ ⟨.property "Lu" none, false⟩)]]⟩, [none]⟩
  have hp : parse true "(?:(a)*){18181}\\p{Lu}{8}".toList = .ok (tree 8) := by
    with_unfolding_all rfl
  have hp' : parse true "(?:(a)*){18181}\\p{Lu}{9}".toList = .ok (tree 9) := by
    with_unfolding_all rfl
  have hknown : ∀ e ∈ (tree 8).pattern.elements, ∀ s ∈ e.sets, s.Known := by decide +kernel
  have hknown' : ∀ e ∈ (tree 9).pattern.elements, ∀ s ∈ e.sets, s.Known := by decide +kernel
  have hfits := (compile_size hp false).1 hknown
  have hover := (compile_size hp' false).1 hknown'
  rw [if_pos (by decide +kernel)] at hfits
  rw [if_neg (by decide +kernel)] at hover
  obtain ⟨program, hc, hsize, hgroups, hslots, hloops⟩ := hfits
  refine ⟨_, _, hp, hp', ⟨program, hc, hsize.trans (by decide +kernel), ?_⟩, hover⟩
  rw [hslots, hloops, hgroups]
  rfl

end
end RegexInsight
