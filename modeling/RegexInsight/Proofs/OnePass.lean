import RegexInsight.Proofs.Measuring
import RegexInsight.Proofs.Patching

/-! Compilation in one pass. An emitter that looks at nothing ahead of it asks at every instruction
whether there is room for one more, looks properties and names up where it meets them, writes each copy
of what is repeated, and puts the target of a jump in its place once it is there. On every tree it
writes the program, or stops with the error, that the checked emission gives. -/
namespace RegexInsight
namespace Code

/-- One more instruction, if there is room for it. -/
def push? (inst : Inst) (code : Code) : Except CompileError Code :=
  if code.pc < maxProgramLength then .ok (code.push inst) else .error .tooLarge

def pushClears? (slots : List Nat) (code : Code) : Except CompileError Code :=
  slots.foldlM (fun code slot => code.push? (.clear slot)) code

def times? (copy : Code → Except CompileError Code) : Nat → Code → Except CompileError Code
  | 0, code => .ok code
  | count + 1, code => copy code >>= times? copy count

def option? (greedy : Bool) (copy : Code → Except CompileError Code) (code : Code) :
    Except CompileError Code := do
  let after ← code.push? (.split 0 0) >>= copy
  return after.patchSplit greedy code.pc after.pc

def loop? (greedy : Bool) (copy : Code → Except CompileError Code) (code : Code) :
    Except CompileError Code := do
  let entered ← { code with slots := code.slots + 1 }.push? (.split 0 0)
  let body ← entered.push? (.save code.slots)
  let after ← copy body
  let checked ← after.push? (.checkProgress code.slots)
  let closed ← checked.push? (.jump code.pc)
  return closed.patchSplit greedy code.pc closed.pc

end Code

def CharTest.lookUp (span : Span) (kind : SetKind) : Except CompileError CharTest :=
  match CharTest.ofKind? kind with
  | some test => .ok test
  | none => .error (.unknownProperty span.start)

def ClassItem.lookUp (m : ClassMember) : Except CompileError ClassItem :=
  match ClassItem.ofKind? m.kind with
  | some item => .ok item
  | none => .error (.unknownProperty m.span.start)

def Reference.lookUp (names : List (Option String)) (span : Span) (target : Reference) :
    Except CompileError Nat :=
  match target.group? names with
  | some group => .ok group
  | none => .error (.unknownName span.start)

mutual

def Element.write (names : List (Option String)) : Element → Code → Except CompileError Code
  | .char _ value, code => code.push? (.char value)
  | .set span s, code => do code.push? (.set (← CharTest.lookUp span s.kind) s.negate)
  | .bracket _ negate members, code => do
    code.push? (.bracket (← members.mapM ClassItem.lookUp) negate)
  | .anchor _ .start, code => code.push? .assertStart
  | .anchor _ .stop, code => code.push? .assertEnd
  | .anchor _ .wordBoundary, code => code.push? (.wordBoundary false)
  | .anchor _ .nonWordBoundary, code => code.push? (.wordBoundary true)
  | .backreference span target, code => do
    code.push? (.backreference (← target.lookUp names span))
  | .group _ none branches, code => branchesWrite names [] branches code
  | .group _ (some capture) branches, code => do
    let opened ← code.push? (.save (capture.index * 2))
    let after ← branchesWrite names [] branches opened
    after.push? (.save (capture.index * 2 + 1))
  | .look _ direction negate branches, code => do
    let opened ← code.push? (.jump 0)
    let after ← branchesWrite names [] branches opened
    let closed ← after.push? .accept
    return closed.patch code.pc (.look (direction == .behind) negate closed.pc)
  | .quantifier _ min max greedy inner, code =>
    if max = some 0 then .ok code
    else
      let copy := fun code => code.pushClears? (captureSlots inner) >>= inner.write names
      Code.times? copy min code >>= match max with
        | none => Code.loop? greedy copy
        | some max => Code.times? (Code.option? greedy copy) (max - min)

def Branch.write (names : List (Option String)) : Branch → Code → Except CompileError Code
  | .mk _ elements, code => elementsWrite names elements code

def elementsWrite (names : List (Option String)) :
    List Element → Code → Except CompileError Code
  | [], code => .ok code
  | e :: es, code => do elementsWrite names es (← e.write names code)

/-- The jumps at the end of the alternatives so far are told where to go behind the last one. -/
def branchesWrite (names : List (Option String)) (jumps : List Nat) :
    List Branch → Code → Except CompileError Code
  | [], code => .ok (code.patchJumps jumps code.pc)
  | [b], code => do
    let after ← b.write names code
    return after.patchJumps jumps after.pc
  | b :: bs, code => do
    let opened ← code.push? (.split 0 0)
    let after ← b.write names opened
    let closed ← after.push? (.jump 0)
    branchesWrite names (after.pc :: jumps) bs (closed.patchSplit true code.pc closed.pc)

end

def PatternTree.write (multiline : Bool) (tree : PatternTree) : Except CompileError Program := do
  let code ← branchesWrite tree.names [] tree.pattern.branches ⟨#[], (tree.names.length + 1) * 2⟩
  let code ← code.push? .accept
  return ⟨code.insts, tree.names.length, code.slots,
    !multiline && tree.pattern.branches.all Branch.startsAnchored⟩

/-- What comes of writing where `after` is the code that an unchecked emission leaves, and `check` tells
its length or what is wrong. -/
inductive Writes (after : Code) : Except CompileError Code → Except CompileError Nat → Prop
  | ok : after.pc ≤ maxProgramLength → Writes after (.ok after) (.ok after.pc)
  | error (e : CompileError) : Writes after (.error e) (.error e)

namespace Writes

variable {code mid after : Code} {r : Except CompileError Code} {c : Except CompileError Nat}
  {f : Code → Except CompileError Code} {g : Nat → Except CompileError Nat}

theorem push (inst : Inst) (code : Code) :
    Writes (code.push inst) (code.push? inst) (fitting (code.pc + 1)) := by
  unfold Code.push?
  rcases Nat.lt_or_ge code.pc maxProgramLength with hlt | hge
  · rw [if_pos hlt, ← Code.push_pc inst, fitting_of_le (by rwa [Code.push_pc])]
    exact .ok (by rwa [Code.push_pc])
  · rw [if_neg (Nat.not_lt_of_le hge), fitting_of_lt (Nat.lt_succ_of_le hge)]
    exact .error _

theorem bind (h : Writes mid r c) (hnext : mid.pc ≤ maxProgramLength → Writes after (f mid) (g mid.pc)) :
    Writes after (r >>= f) (c >>= g) := by
  cases h with
  | ok hle => exact hnext hle
  | error e => exact .error e

/-- Behind what fails nothing is written, whatever it may be. -/
theorem stops (h : Writes mid r c) (hc : ∀ n, c ≠ .ok n) : Writes after (r >>= f) c := by
  cases h with
  | ok hle => exact absurd rfl (hc _)
  | error e => exact .error e

/-- What is put in the place of something else leaves the length as it is. -/
theorem revise (h : Writes mid r c) {revise : Code → Code} (hpc : (revise mid).pc = mid.pc)
    (hafter : revise mid = after) : Writes after (r >>= fun code => pure (revise code)) c := by
  cases h with
  | ok hle =>
    subst hafter
    rw [← hpc] at hle ⊢
    exact .ok hle
  | error e => exact .error e

end Writes

/-- Of every code with room left, writing and checking say the same as the unchecked emission. -/
def InOnePass (emit : Code → Code) (write : Code → Except CompileError Code)
    (check : Nat → Except CompileError Nat) : Prop :=
  ∀ code, code.pc ≤ maxProgramLength → Writes (emit code) (write code) (check code.pc)

namespace InOnePass

variable {emit next copy : Code → Code} {write writeNext copy? : Code → Except CompileError Code}
  {check checkNext : Nat → Except CompileError Nat} {size : Nat}

theorem id : InOnePass (fun code => code) .ok .ok := fun _ hcode => .ok hcode

theorem push (inst : Inst) : InOnePass (Code.push inst) (Code.push? inst) fun n => fitting (n + 1) :=
  fun code _ => .push inst code

theorem comp (h : InOnePass emit write check) (hnext : InOnePass next writeNext checkNext) :
    InOnePass (fun code => next (emit code)) (fun code => write code >>= writeNext)
      (fun n => check n >>= checkNext) :=
  fun code hcode => (h code hcode).bind (hnext _)

/-- Where only the length is checked, its sum is. -/
theorem measured (h : InOnePass emit write check) (hmeasures : Measures check size) :
    InOnePass emit write fun n => fitting (n + size) := fun code hcode => by
  have hwrites := h code hcode
  rwa [hmeasures _ hcode] at hwrites

theorem pushClears (slots : List Nat) :
    InOnePass (Code.pushClears slots) (Code.pushClears? slots) fun n => fitting (n + slots.length) := by
  induction slots with
  | nil => exact id.measured .ok
  | cons slot slots ih =>
    rw [List.length_cons, Nat.add_comm slots.length]
    exact ((push _).comp ih).measured ((Measures.room 1).bind (.room _))

theorem times (h : InOnePass copy copy? fun n => fitting (n + size)) (count : Nat) :
    InOnePass (Nat.repeat copy count) (Code.times? copy? count) fun n => fitting (n + count * size) := by
  induction count with
  | zero =>
    rw [Nat.zero_mul]
    exact id.measured .ok
  | succ count ih =>
    rw [Nat.succ_mul, Nat.add_comm _ size, Code.repeat_succ]
    exact (h.comp ih).measured ((Measures.room size).bind (.room _))

theorem option (h : InOnePass copy copy? check) (hadds : Code.Adds copy)
    (hpc : ∀ code, (copy code).pc = code.pc + size) (greedy : Bool) :
    InOnePass (Code.option greedy size copy) (Code.option? greedy copy?)
      fun n => fitting (n + 1) >>= check := fun code hcode => by
  have hafter : (copy (code.push (.split 0 0))).patchSplit greedy code.pc
      (copy (code.push (.split 0 0))).pc = Code.option greedy size copy code := by
    rw [hadds.filledSplit, hpc, Code.push_pc]
    rfl
  exact (((push _).comp h) code hcode).revise (Code.patchSplit_pc _ _ _ _) hafter

theorem loop (h : InOnePass copy copy? check) (hadds : Code.Adds copy)
    (hpc : ∀ code, (copy code).pc = code.pc + size) (greedy : Bool) :
    InOnePass (Code.loop greedy size copy) (Code.loop? greedy copy?) fun n =>
      fitting (n + 1) >>= fun n => fitting (n + 1) >>= fun n => check n >>= fun n =>
        fitting (n + 1) >>= fun n => fitting (n + 1) := fun code hcode => by
  let looped := fun entered : Code => (copy (entered.push (.save code.slots))).closeLoop code.slots code.pc
  let entered := { code with slots := code.slots + 1 }.push (.split 0 0)
  have hlooped : Code.Adds looped :=
    (Code.Adds.push _).comp (hadds.comp ((Code.Adds.push _).comp (.push _)))
  have hexit : (looped entered).pc = code.pc + size + 4 := by
    rw [Code.closeLoop_pc, hpc, Code.push_pc, Code.push_pc]
    show code.pc + 1 + 1 + size + 2 = code.pc + size + 4
    omega
  have hafter : (looped entered).patchSplit greedy code.pc (looped entered).pc =
      Code.loop greedy size copy code := by
    rw [hexit]
    exact hlooped.filledSplit greedy _ { code with slots := code.slots + 1 }
  exact (Writes.push _ _).bind fun _ => (Writes.push _ _).bind fun hle => (h _ hle).bind fun _ =>
    (Writes.push _ _).bind fun _ => (Writes.push _ _).revise (Code.patchSplit_pc _ _ _ _) hafter

theorem of_measures (h : InOnePass emit write fun n => fitting (n + size)) (hmeasures : Measures check size) :
    InOnePass emit write check := fun code hcode => by
  rw [hmeasures _ hcode]
  exact h code hcode

end InOnePass

/-- Writes one iteration. -/
def Element.writeCopy (names : List (Option String)) (e : Element) (code : Code) :
    Except CompileError Code :=
  code.pushClears? (captureSlots e) >>= e.write names

section
variable {names : List (Option String)} {inner : Element}

theorem Element.emit_repeats (names : List (Option String)) (span : Span) (min : Nat) {max : Option Nat}
    (hmax : max ≠ some 0) (greedy : Bool) (inner : Element) :
    (quantifier span min max greedy inner).emit names = fun code =>
      max.elim (Code.loop greedy ((captureSlots inner).length + inner.size) (inner.emitCopy names))
        (fun max => Nat.repeat
          (Code.option greedy ((captureSlots inner).length + inner.size) (inner.emitCopy names))
          (max - min))
        (Nat.repeat (inner.emitCopy names) min code) := by
  funext code
  rw [emit_quantifier, if_neg hmax, Code.repeated_eq, repeat_emitCopy]
  cases max <;> rfl

theorem Element.write_repeats (names : List (Option String)) (span : Span) (min : Nat) {max : Option Nat}
    (hmax : max ≠ some 0) (greedy : Bool) (inner : Element) :
    (quantifier span min max greedy inner).write names = fun code =>
      Code.times? (inner.writeCopy names) min code >>=
        max.elim (Code.loop? greedy (inner.writeCopy names))
          (fun max => Code.times? (Code.option? greedy (inner.writeCopy names)) (max - min)) := by
  funext code
  rw [write, if_neg hmax]
  cases max <;> rfl

theorem InOnePass.iteration (h : InOnePass (inner.emit names) (inner.write names) (inner.check names)) :
    InOnePass (inner.emitCopy names) (inner.writeCopy names) (inner.checkCopy names) :=
  (pushClears _).comp h

/-- Copies in which nothing is wrong are written as long as there is room. -/
theorem InOnePass.repeats (h : InOnePass (inner.emit names) (inner.write names) (inner.check names))
    (hmeasures : Measures (inner.check names) inner.size) (span : Span) (min : Nat) {max : Option Nat}
    (hmax : max ≠ some 0) (greedy : Bool) :
    InOnePass ((Element.quantifier span min max greedy inner).emit names)
      ((Element.quantifier span min max greedy inner).write names)
      ((Element.quantifier span min max greedy inner).check names) := by
  let size := (captureSlots inner).length + inner.size
  have hcopy : InOnePass (inner.emitCopy names) (inner.writeCopy names) fun n => fitting (n + size) :=
    h.iteration.measured ((Measures.room _).bind hmeasures)
  have hadds := inner.emitCopy_adds names
  have hpc := inner.emitCopy_pc names
  refine of_measures ?_ (hmeasures.quantifier span min max greedy)
  rw [Element.emit_repeats names span min hmax, Element.write_repeats names span min hmax,
    Element.size, if_neg hmax]
  cases max with
  | none =>
    have hloop := (hcopy.loop hadds hpc greedy).measured ((Measures.room 1).bind ((Measures.room 1).bind
      ((Measures.room size).bind ((Measures.room 1).bind (.room 1)))))
    have hall := ((hcopy.times min).comp hloop).measured ((Measures.room _).bind (.room _))
    rw [show 1 + (1 + (size + (1 + 1))) = size + 4 by omega] at hall
    exact hall
  | some max =>
    have hoption := (hcopy.option hadds hpc greedy).measured ((Measures.room 1).bind (.room size))
    rw [Nat.add_comm 1 size] at hoption
    exact ((hcopy.times min).comp (hoption.times (max - min))).measured ((Measures.room _).bind (.room _))

/-- Where the first copy fails nothing else is written. -/
theorem InOnePass.repeats_of_rejects
    (h : InOnePass (inner.emit names) (inner.write names) (inner.check names))
    (hrejects : Rejects (inner.check names)) (span : Span) (min : Nat) {max : Option Nat}
    (hmax : max ≠ some 0) (greedy : Bool) :
    InOnePass ((Element.quantifier span min max greedy inner).emit names)
      ((Element.quantifier span min max greedy inner).write names)
      ((Element.quantifier span min max greedy inner).check names) := fun code hcode => by
  have hcopy := h.iteration
  have hcopyRejects : Rejects (inner.checkCopy names) := fun n => hrejects.bind _
  rw [Element.check_quantifier_of_rejects names span min hmax greedy hrejects,
    Element.write_repeats names span min hmax]
  cases min with
  | succ min =>
    rw [if_neg (Nat.succ_ne_zero _), (fitting_of_le hcode : fitting (code.pc + 0) = _)]
    have hcopies : Writes code (Code.times? (inner.writeCopy names) (min + 1) code)
        (inner.checkCopy names code.pc) := (hcopy code hcode).stops (hcopyRejects _)
    exact hcopies.stops (hcopyRejects _)
  | zero =>
    rw [if_pos rfl]
    cases max with
    | none =>
      have hentered : fitting (code.pc + 2) = fitting (code.pc + 1) >>= fun n => fitting (n + 1) :=
        (fitting_bind (Nat.le_succ _) fun _ => rfl).symm
      rw [Option.isNone_none, if_pos rfl, hentered, bind_assoc]
      exact (Writes.push _ _).bind fun _ => (Writes.push _ _).bind fun hle =>
        (hcopy _ hle).stops (hcopyRejects _)
    | some max =>
      obtain ⟨rest, rfl⟩ := Nat.exists_eq_succ_of_ne_zero fun h => hmax (congrArg some h)
      have hfirst := ((push (.split 0 0)).comp hcopy) code hcode
      have hwritten : Writes code (Code.option? greedy (inner.writeCopy names) code)
          (fitting (code.pc + 1) >>= inner.checkCopy names) := hfirst.stops (hcopyRejects.bind _)
      exact hwritten.stops (hcopyRejects.bind _)

end

theorem ClassItem.mapM_lookUp (members : List ClassMember) :
    members.mapM ClassItem.lookUp =
      match members.find? fun m => (ClassItem.ofKind? m.kind).isNone with
      | some m => .error (.unknownProperty m.span.start)
      | none => .ok (members.filterMap fun m => ClassItem.ofKind? m.kind) := by
  induction members with
  | nil => rfl
  | cons m members ih =>
    rw [List.mapM_cons, ih, ClassItem.lookUp, List.find?_cons, List.filterMap_cons]
    cases ClassItem.ofKind? m.kind with
    | none => rfl
    | some item =>
      rw [Option.isNone_some]
      dsimp only
      cases members.find? fun m => (ClassItem.ofKind? m.kind).isNone <;> rfl

mutual

theorem Element.inOnePass (names : List (Option String)) (e : Element) :
    InOnePass (e.emit names) (e.write names) (e.check names) := by
  cases e with
  | char => exact .push _
  | anchor span anchor => cases anchor <;> exact .push _
  | set span s =>
    intro code _
    rw [Element.write, Element.check, Element.emit, CharTest.lookUp]
    cases CharTest.ofKind? s.kind with
    | none => exact .error _
    | some test => exact .push _ code
  | bracket span negate members =>
    intro code _
    rw [Element.write, Element.check, ClassItem.mapM_lookUp]
    cases members.find? fun m => (ClassItem.ofKind? m.kind).isNone with
    | some m => exact .error _
    | none => exact .push _ code
  | backreference span target =>
    intro code _
    rw [Element.write, Element.check, Element.emit, Reference.lookUp]
    cases target.group? names with
    | none => exact .error _
    | some group => exact .push _ code
  | group span capture branches =>
    cases capture with
    | none => exact fun code hcode => branchesInOnePass names [] branches hcode (by simp) rfl
    | some capture =>
      rw [Element.check_capture]
      exact fun code _ => (Writes.push _ code).bind fun hopened =>
        (branchesInOnePass names [] branches hopened (by simp) rfl).bind fun _ => .push _ _
  | look span direction negate branches =>
    rw [Element.check_look]
    intro code _
    let stop := code.pc + 1 + branchesSize branches
    let opened := code.push (.jump 0)
    let closed := (branchesEmit names stop branches opened).push .accept
    have hopened : opened.pc + branchesSize branches = stop := by rw [Code.push_pc]
    have hclosed : closed.pc = stop + 1 := by rw [Code.push_pc, branchesEmit_pc, hopened]
    have hafter : closed.patch code.pc (.look (direction == .behind) negate closed.pc) =
        (Element.look span direction negate branches).emit names code := by
      rw [hclosed]
      exact ((branchesEmit_adds names stop branches).comp (.push .accept)).filled _ _ code
    exact (Writes.push _ code).bind fun hle =>
      (branchesInOnePass names [] branches hle (by simp) hopened).bind fun _ =>
        (Writes.push _ _).revise (Code.patch_pc _ _ _) hafter
  | quantifier span min max greedy inner =>
    have h := Element.inOnePass names inner
    by_cases hmax : max = some 0
    · subst hmax
      exact .id
    · by_cases hok : ∃ n stop, inner.check names n = .ok stop
      · obtain ⟨n, stop, hstop⟩ := hok
        exact h.repeats (inner.measures_of_check names hstop) span min hmax greedy
      · exact h.repeats_of_rejects (fun n stop hstop => hok ⟨n, stop, hstop⟩) span min hmax greedy

theorem Branch.inOnePass (names : List (Option String)) (b : Branch) :
    InOnePass (b.emit names) (b.write names) (b.check names) := by
  cases b with
  | mk span elements => exact elementsInOnePass names elements

theorem elementsInOnePass (names : List (Option String)) (es : List Element) :
    InOnePass (elementsEmit names es) (elementsWrite names es) (elementsCheck names es) := by
  cases es with
  | nil => exact .id
  | cons e es =>
    rw [elementsCheck_cons]
    exact (Element.inOnePass names e).comp (elementsInOnePass names es)

/-- The jumps that wait for the end of the alternatives lead there in the unchecked emission. -/
theorem branchesInOnePass (names : List (Option String)) (jumps : List Nat) (bs : List Branch)
    {code : Code} {stop : Nat} (hcode : code.pc ≤ maxProgramLength)
    (hjumps : ∀ pc ∈ jumps, pc < code.pc) (hstop : code.pc + branchesSize bs = stop) :
    Writes (branchesEmit names stop bs (code.patchJumps jumps stop)) (branchesWrite names jumps bs code)
      (branchesCheck names bs code.pc) := by
  match bs with
  | [] =>
    have hafter : code.patchJumps jumps code.pc = code.patchJumps jumps stop := by
      rw [show code.pc = stop from hstop]
    exact (Writes.ok hcode).revise (Code.patchJumps_pc _ _ _) hafter
  | [b] =>
    have hafter : (b.emit names code).patchJumps jumps (b.emit names code).pc =
        b.emit names (code.patchJumps jumps stop) := by
      rw [Branch.emit_pc, show code.pc + b.size = stop from hstop]
      exact ((Branch.emit_adds names b).patchJumps hjumps stop).symm
    exact (Branch.inOnePass names b code hcode).revise (Code.patchJumps_pc _ _ _) hafter
  | b :: b' :: bs =>
    have hadds := emitChoice_adds (Branch.emit_adds names b) stop
    rw [branchesCheck_cons_cons, branchesEmit_cons_cons, hadds.patchJumps hjumps, Branch.emitChoice_eq]
    refine (Writes.push _ _).bind fun hopened => (Branch.inOnePass names b _ hopened).bind fun _ =>
      (Writes.push _ _).bind fun hclosed => ?_
    let after := b.emit names (code.push (.split 0 0))
    let closed := after.push (.jump 0)
    have hafter : after.pc = code.pc + 1 + b.size := by rw [Branch.emit_pc, Code.push_pc]
    have hpc : (closed.patchSplit true code.pc closed.pc).pc = after.pc + 1 := by
      rw [Code.patchSplit_pc, Code.push_pc]
    have hlast : ∀ pc ∈ after.pc :: jumps, pc < (closed.patchSplit true code.pc closed.pc).pc := by
      rw [hpc]
      refine List.forall_mem_cons.mpr ⟨Nat.lt_succ_self _, fun pc hmem => ?_⟩
      have hlt := hjumps pc hmem
      omega
    have hstops : (closed.patchSplit true code.pc closed.pc).pc + branchesSize (b' :: bs) = stop := by
      rw [hpc, hafter, ← hstop, branchesSize_cons_cons]
      omega
    have hrest := branchesInOnePass names (after.pc :: jumps) (b' :: bs) (by rwa [Code.patchSplit_pc])
      hlast hstops
    rwa [Code.patchSplit_pc] at hrest

end

/-- One pass over a tree gives the program, or the error, that compilation gives. -/
theorem PatternTree.write_eq_compile (multiline : Bool) (tree : PatternTree) :
    tree.write multiline = compile multiline tree := by
  have hbranches : Writes tree.code (branchesWrite tree.names [] tree.pattern.branches tree.blank)
      (branchesCheck tree.names tree.pattern.branches 0) :=
    branchesInOnePass tree.names [] tree.pattern.branches (Nat.zero_le _) (by simp) (Nat.zero_add _)
  have haccept := Writes.push .accept tree.code
  unfold PatternTree.blank at hbranches
  unfold write compile
  dsimp only
  generalize branchesWrite tree.names [] tree.pattern.branches _ = written at hbranches
  generalize branchesCheck tree.names tree.pattern.branches 0 = checked at hbranches
  cases hbranches with
  | error e => rfl
  | ok hle =>
    dsimp only [bind, Except.bind]
    generalize tree.code.push? .accept = written at haccept
    generalize fitting (tree.code.pc + 1) = checked at haccept
    cases haccept <;> rfl

/-- The jump behind the first alternative is told of the end when the second is written. -/
example : (branchesWrite [] [] [.mk ⟨0, 1⟩ [.char ⟨0, 1⟩ 'a'], .mk ⟨2, 3⟩ [.char ⟨2, 3⟩ 'b']]
    ⟨#[], 2⟩).map Code.insts = .ok #[.split 1 3, .char 'a', .jump 4, .char 'b'] := by rfl

end RegexInsight
