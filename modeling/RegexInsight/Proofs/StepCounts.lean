import Mathlib.Data.Nat.Choose.Sum
import RegexInsight.Proofs.CodeInvariance
import RegexInsight.Proofs.CountedLoops

/-! The number of instructions of an attempt that fails. A counted loop is written as one optional copy
behind the other, and a copy that is left leads to the next copy and not behind the last one. On a
text of the repeated character each choice of copies is gone through, so the number of steps grows with
the number of choices; a star has one way for each number of iterations. -/
namespace RegexInsight
namespace Machine

variable {m : Machine}

/-- The machine goes from one state to the other in that number of steps. -/
inductive Takes (m : Machine) : Nat → Outcome → Outcome → Prop
  | refl (o : Outcome) : Takes m 0 o o
  | step {count : Nat} {c : Config} {o : Outcome} :
    Takes m count (c.step m.program m.mode m.text) o → Takes m (count + 1) (.running c) o

theorem Takes.trans {j k : Nat} {a b c : Outcome} (h₁ : m.Takes j a b) (h₂ : m.Takes k b c) :
    m.Takes (j + k) a c := by
  induction h₁ with
  | refl => rwa [Nat.zero_add]
  | step _ ih =>
    rw [Nat.add_right_comm]
    exact .step (ih h₂)

/-- A run that comes to a last state gives its answer if the budget allows for the steps to it. -/
theorem Takes.run_eq {count : Nat} {c : Config} {o : Outcome} {a : Option (Nat × Slots)}
    (h : m.Takes count (.running c) o) (ha : Gives o a) (budget : Nat) :
    m.run budget c = if count ≤ budget then .ok a else .error .stepLimit := by
  generalize hc : Outcome.running c = first at h
  induction h generalizing c budget with
  | refl => subst hc; cases ha
  | @step count c' o ht ih =>
    cases hc
    cases budget with
    | zero => rfl
    | succ budget =>
      rw [run]
      cases hs : c'.step m.program m.mode m.text with
      | running next =>
        simp only [ih ha budget hs.symm, Nat.add_le_add_iff_right]
      | matched | failed =>
        rw [hs] at ht
        cases ht
        cases ha
        simp
      | stuck =>
        rw [hs] at ht
        cases ht
        cases ha

theorem Takes.matchAt_eq {count start : Nat} {slots : Slots}
    (h : m.Takes count (.running (m.initial start)) (.failed slots)) :
    m.matchAt start = if count ≤ m.limit then .ok none else .error .stepLimit := by
  rw [Machine.matchAt_eq, h.run_eq (.failed slots)]
  split <;> rfl

end Machine

/-- The steps that `n` optional copies of a character take in front of another one, on `count`
characters of the first kind: one for each choice of no more copies than there are characters, which
ends at the other character, and two for each copy that is come to. -/
def chainSteps (n count : Nat) : Nat :=
  ∑ j ∈ Finset.range (count + 1), (n.choose j + 2 * n.choose (j + 1))

@[simp] theorem chainSteps_zero (count : Nat) : chainSteps 0 count = 1 := by
  rw [chainSteps, Finset.sum_range_succ']
  simp

theorem chainSteps_succ_zero (n : Nat) : chainSteps (n + 1) 0 = chainSteps n 0 + 2 := by
  simp [chainSteps]
  omega

/-- A copy takes a step to be come to and a step to be tried; then it is taken or left. -/
theorem chainSteps_succ_succ (n count : Nat) :
    chainSteps (n + 1) (count + 1) = chainSteps n count + chainSteps n (count + 1) + 2 := by
  have hpascal : ∀ j, (n + 1).choose (j + 1) + 2 * (n + 1).choose (j + 1 + 1) =
      (n.choose j + 2 * n.choose (j + 1)) + (n.choose (j + 1) + 2 * n.choose (j + 1 + 1)) := by
    intro j
    rw [Nat.choose_succ_succ, Nat.choose_succ_succ n (j + 1)]
    ring
  rw [chainSteps, chainSteps, chainSteps, Finset.sum_range_succ', Finset.sum_congr rfl fun j _ => hpascal j,
    Finset.sum_add_distrib, Finset.sum_range_succ' _ (count + 1)]
  simp only [Nat.choose_zero_right, Nat.zero_add, Nat.choose_one_right]
  omega

/-- With as many characters as copies there are as many choices as sets of copies. -/
theorem chainSteps_add_two {n count : Nat} (h : n ≤ count) : chainSteps n count + 2 = 3 * 2 ^ n := by
  induction n generalizing count with
  | zero => simp
  | succ n ih =>
    cases count with
    | zero => cases h
    | succ count =>
      have htaken := ih (Nat.le_of_succ_le_succ h)
      have hleft := ih (Nat.le_of_succ_le h)
      rw [chainSteps_succ_succ, Nat.pow_succ]
      omega

theorem chainSteps_mono {count count' : Nat} (n : Nat) (h : count ≤ count') :
    chainSteps n count ≤ chainSteps n count' :=
  Finset.sum_le_sum_of_subset (Finset.range_subset_range.mpr (Nat.succ_le_succ h))

theorem chainSteps_le (n count : Nat) : chainSteps n count + 2 ≤ 3 * 2 ^ n := by
  rw [← chainSteps_add_two (Nat.le_max_left n count)]
  exact Nat.add_le_add_right (chainSteps_mono n (Nat.le_max_right n count)) 2

/-- From nine copies on there are more choices than a budget in the square of their number allows for. -/
theorem square_lt_chain {n : Nat} (h : 9 ≤ n) : 10 * (n + 2) * (n + 2) + 2 < 3 * 2 ^ n := by
  induction n, h using Nat.le_induction with
  | base => decide
  | succ n hn ih =>
    rw [Nat.pow_succ]
    nlinarith

theorem square_suffices_iff {n : Nat} :
    (∀ count, chainSteps n count ≤ 10 * (n + 2) * (n + 2)) ↔ n ≤ 8 := by
  constructor
  · intro h
    by_contra hn
    have hlt := square_lt_chain (Nat.lt_of_not_le hn)
    have hmost := chainSteps_add_two (Nat.le_refl n)
    have hle := h n
    omega
  · intro hn count
    have hsmall : ∀ n ≤ 8, 3 * 2 ^ n ≤ 10 * (n + 2) * (n + 2) + 2 := by decide
    exact Nat.le_of_add_le_add_right ((chainSteps_le n count).trans (hsmall n hn))

section
variable {names : List (Option String)} {c d : Char} {m : Machine}

def Code.pushOptional (c : Char) (code : Code) : Code :=
  (code.push (.split (code.pc + 1) (code.pc + 2))).push (.char c)

/-- The code of a counted loop around a character. -/
theorem emit_optional_chars (span span' : Span) (n : Nat) (code : Code) :
    (Element.quantifier span 0 (some n) true (.char span' c)).emit names code =
      Nat.repeat (Code.pushOptional c) n code := by
  have hclears : captureSlots (.char span' c) = [] :=
    by simp [captureSlots_eq]
  have hcopy : Code.option true 1 ((Element.char span' c).emitCopy names) = Code.pushOptional c := by
    funext code
    rw [Code.option, Element.emitCopy, hclears]
    rfl
  rw [Element.emit_quantifier, Code.repeated_eq, hclears]
  split
  · cases ‹some n = some 0›
    rfl
  · exact congrArg (fun copy => Nat.repeat copy n code) hcopy

theorem Code.pushOptional_grows (c : Char) (code : Code) : code.Grows (code.pushOptional c) :=
  (push_grows _ _).trans (push_grows _ _)

theorem Code.pushOptional_pc (c : Char) (code : Code) : (code.pushOptional c).pc = code.pc + 2 := by
  rw [pushOptional, push_pc, push_pc]

/-- Each copy stands two instructions behind the one before. -/
theorem Machine.Has.optional {n i : Nat} {code : Code} (h : m.Has (Nat.repeat (Code.pushOptional c) n code))
    (hi : i < n) :
    m.program.insts[code.pc + i * 2]? = some (.split (code.pc + i * 2 + 1) (code.pc + i * 2 + 2)) ∧
      m.program.insts[code.pc + i * 2 + 1]? = some (.char c) := by
  induction n with
  | zero => exact absurd hi (Nat.not_lt_zero i)
  | succ n ih =>
    rw [Nat.repeat] at h
    rcases Nat.lt_succ_iff_lt_or_eq.mp hi with hlt | rfl
    · exact ih (h.of_grows (Code.pushOptional_grows c _)) hlt
    · have hsplit := (h.of_grows (Code.push_grows _ _)).inst
      have hchar := h.inst
      rw [Code.push_pc] at hchar
      rw [Code.repeat_pc (Code.pushOptional_pc c)] at hsplit hchar
      exact ⟨hsplit, hchar⟩

theorem Machine.Has.star {span span' : Span} {code : Code}
    (h : m.Has ((Element.quantifier span 0 none true (.char span' c)).emit names code)) :
    m.program.insts[code.pc]? = some (.split (code.pc + 1) (code.pc + 5)) ∧
      m.program.insts[code.pc + 1]? = some (.save code.slots) ∧
      m.program.insts[code.pc + 2]? = some (.char c) ∧
      m.program.insts[code.pc + 3]? = some (.checkProgress code.slots) ∧
      m.program.insts[code.pc + 4]? = some (.jump code.pc) ∧ code.slots < m.program.slotCount := by
  have hclears : captureSlots (.char span' c) = [] := by simp [captureSlots_eq]
  have hemit : (Element.quantifier span 0 none true (.char span' c)).emit names code =
      ((code.enterLoop true 1).push (.char c)).closeLoop code.slots code.pc := by
    rw [Element.emit_quantifier, Code.repeated_eq, hclears]
    dsimp only [Code.loop]
    rw [Element.emitCopy, hclears]
    rfl
  rw [hemit] at h
  have hchecked := h.of_grows (Code.push_grows _ _)
  have hconsumed := hchecked.of_grows (Code.push_grows _ _)
  have hentered := hconsumed.of_grows (Code.push_grows _ _)
  have hsaved := hentered.of_enterLoop
  have hjump := h.inst
  have hcheck := hchecked.inst
  have hchar := hconsumed.inst
  have hsave := hsaved.inst
  rw [Code.push_pc, Code.push_pc, Code.enterLoop_pc] at hjump
  rw [Code.push_pc, Code.enterLoop_pc] at hcheck
  rw [Code.enterLoop_pc] at hchar
  rw [Code.pushSplit_pc] at hsave
  exact ⟨(hsaved.of_grows (Code.push_grows _ _)).inst, hsave, hchar, hcheck, hjump, hentered.slots⟩

end

namespace PatternTree

variable {tree : PatternTree} {es : List Element}

theorem Reads.code (h : tree.Reads es) : tree.code = elementsEmit tree.names es tree.blank := by
  have hbranches := branchesMapSpans_emit (f := fun _ => ⟨0, 0⟩) tree.names tree.pattern.branches
    (branchesSize tree.pattern.branches) tree.blank
  have hes := elementsMapSpans_emit (f := fun _ => ⟨0, 0⟩) tree.names es tree.blank
  rw [branchesMapSpans_eq] at hbranches
  rw [elementsMapSpans_eq] at hes
  rw [PatternTree.code, ← hbranches, ← hes,
    show tree.pattern.branches.map (Branch.mapSpans fun _ => ⟨0, 0⟩) = _ from h]
  rfl

end PatternTree

namespace Machine

variable {m : Machine} {c d : Char} {count : Nat}

section
variable (hmode : m.mode.ignoreCase = false) (htext : m.text = Array.replicate count c)
include hmode htext

theorem step_char {pc : Nat} {x : Char} (hi : m.program.insts[pc]? = some (.char x)) (pos : Nat)
    (slots : Slots) (trail : List TrailEntry) (target : Option Nat) (waiting : List Waiting) :
    Config.step m.program m.mode m.text ⟨pc, pos, slots, trail, target, waiting⟩ =
      if pos < count ∧ c = x then .running ⟨pc + 1, pos + 1, slots, trail, target, waiting⟩
      else Config.backtrack slots trail target waiting := by
  rw [Config.step_consume hi (.inl ⟨x, rfl, rfl⟩), htext, Array.getElem?_replicate]
  by_cases hpos : pos < count <;> simp [hpos, Mode.sameChar, hmode]

variable (hcd : c ≠ d)
include hcd

/-- Copies that are taken or left, each on its own. By induction on the copies: where the first is taken
the others go on behind it, and the machine comes back to where it is left. -/
theorem chain_takes {n : Nat}
    (hcopy : ∀ i < n, m.program.insts[i * 2]? = some (.split (i * 2 + 1) (i * 2 + 2)) ∧
      m.program.insts[i * 2 + 1]? = some (.char c))
    (hlast : m.program.insts[n * 2]? = some (.char d)) (slots : Slots) (target : Option Nat)
    (waiting : List Waiting) (copies : Nat) :
    ∀ i left pos trail, i + copies = n → pos + left = count →
      m.Takes (chainSteps copies left) (.running ⟨i * 2, pos, slots, trail, target, waiting⟩)
        (Config.backtrack slots trail target waiting) := by
  induction copies with
  | zero =>
    intro i left pos trail hi _
    obtain rfl : i = n := hi
    refine chainSteps_zero left ▸ .step ?_
    rw [step_char hmode htext hlast, if_neg fun h => hcd h.2]
    exact .refl _
  | succ copies ih =>
    intro i left pos trail hi hpos
    obtain ⟨hsplit, hchar⟩ := hcopy i (by omega)
    have hskip := fun left => ih (i + 1) left pos trail (by omega)
    rw [Nat.succ_mul] at hskip
    cases left with
    | zero =>
      refine chainSteps_succ_zero copies ▸ .step ?_
      rw [Config.step_split hsplit]
      refine .step ?_
      rw [step_char hmode htext hchar, if_neg (by omega), Config.backtrack_resume]
      exact hskip 0 hpos
    | succ left =>
      refine chainSteps_succ_succ copies left ▸ .step ?_
      rw [Config.step_split hsplit]
      refine .step ?_
      rw [step_char hmode htext hchar, if_pos ⟨by omega, rfl⟩]
      have htake := ih (i + 1) left (pos + 1) (.resume (i * 2 + 2) pos :: trail) (by omega) (by omega)
      rw [Nat.succ_mul, Config.backtrack_resume] at htake
      exact htake.trans (hskip (left + 1) hpos)

/-- A star is left behind each iteration, the last first, and the other character is tried there. -/
theorem star_takes {slot : Nat} (hsplit : m.program.insts[0]? = some (.split 1 5))
    (hsave : m.program.insts[1]? = some (.save slot)) (hchar : m.program.insts[2]? = some (.char c))
    (hcheck : m.program.insts[3]? = some (.checkProgress slot))
    (hjump : m.program.insts[4]? = some (.jump 0)) (hlast : m.program.insts[5]? = some (.char d))
    (target : Option Nat) (waiting : List Waiting) (left : Nat) :
    ∀ pos slots trail, pos + left = count → slot < slots.size →
      m.Takes (6 * left + 4) (.running ⟨0, pos, slots, trail, target, waiting⟩)
        (Config.backtrack slots trail target waiting) := by
  induction left with
  | zero =>
    intro pos slots trail hpos hslot
    have hold : slots[slot]? = some slots[slot] := Array.getElem?_eq_getElem hslot
    refine .step ?_
    rw [Config.step_split hsplit]
    refine .step ?_
    rw [Config.step_save hsave hold]
    refine .step ?_
    rw [step_char hmode htext hchar, if_neg (by omega), Config.backtrack_write hold,
      Config.backtrack_resume]
    refine .step ?_
    rw [step_char hmode htext hlast, if_neg fun h => hcd h.2]
    exact .refl _
  | succ left ih =>
    intro pos slots trail hpos hslot
    have hold : slots[slot]? = some slots[slot] := Array.getElem?_eq_getElem hslot
    have hrest := ih (pos + 1) (slots.setIfInBounds slot (some pos))
      (.restore slot slots[slot] :: .resume 5 pos :: trail) (by omega) (by simpa using hslot)
    rw [Config.backtrack_write hold, Config.backtrack_resume] at hrest
    have hleft : m.Takes 1 (.running ⟨5, pos, slots, trail, target, waiting⟩)
        (Config.backtrack slots trail target waiting) := by
      refine .step ?_
      rw [step_char hmode htext hlast, if_neg fun h => hcd h.2]
      exact .refl _
    have hsteps : 6 * (left + 1) + 4 = 6 * left + 4 + 1 + 1 + 1 + 1 + 1 + 1 := by omega
    rw [hsteps]
    refine .step ?_
    rw [Config.step_split hsplit]
    refine .step ?_
    rw [Config.step_save hsave hold]
    refine .step ?_
    rw [step_char hmode htext hchar, if_pos ⟨by omega, rfl⟩]
    refine .step ?_
    rw [Config.step_continue hcheck (.inr (.inr (.inr ⟨slot, rfl, rfl⟩))),
      Array.getElem?_setIfInBounds_self_of_lt hslot]
    have hmoved : (some pos != some (pos + 1)) = true := by simp
    rw [Option.map_some, hmoved]
    refine .step ?_
    rw [Config.step_jump hjump]
    exact hrest.trans hleft

end
end Machine

section
variable {multiline : Bool} {tree tree' : PatternTree} {program program' : Program} {mode : Mode}
  {c d : Char} {n : Nat}

/-- A counted loop around a character, in front of another one that does not follow. -/
theorem matchAt_optional_chars
    (ht : tree.Reads [.quantifier ⟨0, 0⟩ 0 (some n) true (.char ⟨0, 0⟩ c), .char ⟨0, 0⟩ d])
    (hc : compile multiline tree = .ok program) (hmode : mode.ignoreCase = false) (hcd : c ≠ d)
    (count limit : Nat) :
    (⟨program, mode, Array.replicate count c, limit⟩ : Machine).matchAt 0 =
      if chainSteps n count ≤ limit then .ok none else .error .stepLimit := by
  let m : Machine := ⟨program, mode, Array.replicate count c, limit⟩
  have hhas : m.Has tree.code := (compile_has hc).of_grows (Code.push_grows _ _)
  rw [ht.code, elementsEmit, emit_optional_chars] at hhas
  have hlast := hhas.inst
  rw [Code.repeat_pc (Code.pushOptional_pc c)] at hlast
  have hblank : tree.blank.pc = 0 := rfl
  have hcopy : ∀ i < n, m.program.insts[i * 2]? = some (.split (i * 2 + 1) (i * 2 + 2)) ∧
      m.program.insts[i * 2 + 1]? = some (.char c) := by
    intro i hi
    have hcopies := (hhas.of_grows (Code.push_grows _ _)).optional hi
    rwa [hblank, Nat.zero_add] at hcopies
  rw [hblank, Nat.zero_add] at hlast
  exact (m.chain_takes hmode rfl hcd hcopy hlast (m.initial 0).slots none [] n 0 count 0 []
    (Nat.zero_add n) (Nat.zero_add count)).matchAt_eq

theorem matchAt_star_char
    (ht : tree.Reads [.quantifier ⟨0, 0⟩ 0 none true (.char ⟨0, 0⟩ c), .char ⟨0, 0⟩ d])
    (hc : compile multiline tree = .ok program) (hmode : mode.ignoreCase = false) (hcd : c ≠ d)
    (count limit : Nat) :
    (⟨program, mode, Array.replicate count c, limit⟩ : Machine).matchAt 0 =
      if 6 * count + 4 ≤ limit then .ok none else .error .stepLimit := by
  let m : Machine := ⟨program, mode, Array.replicate count c, limit⟩
  have hhas : m.Has tree.code := (compile_has hc).of_grows (Code.push_grows _ _)
  rw [ht.code, elementsEmit] at hhas
  have hlast := hhas.inst
  rw [Element.emit_pc] at hlast
  have hsize : (Element.quantifier ⟨0, 0⟩ 0 none true (.char ⟨0, 0⟩ c)).size = 5 := by
    simp [Element.size, repeatedSize, captureSlots_eq]
  rw [hsize] at hlast
  obtain ⟨hsplit, hsave, hchar, hcheck, hjump, hslot⟩ := (hhas.of_grows (Code.push_grows _ _)).star
  exact (m.star_takes hmode rfl hcd hsplit hsave hchar hcheck hjump hlast none [] count 0
    (m.initial 0).slots [] (Nat.zero_add count) (by simpa [Machine.initial] using hslot)).matchAt_eq

/-- Against a text of one character, a counted loop around it takes as many steps as there are choices
of copies: with at least as many characters as copies that is three times a power of two, so that a
budget in the square of the number of copies is enough for up to eight copies only. A star takes six
steps for each character. -/
theorem counted_char_steps
    (ht : tree.Reads [.quantifier ⟨0, 0⟩ 0 (some n) true (.char ⟨0, 0⟩ c), .char ⟨0, 0⟩ d])
    (hc : compile multiline tree = .ok program)
    (ht' : tree'.Reads [.quantifier ⟨0, 0⟩ 0 none true (.char ⟨0, 0⟩ c), .char ⟨0, 0⟩ d])
    (hc' : compile multiline tree' = .ok program') (hmode : mode.ignoreCase = false) (hcd : c ≠ d) :
    (∀ count limit, (⟨program, mode, Array.replicate count c, limit⟩ : Machine).matchAt 0 =
      if ∑ j ∈ Finset.range (count + 1), (n.choose j + 2 * n.choose (j + 1)) ≤ limit then .ok none
      else .error .stepLimit) ∧
    (∀ count ≥ n, ∀ limit, (⟨program, mode, Array.replicate count c, limit⟩ : Machine).matchAt 0 =
      if 3 * 2 ^ n ≤ limit + 2 then .ok none else .error .stepLimit) ∧
    ((∀ count limit, 10 * (n + 2) * (n + 2) ≤ limit →
      (⟨program, mode, Array.replicate count c, limit⟩ : Machine).matchAt 0 = .ok none) ↔ n ≤ 8) ∧
    ∀ count limit, (⟨program', mode, Array.replicate count c, limit⟩ : Machine).matchAt 0 =
      if 6 * count + 4 ≤ limit then .ok none else .error .stepLimit := by
  have hsteps := matchAt_optional_chars ht hc hmode hcd
  have hnone : ∀ count limit,
      (⟨program, mode, Array.replicate count c, limit⟩ : Machine).matchAt 0 = .ok none ↔
        chainSteps n count ≤ limit := by
    intro count limit
    rw [hsteps]
    split <;> simp [*]
  refine ⟨hsteps, fun count hcount limit => ?_, ?_, matchAt_star_char ht' hc' hmode hcd⟩
  · rw [hsteps, ← chainSteps_add_two hcount]
    simp only [Nat.add_le_add_iff_right]
  · simp only [hnone]
    rw [← square_suffices_iff]
    exact ⟨fun h count => h count _ le_rfl, fun h count limit hl => (h count).trans hl⟩

/-- Two copies. -/
theorem counted_char_steps_two :
    ∃ tree program tree' program', parse false "a{0,2}b".toList = .ok tree ∧
      compile false tree = .ok program ∧ parse false "a*b".toList = .ok tree' ∧
      compile false tree' = .ok program' ∧ ∀ limit,
        (⟨program, ⟨false, false, false⟩, Array.replicate 2 'a', limit⟩ : Machine).matchAt 0 =
          if 12 ≤ limit + 2 then .ok none else .error .stepLimit := by
  let tree : PatternTree := .ofElements ⟨0, 7⟩
    [.quantifier ⟨0, 6⟩ 0 (some 2) true (.char ⟨0, 1⟩ 'a'), .char ⟨6, 7⟩ 'b'] []
  let tree' : PatternTree := .ofElements ⟨0, 3⟩
    [.quantifier ⟨0, 2⟩ 0 none true (.char ⟨0, 1⟩ 'a'), .char ⟨2, 3⟩ 'b'] []
  let program : Program := ⟨#[.split 1 2, .char 'a', .split 3 4, .char 'a', .char 'b', .accept], 0, 2,
    false⟩
  let program' : Program := ⟨#[.split 1 5, .save 2, .char 'a', .checkProgress 2, .jump 0, .char 'b',
    .accept], 0, 3, false⟩
  have hc : compile false tree = .ok program := by with_unfolding_all rfl
  have hc' : compile false tree' = .ok program' := by with_unfolding_all rfl
  have ht : tree.Reads
      [.quantifier ⟨0, 0⟩ 0 (some 2) true (.char ⟨0, 0⟩ 'a'), .char ⟨0, 0⟩ 'b'] := rfl
  have ht' : tree'.Reads [.quantifier ⟨0, 0⟩ 0 none true (.char ⟨0, 0⟩ 'a'), .char ⟨0, 0⟩ 'b'] := rfl
  have hmode : (⟨false, false, false⟩ : Mode).ignoreCase = false := rfl
  exact ⟨tree, program, tree', program', by with_unfolding_all rfl, hc, by with_unfolding_all rfl, hc',
    (counted_char_steps ht hc ht' hc' hmode (by decide)).2.1 2 le_rfl⟩

/-- Nine copies on nine characters take more steps than ten times the square of eleven. -/
theorem counted_char_exceeds_square :
    ∃ tree program, parse false "a{0,9}b".toList = .ok tree ∧
      tree.Reads [.quantifier ⟨0, 0⟩ 0 (some 9) true (.char ⟨0, 0⟩ 'a'), .char ⟨0, 0⟩ 'b'] ∧
      compile false tree = .ok program ∧
      (⟨program, ⟨false, false, false⟩, Array.replicate 9 'a', 10 * (9 + 2) * (9 + 2)⟩ :
        Machine).matchAt 0 = .error .stepLimit := by
  let tree : PatternTree := .ofElements ⟨0, 7⟩
    [.quantifier ⟨0, 6⟩ 0 (some 9) true (.char ⟨0, 1⟩ 'a'), .char ⟨6, 7⟩ 'b'] []
  have hparse : parse false "a{0,9}b".toList = .ok tree := by with_unfolding_all rfl
  have hcompile : (compile false tree).toOption.isSome := by decide +kernel
  cases hc : compile false tree with
  | error e =>
    rw [hc] at hcompile
    cases hcompile
  | ok program =>
    have ht : tree.Reads
        [.quantifier ⟨0, 0⟩ 0 (some 9) true (.char ⟨0, 0⟩ 'a'), .char ⟨0, 0⟩ 'b'] := rfl
    have hmode : (⟨false, false, false⟩ : Mode).ignoreCase = false := rfl
    have hsteps := chainSteps_add_two (Nat.le_refl 9)
    refine ⟨tree, program, hparse, ht, hc, ?_⟩
    rw [matchAt_optional_chars ht hc hmode (by decide), if_neg (by omega)]

end
end RegexInsight
