import RegexInsight.Proofs.Pieces

/-! Pieces of one instruction that looks at the text: a character, an anchor, a reference. The machine
asks only for characters and slots that exist. -/
namespace RegexInsight

def Machine.attempt (m : Machine) (names : List (Option String)) : Attempt := ⟨m.mode, m.text, names⟩

namespace Config

variable {mode : Mode} {text : Array Char} {names : List (Option String)} {pos : Nat}

theorem atLineStart?_eq (h : pos ≤ text.size) :
    atLineStart? mode text pos = some ((⟨mode, text, names⟩ : Attempt).holdsAt pos .start) := by
  unfold atLineStart? Attempt.holdsAt
  by_cases h₀ : pos = 0
  · simp [h₀]
  · have hprev : pos - 1 < text.size := by omega
    cases hm : mode.multiline <;> simp [h₀, hprev]

theorem atLineEnd?_eq (h : pos ≤ text.size) :
    atLineEnd? mode text pos = some ((⟨mode, text, names⟩ : Attempt).holdsAt pos .stop) := by
  unfold atLineEnd? Attempt.holdsAt
  by_cases h₀ : pos = text.size
  · simp [h₀]
  · have hnext : pos < text.size := by omega
    cases hm : mode.multiline <;> simp [h₀, hnext]

theorem atWordBoundary?_eq (h : pos ≤ text.size) (negate : Bool) :
    (atWordBoundary? text pos).map (· != negate) =
      some ((⟨mode, text, names⟩ : Attempt).holdsAt pos
        (if negate then .nonWordBoundary else .wordBoundary)) := by
  have hboundary : atWordBoundary? text pos =
      some ((⟨mode, text, names⟩ : Attempt).wordBefore pos !=
        (⟨mode, text, names⟩ : Attempt).wordAfter pos) := by
    unfold atWordBoundary? Attempt.wordBefore Attempt.wordAfter
    by_cases h₀ : pos = 0
    · simp [h₀]
    · have hprev : pos - 1 < text.size := by omega
      have hne : (pos != 0) = true := by simpa using h₀
      simp [h₀, hprev, hne]
  rw [hboundary]
  cases negate
  · simp [Attempt.holdsAt]
  · simp [Attempt.holdsAt, bne]

theorem sameText?_eq (names : List (Option String)) (length i j : Nat) (hi : i + length ≤ text.size) (hj : j + length ≤ text.size) :
    sameText? mode text length i j = some ((⟨mode, text, names⟩ : Attempt).sameText length i j) := by
  induction length generalizing i j with
  | zero => rfl
  | succ length ih =>
    have hi' : i < text.size := by omega
    have hj' : j < text.size := by omega
    have hstep : (⟨mode, text, names⟩ : Attempt).sameText (length + 1) i j =
        (mode.sameChar text[i] text[j] &&
          (⟨mode, text, names⟩ : Attempt).sameText length (i + 1) (j + 1)) := by
      simp only [Attempt.sameText, List.range_succ_eq_map, List.all_cons, List.all_map,
        Nat.add_zero, Array.getElem?_eq_getElem hi', Array.getElem?_eq_getElem hj']
      congr 2
      funext n
      simp only [Function.comp, Nat.succ_eq_add_one, Nat.add_comm n 1, ← Nat.add_assoc]
    simp only [sameText?, Array.getElem?_eq_getElem hi', Array.getElem?_eq_getElem hj', hstep]
    cases mode.sameChar text[i] text[j] with
    | false => rfl
    | true => simpa using ih (i + 1) (j + 1) (by omega) (by omega)

/-- A text that reaches over the end is not the same as one that does not. -/
theorem sameText_eq_false {length j : Nat} (i : Nat) (hj : j ≤ text.size) (h : text.size < j + length) :
    (⟨mode, text, names⟩ : Attempt).sameText length i j = false := by
  rw [Attempt.sameText, List.all_eq_false]
  refine ⟨text.size - j, List.mem_range.mpr (by omega), ?_⟩
  have hnone : text[j + (text.size - j)]? = none := Array.getElem?_eq_none (by omega)
  simp [hnone]

end Config

namespace Machine

variable {m : Machine} {names : List (Option String)} {r : Region} {unset : List Nat} {pc : Nat}

theorem Performs.consume {inst : Inst} {test : Char → Bool}
    (hi : m.program.insts[pc]? = some inst)
    (ht : (∃ value, inst = .char value ∧ test = (m.mode.sameChar · value)) ∨
      (∃ set negate, inst = .set set negate ∧ test = fun x => set.holds m.mode x != negate) ∨
      ∃ items negate, inst = .bracket items negate ∧
        test = fun x => m.mode.anyItem items x != negate) :
    m.Performs r unset pc (pc + 1) ((m.attempt names).consume test) := by
  intro p slots trail target waiting hp hset _
  have hstep : Config.step m.program m.mode m.text
      ⟨pc, p.pos, slots, trail, target, waiting⟩ = _ := Config.step_consume hi ht
  change m.Yields _ _ _ _ _ _ (if m.text[p.pos]?.any test then [{ p with pos := p.pos + 1 }] else [])
  cases hx : m.text[p.pos]?.any test with
  | false => exact .done (.single (by simpa [hx] using hstep))
  | true =>
    have hlt : p.pos < m.text.size := by
      by_contra hge
      simp [Array.getElem?_eq_none (Nat.le_of_not_lt hge)] at hx
    have hmove : m.Moves r p slots { p with pos := p.pos + 1 } slots :=
      ⟨hp.at hlt, Nat.le_succ _, fun _ _ => rfl, hset⟩
    exact .once (.single (by simpa [hx] using hstep)) hmove rfl

theorem Performs.continue (test : Nat → Bool)
    (h : ∀ pos slots trail target waiting, pos ≤ m.text.size →
      Config.step m.program m.mode m.text ⟨pc, pos, slots, trail, target, waiting⟩ =
        Config.continueIf (some (test pos)) ⟨pc, pos, slots, trail, target, waiting⟩) :
    m.Performs r unset pc (pc + 1) fun p => if test p.pos then [p] else [] := by
  intro p slots trail target waiting hp hset _
  have hstep := h p.pos slots trail target waiting hp.pos
  dsimp only
  cases hx : test p.pos with
  | false =>
    rw [hx] at hstep
    exact .done (.single hstep)
  | true =>
    rw [hx] at hstep
    exact .once (.single hstep) (hp.moves hset) rfl

theorem Performs.assertStart (hi : m.program.insts[pc]? = some .assertStart) :
    m.Performs r unset pc (pc + 1) fun p =>
      if (m.attempt names).holdsAt p.pos .start then [p] else [] :=
  .continue (fun pos => (m.attempt names).holdsAt pos .start)
    fun _ _ _ _ _ hp => Config.step_continue hi (.inl ⟨rfl, (Config.atLineStart?_eq hp).symm⟩)

theorem Performs.assertEnd (hi : m.program.insts[pc]? = some .assertEnd) :
    m.Performs r unset pc (pc + 1) fun p =>
      if (m.attempt names).holdsAt p.pos .stop then [p] else [] :=
  .continue (fun pos => (m.attempt names).holdsAt pos .stop)
    fun _ _ _ _ _ hp => Config.step_continue hi (.inr (.inl ⟨rfl, (Config.atLineEnd?_eq hp).symm⟩))

theorem Performs.wordBoundary {negate : Bool}
    (hi : m.program.insts[pc]? = some (.wordBoundary negate)) :
    m.Performs r unset pc (pc + 1) fun p =>
      if (m.attempt names).holdsAt p.pos (if negate then .nonWordBoundary else .wordBoundary)
      then [p] else [] :=
  .continue (fun pos => (m.attempt names).holdsAt pos
      (if negate then .nonWordBoundary else .wordBoundary))
    fun _ _ _ _ _ hp => Config.step_continue hi
      (.inr (.inr (.inl ⟨_, rfl, (Config.atWordBoundary?_eq hp negate).symm⟩)))

theorem referenceLength?_unset {p : Point} {slots : Slots} {group : Nat} (hp : m.Shows p slots)
    (hg : group ≤ m.program.groupCount)
    (hslots : (m.program.groupCount + 1) * 2 ≤ m.program.slotCount) (h : p.groups group = none) :
    Config.referenceLength? m.mode m.text slots group p.pos = some (some 0) := by
  have hsize := hp.size
  have h₁ : group * 2 < slots.size := by omega
  have h₂ : group * 2 + 1 < slots.size := by omega
  have hspan := (hp.groups group hg).symm.trans h
  simp only [spanAt, Config.referenceLength?, Array.getElem?_eq_getElem h₁,
    Array.getElem?_eq_getElem h₂] at hspan ⊢
  cases hs : slots[group * 2] <;> cases he : slots[group * 2 + 1] <;> simp_all

theorem referenceLength?_set (names : List (Option String)) {p : Point} {slots : Slots}
    {group first stop : Nat}
    (hp : m.Shows p slots) (hg : group ≤ m.program.groupCount)
    (h : p.groups group = some (first, stop)) :
    Config.referenceLength? m.mode m.text slots group p.pos =
      some (if (m.attempt names).sameText (stop - first) first p.pos then some (stop - first)
        else none) := by
  obtain ⟨hle, hstop⟩ := hp.spans group hg first stop h
  have hspan := (hp.groups group hg).symm.trans h
  have hslots : slots[group * 2]? = some (some first) ∧ slots[group * 2 + 1]? = some (some stop) := by
    unfold spanAt at hspan
    split at hspan <;> simp_all
  have hpos := hp.pos
  simp only [Config.referenceLength?, hslots.1, hslots.2, Nat.not_lt.mpr hle, if_false]
  split
  · rename_i hover
    rw [attempt, Config.sameText_eq_false first hpos hover]
    rfl
  · rw [Config.sameText?_eq names _ _ _ (by omega) (by omega)]
    rfl

theorem Performs.refer {ref : Reference} {group : Nat} (ht : ref.group? names = some group)
    (hg : group ≤ m.program.groupCount)
    (hslots : (m.program.groupCount + 1) * 2 ≤ m.program.slotCount)
    (hi : m.program.insts[pc]? = some (.backreference group)) :
    m.Performs r unset pc (pc + 1) ((m.attempt names).refer ref) := by
  intro p slots trail target waiting hp hset _
  have hgroup : (ref.group? (m.attempt names).names).bind p.groups = p.groups group := by
    rw [attempt, ht, Option.bind_some]
  rw [Attempt.refer, hgroup]
  cases h : p.groups group with
  | none =>
    have hl := referenceLength?_unset hp hg hslots h
    exact .once (.single (Config.step_refer hi hl)) (hp.moves hset) rfl
  | some span =>
    obtain ⟨first, stop⟩ := span
    have hl := referenceLength?_set names hp hg h
    dsimp only
    split at hl
    · rename_i hsame
      rw [if_pos hsame]
      have hend : p.pos + (stop - first) ≤ m.text.size := by
        by_contra hover
        rw [attempt, Config.sameText_eq_false first hp.pos (Nat.lt_of_not_le hover)] at hsame
        exact Bool.false_ne_true hsame
      exact .once (.single (Config.step_refer hi hl))
        (Moves.mk (hp.at hend) (Nat.le_add_right _ _) (fun _ _ => rfl) hset) rfl
    · rename_i hsame
      rw [if_neg hsame]
      exact .done (.single (Config.step_refer_fails hi hl))

end Machine
end RegexInsight
