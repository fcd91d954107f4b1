import RegexInsight.Proofs.Searches

/-! The limit on the steps of an attempt. It can turn an answer into an error and nothing else: there is
a limit from which on the answer is one and the same, and below it there is no answer. A search and
a collection make several attempts under one limit, and the attempt that needs most decides. -/
namespace RegexInsight
namespace Machine

variable {program : Program} {mode : Mode} {text : Array Char}

theorem scan_succ (m : Machine) (count start : Nat) :
    m.scan (count + 1) start = (m.matchAt start).bind fun found =>
      match found with
      | none => m.scan count (start + 1)
      | some slots => .ok (some slots) := by
  rw [scan]
  rcases m.matchAt start with _ | _ | _ <;> rfl

theorem scan_settles (h : ∀ start ≤ text.size, ∃ a : Option Slots,
      Settles (fun limit => (mk program mode text limit).matchAt start) a)
    (count start : Nat) (hs : start + count ≤ text.size + 1) :
    ∃ a, Settles (fun limit => (mk program mode text limit).scan count start) a := by
  induction count generalizing start with
  | zero => exact ⟨none, .pure none⟩
  | succ count ih =>
    obtain ⟨found, hfound⟩ := h start (by omega)
    simp only [scan_succ]
    cases found with
    | none =>
      obtain ⟨a, ha⟩ := ih (start + 1) (by omega)
      exact ⟨a, hfound.bind ha⟩
    | some slots => exact ⟨some slots, hfound.bind (.pure _)⟩

theorem search_settles (h : ∀ start ≤ text.size, ∃ a : Option Slots,
      Settles (fun limit => (mk program mode text limit).matchAt start) a)
    {start : Nat} (hs : start ≤ text.size) (sticky : Bool) :
    ∃ a, Settles (fun limit => (mk program mode text limit).search start sticky) a := by
  unfold search
  by_cases ha : program.anchored
  · by_cases hpos : 0 < start
    · exact ⟨none, by simpa [ha, hpos] using Settles.pure none⟩
    · simpa [ha, hpos] using h start hs
  · by_cases hsticky : sticky
    · simpa [ha, hsticky] using h start hs
    · simpa [ha, hsticky] using scan_settles h (text.size + 1 - start) start (by omega)

end Machine

namespace Regex

variable {unicode multiline : Bool} {source : List Char} {tree : PatternTree} {r : Regex}

theorem capturesFrom_settles (hw : tree.WellFormed unicode)
    (hc : compile multiline tree = .ok r.program) (s : Subject) {start : Nat} (hs : start ≤ s.size) :
    ∃ a, Machine.Settles
      (fun limit => ({ r with stepLimit := limit } : Regex).capturesFrom s start) a := by
  have hattempt : ∀ start ≤ s.chars.size, ∃ a : Option Slots, Machine.Settles
      (fun limit => (⟨r.program, r.mode, s.chars, limit⟩ : Machine).matchAt start) a :=
    fun start hs => ⟨_, hw.settles hc r.mode s.chars hs⟩
  obtain ⟨a, ha⟩ := Machine.search_settles hattempt hs r.flags.sticky
  simp only [capturesFrom_eq]
  exact ⟨_, ha.bind (.pure _)⟩

/-- The searches of a collection begin within the text, so each of them comes to an answer. -/
theorem collectFrom_settles (hp : parse unicode source = .ok tree)
    (hc : compile multiline tree = .ok r.program) (s : Subject) (count : Nat)
    (found : List MatchRecord) {start : Nat} (hs : start ≤ s.size) :
    ∃ a, Machine.Settles
      (fun limit => ({ r with stepLimit := limit } : Regex).collectFrom s found count start) a := by
  induction count generalizing found start with
  | zero => exact ⟨_, .pure _⟩
  | succ count ih =>
    obtain ⟨hit, hhit⟩ := capturesFrom_settles (.of_parse hp) hc s hs
    simp only [collectFrom_succ]
    cases hit with
    | none => exact ⟨_, hhit.bind (.pure _)⟩
    | some c =>
      -- what is recorded and where it goes on do not depend on the limit
      have hnext : ∀ limit, ({ r with stepLimit := limit } : Regex).next? s c = r.next? s c :=
        fun _ => rfl
      cases hn : r.next? s c with
      | none =>
        refine ⟨⟨(r.record s c :: found).reverse, false⟩, hhit.bind ?_⟩
        simp only [hnext, hn]
        exact .pure (⟨(r.record s c :: found).reverse, false⟩ : MatchList)
      | some next =>
        have hle : next ≤ s.size := by
          obtain ⟨least, _, hhigh⟩ := hhit
          have hfirst : Regex.Hit { r with stepLimit := least } s start c :=
            capturesFrom_some (r := { r with stepLimit := least }) hp hc hs (hhigh least le_rfl)
          exact (hfirst.next hn).2.2.1
        obtain ⟨a, ha⟩ := ih (r.record s c :: found) hle
        refine ⟨a, hhit.bind ?_⟩
        simp only [hnext, hn]
        exact ha

end Regex

/-- An attempt, a search and a collection come to an answer, one and the same from some limit on, and
below that limit to an error. -/
theorem stepLimit_settles {unicode multiline : Bool} {source : List Char} {tree : PatternTree}
    {program : Program} (hp : parse unicode source = .ok tree)
    (hc : compile multiline tree = .ok program) :
    (∀ mode text start, start ≤ text.size → ∃ answer, Machine.Settles
      (fun limit => (⟨program, mode, text, limit⟩ : Machine).matchAt start) answer) ∧
    (∀ mode text start sticky, start ≤ text.size → ∃ answer, Machine.Settles
      (fun limit => (⟨program, mode, text, limit⟩ : Machine).search start sticky) answer) ∧
    ∀ (r : Regex) (s : Subject) (count : Nat), r.program = program → ∃ answer, Machine.Settles
      (fun limit => ({ r with stepLimit := limit } : Regex).collect s count) answer := by
  have hattempt : ∀ mode text start, start ≤ text.size → ∃ answer, Machine.Settles
      (fun limit => (⟨program, mode, text, limit⟩ : Machine).matchAt start) answer :=
    fun mode text start hs => ⟨_, matchAt_settles hp hc mode text hs⟩
  refine ⟨hattempt, fun mode text start sticky hs => ?_, fun r s count hr => ?_⟩
  · exact Machine.search_settles (hattempt mode text) hs sticky
  · subst hr
    exact Regex.collectFrom_settles hp hc s count [] (Nat.zero_le _)

/-- A loop around a loop that may consume nothing, on a text where it fails. That is known after 68 steps. -/
theorem stepLimit_settles_nested_loop :
    ∃ tree program, parse false "(a*)*b".toList = .ok tree ∧ compile false tree = .ok program ∧
      0 ≤ "aa".toList.toArray.size ∧
      (∀ limit < 68, (⟨program, ⟨false, false, false⟩, "aa".toList.toArray, limit⟩ : Machine).matchAt 0 =
        .error .stepLimit) ∧
      ∀ limit ≥ 68, (⟨program, ⟨false, false, false⟩, "aa".toList.toArray, limit⟩ : Machine).matchAt 0 =
        .ok none := by
  let attempt (program : Program) (limit : Nat) :=
    (⟨program, ⟨false, false, false⟩, "aa".toList.toArray, limit⟩ : Machine).matchAt 0
  have h : ((parse false "(a*)*b".toList).toOption.bind fun tree =>
      (compile false tree).toOption.map fun program =>
        ((attempt program 67).toOption, (attempt program 68).toOption)) = some (none, some none) := by
    decide +kernel
  obtain ⟨tree, program, hp, hc, hattempts⟩ := ok_of_parse_compile h
  obtain ⟨hlast, hfirst⟩ := Prod.mk.inj hattempts
  have hstart : 0 ≤ "aa".toList.toArray.size := Nat.zero_le _
  obtain ⟨answer, hsettles⟩ := (stepLimit_settles hp hc).1 ⟨false, false, false⟩ _ 0 hstart
  obtain ⟨hlow, hhigh⟩ := hsettles.begins hlast hfirst
  exact ⟨tree, program, hp, hc, hstart, hlow, hhigh⟩

end RegexInsight
