import RegexInsight.Proofs.OutcomeBounds
import RegexInsight.Proofs.Slices
import RegexInsight.Proofs.StepLimit

/-! What a search gives, said without a program. Whatever the limit, a search that does not exceed it
gives the first of the matches that the tree has from the start on. So two patterns whose trees have
the same matches cannot be told apart by searching. -/
namespace RegexInsight

/-- What a search from `start` on has to give: the first match there, or the first one further on
unless it is sticky. -/
def PatternTree.search (tree : PatternTree) (mode : Mode) (text : Array Char) (start : Nat)
    (sticky : Bool) : Option Slots :=
  if sticky then tree.firstMatch mode text start
  else (List.range' start (text.size + 1 - start)).findSome? (tree.firstMatch mode text)

/-- A match begins where it is looked for, and ends where the first outcome does. -/
theorem PatternTree.firstMatch_whole {tree : PatternTree} {mode : Mode} {text : Array Char}
    {start : Nat} {slots : Slots} (h : tree.firstMatch mode text start = some slots) :
    ∃ q, (branchesOutcomes ⟨mode, text, tree.names⟩ tree.pattern.branches (.start start)).head? =
        some q ∧ (Captures.ofSlots slots.toList).whole = (start, q.pos) := by
  obtain ⟨q, hq, rfl⟩ := Option.map_eq_some_iff.mp h
  have hle : start ≤ q.pos := (branchesOutcomes_bounds _ _ _ q (List.mem_of_mem_head? hq)).le
  refine ⟨q, hq, ?_⟩
  simp [Point.slots, Captures.ofSlots, Captures.whole, Captures.group?, hle]

section
variable {unicode multiline : Bool} {tree : PatternTree} {m : Machine}

theorem scan_ok (hw : tree.WellFormed unicode) (hc : compile multiline tree = .ok m.program)
    {count start : Nat} (hs : start + count ≤ m.text.size + 1) {found : Option Slots}
    (h : m.scan count start = .ok found) :
    found = (List.range' start count).findSome? (tree.firstMatch m.mode m.text) := by
  induction count generalizing start with
  | zero =>
    cases h
    rfl
  | succ count ih =>
    rw [Machine.scan_succ] at h
    rw [List.range'_succ, List.findSome?_cons]
    cases hat : m.matchAt start with
    | error e =>
      rw [hat] at h
      cases h
    | ok first =>
      rw [hat] at h
      rw [← hw.matchAt_ok hc (by omega) hat]
      cases first with
      | none => exact ih (by omega) h
      | some slots =>
        cases h
        rfl

/-- A search that is within its limit gives what it has to. An anchored program is searched at the
start of the text alone, where alone it can match. -/
theorem search_ok (hw : tree.WellFormed unicode)
    (hc : compile m.mode.multiline tree = .ok m.program) {start : Nat} (hs : start ≤ m.text.size)
    {sticky : Bool} {found : Option Slots} (h : m.search start sticky = .ok found) :
    found = tree.search m.mode m.text start sticky := by
  unfold Machine.search at h
  rw [PatternTree.search]
  split at h
  · rename_i ha
    have hlater : ∀ p, 0 < p → tree.firstMatch m.mode m.text p = none :=
      fun p hp => compile_anchored hc ha rfl _ hp
    split at h
    · rename_i hpos
      cases h
      have hnone : (List.range' start (m.text.size + 1 - start)).findSome?
          (tree.firstMatch m.mode m.text) = none := by
        refine List.findSome?_eq_none_iff.mpr fun p hp => hlater p ?_
        have := List.mem_range'_1.mp hp
        omega
      rw [hlater start hpos, hnone, ite_self]
    · obtain rfl : start = 0 := by omega
      have hrest : (List.range' 1 m.text.size).findSome? (tree.firstMatch m.mode m.text) = none := by
        refine List.findSome?_eq_none_iff.mpr fun p hp => hlater p ?_
        exact (List.mem_range'_1.mp hp).1
      rw [hw.matchAt_ok hc hs h, Nat.sub_zero, List.range'_succ, List.findSome?_cons, hrest]
      split
      · rfl
      · cases tree.firstMatch m.mode m.text 0 <;> rfl
  · split at h
    · rename_i hsticky
      rw [if_pos hsticky]
      exact hw.matchAt_ok hc hs h
    · rename_i hsticky
      rw [if_neg hsticky]
      exact scan_ok hw hc (by omega) h

end

theorem Subject.charAtByte?_le {text : List Char} {byte i : Nat}
    (h : (ofChars text).charAtByte? byte = some i) : i ≤ (ofChars text).size := by
  rw [charAtByte?, bytes_ofChars, List.idxOf?_toArray] at h
  obtain ⟨hi, -⟩ := List.idxOf?_eq_some_iff.mp h
  rw [List.length_map, List.length_range] at hi
  rw [size_ofChars]
  omega

namespace Regex

variable {unicode : Bool} {tree : PatternTree} {r : Regex} {s : Subject}

theorem mode_eq {r' : Regex} (h : r'.flags = r.flags) : r'.mode = r.mode := by rw [mode, mode, h]

theorem capturesFrom_eq_search (hw : tree.WellFormed unicode)
    (hc : compile r.flags.multiline tree = .ok r.program) {start : Nat} (hs : start ≤ s.size)
    (hl : r.capturesFrom s start ≠ .error .stepLimit) :
    r.capturesFrom s start = .ok ((tree.search r.mode s.chars start r.flags.sticky).map
      fun slots => Captures.ofSlots slots.toList) := by
  obtain ⟨answer, hanswer⟩ := capturesFrom_settles hw hc s hs
  have hok : r.capturesFrom s start = .ok answer := (hanswer.cases r.stepLimit).resolve_left hl
  rw [capturesFrom_eq] at hok ⊢
  cases hfound : (r.machine s).search start r.flags.sticky with
  | error e =>
    rw [hfound] at hok
    cases hok
  | ok found =>
    rw [search_ok (m := r.machine s) hw hc hs hfound]
    rfl

theorem capturesAt_eq_search (hw : tree.WellFormed unicode)
    (hc : compile r.flags.multiline tree = .ok r.program) (text : List Char) (start : Nat)
    (hl : r.capturesAt (.ofChars text) start ≠ .error .stepLimit) :
    r.capturesAt (.ofChars text) start = .ok (((Subject.ofChars text).charAtByte? start).bind fun i =>
      (tree.search r.mode text.toArray i r.flags.sticky).map fun slots =>
        Captures.ofSlots slots.toList) := by
  unfold capturesAt at hl ⊢
  split
  · rename_i hnone
    rw [hnone, Option.bind_none]
  · rename_i i hi
    rw [hi] at hl
    rw [hi, Option.bind_some]
    exact capturesFrom_eq_search hw hc (Subject.charAtByte?_le hi) hl

/-- Two patterns whose trees have the same matches in a text capture the same there. -/
theorem capturesAt_congr (r r' : Regex) {tree' : PatternTree} (hw : tree.WellFormed unicode)
    (hc : compile r.flags.multiline tree = .ok r.program) (hw' : tree'.WellFormed unicode)
    (hc' : compile r'.flags.multiline tree' = .ok r'.program) (hflags : r'.flags = r.flags)
    (text : List Char)
    (hmatch : tree'.firstMatch r.mode text.toArray = tree.firstMatch r.mode text.toArray)
    (start : Nat) (hl : r.capturesAt (.ofChars text) start ≠ .error .stepLimit)
    (hl' : r'.capturesAt (.ofChars text) start ≠ .error .stepLimit) :
    r'.capturesAt (.ofChars text) start = r.capturesAt (.ofChars text) start := by
  have hmode := mode_eq hflags
  rw [capturesAt_eq_search hw' hc' text start hl', capturesAt_eq_search hw hc text start hl, hmode,
    hflags]
  unfold PatternTree.search
  rw [hmatch]

end Regex
end RegexInsight
