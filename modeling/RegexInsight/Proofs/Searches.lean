import RegexInsight.Regex
import RegexInsight.Proofs.Attempts

/-! What a search gives: the groups of the first attempt that matches, at or behind the position at
which it began, or the certainty that there is none. -/
namespace RegexInsight
namespace Machine

variable {m : Machine}

/-- An attempt at this position finds something within the limit. -/
def Matches (m : Machine) (start : Nat) : Prop := ∃ slots, m.matchAt start = .ok (some slots)

theorem not_matches {start : Nat} (h : m.matchAt start = .ok none) : ¬ m.Matches start := by
  rintro ⟨slots, hs⟩
  cases h.symm.trans hs

theorem scan_some {count start : Nat} {slots : Slots} (h : m.scan count start = .ok (some slots)) :
    ∃ p, start ≤ p ∧ p < start + count ∧ m.matchAt p = .ok (some slots) ∧
      ∀ q, start ≤ q → q < p → ¬ m.Matches q := by
  induction count generalizing start with
  | zero => cases h
  | succ count ih =>
    rw [scan] at h
    split at h
    · rename_i hnone
      obtain ⟨p, hle, hlt, hp, hbefore⟩ := ih h
      refine ⟨p, by omega, by omega, hp, fun q hq hqp => ?_⟩
      by_cases hqs : q = start
      · exact hqs ▸ not_matches hnone
      · exact hbefore q (by omega) hqp
    · exact ⟨start, Nat.le_refl _, by omega, h, fun q _ _ => by omega⟩

theorem scan_none {count start : Nat} (h : m.scan count start = .ok none) {p : Nat}
    (hs : start ≤ p) (hp : p < start + count) : ¬ m.Matches p := by
  induction count generalizing start with
  | zero => omega
  | succ count ih =>
    rw [scan] at h
    split at h
    · rename_i hnone
      by_cases hps : p = start
      · exact hps ▸ not_matches hnone
      · exact ih h (by omega) (by omega)
    · rename_i hother
      exact absurd h hother

theorem search_some {start : Nat} {sticky : Bool} {slots : Slots} (hs : start ≤ m.text.size)
    (h : m.search start sticky = .ok (some slots)) :
    ∃ p, start ≤ p ∧ p ≤ m.text.size ∧ m.matchAt p = .ok (some slots) ∧
      (sticky → p = start) ∧ ∀ q, start ≤ q → q < p → ¬ m.Matches q := by
  have hhere : m.matchAt start = .ok (some slots) → ∃ p, start ≤ p ∧ p ≤ m.text.size ∧
      m.matchAt p = .ok (some slots) ∧ (sticky → p = start) ∧
        ∀ q, start ≤ q → q < p → ¬ m.Matches q :=
    fun h => ⟨start, Nat.le_refl _, hs, h, fun _ => rfl, fun q _ _ => by omega⟩
  unfold search at h
  split at h
  · split at h
    · cases h
    · exact hhere h
  · split at h
    · exact hhere h
    · rename_i hsticky
      obtain ⟨p, hle, hlt, hp, hbefore⟩ := scan_some h
      exact ⟨p, hle, by omega, hp, fun h => absurd h hsticky, hbefore⟩

/-- Where nothing is found, nothing matches further on, if it is true of an anchored program that it
matches at the start of the text alone. -/
theorem search_none {start : Nat} (ha : m.program.anchored → ∀ p, 0 < p → p ≤ m.text.size →
    ¬ m.Matches p) (h : m.search start false = .ok none) {p : Nat} (hs : start ≤ p)
    (hp : p ≤ m.text.size) : ¬ m.Matches p := by
  unfold search at h
  split at h
  · rename_i hanchored
    split at h
    · exact ha hanchored p (by omega) hp
    · by_cases hpos : 0 < p
      · exact ha hanchored p hpos hp
      · obtain rfl : start = p := by omega
        exact not_matches h
  · exact scan_none h hs (by omega)

end Machine

theorem Branch.holdsAt_start {a : Attempt} {b : Branch} (hb : b.startsAnchored) {p q : Point}
    (hq : q ∈ b.outcomes a p) : a.holdsAt p.pos .start := by
  obtain ⟨span, es⟩ := b
  cases es with
  | nil => simp [startsAnchored, elements] at hb
  | cons e es =>
    simp only [startsAnchored, elements, List.head?_cons, Option.any_some, Element.isStartAnchor] at hb
    split at hb
    · rw [outcomes, elementsOutcomes, Element.outcomes] at hq
      split at hq
      · assumption
      · cases hq
    · cases hb

/-- It has none behind the start of the text, unless the anchor asks for the start of a line. -/
theorem Branch.outcomes_of_startsAnchored {a : Attempt} {b : Branch} (hb : b.startsAnchored)
    (hm : a.mode.multiline = false) {p : Point} (hp : 0 < p.pos) : b.outcomes a p = [] := by
  refine List.eq_nil_iff_forall_not_mem.mpr fun q hq => ?_
  have hstart := b.holdsAt_start hb hq
  simp only [Attempt.holdsAt, hm, Bool.false_and, Bool.or_false, beq_iff_eq] at hstart
  omega

theorem branchesOutcomes_of_startsAnchored {a : Attempt} {bs : List Branch}
    (hb : bs.all Branch.startsAnchored) (hm : a.mode.multiline = false) {p : Point} (hp : 0 < p.pos) :
    branchesOutcomes a bs p = [] := by
  induction bs with
  | nil => rw [branchesOutcomes]
  | cons b bs ih =>
    rw [List.all_cons, Bool.and_eq_true] at hb
    rw [branchesOutcomes, Branch.outcomes_of_startsAnchored hb.1 hm hp, ih hb.2]
    rfl

/-- An anchored program is one of a tree that matches at the start of the text alone. -/
theorem compile_anchored {multiline : Bool} {tree : PatternTree} {program : Program}
    (hc : compile multiline tree = .ok program) (ha : program.anchored) {mode : Mode}
    (hm : mode.multiline = multiline) (text : Array Char) {start : Nat} (hs : 0 < start) :
    tree.firstMatch mode text start = none := by
  obtain ⟨_, _, _, rfl⟩ := compile_cases hc
  rw [Bool.and_eq_true, Bool.not_eq_true'] at ha
  rw [PatternTree.firstMatch, branchesOutcomes_of_startsAnchored ha.2 (hm.trans ha.1) hs]
  rfl

theorem Captures.ofSlots_spans (spans : Captures)
    (h : ∀ first stop, some (first, stop) ∈ spans → first ≤ stop) :
    ofSlots (spans.flatMap fun span => [span.map Prod.fst, span.map Prod.snd]) = spans := by
  induction spans with
  | nil => rfl
  | cons span spans ih =>
    have hrest := ih fun first stop hmem => h first stop (List.mem_cons_of_mem _ hmem)
    rw [List.flatMap_cons]
    match span with
    | none => exact congrArg (none :: ·) hrest
    | some (first, stop) =>
      have hle := h first stop List.mem_cons_self
      simpa [ofSlots, hle] using hrest

namespace Regex

def machine (r : Regex) (s : Subject) : Machine := ⟨r.program, r.mode, s.chars, r.stepLimit⟩

/-- What a search from `start` has found. -/
structure Hit (r : Regex) (s : Subject) (start : Nat) (c : Captures) : Prop where
  start_le : start ≤ c.whole.1
  ordered : c.whole.1 ≤ c.whole.2
  stop_le : c.whole.2 ≤ s.size
  groups : ∀ i first stop, c.group? i = some (first, stop) → first ≤ stop ∧ stop ≤ s.size
  sticky : r.flags.sticky → c.whole.1 = start
  earlier : ∀ p, start ≤ p → p < c.whole.1 → ¬ (r.machine s).Matches p

variable {unicode multiline : Bool} {source : List Char} {tree : PatternTree} {r : Regex}
  {s : Subject} {start : Nat}

theorem capturesFrom_eq (r : Regex) (s : Subject) (start : Nat) :
    r.capturesFrom s start = ((r.machine s).search start r.flags.sticky).bind fun found =>
      .ok (found.map fun slots => Captures.ofSlots slots.toList) := by
  rw [capturesFrom, machine]
  split <;> simp_all [Except.bind]

theorem captures_of_point {p : Point} {count : Nat} (hle : start ≤ p.pos)
    (hspans : ∀ i ≤ count, ∀ first stop, p.groups i = some (first, stop) → first ≤ stop) :
    Captures.ofSlots (p.slots start count).toList =
      some (start, p.pos) :: (List.range count).map fun i => p.groups (i + 1) := by
  refine Captures.ofSlots_spans _ fun first stop hmem => ?_
  rcases List.mem_cons.mp hmem with heq | hmem
  · cases heq
    exact hle
  · obtain ⟨i, hi, heq⟩ := List.mem_map.mp hmem
    exact hspans (i + 1) (List.mem_range.mp hi) first stop heq

theorem capturesFrom_some (hp : parse unicode source = .ok tree)
    (hc : compile multiline tree = .ok r.program) (hs : start ≤ s.size) {c : Captures}
    (h : r.capturesFrom s start = .ok (some c)) : r.Hit s start c := by
  rw [capturesFrom_eq] at h
  cases hfound : (r.machine s).search start r.flags.sticky with
  | error e =>
    rw [hfound] at h
    cases h
  | ok found =>
    rw [hfound] at h
    cases found with
    | none => cases h
    | some slots =>
      obtain ⟨p, hle, hsize, hat, hsticky, hbefore⟩ := Machine.search_some hs hfound
      have hw := PatternTree.WellFormed.of_parse hp
      have hfirst := hw.matchAt_ok hc hsize hat
      obtain ⟨q, rfl, hq, hqs, hspans⟩ := (hw.attempts hc hsize).2 slots hfirst.symm
      have hcaptures := captures_of_point hq fun i hi first stop heq =>
        (hspans i hi first stop heq).1
      have hgroups : c = _ := (Option.some.inj (Except.ok.inj h)).symm.trans hcaptures
      have hwhole : c.whole = (p, q.pos) := by rw [hgroups]; rfl
      refine ⟨by rwa [hwhole], by rwa [hwhole], by rwa [hwhole], fun i first stop hspan => ?_,
        by rwa [hwhole], by rwa [hwhole]⟩
      rw [hgroups] at hspan
      cases i with
      | zero =>
        cases hspan
        exact ⟨hq, hqs⟩
      | succ i =>
        rw [Captures.group?, List.getElem?_cons_succ, List.getElem?_map] at hspan
        by_cases hi : i < (r.machine s).program.groupCount
        · rw [List.getElem?_range hi] at hspan
          exact hspans (i + 1) hi first stop hspan
        · rw [List.getElem?_eq_none (by simpa using hi)] at hspan
          cases hspan

/-- If nothing is found by a search that is not sticky, nothing matches from `start` on. -/
theorem capturesFrom_none (hp : parse unicode source = .ok tree)
    (hc : compile r.flags.multiline tree = .ok r.program) (hy : r.flags.sticky = false)
    (h : r.capturesFrom s start = .ok none) {p : Nat} (hs : start ≤ p) (hps : p ≤ s.size) :
    ¬ (r.machine s).Matches p := by
  rw [capturesFrom_eq, hy] at h
  cases hfound : (r.machine s).search start false with
  | error e =>
    rw [hfound] at h
    cases h
  | ok found =>
    rw [hfound] at h
    cases found with
    | some slots => cases h
    | none =>
      refine Machine.search_none (fun ha q hq hqs => ?_) hfound hs hps
      rintro ⟨slots, hat⟩
      have hfirst := (PatternTree.WellFormed.of_parse hp).matchAt_ok hc hqs hat
      rw [compile_anchored hc ha rfl _ hq] at hfirst
      cases hfirst

/-- Where the search goes on after a match, if it goes on. -/
def next? (r : Regex) (s : Subject) (c : Captures) : Option Nat :=
  if !r.flags.global then none
  else if c.whole.1 < c.whole.2 then some c.whole.2
  else if c.whole.2 < s.size then some (c.whole.2 + 1)
  else none

theorem collectFrom_succ (r : Regex) (s : Subject) (found : List MatchRecord) (count start : Nat) :
    r.collectFrom s found (count + 1) start = (r.capturesFrom s start).bind fun hit =>
      match hit with
      | none => .ok ⟨found.reverse, false⟩
      | some c => match r.next? s c with
        | none => .ok ⟨(r.record s c :: found).reverse, false⟩
        | some start => r.collectFrom s (r.record s c :: found) count start := by
  rw [collectFrom]
  cases r.capturesFrom s start with
  | error e => rfl
  | ok hit =>
    cases hit with
    | none => rfl
    | some c =>
      simp only [Except.bind, next?]
      split_ifs <;> rfl

/-- The search goes on behind the match, and behind where the match began. -/
theorem Hit.next {c : Captures} (h : r.Hit s start c) {next : Nat} (hn : r.next? s c = some next) :
    c.whole.1 < next ∧ c.whole.2 ≤ next ∧ next ≤ s.size ∧
      (next = c.whole.2 ∨ next = c.whole.2 + 1 ∧ c.whole.1 = c.whole.2) := by
  have hordered := h.ordered
  have hstop := h.stop_le
  unfold next? at hn
  split_ifs at hn <;> cases hn <;> omega

end Regex
end RegexInsight
