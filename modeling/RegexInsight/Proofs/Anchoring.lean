import RegexInsight.Explanation
import RegexInsight.Proofs.Enumeration
import RegexInsight.Proofs.Validity

/-! What is said of a pattern's anchors, and what its matches do. The line of an explanation that speaks
of anchors is written for the first alternative. A match is one of the first alternative that matches
where it begins, so it keeps to the line if that alternative has at its two ends the anchors that the first
one has. If the flag for lines is on, an anchor asks for a line where the line speaks of the input. -/
namespace RegexInsight

/-- Whether the last element is the anchor for the end. -/
def Branch.endsAnchored (b : Branch) : Bool := b.elements.getLast?.any Element.isEndAnchor

section
variable {a : Attempt} {p q : Point}

theorem elementsOutcomes_concat (es : List Element) (e : Element) (p : Point) :
    elementsOutcomes a (es ++ [e]) p = (elementsOutcomes a es p).flatMap (e.outcomes a) := by
  induction es generalizing p with
  | nil => simp [elementsOutcomes]
  | cons x es ih =>
    rw [List.cons_append, elementsOutcomes, elementsOutcomes, List.flatMap_assoc]
    exact congrArg (List.flatMap · _) (funext ih)

theorem Branch.holdsAt_stop {b : Branch} (hb : b.endsAnchored) (hq : q ∈ b.outcomes a p) :
    a.holdsAt q.pos .stop := by
  obtain ⟨span, es⟩ := b
  obtain ⟨e, hlast, he⟩ := (Option.any_eq_true _ _).mp hb
  obtain ⟨front, rfl⟩ := List.getLast?_eq_some_iff.mp hlast
  unfold Element.isEndAnchor at he
  split at he
  · rw [outcomes, elementsOutcomes_concat] at hq
    obtain ⟨r, -, hq⟩ := List.mem_flatMap.mp hq
    rw [Element.outcomes] at hq
    split at hq
    · rw [List.mem_singleton.mp hq]
      assumption
    · cases hq
  · cases he

theorem branchesOutcomes_head? (bs : List Branch) (p : Point) :
    (branchesOutcomes a bs p).head? =
      (bs.find? fun b => !(b.outcomes a p).isEmpty).bind fun b => (b.outcomes a p).head? := by
  induction bs with
  | nil => rfl
  | cons b bs ih =>
    rw [branchesOutcomes, List.head?_append, ih, List.find?_cons]
    cases hb : b.outcomes a p with
    | nil => rfl
    | cons q qs => simp [hb]

end

namespace PatternTree

variable {tree : PatternTree} {mode : Mode} {text : Array Char} {start : Nat} {slots : Slots}

/-- The alternative that a match at `start` is one of. -/
def matching? (tree : PatternTree) (mode : Mode) (text : Array Char) (start : Nat) : Option Branch :=
  tree.pattern.branches.find? fun b =>
    !(b.outcomes ⟨mode, text, tree.names⟩ (.start start)).isEmpty

theorem firstMatch_matching (h : tree.firstMatch mode text start = some slots) :
    ∃ b q, tree.matching? mode text start = some b ∧
      q ∈ b.outcomes ⟨mode, text, tree.names⟩ (.start start) ∧
      (Captures.ofSlots slots.toList).whole = (start, q.pos) := by
  obtain ⟨q, hq, hwhole⟩ := firstMatch_whole h
  rw [branchesOutcomes_head?] at hq
  obtain ⟨b, hb, hq⟩ := Option.bind_eq_some_iff.mp hq
  exact ⟨b, q, hb, List.mem_of_mem_head? hq, hwhole⟩

theorem firstMatch_of_search {sticky : Bool}
    (h : tree.search mode text start sticky = some slots) :
    ∃ pos, tree.firstMatch mode text pos = some slots := by
  unfold search at h
  split at h
  · exact ⟨start, h⟩
  · obtain ⟨pos, -, hpos⟩ := List.exists_of_findSome?_eq_some h
    exact ⟨pos, hpos⟩

end PatternTree

namespace Explanation

/-- The lines that speak of anchors. -/
def anchoringLines : List String :=
  ["Anchored: the match must cover the whole input",
    "Start-anchored: the match must begin at the start",
    "End-anchored: the match must finish at the end"]

theorem flagLine_not_mem (letter : Char) : flagLine letter ∉ anchoringLines := by
  unfold flagLine
  split <;> decide

theorem mem_anchoringLine {p : Pattern} {flags : Flags} {line : String}
    (hline : line ∈ anchoringLines) (h : line ∈ (p.explain flags).constraints) :
    line ∈ anchoringLine p := by
  rcases List.mem_append.mp h with h | h
  · obtain ⟨⟨letter, on⟩, -, rfl⟩ := List.mem_map.mp h
    exact absurd hline (flagLine_not_mem letter)
  · exact h

variable {p : Pattern} {flags : Flags} {first : Branch}

theorem startsAnchored_of_mem (hf : first ∈ p.branches.head?)
    (h : "Anchored: the match must cover the whole input" ∈ (p.explain flags).constraints ∨
      "Start-anchored: the match must begin at the start" ∈ (p.explain flags).constraints) :
    first.startsAnchored := by
  obtain ⟨rest, hbranches⟩ := List.head?_eq_some_iff.mp hf
  have h := h.imp (mem_anchoringLine (by decide)) (mem_anchoringLine (by decide))
  unfold anchoringLine at h
  rw [hbranches] at h
  dsimp only at h
  split at h
  · assumption
  · assumption
  · exact absurd h (by decide)
  · exact absurd h (by decide)

theorem endsAnchored_of_mem (hf : first ∈ p.branches.head?)
    (h : "Anchored: the match must cover the whole input" ∈ (p.explain flags).constraints ∨
      "End-anchored: the match must finish at the end" ∈ (p.explain flags).constraints) :
    first.endsAnchored := by
  obtain ⟨rest, hbranches⟩ := List.head?_eq_some_iff.mp hf
  have h := h.imp (mem_anchoringLine (by decide)) (mem_anchoringLine (by decide))
  unfold anchoringLine at h
  rw [hbranches] at h
  dsimp only at h
  split at h
  · assumption
  · exact absurd h (by decide)
  · assumption
  · exact absurd h (by decide)

/-- What the lines about anchors demand of a match: to begin at the start and to end at the end, of the
text or, if the mode reads it in lines, of a line. -/
structure Binds (e : Explanation) (a : Attempt) (span : Nat × Nat) : Prop where
  start : "Anchored: the match must cover the whole input" ∈ e.constraints ∨
    "Start-anchored: the match must begin at the start" ∈ e.constraints → a.holdsAt span.1 .start
  stop : "Anchored: the match must cover the whole input" ∈ e.constraints ∨
    "End-anchored: the match must finish at the end" ∈ e.constraints → a.holdsAt span.2 .stop

/-- What they demand if the text is not read in lines. -/
structure BindsText (e : Explanation) (length : Nat) (span : Nat × Nat) : Prop where
  whole : "Anchored: the match must cover the whole input" ∈ e.constraints → span = (0, length)
  start : "Start-anchored: the match must begin at the start" ∈ e.constraints → span.1 = 0
  stop : "End-anchored: the match must finish at the end" ∈ e.constraints → span.2 = length

theorem Binds.text {e : Explanation} {a : Attempt} {span : Nat × Nat} (h : e.Binds a span)
    (hm : a.mode.multiline = false) : e.BindsText a.text.size span := by
  have hstart : a.holdsAt span.1 .start → span.1 = 0 := by simp [Attempt.holdsAt, hm]
  have hstop : a.holdsAt span.2 .stop → span.2 = a.text.size := by simp [Attempt.holdsAt, hm]
  refine ⟨fun hline => ?_, fun hline => hstart (h.start (.inr hline)),
    fun hline => hstop (h.stop (.inr hline))⟩
  exact Prod.ext (hstart (h.start (.inl hline))) (hstop (h.stop (.inl hline)))

end Explanation

/-- The alternative has at its ends the anchors that the other one has there. -/
structure Branch.AnchoredAs (b first : Branch) : Prop where
  start : first.startsAnchored → b.startsAnchored
  stop : first.endsAnchored → b.endsAnchored

/-- A match is one of the first alternative that matches where it begins. If that alternative has at its
ends the anchors of the first alternative of all, as the first one itself has, the match keeps to what the
explanation says of anchors. -/
theorem explain_binds {source flagText : String} {p : ParsedPattern} {r : Regex}
    (hp : parsePattern source flagText = .ok p) (hr : p.regex p.flags = .ok r) {limit : Nat}
    {text : List Char} {captures : Captures}
    (hmatch : ({ r with stepLimit := limit } : Regex).capturesAt (.ofChars text) 0 =
      .ok (some captures)) :
    ∃ b, p.tree.matching? r.mode text.toArray captures.whole.1 = some b ∧
      (∃ q ∈ b.outcomes ⟨r.mode, text.toArray, p.tree.names⟩ (.start captures.whole.1),
        q.pos = captures.whole.2) ∧
      ((∀ first ∈ p.pattern.branches.head?, b.AnchoredAs first) →
        (p.pattern.explain p.flags).Binds ⟨r.mode, text.toArray, p.tree.names⟩ captures.whole ∧
        (p.flags.multiline = false →
          (p.pattern.explain p.flags).BindsText text.length captures.whole)) := by
  obtain ⟨-, -, hparse, program, hc⟩ := parsePattern_cases hp
  obtain ⟨r', hr', hc, -⟩ := ParsedPattern.regex_ok hc p.flags
  cases hr.symm.trans hr'
  have hflags : r.flags = p.flags :=
    Regex.build_flags ((ParsedPattern.build_eq_regex hparse rfl).trans hr)
  have hsearch := Regex.capturesAt_eq_search (r := { r with stepLimit := limit }) (.of_parse hparse)
    (hflags.symm ▸ hc) text 0 (by rw [hmatch]; rintro ⟨⟩)
  obtain ⟨i, -, hfound⟩ := Option.bind_eq_some_iff.mp (Except.ok.inj (hsearch.symm.trans hmatch))
  obtain ⟨slots, hslots, rfl⟩ := Option.map_eq_some_iff.mp hfound
  obtain ⟨pos, hfirst⟩ := PatternTree.firstMatch_of_search hslots
  obtain ⟨b, q, hb, hq, hwhole⟩ := PatternTree.firstMatch_matching hfirst
  refine ⟨b, by rwa [hwhole], ⟨q, by rwa [hwhole], by rw [hwhole]⟩, fun hanchors => ?_⟩
  obtain ⟨first, hhead⟩ : ∃ first, first ∈ p.pattern.branches.head? :=
    Option.isSome_iff_exists.mp
      (List.isSome_head?.mpr (PatternTree.WellFormed.of_parse hparse).branches)
  have hends := hanchors first hhead
  have hbinds : (p.pattern.explain p.flags).Binds ⟨r.mode, text.toArray, p.tree.names⟩
      (Captures.ofSlots slots.toList).whole := by
    rw [hwhole]
    refine ⟨fun hline => ?_, fun hline => ?_⟩
    · exact b.holdsAt_start (hends.start (Explanation.startsAnchored_of_mem hhead hline)) hq
    · exact b.holdsAt_stop (hends.stop (Explanation.endsAnchored_of_mem hhead hline)) hq
  refine ⟨hbinds, fun hm => ?_⟩
  have hmode : r.mode.multiline = false := by rw [Regex.mode, hflags, hm]
  simpa using hbinds.text hmode

/-- A match of the second alternative, which is anchored as the first one is. -/
theorem explain_binds_second_alternative :
    ∃ p r captures, parsePattern "^a$|^b+$" "" = .ok p ∧
      "Anchored: the match must cover the whole input" ∈ (p.pattern.explain p.flags).constraints ∧
      p.regex p.flags = .ok r ∧ r.capturesAt (.ofChars ['b', 'b']) 0 = .ok (some captures) ∧
      captures.whole = (0, 2) := by
  have h : (parsePattern "^a$|^b+$" "").toOption.map (fun p =>
      (p.pattern.branches.all (fun b => b.startsAnchored && b.endsAnchored), p.flags.multiline,
        decide ("Anchored: the match must cover the whole input" ∈
          (p.pattern.explain p.flags).constraints),
        (p.regex p.flags).toOption.map fun r =>
          decide (r.capturesAt (.ofChars ['b', 'b']) 0 = .ok (some [some (0, 2)])))) =
      some (true, false, true, some true) := by decide +kernel
  obtain ⟨p, hp, h⟩ := ok_of_toOption_map h
  simp only [Prod.mk.injEq] at h
  obtain ⟨hanchored, hm, hline, h⟩ := h
  obtain ⟨r, hr, hcaptures⟩ := ok_of_toOption_map h
  have hline := of_decide_eq_true hline
  have hcaptures := of_decide_eq_true hcaptures
  refine ⟨p, r, _, hp, hline, hr, hcaptures, ?_⟩
  obtain ⟨b, hb, -, hbinds⟩ := explain_binds hp hr hcaptures
  have hb := List.all_eq_true.mp hanchored b (List.mem_of_find?_eq_some hb)
  rw [Bool.and_eq_true] at hb
  exact ((hbinds fun _ _ => ⟨fun _ => hb.1, fun _ => hb.2⟩).2 hm).whole hline

/-- A match of an alternative without anchors covers a part of the input only, and so does one of a
line. -/
theorem explain_unbound :
    (∃ p r captures, parsePattern "^a$|b" "" = .ok p ∧
      "Anchored: the match must cover the whole input" ∈ (p.pattern.explain p.flags).constraints ∧
      p.regex p.flags = .ok r ∧ r.capturesAt (.ofChars ['a', 'b']) 0 = .ok (some captures) ∧
      captures.whole = (1, 2)) ∧
    ∃ p r captures, parsePattern "^a$" "m" = .ok p ∧
      "Anchored: the match must cover the whole input" ∈ (p.pattern.explain p.flags).constraints ∧
      p.regex p.flags = .ok r ∧ r.capturesAt (.ofChars ['b', '\n', 'a']) 0 = .ok (some captures) ∧
      captures.whole = (2, 3) := by
  have hfound : ∀ (source flagText : String) (text : List Char) (captures : Captures),
      (parsePattern source flagText).toOption.map (fun p =>
        (decide ("Anchored: the match must cover the whole input" ∈
          (p.pattern.explain p.flags).constraints),
          (p.regex p.flags).toOption.map fun r =>
            decide (r.capturesAt (.ofChars text) 0 = .ok (some captures)))) =
        some (true, some true) →
      ∃ p r captures', parsePattern source flagText = .ok p ∧
        "Anchored: the match must cover the whole input" ∈ (p.pattern.explain p.flags).constraints ∧
        p.regex p.flags = .ok r ∧ r.capturesAt (.ofChars text) 0 = .ok (some captures') ∧
        captures'.whole = captures.whole := by
    intro source flagText text captures h
    obtain ⟨p, hp, h⟩ := ok_of_toOption_map h
    obtain ⟨hline, h⟩ := Prod.mk.inj h
    obtain ⟨r, hr, hcaptures⟩ := ok_of_toOption_map h
    exact ⟨p, r, captures, hp, of_decide_eq_true hline, hr, of_decide_eq_true hcaptures, rfl⟩
  exact ⟨hfound _ _ _ [some (1, 2)] (by decide +kernel),
    hfound _ _ _ [some (2, 3)] (by decide +kernel)⟩

end RegexInsight
