import RegexInsight.Proofs.Enumeration
import RegexInsight.Proofs.PlaceInvariance
import RegexInsight.Proofs.ReadBack
import RegexInsight.Proofs.Repetition
import RegexInsight.Proofs.SearchAnswers

/-! Counted loops against other loops. Up to `n` iterations are written one behind the other, each to be
taken or left on its own and none of them asked whether it consumes anything. So they are a star only
where the iterations that are preferred consume something, and they are one iteration followed by up
to `n - 1` others only if they are greedy, or if an iteration can lead to one place only. -/
namespace RegexInsight

/-- What is found in a list, if it tells by which entry it was found. -/
theorem map_findSome?_eq_find? {α β : Type} {f : α → Option β} {g : β → α}
    (h : ∀ x y, f x = some y → g y = x) (xs : List α) :
    (xs.findSome? f).map g = xs.find? fun x => (f x).isSome := by
  induction xs with
  | nil => rfl
  | cons x xs ih =>
    rw [List.findSome?_cons, List.find?_cons]
    cases hx : f x with
    | none => exact ih
    | some y => exact congrArg some (h x y hx)

/-- The tree is one of a pattern without alternatives that has these elements, wherever they stand. -/
def PatternTree.Reads (tree : PatternTree) (es : List Element) : Prop :=
  tree.pattern.branches.map Branch.bare = [.mk ⟨0, 0⟩ (es.map Element.bare)]

/-- The tree of a pattern without alternatives. -/
def PatternTree.ofElements (span : Span) (es : List Element) (names : List (Option String)) :
    PatternTree := ⟨⟨span, [.mk span es]⟩, names⟩

def Element.iteration (a : Attempt) (e : Element) (p : Point) : List Point :=
  e.outcomes a (p.forget e.captures)

section
variable {a : Attempt} {e : Element} {p q : Point}

theorem Attempt.Reach.forget_eq {captures : List Capture}
    (h : a.Reach (captures.map Capture.index) (p.forget captures) q) (hpos : q.pos = p.pos) :
    q.forget captures = p.forget captures := by
  rw [Point.forget, Point.forget, hpos]
  congr 1
  funext i
  by_cases hi : i ∈ captures.map Capture.index
  · rw [if_pos hi, if_pos hi]
  · rw [if_neg hi, if_neg hi, (h.groups i).resolve_right fun hset => hi hset.1]
    exact if_neg hi

theorem Element.iteration_bounds (a : Attempt) (e : Element) :
    a.Bounds (e.captures.map Capture.index) (e.iteration a) := (e.outcomes_bounds a).iteration

/-- An iteration that consumes nothing can be repeated: what it has captured is forgotten. -/
theorem Element.iteration_still (a : Attempt) (e : Element) (p q : Point) (hq : q ∈ e.iteration a p)
    (hpos : q.pos = p.pos) : e.iteration a q = e.iteration a p := by
  rw [iteration, iteration, (e.outcomes_bounds a _ q hq).forget_eq hpos]

theorem Element.iteration_of_captures (h : e.captures = []) : e.iteration a = e.outcomes a := by
  funext p
  rw [iteration, h]
  rfl

theorem elementsOutcomes_singleton : elementsOutcomes a [e] p = e.outcomes a p := by
  rw [elementsOutcomes]
  exact List.flatMap_singleton' _

theorem outcomes_star (span : Span) (e : Element) :
    (Element.quantifier span 0 none true e).outcomes a p =
      star true (e.iteration a) (a.text.size - p.pos) p := by
  rw [Element.outcomes, iterations, times, List.flatMap_singleton]
  rfl

theorem outcomes_optional (span : Span) (n : Nat) (greedy : Bool) (e : Element) :
    (Element.quantifier span 0 (some n) greedy e).outcomes a p =
      optional greedy (e.iteration a) n p := by
  rw [Element.outcomes, iterations, times, List.flatMap_singleton]
  rfl

end

namespace PatternTree

section
variable {tree tree' : PatternTree} {es es' : List Element}

theorem Reads.outcomes (h : tree.Reads es) (a : Attempt) :
    branchesOutcomes a tree.pattern.branches = elementsOutcomes a es := by
  have hbranches := branchesMapSpans_outcomes (f := fun _ => ⟨0, 0⟩) a tree.pattern.branches
  have hes := elementsMapSpans_outcomes (f := fun _ => ⟨0, 0⟩) a es
  rw [branchesMapSpans_eq] at hbranches
  rw [elementsMapSpans_eq] at hes
  rw [← hbranches, ← hes, show tree.pattern.branches.map (Branch.mapSpans fun _ => ⟨0, 0⟩) = _ from h]
  funext p
  exact List.append_nil _

theorem Reads.firstMatch (h : tree.Reads es) (mode : Mode) (text : Array Char) (start : Nat) :
    tree.firstMatch mode text start =
      (elementsOutcomes ⟨mode, text, tree.names⟩ es (.start start)).head?.map
        (·.slots start tree.names.length) := by
  rw [PatternTree.firstMatch, h.outcomes]

theorem Reads.captures (h : tree.Reads es) : tree.pattern.captures = es.flatMap Element.captures := by
  have hbare : ∀ es : List Element,
      (es.map Element.bare).flatMap Element.captures = es.flatMap Element.captures := by
    intro es
    rw [List.flatMap_map]
    exact congrArg (es.flatMap ·) (funext fun e => e.mapSpans_captures)
  have hbranches : branchesCaptures (tree.pattern.branches.map Branch.bare) =
      branchesCaptures tree.pattern.branches := by
    rw [branchesCaptures, branchesCaptures, List.flatMap_map]
    refine congrArg (tree.pattern.branches.flatMap ·) (funext fun b => ?_)
    rw [Branch.bare, Branch.mapSpans_elements]
    exact hbare b.elements
  rw [Pattern.captures_eq, ← hbranches, h, branchesCaptures, List.flatMap_singleton]
  exact hbare es

theorem Reads.names_eq {unicode : Bool} (h : tree.Reads es) (h' : tree'.Reads es')
    (hw : tree.WellFormed unicode) (hw' : tree'.WellFormed unicode)
    (hes : es'.flatMap Element.captures = es.flatMap Element.captures) : tree'.names = tree.names := by
  rw [← numbered_map_name tree'.names, ← hw'.captures, h'.captures, hes, ← h.captures, hw.captures,
    numbered_map_name]

end

section
variable {tree tree' : PatternTree} {mode : Mode} {text : Array Char} {start : Nat}

theorem search_of_firstMatch {slots : Slots} (h : tree.firstMatch mode text start = some slots)
    (hs : start ≤ text.size) (sticky : Bool) : tree.search mode text start sticky = some slots := by
  unfold search
  split
  · exact h
  · obtain ⟨count, hcount⟩ := Nat.exists_eq_add_of_le' (Nat.sub_pos_of_lt (Nat.lt_succ_of_le hs))
    rw [hcount, List.range'_succ, List.findSome?_cons, h]

end

end PatternTree

theorem Attempt.Reach.eq_of_captures {a : Attempt} {groups : List Nat} {start count : Nat}
    {q q' : Point} (h : a.Reach groups (.start start) q) (h' : a.Reach groups (.start start) q')
    (hgroups : ∀ i ∈ groups, 1 ≤ i ∧ i ≤ count)
    (heq : Captures.ofSlots (q.slots start count).toList =
      Captures.ofSlots (q'.slots start count).toList) : q = q' := by
  have hordered : ∀ p, a.Reach groups (.start start) p → ∀ i ≤ count, ∀ first stop,
      p.groups i = some (first, stop) → first ≤ stop := by
    intro p hp i _ first stop hspan
    rcases hp.groups i with hunset | ⟨-, hset⟩
    · cases hunset.symm.trans hspan
    · exact hset _ hspan
  have hunset : ∀ p, a.Reach groups (.start start) p → ∀ i, ¬ (1 ≤ i ∧ i ≤ count) →
      p.groups i = none := fun p hp i hi =>
    (hp.groups i).resolve_right fun hset => hi (hgroups i hset.1)
  have hle : start ≤ q.pos := h.le
  have hle' : start ≤ q'.pos := h'.le
  rw [Regex.captures_of_point hle (hordered q h), Regex.captures_of_point hle' (hordered q' h')] at heq
  obtain ⟨hwhole, hrest⟩ := List.cons.inj heq
  have hpos : q.pos = q'.pos := congrArg Prod.snd (Option.some.inj hwhole)
  have hset : q.groups = q'.groups := by
    funext i
    by_cases hi : 1 ≤ i ∧ i ≤ count
    · obtain ⟨j, rfl⟩ := Nat.exists_eq_add_of_le' hi.1
      exact List.map_inj_left.mp hrest j (List.mem_range.mpr hi.2)
    · rw [hunset q h i hi, hunset q' h' i hi]
  cases q
  cases q'
  cases hpos
  cases hset
  rfl

theorem Regex.capturesAt_of_head? {unicode : Bool} {tree : PatternTree} {r : Regex} {e : Element}
    {text : List Char} {start : Nat} (hw : tree.WellFormed unicode) (ht : tree.Reads [e])
    (hc : compile r.flags.multiline tree = .ok r.program)
    (hl : r.capturesAt (.ofChars text) start ≠ .error .stepLimit) {stop : Nat → Point}
    (hstop : ∀ i, (e.outcomes ⟨r.mode, text.toArray, tree.names⟩ (.start i)).head? = some (stop i)) :
    r.capturesAt (.ofChars text) start = .ok (((Subject.ofChars text).charAtByte? start).map fun i =>
      Captures.ofSlots ((stop i).slots i tree.names.length).toList) := by
  rw [capturesAt_eq_search hw hc text start hl]
  cases hi : (Subject.ofChars text).charAtByte? start with
  | none => rfl
  | some i =>
    have hfirst : tree.firstMatch r.mode text.toArray i =
        some ((stop i).slots i tree.names.length) := by
      rw [ht.firstMatch, elementsOutcomes_singleton, hstop]
      rfl
    rw [Option.bind_some, PatternTree.search_of_firstMatch hfirst (Subject.charAtByte?_le hi)]
    rfl

section
variable {unicode : Bool} {tree tree' : PatternTree} {span span' : Span} {e : Element} {n : Nat}

/-- If there may be more iterations than the text has characters, a greedy counted loop captures what
the star captures just if every iteration that is preferred to leaving off is one that consumes
something, or stays where it is. -/
theorem counted_eq_star_iff (r r' : Regex) (hw : tree.WellFormed unicode) (hw' : tree'.WellFormed unicode)
    (ht : tree.Reads [.quantifier span 0 none true e])
    (ht' : tree'.Reads [.quantifier span' 0 (some n) true e])
    (hc : compile r.flags.multiline tree = .ok r.program)
    (hc' : compile r'.flags.multiline tree' = .ok r'.program) (hflags : r'.flags = r.flags)
    (text : List Char) (hn : text.length < n) (start : Nat)
    (hl : r.capturesAt (.ofChars text) start ≠ .error .stepLimit)
    (hl' : r'.capturesAt (.ofChars text) start ≠ .error .stepLimit) :
    r'.capturesAt (.ofChars text) start = r.capturesAt (.ofChars text) start ↔
      ∀ i, (Subject.ofChars text).charAtByte? start = some i →
        KeepsOn (e.iteration ⟨r.mode, text.toArray, tree.names⟩) (.start i) := by
  have hmode := Regex.mode_eq hflags
  have hnames : tree'.names = tree.names := ht.names_eq ht' hw hw' (by simp)
  have hstar := Regex.capturesAt_of_head? hw ht hc hl fun i => by
    rw [outcomes_star]
    exact head?_star _ _
  have hcounted := Regex.capturesAt_of_head? hw' ht' hc' hl' fun i => by
    rw [outcomes_optional]
    exact head?_optional _ _
  rw [hmode, hnames] at hcounted
  rw [hstar, hcounted]
  cases hi : (Subject.ofChars text).charAtByte? start with
  | none => simp
  | some i =>
    have hb := e.iteration_bounds ⟨r.mode, text.toArray, tree.names⟩
    have hstart : (Point.start i).pos ≤ text.toArray.size := Subject.charAtByte?_le hi
    have hcount : text.toArray.size < n := by rwa [List.size_toArray]
    have hgroups : ∀ i ∈ e.captures.map Capture.index, 1 ≤ i ∧ i ≤ tree.names.length := by
      intro i hmem
      obtain ⟨c, hcap, rfl⟩ := List.mem_map.mp hmem
      exact hw.index_le (by simpa [ht.captures] using hcap)
    -- the star has come to its end where the text has
    have hiff := iterate_eq_iff_keepsOn hb (e.iteration_still _) hstart
      (Nat.lt_of_le_of_lt (Nat.sub_le _ _) hcount)
    rw [firstAdvance_iterate_eq hb hstart (Nat.le_refl _) ((Nat.sub_le _ _).trans hcount.le)] at hiff
    simp only [Option.map_some, Except.ok.injEq, Option.some.injEq, forall_eq']
    rw [← hiff]
    refine ⟨fun heq => ?_, fun heq => by rw [heq]⟩
    exact (iterate_reach (firstChoice_reach hb) n _).eq_of_captures
      (iterate_reach (firstAdvance_reach hb) _ _) hgroups heq

/-- A loop around a character, which is consumed by every iteration. -/
theorem counted_eq_star_char :
    ∃ r r', Regex.build "a*" .allOff = .ok r ∧ Regex.build "a{0,2}" .allOff = .ok r' ∧
      r'.capturesAt (.ofChars ['a']) 0 = r.capturesAt (.ofChars ['a']) 0 := by
  let star : PatternTree :=
    .ofElements ⟨0, 2⟩ [.quantifier ⟨0, 2⟩ 0 none true (.char ⟨0, 1⟩ 'a')] []
  let counted : PatternTree :=
    .ofElements ⟨0, 6⟩ [.quantifier ⟨0, 6⟩ 0 (some 2) true (.char ⟨0, 1⟩ 'a')] []
  let r : Regex := ⟨"a*", .allOff, [], ⟨#[.split 1 5, .save 2, .char 'a', .checkProgress 2, .jump 0,
    .accept], 0, 3, false⟩, Regex.defaultStepLimit⟩
  let r' : Regex := ⟨"a{0,2}", .allOff, [], ⟨#[.split 1 2, .char 'a', .split 3 4, .char 'a', .accept],
    0, 2, false⟩, Regex.defaultStepLimit⟩
  have hp : parse false "a*".toList = .ok star := by with_unfolding_all rfl
  have hp' : parse false "a{0,2}".toList = .ok counted := by with_unfolding_all rfl
  have hc : compile false star = .ok r.program := by with_unfolding_all rfl
  have hc' : compile false counted = .ok r'.program := by with_unfolding_all rfl
  refine ⟨r, r', r.build_of_parse hp hc rfl rfl, r'.build_of_parse hp' hc' rfl rfl, ?_⟩
  refine (counted_eq_star_iff r r' (.of_parse hp) (.of_parse hp') rfl rfl hc hc' rfl ['a'] (by decide) 0
    (by decide +kernel) (by decide +kernel)).mpr fun i _ => .of_consumes (fun p q hq => ?_) _
  obtain ⟨-, rfl⟩ := Attempt.mem_consume.mp hq
  exact Nat.succ_ne_self p.pos

/-- The first iteration of the star has to consume the character, and the first iteration of the
counted loop does without it. -/
theorem counted_loop_stays :
    ∃ tree tree' r r' e, parse false "(|a)*".toList = .ok tree ∧
      parse false "(|a){0,2}".toList = .ok tree' ∧
      tree.Reads [.quantifier ⟨0, 0⟩ 0 none true e] ∧
      tree'.Reads [.quantifier ⟨0, 0⟩ 0 (some 2) true e] ∧
      Regex.build "(|a)*" .allOff = .ok r ∧ Regex.build "(|a){0,2}" .allOff = .ok r' ∧
      r.capturesAt (.ofChars ['a']) 0 = .ok (some [some (0, 1), some (0, 1)]) ∧
      r'.capturesAt (.ofChars ['a']) 0 = .ok (some [some (0, 0), some (0, 0)]) := by
  let e : Element := .group ⟨0, 4⟩ (some ⟨1, none⟩) [.mk ⟨1, 1⟩ [], .mk ⟨2, 3⟩ [.char ⟨2, 3⟩ 'a']]
  have h : (Regex.build "(|a)*" .allOff).toOption.map (·.capturesAt (.ofChars ['a']) 0) =
      some (.ok (some [some (0, 1), some (0, 1)])) := by decide +kernel
  have h' : (Regex.build "(|a){0,2}" .allOff).toOption.map (·.capturesAt (.ofChars ['a']) 0) =
      some (.ok (some [some (0, 0), some (0, 0)])) := by decide +kernel
  obtain ⟨r, hr, hcaptures⟩ := ok_of_toOption_map h
  obtain ⟨r', hr', hcaptures'⟩ := ok_of_toOption_map h'
  exact ⟨.ofElements ⟨0, 5⟩ [.quantifier ⟨0, 5⟩ 0 none true e] [none],
    .ofElements ⟨0, 9⟩ [.quantifier ⟨0, 9⟩ 0 (some 2) true e] [none], r, r', e, by with_unfolding_all rfl,
    by with_unfolding_all rfl, rfl, rfl, hr, hr', hcaptures, hcaptures'⟩

end

/-- One iteration and up to `n` others behind it, or none at all. -/
def Element.unfolded (n : Nat) (greedy : Bool) (e : Element) : Element :=
  .quantifier ⟨0, 0⟩ 0 (some 1) greedy
    (.group ⟨0, 0⟩ none [.mk ⟨0, 0⟩ [e, .quantifier ⟨0, 0⟩ 0 (some n) greedy e]])

section
variable {a : Attempt} {e : Element} {n : Nat} {greedy : Bool} {p : Point}

theorem Element.unfolded_captures (hcap : e.captures = []) : (e.unfolded n greedy).captures = [] := by
  simp [unfolded, branchesCaptures, Branch.elements, hcap]

theorem outcomes_unfolded (hcap : e.captures = []) : (e.unfolded n greedy).outcomes a p =
    prefer greedy ((e.outcomes a p).flatMap (optional greedy (e.outcomes a) n)) p := by
  have hinner : (Element.group ⟨0, 0⟩ none
      [.mk ⟨0, 0⟩ [e, .quantifier ⟨0, 0⟩ 0 (some n) greedy e]]).outcomes a p =
        (e.outcomes a p).flatMap (optional greedy (e.outcomes a) n) := by
    rw [Element.outcomes, branchesOutcomes, branchesOutcomes, List.append_nil, Branch.outcomes,
      elementsOutcomes]
    refine congrArg ((e.outcomes a p).flatMap ·) (funext fun q => ?_)
    rw [elementsOutcomes_singleton, outcomes_optional, Element.iteration_of_captures hcap]
  have hgroup : (e.unfolded n greedy).captures = [] := Element.unfolded_captures hcap
  rw [Element.unfolded, Element.captures_quantifier] at hgroup
  rw [Element.unfolded, outcomes_optional, Element.iteration_of_captures hgroup, optional_succ, hinner]
  exact List.flatMap_singleton' _

end

namespace PatternTree

section
variable {tree tree' : PatternTree} {mode : Mode} {text : Array Char} {start : Nat}

theorem firstMatch_start {slots : Slots} (h : tree.firstMatch mode text start = some slots) :
    (Captures.ofSlots slots.toList).whole.1 = start := by
  obtain ⟨q, -, hwhole⟩ := firstMatch_whole h
  rw [hwhole]

theorem search_start (tree : PatternTree) (start : Nat) (sticky : Bool) :
    (tree.search mode text start sticky).map (fun slots => (Captures.ofSlots slots.toList).whole.1) =
      (if sticky then [start] else List.range' start (text.size + 1 - start)).find?
        fun p => (tree.firstMatch mode text p).isSome := by
  rw [← map_findSome?_eq_find? fun p slots => firstMatch_start, search]
  cases sticky
  · rfl
  · rw [if_pos rfl, if_pos rfl, List.findSome?_singleton]

end
end PatternTree

section
variable {unicode : Bool} {tree tree' : PatternTree} {e : Element} {n : Nat} {greedy : Bool}
  {f : List Element}

theorem outcomes_unfolded_ne_nil (a : Attempt) (hcap : e.captures = []) (p : Point) :
    elementsOutcomes a (e.unfolded n greedy :: f) p ≠ [] ↔
      elementsOutcomes a (.quantifier ⟨0, 0⟩ 0 (some (n + 1)) greedy e :: f) p ≠ [] := by
  rw [elementsOutcomes, elementsOutcomes, outcomes_unfolded hcap, outcomes_optional,
    Element.iteration_of_captures hcap]
  refine not_congr ?_
  rw [List.flatMap_eq_nil_iff, List.flatMap_eq_nil_iff]
  exact forall_congr' fun q => by rw [mem_optional_succ]

/-- A counted loop and its unfolding match at the same places. If it is greedy, or if an iteration
never leads to more than one place, they match the same there. -/
theorem counted_unfolds (r r' : Regex) (hcap : e.captures = []) (hw : tree.WellFormed unicode)
    (hw' : tree'.WellFormed unicode)
    (ht : tree.Reads (.quantifier ⟨0, 0⟩ 0 (some (n + 1)) greedy e :: f))
    (ht' : tree'.Reads (e.unfolded n greedy :: f))
    (hc : compile r.flags.multiline tree = .ok r.program)
    (hc' : compile r'.flags.multiline tree' = .ok r'.program) (hflags : r'.flags = r.flags)
    (text : List Char) (start : Nat)
    (hl : r.capturesAt (.ofChars text) start ≠ .error .stepLimit)
    (hl' : r'.capturesAt (.ofChars text) start ≠ .error .stepLimit) :
    (r'.capturesAt (.ofChars text) start).map (Option.map (·.whole.1)) =
        (r.capturesAt (.ofChars text) start).map (Option.map (·.whole.1)) ∧
      (greedy = true ∨ n = 0 ∨ (∀ p, ∀ q ∈ e.outcomes ⟨r.mode, text.toArray, tree.names⟩ p,
          ∀ q' ∈ e.outcomes ⟨r.mode, text.toArray, tree.names⟩ p, q = q') →
        r'.capturesAt (.ofChars text) start = r.capturesAt (.ofChars text) start) := by
  have hmode := Regex.mode_eq hflags
  have hnames : tree'.names = tree.names := by
    refine ht.names_eq ht' hw hw' ?_
    rw [List.flatMap_cons, List.flatMap_cons, Element.unfolded_captures hcap,
      Element.captures_quantifier, hcap]
  constructor
  · have hsome : ∀ p, (tree'.firstMatch r.mode text.toArray p).isSome =
        (tree.firstMatch r.mode text.toArray p).isSome := by
      intro p
      rw [ht'.firstMatch, ht.firstMatch, hnames, Option.isSome_map, Option.isSome_map, Bool.eq_iff_iff,
        List.isSome_head?, List.isSome_head?]
      exact outcomes_unfolded_ne_nil _ hcap _
    rw [Regex.capturesAt_eq_search hw' hc' text start hl', Regex.capturesAt_eq_search hw hc text start hl,
      hmode, hflags]
    cases (Subject.ofChars text).charAtByte? start with
    | none => rfl
    | some i =>
      refine congrArg Except.ok ?_
      rw [Option.bind_some, Option.bind_some, Option.map_map, Option.map_map]
      refine (PatternTree.search_start tree' i r.flags.sticky).trans ?_
      rw [funext hsome]
      exact (PatternTree.search_start tree i r.flags.sticky).symm
  · intro hcase
    refine Regex.capturesAt_congr r r' hw hc hw' hc' hflags text ?_ start hl hl'
    funext p
    have halike := optional_unfolds (p := .start p) hcase
    rw [ht'.firstMatch, ht.firstMatch, hnames, elementsOutcomes, elementsOutcomes,
      outcomes_unfolded hcap, outcomes_optional, Element.iteration_of_captures hcap,
      halike.head?_flatMap]

/-- Lazy iterations of a character, which has only itself to lead to. -/
theorem counted_unfolds_char :
    ∃ r r', Regex.build "a{0,2}?b" .allOff = .ok r ∧
      Regex.build "(?:aa{0,1}?){0,1}?b" .allOff = .ok r' ∧
      r'.capturesAt (.ofChars ['a', 'a', 'b']) 0 = r.capturesAt (.ofChars ['a', 'a', 'b']) 0 := by
  let counted : PatternTree := .ofElements ⟨0, 8⟩
    [.quantifier ⟨0, 7⟩ 0 (some 2) false (.char ⟨0, 1⟩ 'a'), .char ⟨7, 8⟩ 'b'] []
  let unfolded : PatternTree := .ofElements ⟨0, 19⟩
    [.quantifier ⟨0, 18⟩ 0 (some 1) false (.group ⟨0, 12⟩ none [.mk ⟨3, 11⟩ [.char ⟨3, 4⟩ 'a',
      .quantifier ⟨4, 11⟩ 0 (some 1) false (.char ⟨4, 5⟩ 'a')]]), .char ⟨18, 19⟩ 'b'] []
  let r : Regex := ⟨"a{0,2}?b", .allOff, [], ⟨#[.split 2 1, .char 'a', .split 4 3, .char 'a', .char 'b',
    .accept], 0, 2, false⟩, Regex.defaultStepLimit⟩
  let r' : Regex := ⟨"(?:aa{0,1}?){0,1}?b", .allOff, [], ⟨#[.split 4 1, .char 'a', .split 4 3, .char 'a',
    .char 'b', .accept], 0, 2, false⟩, Regex.defaultStepLimit⟩
  have hp : parse false "a{0,2}?b".toList = .ok counted := by with_unfolding_all rfl
  have hp' : parse false "(?:aa{0,1}?){0,1}?b".toList = .ok unfolded := by with_unfolding_all rfl
  have hc : compile false counted = .ok r.program := by with_unfolding_all rfl
  have hc' : compile false unfolded = .ok r'.program := by with_unfolding_all rfl
  refine ⟨r, r', r.build_of_parse hp hc rfl rfl, r'.build_of_parse hp' hc' rfl rfl, ?_⟩
  refine (counted_unfolds (e := .char ⟨0, 1⟩ 'a') (n := 1) (f := [.char ⟨0, 0⟩ 'b']) r r'
    (by simp) (.of_parse hp) (.of_parse hp') rfl rfl hc hc' rfl
    ['a', 'a', 'b'] 0 (by decide +kernel) (by decide +kernel)).2 (.inr (.inr fun p q hq q' hq' => ?_))
  exact (Attempt.mem_consume.mp hq).2.trans (Attempt.mem_consume.mp hq').2.symm

/-- The group `(?:a|aaa)` at a place. -/
def aOrAaa (i : Nat) : Element :=
  .group ⟨i, i + 9⟩ none [.mk ⟨i + 3, i + 4⟩ [.char ⟨i + 3, i + 4⟩ 'a'], .mk ⟨i + 5, i + 8⟩
    [.char ⟨i + 5, i + 6⟩ 'a', .char ⟨i + 6, i + 7⟩ 'a', .char ⟨i + 7, i + 8⟩ 'a']]

/-- The group `(?:ab|bc)` at a place. -/
def abOrBc (i : Nat) : Element :=
  .group ⟨i, i + 9⟩ none [.mk ⟨i + 3, i + 5⟩ [.char ⟨i + 3, i + 4⟩ 'a', .char ⟨i + 4, i + 5⟩ 'b'],
    .mk ⟨i + 6, i + 8⟩ [.char ⟨i + 6, i + 7⟩ 'b', .char ⟨i + 7, i + 8⟩ 'c']]

/-- Of two lazy iterations the counted loop leaves the first and lets the second take three
characters, before it takes the first and the second. -/
theorem counted_loop_skips :
    ∃ tree tree' r r' e f, parse false "(?:a|aaa){0,2}?(?:ab|bc)".toList = .ok tree ∧
      parse false "(?:(?:a|aaa)(?:a|aaa){0,1}?){0,1}?(?:ab|bc)".toList = .ok tree' ∧
      e.captures = [] ∧ tree.Reads [.quantifier ⟨0, 0⟩ 0 (some 2) false e, f] ∧
      tree'.Reads [e.unfolded 1 false, f] ∧
      Regex.build "(?:a|aaa){0,2}?(?:ab|bc)" .allOff = .ok r ∧
      Regex.build "(?:(?:a|aaa)(?:a|aaa){0,1}?){0,1}?(?:ab|bc)" .allOff = .ok r' ∧
      r.capturesAt (.ofChars ['a', 'a', 'a', 'b', 'c']) 0 = .ok (some [some (0, 5)]) ∧
      r'.capturesAt (.ofChars ['a', 'a', 'a', 'b', 'c']) 0 = .ok (some [some (0, 4)]) := by
  have h : (Regex.build "(?:a|aaa){0,2}?(?:ab|bc)" .allOff).toOption.map
      (·.capturesAt (.ofChars ['a', 'a', 'a', 'b', 'c']) 0) =
        some (.ok (some [some (0, 5)])) := by decide +kernel
  have h' : (Regex.build "(?:(?:a|aaa)(?:a|aaa){0,1}?){0,1}?(?:ab|bc)" .allOff).toOption.map
      (·.capturesAt (.ofChars ['a', 'a', 'a', 'b', 'c']) 0) =
        some (.ok (some [some (0, 4)])) := by decide +kernel
  obtain ⟨r, hr, hcaptures⟩ := ok_of_toOption_map h
  obtain ⟨r', hr', hcaptures'⟩ := ok_of_toOption_map h'
  have hcap : (aOrAaa 0).captures = [] := by
    simp [aOrAaa, branchesCaptures, Branch.elements]
  refine ⟨.ofElements ⟨0, 24⟩ [.quantifier ⟨0, 15⟩ 0 (some 2) false (aOrAaa 0), abOrBc 15] [],
    .ofElements ⟨0, 43⟩ [.quantifier ⟨0, 34⟩ 0 (some 1) false (.group ⟨0, 28⟩ none [.mk ⟨3, 27⟩
      [aOrAaa 3, .quantifier ⟨12, 27⟩ 0 (some 1) false (aOrAaa 12)]]), abOrBc 34] [],
    r, r', aOrAaa 0, abOrBc 0, by with_unfolding_all rfl, by with_unfolding_all rfl, hcap, rfl, rfl, hr,
    hr', hcaptures, hcaptures'⟩

end
end RegexInsight
