import RegexInsight.Features
import RegexInsight.Proofs.EnclosedText
import RegexInsight.Proofs.PlaceInvariance
import RegexInsight.Proofs.SearchAnswers
import RegexInsight.Proofs.Tiling

/-! A pattern in a group that captures nothing. It is read as one group with the same alternatives,
three bytes further on. The group takes no instruction and the walk meets it behind the whole pattern,
so the pattern in it matches the same, and its features are the same. -/
namespace RegexInsight

section
variable {tree : PatternTree} {multiline : Bool}

theorem compile_enclosed {program : Program} (h : compile multiline tree = .ok program) :
    ∃ program', compile multiline tree.enclosed = .ok program' ∧
      program'.groupCount = program.groupCount := by
  obtain ⟨n, hcheck, hle, rfl⟩ := compile_cases h
  have hbranches := branchesMapSpans_check (f := Span.enclosed) tree.pattern.branches hcheck
  rw [branchesMapSpans_eq] at hbranches
  have hgroup : branchesCheck tree.enclosed.names tree.enclosed.pattern.branches 0 = .ok n := by
    rw [PatternTree.enclosed, branchesCheck, Branch.check, elementsCheck, Element.check, hbranches]
    rfl
  obtain ⟨program', hc'⟩ := compile_of_check multiline hgroup hle
  obtain ⟨_, _, _, rfl⟩ := compile_cases hc'
  exact ⟨_, hc', rfl⟩

theorem firstMatch_enclosed (tree : PatternTree) : tree.enclosed.firstMatch = tree.firstMatch := by
  funext mode text start
  have hbranches := branchesMapSpans_outcomes (f := Span.enclosed) ⟨mode, text, tree.names⟩
    tree.pattern.branches
  rw [branchesMapSpans_eq] at hbranches
  rw [PatternTree.firstMatch, PatternTree.firstMatch, PatternTree.enclosed]
  dsimp only
  have hlast : ∀ a, elementsOutcomes a [] = fun q => [q] := fun _ => rfl
  rw [branchesOutcomes, branchesOutcomes, Branch.outcomes, elementsOutcomes, Element.outcomes,
    hbranches, hlast, List.flatMap_singleton', List.append_nil]

end

/-- The two have the same groups, and capture the same in any text and from any byte on as long as
neither exceeds its limit. -/
structure Regex.Agrees (r r' : Regex) : Prop where
  groupCount : r'.groupCount = r.groupCount
  names : r'.names = r.names
  captures : ∀ (limit limit' : Nat) (text : String) (start : Nat),
    ({ r with stepLimit := limit } : Regex).capturesAt (.ofString text) start ≠ .error .stepLimit →
    ({ r' with stepLimit := limit' } : Regex).capturesAt (.ofString text) start ≠ .error .stepLimit →
    ({ r' with stepLimit := limit' } : Regex).capturesAt (.ofString text) start =
      ({ r with stepLimit := limit } : Regex).capturesAt (.ofString text) start

namespace ParsedPattern

def enclosed (p : ParsedPattern) : ParsedPattern :=
  ⟨"(?:" ++ p.source ++ ")", p.flags, p.tree.enclosed⟩

theorem enclosed_source (p : ParsedPattern) :
    p.enclosed.source.toList = enclose p.source.toList := by
  simp [enclosed, enclose]

end ParsedPattern

theorem parsePattern_cases {source flagText : String} {p : ParsedPattern}
    (h : parsePattern source flagText = .ok p) :
    Flags.ofText? flagText = some p.flags ∧ p.source = source ∧
      parse p.flags.unicode p.source.toList = .ok p.tree ∧
        ∃ program, compile p.flags.multiline p.tree = .ok program := by
  unfold parsePattern at h
  split at h
  · cases h
  · rename_i flags hflags
    split at h
    · cases h
    · rename_i tree htree
      split at h
      · cases h
      · rename_i r hr
        cases h
        refine ⟨hflags, rfl, htree, ?_⟩
        unfold Regex.ofTree at hr
        split at hr <;> cases hr
        exact ⟨_, ‹_›⟩

theorem parsePattern_enclose {source flagText : String} {p : ParsedPattern}
    (h : parsePattern source flagText = .ok p) :
    parsePattern ("(?:" ++ source ++ ")") flagText = .ok p.enclosed := by
  obtain ⟨hflags, rfl, hparse, program, hc⟩ := parsePattern_cases h
  obtain ⟨program', hc', -⟩ := compile_enclosed hc
  have hsource : ("(?:" ++ p.source ++ ")").toList = enclose p.source.toList := p.enclosed_source
  unfold parsePattern
  rw [hflags]
  dsimp only
  rw [hsource, parse_enclose hparse]
  dsimp only [Regex.ofTree]
  rw [hc']
  rfl

namespace ParsedPattern

variable {p : ParsedPattern}

theorem regex_enclosed (hp : parse p.flags.unicode p.source.toList = .ok p.tree) (flags : Flags)
    {program : Program} (hc : compile flags.multiline p.tree = .ok program) :
    ∃ r r', p.regex flags = .ok r ∧ p.enclosed.regex flags = .ok r' ∧ r.Agrees r' := by
  obtain ⟨program', hc', hcount⟩ := compile_enclosed hc
  let r : Regex := ⟨p.source, flags, p.tree.names, program, Regex.defaultStepLimit⟩
  let r' : Regex := ⟨p.enclosed.source, flags, p.tree.names, program', Regex.defaultStepLimit⟩
  refine ⟨r, r', ?_, ?_, hcount, rfl, fun limit limit' text start hl hl' => ?_⟩
  · rw [regex, Regex.ofTree, hc]
  · have hc' : compile flags.multiline p.enclosed.tree = .ok program' := hc'
    rw [regex, Regex.ofTree, hc']
    rfl
  · have hmatch := congrFun₂ (firstMatch_enclosed p.tree) r.mode text.toList.toArray
    exact Regex.capturesAt_congr { r with stepLimit := limit } { r' with stepLimit := limit' }
      (.of_parse hp) hc (.of_parse (parse_enclose hp)) hc' rfl text.toList hmatch start hl hl'

def enclosingGroup (p : ParsedPattern) : Element :=
  .group ⟨0, p.pattern.span.stop + 4⟩ none (p.pattern.branches.map (·.mapSpans Span.enclosed))

theorem nodes_enclosed (p : ParsedPattern) : ∃ below,
    p.pattern.nodes = .pattern p.pattern :: below ∧
      p.enclosed.pattern.nodes = .pattern p.enclosed.pattern ::
        .branch (.mk ⟨0, p.pattern.span.stop + 4⟩ [p.enclosingGroup]) ::
        .element p.enclosingGroup :: below.map (Node.mapSpans Span.enclosed) := by
  refine ⟨(Node.pattern p.pattern).descendants, Node.walk_eq_descendants _, ?_⟩
  have hchildren : (Node.element p.enclosingGroup).children =
      ((Node.pattern p.pattern).children).map (Node.mapSpans Span.enclosed) := by
    rw [enclosingGroup, Node.children, Node.children, List.map_map, List.map_map]
    rfl
  have hbelow : (Node.element p.enclosingGroup).descendants =
      (Node.pattern p.pattern).descendants.map (Node.mapSpans Span.enclosed) := by
    rw [Node.descendants_eq_visit, hchildren, Node.visit_map Node.mapSpans_children,
      Node.descendants_eq_visit]
  have hpattern : (Node.pattern p.enclosed.pattern).children =
      [.branch (.mk ⟨0, p.pattern.span.stop + 4⟩ [p.enclosingGroup])] := rfl
  have hbranch : (Node.branch (.mk ⟨0, p.pattern.span.stop + 4⟩ [p.enclosingGroup])).children =
      [.element p.enclosingGroup] := rfl
  rw [Pattern.nodes, Node.walk_eq, hpattern, List.flatMap_singleton, Node.walk_eq, hbranch,
    List.flatMap_singleton, Node.walk_eq_descendants, hbelow]

theorem elements_enclosed (p : ParsedPattern) : p.enclosed.pattern.elements =
    p.enclosingGroup :: p.pattern.elements.map (·.mapSpans Span.enclosed) := by
  obtain ⟨below, hnodes, hnodes'⟩ := p.nodes_enclosed
  rw [Pattern.elements, Pattern.elements, hnodes, hnodes']
  have hbelow : (below.map (Node.mapSpans Span.enclosed)).filterMap Node.element? =
      (below.filterMap Node.element?).map (·.mapSpans Span.enclosed) := by
    rw [List.filterMap_map, List.map_filterMap]
    congr 1
    funext n
    exact n.mapSpans_element?
  exact congrArg (p.enclosingGroup :: ·) hbelow

/-- A list that is filtered out of the nodes is the same if the new nodes are left out. -/
theorem filterMap_nodes_enclosed {α : Type} {g g' : Node → Option α}
    (hpattern : ∀ p, g (.pattern p) = none ∧ g' (.pattern p) = none)
    (hbranch : ∀ b, g' (.branch b) = none)
    (hgroup : ∀ span branches, g' (.element (.group span none branches)) = none)
    (h : ∀ n ∈ p.pattern.nodes, g' (n.mapSpans Span.enclosed) = g n) :
    p.enclosed.pattern.nodes.filterMap g' = p.pattern.nodes.filterMap g := by
  obtain ⟨below, hnodes, hnodes'⟩ := p.nodes_enclosed
  have hgroup : g' (.element p.enclosingGroup) = none := hgroup _ _
  rw [hnodes] at h ⊢
  rw [hnodes', List.filterMap_cons_none (hpattern _).2, List.filterMap_cons_none (hbranch _),
    List.filterMap_cons_none hgroup, List.filterMap_cons_none (hpattern _).1, List.filterMap_map]
  exact List.filterMap_congr fun n hn => h n (List.mem_cons_of_mem _ hn)

theorem filterMap_elements_enclosed {α : Type} {g g' : Element → Option α}
    (hgroup : ∀ span branches, g' (.group span none branches) = none)
    (h : ∀ e ∈ p.pattern.elements, g' (e.mapSpans Span.enclosed) = g e) :
    p.enclosed.pattern.elements.filterMap g' = p.pattern.elements.filterMap g := by
  have hgroup : g' p.enclosingGroup = none := hgroup _ _
  rw [elements_enclosed, List.filterMap_cons_none hgroup, List.filterMap_map]
  exact List.filterMap_congr h

theorem any_elements_enclosed {g : Element → Bool}
    (hgroup : ∀ span branches, g (.group span none branches) = false)
    (h : ∀ e, g (e.mapSpans Span.enclosed) = g e) :
    p.enclosed.pattern.elements.any g = p.pattern.elements.any g := by
  have hgroup : g p.enclosingGroup = false := hgroup _ _
  rw [elements_enclosed, List.any_cons, hgroup, Bool.false_or, List.any_map]
  congr 1
  funext e
  exact h e

/-- What the group has of the alternatives, it has in the place of the whole pattern. -/
theorem any_nodes_enclosed {g : Node → Bool} (hpattern : g (.pattern p.enclosed.pattern) = false)
    (hbranch : ∀ b, g (.branch b) = false)
    (hgroup : g (.element p.enclosingGroup) = g (.pattern p.pattern))
    (h : ∀ n, g (n.mapSpans Span.enclosed) = g n) :
    p.enclosed.pattern.nodes.any g = p.pattern.nodes.any g := by
  obtain ⟨below, hnodes, hnodes'⟩ := p.nodes_enclosed
  have hbelow : g ∘ Node.mapSpans Span.enclosed = g := by
    funext n
    exact h n
  rw [hnodes, hnodes', List.any_cons, List.any_cons, List.any_cons, List.any_cons, hpattern,
    hbranch, hgroup, List.any_map, hbelow, Bool.false_or, Bool.false_or]

theorem any_isAlternation_enclosed :
    p.enclosed.pattern.nodes.any Node.isAlternation = p.pattern.nodes.any Node.isAlternation := by
  refine any_nodes_enclosed rfl (fun _ => rfl) ?_ fun n => n.mapSpans_isAlternation
  simp [Node.isAlternation, Node.branches?, enclosingGroup]

theorem setsOf_enclosed : setsOf p.enclosed = setsOf p := by
  unfold setsOf
  refine filterMap_nodes_enclosed (fun _ => ⟨rfl, rfl⟩) (fun _ => rfl) (fun _ _ => rfl) fun n hn => ?_
  match n with
  | .element (.set _ ⟨_, true⟩) | .element (.set _ ⟨_, false⟩) => rfl
  | .member ⟨_, .char _⟩ | .member ⟨_, .range _ _⟩ => rfl
  | .member ⟨_, .set ⟨_, true⟩⟩ | .member ⟨_, .set ⟨_, false⟩⟩ => rfl
  | .pattern _ | .branch _ => rfl
  | .element (.group ..) | .element (.look ..) | .element (.bracket ..) => rfl
  | .element (.quantifier ..) | .element (.char ..) => rfl
  | .element (.anchor ..) | .element (.backreference ..) => rfl

theorem classRangesOf_enclosed : classRangesOf p.enclosed = classRangesOf p := by
  unfold classRangesOf
  refine filterMap_elements_enclosed (fun _ _ => rfl) fun e he => ?_
  match e with
  | .bracket _ true _ => rfl
  | .bracket _ false members =>
    simp only [Element.mapSpans, List.filterMap_map]
    rfl
  | .group .. | .look .. | .quantifier .. | .char .. | .set .. | .anchor .. | .backreference .. => rfl

section
variable (hp : parse p.flags.unicode p.source.toList = .ok p.tree)
include hp

theorem span_stop_le {n : Node} (hn : n ∈ p.pattern.nodes) :
    n.span.stop ≤ width p.source.toList := by
  have hplaced : n.Placed p.source.toList := Reading.run_tiled (Reading.ofText_tiled _) hp n hn
  obtain ⟨text, before, after, hsource, hspan⟩ := hplaced.marks
  rw [hsource, hspan, width_append, width_append]
  dsimp only
  omega

/-- The text of a node, or of a part of it up to its end. -/
theorem raw_enclosed {n : Node} (hn : n ∈ p.pattern.nodes) (start : Nat) :
    p.enclosed.raw ⟨start + 3, n.span.stop + 3⟩ = p.raw ⟨start, n.span.stop⟩ := by
  have hslice : sliceChars? (enclose p.source.toList) ⟨start + 3, n.span.stop + 3⟩ =
      sliceChars? p.source.toList ⟨start, n.span.stop⟩ := by
    have hle : (⟨start, n.span.stop⟩ : Span).stop ≤ width p.source.toList := span_stop_le hp hn
    exact sliceChars?_enclose hle
  rw [raw, raw, enclosed_source, hslice]

/-- The text of an element, or of a part of it up to its end. -/
theorem raw_element_enclosed {e : Element} (he : e ∈ p.pattern.elements) (start : Nat) :
    p.enclosed.raw ⟨start + 3, e.span.stop + 3⟩ = p.raw ⟨start, e.span.stop⟩ := by
  obtain ⟨n, hn, hne⟩ := List.mem_filterMap.mp he
  obtain rfl : n = .element e := by
    cases n <;> cases hne
    rfl
  exact raw_enclosed hp hn start

theorem literalsOf_enclosed : literalsOf p.enclosed = literalsOf p := by
  unfold literalsOf
  refine filterMap_nodes_enclosed (fun _ => ⟨rfl, rfl⟩) (fun _ => rfl) (fun _ _ => rfl) fun n hn => ?_
  match n with
  | .element (.char span value) =>
    have hraw : p.enclosed.raw (Span.enclosed span) = p.raw span := raw_enclosed hp hn span.start
    simp only [Node.mapSpans, Element.mapSpans, hraw]
  | .member ⟨_, .char _⟩ | .member ⟨_, .range _ _⟩ | .member ⟨_, .set _⟩ => rfl
  | .pattern _ | .branch _ => rfl
  | .element (.group ..) | .element (.look ..) | .element (.bracket ..) => rfl
  | .element (.quantifier ..) | .element (.set ..) => rfl
  | .element (.anchor ..) | .element (.backreference ..) => rfl

theorem bracedBoundsOf_enclosed : bracedBoundsOf p.enclosed = bracedBoundsOf p := by
  unfold bracedBoundsOf
  refine filterMap_elements_enclosed (fun _ _ => rfl) fun e he => ?_
  match e with
  | .quantifier span min max greedy inner =>
    have hraw : p.enclosed.raw ⟨inner.span.stop + 3, span.stop + 3⟩ =
        p.raw ⟨inner.span.stop, span.stop⟩ := raw_element_enclosed hp he inner.span.stop
    simp only [Element.mapSpans, Element.mapSpans_span, Span.enclosed, hraw]
  | .group .. | .look .. | .bracket .. | .char .. | .set .. | .anchor .. | .backreference .. => rfl

/-- Nothing that is seen of the tree tells of the group, and nothing that is seen of the text. -/
theorem features_enclosed : p.enclosed.features = p.features := by
  have hquantified : p.enclosed.pattern.elements.any Element.isQuantifier =
      p.pattern.elements.any Element.isQuantifier :=
    any_elements_enclosed (fun _ _ => rfl) fun e => by cases e <;> rfl
  have hlower : (enclose p.source.toList).map Char.toLower =
      enclose (p.source.toList.map Char.toLower) := by
    simp [enclose]
  have hipv4 : Shape.ipv4.any (fun s => (s.find? (enclose p.source.toList)).isSome) =
      Shape.ipv4.any fun s => (s.find? p.source.toList).isSome := by
    have hinside : ∀ s ∈ Shape.ipv4, s.StartsInside ∧ s.EndsInside := by decide +kernel
    rw [Bool.eq_iff_iff, List.any_eq_true, List.any_eq_true]
    refine exists_congr fun s => and_congr_right fun hs => ?_
    rw [Shape.find?_enclose (hinside s hs).1 (hinside s hs).2]
  have huuid : Shape.AllInside Shape.uuid := by decide +kernel
  have hdate : Shape.AllInside Shape.isoDate := by decide +kernel
  have hsemver : Shape.semver.StartsInside ∧ Shape.semver.EndsInside := by decide +kernel
  have htime : Shape.time.StartsInside ∧ Shape.time.EndsInside := by decide +kernel
  unfold features
  dsimp only
  rw [literalsOf_enclosed hp, setsOf_enclosed, classRangesOf_enclosed, bracedBoundsOf_enclosed hp,
    any_isAlternation_enclosed, hquantified, enclosed_source, colons_enclose, hlower,
    holdsText_enclose (by decide +kernel) (by decide +kernel),
    holdsText_enclose (by decide +kernel) (by decide +kernel),
    holdsText_enclose (by decide +kernel) (by decide +kernel),
    replaceText_enclose (by decide +kernel) (by decide +kernel), logLevelsIn_enclose,
    Shape.inSomeLine_enclose huuid, Shape.inSomeLine_enclose hdate,
    Shape.find?_enclose hsemver.1 hsemver.2, Shape.find?_enclose htime.1 htime.2, hipv4]
  congr 1
  case e_startAnchor => exact any_elements_enclosed (fun _ _ => rfl) fun e => by cases e <;> rfl
  case e_endAnchor => exact any_elements_enclosed (fun _ _ => rfl) fun e => by cases e <;> rfl
  case e_wordBoundary =>
    exact congrArg₂ _ (any_elements_enclosed (fun _ _ => rfl) fun e => by cases e <;> rfl)
      (any_elements_enclosed (fun _ _ => rfl) fun e => by cases e <;> rfl)
  case e_lookaround => exact any_elements_enclosed (fun _ _ => rfl) fun e => by cases e <;> rfl
  case e_captureGroups =>
    refine congrArg List.length (filterMap_elements_enclosed (fun _ _ => rfl) fun e _ => ?_)
    cases e <;> rfl
  case e_namedGroups =>
    refine congrArg (List.countP fun c : Capture => c.name.isSome)
      (filterMap_elements_enclosed (fun _ _ => rfl) fun e _ => ?_)
    cases e <;> rfl

end

end ParsedPattern
end RegexInsight
