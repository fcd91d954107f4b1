import RegexInsight.Proofs.CodeInvariance
import RegexInsight.Proofs.RewrittenRuns
import RegexInsight.Proofs.SearchAnswers
import RegexInsight.Proofs.SingleMember
import RegexInsight.Risk

/-! Following the advice on redundant quantifiers. Where a counted quantifier is replaced by its shorter
form, at all places that the advice is about at once, the new source is accepted too, and its tree
differs in its places only. Trees that differ in their places only have the same program. -/
namespace RegexInsight

section
variable {f : Span → Span}

mutual

theorem Element.mapSpans_written (e : Element) :
    (e.mapSpans f).written = e.written.map (·.mapSpans f) := by
  cases e with
  | char | set | bracket | anchor | backreference => rfl
  | group span capture branches =>
    exact congrArg (_ :: ·) (branchesMapSpans_written branches)
  | look span direction negate branches =>
    exact congrArg (_ :: ·) (branchesMapSpans_written branches)
  | quantifier span min max greedy inner =>
    rw [Element.mapSpans, Element.written, Element.written, Element.mapSpans_written inner]
    split <;> rfl

theorem Branch.mapSpans_written (b : Branch) :
    (b.mapSpans f).written = b.written.map (·.mapSpans f) := by
  cases b with
  | mk span elements => exact elementsMapSpans_written elements

theorem elementsMapSpans_written (es : List Element) :
    elementsWritten (elementsMapSpans f es) = (elementsWritten es).map (·.mapSpans f) := by
  cases es with
  | nil => rfl
  | cons e es =>
    rw [elementsMapSpans, elementsWritten, elementsWritten, List.map_append,
      Element.mapSpans_written e, elementsMapSpans_written es]

theorem branchesMapSpans_written (bs : List Branch) :
    branchesWritten (branchesMapSpans f bs) = (branchesWritten bs).map (·.mapSpans f) := by
  cases bs with
  | nil => rfl
  | cons b bs =>
    rw [branchesMapSpans, branchesWritten, branchesWritten, List.map_append,
      Branch.mapSpans_written b, branchesMapSpans_written bs]

end

theorem Branch.mapSpans_startsAnchored (b : Branch) :
    (b.mapSpans f).startsAnchored = b.startsAnchored := by
  rw [Branch.startsAnchored, Branch.startsAnchored, Branch.mapSpans_elements, List.head?_map,
    Option.any_map]
  congr 1
  funext e
  cases e with
  | anchor span anchor => cases anchor <;> rfl
  | _ => rfl

end

theorem setsKnown_bare (es : List Element) : SetsKnown (es.map Element.bare) ↔ SetsKnown es := by
  simp [SetsKnown]

section
variable {tree tree' : PatternTree} (h : tree'.bare = tree.bare)
include h

theorem names_of_bare : tree'.names = tree.names := (PatternTree.mk.inj h).2

/-- What does not depend on the places in some alternatives is the same for both trees. -/
theorem branches_of_bare {α : Type} {g : List Branch → α}
    (hg : ∀ bs, g (branchesMapSpans (fun _ => ⟨0, 0⟩) bs) = g bs) :
    g tree'.pattern.branches = g tree.pattern.branches := by
  rw [← hg, ← hg tree.pattern.branches, branchesMapSpans_eq, branchesMapSpans_eq]
  exact congrArg g (Pattern.mk.inj (PatternTree.mk.inj h).1).2

/-- Trees that differ in their places only have the same program, if they have one. -/
theorem compile_of_bare {unicode multiline : Bool} (hw : tree.WellFormed unicode)
    (hw' : tree'.WellFormed unicode) {program : Program} (hc : compile multiline tree = .ok program) :
    compile multiline tree' = .ok program := by
  have hsize : branchesSize tree'.pattern.branches = branchesSize tree.pattern.branches :=
    branches_of_bare h branchesMapSpans_size
  have hwritten : SetsKnown tree'.pattern.written = SetsKnown tree.pattern.written :=
    branches_of_bare (g := fun bs => SetsKnown (branchesWritten bs)) h fun bs => by
      rw [branchesMapSpans_written]
      exact propext (setsKnown_bare _)
  obtain ⟨hknown, hle⟩ := (hw.compile_ok_iff multiline).mp ⟨program, hc⟩
  obtain ⟨program', hc'⟩ := (hw'.compile_ok_iff multiline).mpr
    ⟨hwritten ▸ hknown, hsize ▸ hle⟩
  have hcode : tree'.code = tree.code := by
    have hblank : tree'.blank = tree.blank := by
      rw [PatternTree.blank, PatternTree.blank, names_of_bare h]
    rw [PatternTree.code, PatternTree.code, names_of_bare h, hblank, hsize]
    exact branches_of_bare
      (g := fun bs => branchesEmit tree.names (branchesSize tree.pattern.branches) bs tree.blank) h
      fun bs => branchesMapSpans_emit _ bs _ _
  have hstarts : tree'.pattern.branches.all Branch.startsAnchored =
      tree.pattern.branches.all Branch.startsAnchored := by
    refine branches_of_bare (g := (·.all Branch.startsAnchored)) h fun bs => ?_
    rw [branchesMapSpans_eq, List.all_map]
    congr 1
    funext b
    exact b.mapSpans_startsAnchored
  obtain ⟨-, -, -, rfl⟩ := compile_cases hc
  obtain ⟨-, -, -, rfl⟩ := compile_cases hc'
  rw [hc', hcode, names_of_bare h, hstarts]

end

/-- The count ahead of reading is that of the tree that is read, whatever it was expected to be. -/
theorem GroupCount.ofText_of_run {d : Dialect} {source : List Char} {tree : PatternTree}
    (h : (Reading.ofText source).run d = .ok tree) :
    ofText source = ⟨tree.names.length, tree.names.any Option.isSome⟩ := by
  obtain ⟨s, hs, hend, hf⟩ := Reading.run_eq_ok.mp h
  have hcount := hs.counted
  have hrest : s.cursor.rest = [] := by simpa [Cursor.peek?] using hend
  have hnames : tree.names = s.names.toList := by
    unfold Reading.finish at hf
    split at hf <;> cases hf
    rfl
  have hstart : (Reading.ofText source).counted = ⟨0, false⟩ := by
    simp [Reading.counted, Reading.ofText]
  rw [hrest, hstart] at hcount
  rw [hnames]
  refine hcount.symm.trans ?_
  simp [GroupCount.scan, Reading.counted]

/-- The edited text is read to the same tree, as what the text as a whole decides stays the same. -/
theorem parse_rewrite {w : Shortening} {unicode : Bool} {tree : PatternTree} (hw : w.Repeats tree)
    (h : parse unicode w.source = .ok tree) :
    ∃ tree', parse unicode (rewrite w.edits 0 0 w.source) = .ok tree' ∧ tree'.bare = tree.bare := by
  obtain ⟨s, hs, hend, hf⟩ := Reading.run_eq_ok.mp h
  have hstart : w.Mirrors (.ofText w.source) (.ofText (rewrite w.edits 0 0 w.source)) :=
    ⟨⟨.refl _, rfl⟩, rfl, rfl, rfl, rfl⟩
  have hnone : ∀ q ∈ (Reading.ofText w.source).repetitions,
      q.inner.span.stop < (Reading.ofText w.source).cursor.byte :=
    Reading.forall_repetitions.mpr (Reading.ofText_throughout w.source)
  obtain ⟨tree', hrun, hbare⟩ := hstart.run hw hs hend hf hnone
  refine ⟨tree', ?_, hbare⟩
  have hcount : GroupCount.ofText (rewrite w.edits 0 0 w.source) = .ofText w.source := by
    rw [GroupCount.ofText_of_run hrun, GroupCount.ofText_of_run h, names_of_bare hbare]
  rw [parse, hcount]
  exact hrun

namespace ParsedPattern

theorem shorthand?_eq_some {counted short : String} :
    shorthand? counted = some short ↔ Shorthand counted.toList short.toList := by
  constructor
  · intro h
    unfold shorthand? at h
    split at h
    · subst counted
      cases h
      exact .star
    · split at h
      · subst counted
        cases h
        exact .plus
      · split at h <;> cases h
        subst counted
        exact .optional
  · intro h
    have hcounted : counted = String.ofList counted.toList := String.ofList_toList.symm
    have hshort : short = String.ofList short.toList := String.ofList_toList.symm
    generalize counted.toList = old at h hcounted
    generalize short.toList = new at h hshort
    subst hcounted hshort
    cases h <;> rfl

/-- What the advice on redundant quantifiers is for a repetition, if there is any: its shorter form in
the place of its counted quantifier. A lazy mark stays behind it. -/
def shortening? (p : ParsedPattern) (r : Element.Repetition) : Option Edit :=
  (shorthand? (p.countedText r)).map fun short =>
    ⟨r.inner.span.stop, (p.countedText r).toList, short.toList⟩

def shortenings (p : ParsedPattern) : List Edit := p.repetitions.filterMap p.shortening?

/-- The source with the advice followed at all places. -/
def shortened (p : ParsedPattern) : String :=
  String.ofList (rewrite p.shortenings 0 0 p.source.toList)

/-- The places that the advice is about. -/
def redundantSpans (p : ParsedPattern) : List Span :=
  ((p.redundantQuantifier.bind (·.evidence)).map (·.spans)).getD []

theorem redundantSpans_eq (p : ParsedPattern) :
    p.redundantSpans = (p.repetitions.filter fun r => (p.shortening? r).isSome).map (·.span) := by
  have hspans : ∀ (spans : List Span) (examples : List String) (title message : String),
      (((Warning.about? .redundantQuantifier .info title message spans examples).bind
        (·.evidence)).map (·.spans)).getD [] = spans := by
    intro spans examples title message
    cases spans <;> rfl
  rw [redundantSpans, redundantQuantifier, hspans]
  induction p.repetitions with
  | nil => rfl
  | cons r rs ih =>
    cases hr : shorthand? (p.countedText r) with
    | none => simpa [shortening?, hr] using ih
    | some short => simpa [shortening?, hr] using ih

theorem raw_prefix {p : ParsedPattern} {c : Cursor} {span : Span}
    (hc : c.Within p.source.toList) (hb : c.byte = span.start) : p.raw span <+: c.rest := by
  obtain ⟨before, hrest, -, hbyte⟩ := hc
  obtain ⟨start, stop⟩ := span
  obtain rfl : start = width before := by simpa [Cursor.ofText, hb] using hbyte
  have hsource : p.source.toList = before ++ c.rest := hrest
  rw [raw, hsource]
  cases h : sliceChars? (before ++ c.rest) ⟨width before, stop⟩ with
  | none => exact List.nil_prefix
  | some part => exact sliceChars?_prefix h

theorem countedText_prefix (p : ParsedPattern) (r : Element.Repetition) :
    (p.countedText r).toList <+: p.raw ⟨r.inner.span.stop, r.span.stop⟩ := by
  rw [countedText, String.toList_ofList]
  split
  · exact List.dropLast_prefix _
  · exact List.prefix_rfl

theorem countedText_place {p : ParsedPattern} {r : Element.Repetition}
    (hne : (p.countedText r).toList ≠ []) :
    ∃ front rest, p.source.toList = front ++ ((p.countedText r).toList ++ rest) ∧
      width front = r.inner.span.stop := by
  obtain ⟨lazyMark, hpart⟩ := p.countedText_prefix r
  cases hslice : sliceChars? p.source.toList ⟨r.inner.span.stop, r.span.stop⟩ with
  | none =>
    rw [raw, hslice] at hpart
    exact absurd (List.append_eq_nil_iff.mp hpart).1 hne
  | some part =>
    rw [raw, hslice, Option.getD_some] at hpart
    obtain ⟨front, rest, hsource, hwidth⟩ := sliceChars?_eq_some hslice
    exact ⟨front, lazyMark ++ rest, by rw [hsource, ← hpart, List.append_assoc], hwidth⟩

theorem mem_shortenings {p : ParsedPattern} {e : Edit} (h : e ∈ p.shortenings) :
    ∃ r ∈ p.repetitions, e.place = r.inner.span.stop ∧ e.old = (p.countedText r).toList ∧
      Shorthand e.old e.new := by
  obtain ⟨r, hr, he⟩ := List.mem_filterMap.mp h
  obtain ⟨short, hs, rfl⟩ := Option.map_eq_some_iff.mp he
  exact ⟨r, hr, rfl, rfl, shorthand?_eq_some.mp hs⟩

def shortening (p : ParsedPattern) : Shortening where
  source := p.source.toList
  edits := p.shortenings
  valid := by
    intro c e hc he
    obtain ⟨r, -, hplace, hold, hs⟩ := mem_shortenings (List.mem_of_find?_eq_some he)
    have hbyte : e.place = c.byte := by simpa using List.find?_some he
    have hraw : p.raw ⟨r.inner.span.stop, r.span.stop⟩ <+: c.rest :=
      raw_prefix hc (hbyte.symm.trans hplace)
    obtain ⟨rest, hrest⟩ := (p.countedText_prefix r).trans hraw
    exact ⟨hs, rest, hold ▸ hrest.symm⟩

theorem shortening_repeats (p : ParsedPattern) : p.shortening.Repeats p.tree := by
  intro byte hne
  obtain ⟨e, he⟩ := Option.ne_none_iff_exists'.mp hne
  obtain ⟨r, hr, hplace, -⟩ := mem_shortenings (List.mem_of_find?_eq_some he)
  obtain ⟨y, hy, hyr⟩ := List.mem_filterMap.mp hr
  exact ⟨y, hy, r, hyr, hplace.symm.trans (by simpa using List.find?_some he)⟩

theorem shortened_made {p : ParsedPattern} {e : Edit} (he : e ∈ p.shortenings) :
    e.Made p.shortenings p.source.toList p.shortened.toList := by
  obtain ⟨r, -, hplace, hold, hshort⟩ := mem_shortenings he
  obtain ⟨front, rest, hsource, hwidth⟩ := countedText_place (hold ▸ hshort.ne_nil)
  rw [shortened, String.toList_ofList]
  exact p.shortening.rewrite_made he (hold ▸ hsource) (hwidth.trans hplace.symm) hshort

end ParsedPattern

/-- The advice on redundant quantifiers is safe to follow. The pattern that has the shorter forms is read
under the same flags, to the same tree but for the places, and has the same program. -/
theorem parsePattern_shortened {source flagText : String} {p : ParsedPattern}
    (h : parsePattern source flagText = .ok p) :
    p.redundantSpans = (p.repetitions.filter fun r => (p.shortening? r).isSome).map (·.span) ∧
    (∀ e ∈ p.shortenings, e.Made p.shortenings source.toList p.shortened.toList) ∧
    ∃ q r, parsePattern p.shortened flagText = .ok q ∧ q.tree.bare = p.tree.bare ∧
      p.regex p.flags = .ok r ∧ q.regex q.flags = .ok { r with source := p.shortened } := by
  obtain ⟨hflags, rfl, hparse, program, hc⟩ := parsePattern_cases h
  refine ⟨p.redundantSpans_eq, fun e he => ParsedPattern.shortened_made he, ?_⟩
  obtain ⟨tree', hparse', hbare⟩ := parse_rewrite p.shortening_repeats hparse
  have hc' := compile_of_bare hbare (.of_parse hparse) (.of_parse hparse') hc
  have hsource : p.shortened.toList = rewrite p.shortenings 0 0 p.source.toList :=
    String.toList_ofList
  have hread : parse p.flags.unicode p.shortened.toList = .ok tree' := hsource ▸ hparse'
  let q : ParsedPattern := ⟨p.shortened, p.flags, tree'⟩
  let r : Regex := ⟨p.source, p.flags, p.tree.names, program, Regex.defaultStepLimit⟩
  have hr : Regex.ofTree p.shortened p.flags tree' = .ok { r with source := p.shortened } := by
    rw [Regex.ofTree, hc', names_of_bare hbare]
  refine ⟨q, r, ?_, hbare, ?_, hr⟩
  · rw [parsePattern, hflags]
    dsimp only
    rw [hread]
    dsimp only
    rw [hr]
  · rw [ParsedPattern.regex, Regex.ofTree, hc]

/-- A group and what it repeats are shortened both, and a brace that is escaped or that ends in no
quantifier stays. -/
theorem parsePattern_shortened_nested :
    ∃ source p, source = "(?:a\x7b0,\x7d?b\x7b1,\x7d)\x7b0,1\x7d\\\x7b\x7b1,\x7dx\x7b0,1\x7b0,\x7d" ∧
      parsePattern source "i" = .ok p ∧
      p.shortened = "(?:a*?b+)?\\\x7b+x\x7b0,1*" ∧ p.redundantSpans.length = 5 ∧
      p.redundantSpans = (p.repetitions.filter fun r => (p.shortening? r).isSome).map (·.span) ∧
      (∀ e ∈ p.shortenings, e.Made p.shortenings source.toList p.shortened.toList) ∧
      ∃ q r, parsePattern p.shortened "i" = .ok q ∧ q.tree.bare = p.tree.bare ∧
        p.regex p.flags = .ok r ∧ q.regex q.flags = .ok { r with source := p.shortened } := by
  obtain ⟨source, hsource, hs⟩ : ∃ source,
      source = "(?:a\x7b0,\x7d?b\x7b1,\x7d)\x7b0,1\x7d\\\x7b\x7b1,\x7dx\x7b0,1\x7b0,\x7d" ∧
      (parsePattern source "i").toOption.map (fun p => (p.shortened, p.redundantSpans.length)) =
        some ("(?:a*?b+)?\\\x7b+x\x7b0,1*", 5) := ⟨_, rfl, by decide +kernel⟩
  cases hp : parsePattern source "i" with
  | error e =>
    rw [hp] at hs
    cases hs
  | ok p =>
    rw [hp] at hs
    obtain ⟨hshortened, hspans⟩ := Prod.mk.inj (Option.some.inj hs)
    exact ⟨source, p, hsource, hp, hshortened, hspans, parsePattern_shortened hp⟩

end RegexInsight
