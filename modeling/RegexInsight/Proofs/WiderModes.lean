import RegexInsight.Proofs.Enumeration
import RegexInsight.Proofs.Greediness
import RegexInsight.Proofs.ReadElements
import RegexInsight.Proofs.SearchAnswers

/-! More flags. Ignoring case, reading the text in lines and letting dots stand for line terminators
widen what single elements accept, so whatever could be matched can still be matched. Two things are
turned around: a lookaround that must not find its body, and a negated class, of which a wider set of
characters is left out. -/
namespace RegexInsight

/-- The second mode has all the switches on that the first one has. -/
structure Mode.Widens (mode mode' : Mode) : Prop where
  ignoreCase : mode.ignoreCase → mode'.ignoreCase
  multiline : mode.multiline → mode'.multiline
  dotAll : mode.dotAll → mode'.dotAll

theorem ClassItem.holds_of_not_isDot {kind : MemberKind} {item : ClassItem}
    (hk : kind.isDot = false) (hi : ofKind? kind = some item) (mode mode' : Mode) :
    item.holds mode = item.holds mode' := by
  funext c
  cases kind with
  | char value => cases hi; rfl
  | range min max => cases hi; rfl
  | set s =>
    obtain ⟨test, htest, rfl⟩ := Option.map_eq_some_iff.mp hi
    obtain ⟨kind, negate⟩ := s
    cases kind with
    | dot => cases hk
    | digit | word | space => cases htest; rfl
    | property name value =>
      obtain ⟨p, -, rfl⟩ := Option.map_eq_some_iff.mp htest
      rfl

namespace Mode.Widens

variable {mode mode' : Mode}

theorem sameChar (h : mode.Widens mode') {x y : Char} (hsame : mode.sameChar x y) :
    mode'.sameChar x y := by
  simp only [Mode.sameChar, Bool.or_eq_true, Bool.and_eq_true] at hsame ⊢
  exact hsame.imp_right (And.imp_left h.ignoreCase)

theorem inSet (h : mode.Widens mode') {text : Array Char} {names : List (Option String)}
    {s : CharSet} (hdot : s.isDot → s.negate = false) {c : Char}
    (hin : (⟨mode, text, names⟩ : Attempt).inSet s c) :
    (⟨mode', text, names⟩ : Attempt).inSet s c := by
  obtain ⟨kind, negate⟩ := s
  cases kind with
  | dot =>
    obtain rfl : negate = false := hdot rfl
    simp only [Attempt.inSet, CharTest.ofKind?, CharTest.holds, Option.any_some, Bool.bne_false,
      Bool.or_eq_true] at hin ⊢
    exact hin.imp_left h.dotAll
  | digit | word | space => exact hin
  | property name value =>
    simp only [Attempt.inSet, CharTest.ofKind?] at hin ⊢
    cases hp : Property.find? name value <;> rw [hp] at hin <;> exact hin

theorem items (mode mode' : Mode) {members : List ClassMember}
    (hdot : ∀ m ∈ members, m.kind.isDot = false) :
    ∀ item ∈ members.filterMap fun m => ClassItem.ofKind? m.kind,
      ∀ c, item.holds mode' c = item.holds mode c := by
  intro item hitem c
  obtain ⟨m, hm, hi⟩ := List.mem_filterMap.mp hitem
  exact congrFun (ClassItem.holds_of_not_isDot (hdot m hm) hi mode' mode) c

theorem anyItem (h : mode.Widens mode') {items : List ClassItem}
    (hitems : ∀ item ∈ items, ∀ c, item.holds mode' c = item.holds mode c) {c : Char}
    (hany : mode.anyItem items c) : mode'.anyItem items c := by
  unfold Mode.anyItem at hany ⊢
  by_cases hcase : mode.ignoreCase
  · rw [if_pos hcase] at hany
    rw [if_pos (h.ignoreCase hcase)]
    obtain ⟨item, hmem, hholds⟩ := List.any_eq_true.mp hany
    refine List.any_eq_true.mpr ⟨item, hmem, ?_⟩
    simp only [hitems item hmem]
    exact hholds
  · rw [if_neg hcase] at hany
    obtain ⟨item, hmem, hholds⟩ := List.any_eq_true.mp hany
    have hholds : item.holds mode' c := by rwa [hitems item hmem]
    split
    · exact List.any_eq_true.mpr ⟨item, hmem, by simp [hholds]⟩
    · exact List.any_eq_true.mpr ⟨item, hmem, hholds⟩

theorem anyItem_eq (hcase : mode'.ignoreCase = mode.ignoreCase) {items : List ClassItem}
    (hitems : ∀ item ∈ items, ∀ c, item.holds mode' c = item.holds mode c) (c : Char) :
    mode'.anyItem items c = mode.anyItem items c := by
  have hany : ∀ f f' : ClassItem → Bool, (∀ item ∈ items, f' item = f item) →
      items.any f' = items.any f := fun f f' hf => by
    rw [Bool.eq_iff_iff, List.any_eq_true, List.any_eq_true]
    exact exists_congr fun item => and_congr_right fun hmem => by rw [hf item hmem]
  unfold Mode.anyItem
  rw [hcase]
  split
  · exact hany _ _ fun item hmem => by simp only [hitems item hmem]
  · exact hany _ _ fun item hmem => hitems item hmem c

theorem holdsAt (h : mode.Widens mode') {text : Array Char} {names : List (Option String)}
    {anchor : Anchor} {pos : Nat} (hat : (⟨mode, text, names⟩ : Attempt).holdsAt pos anchor) :
    (⟨mode', text, names⟩ : Attempt).holdsAt pos anchor := by
  cases anchor with
  | start | stop =>
    simp only [Attempt.holdsAt, Bool.or_eq_true, Bool.and_eq_true] at hat ⊢
    exact hat.imp_right (And.imp_left h.multiline)
  | wordBoundary | nonWordBoundary => exact hat

end Mode.Widens

namespace Element

def isNegatedClass : Element → Bool
  | bracket _ negate _ => negate
  | _ => false

/-- What lets an element accept in a wider mode all that it accepts. -/
structure Widening (mode mode' : Mode) (e : Element) : Prop where
  look : e.isLook = false
  dotFree : e.DotFree
  dotPositive : e.DotPositive
  negated : e.isNegatedClass → mode'.ignoreCase = mode.ignoreCase

end Element

section
variable {mode mode' : Mode} (text : Array Char) (names : List (Option String))

theorem Mode.Widens.inBracket (h : mode.Widens mode') {span : Span} {negate : Bool}
    {members : List ClassMember} (he : (Element.bracket span negate members).Widening mode mode')
    {c : Char} (hin : (⟨mode, text, names⟩ : Attempt).inBracket negate members c) :
    (⟨mode', text, names⟩ : Attempt).inBracket negate members c := by
  have hitems := items mode mode' he.dotFree
  cases negate with
  | true =>
    rw [Attempt.inBracket, anyItem_eq (he.negated rfl) hitems]
    exact hin
  | false =>
    simp only [Attempt.inBracket, Bool.bne_false] at hin ⊢
    exact h.anyItem hitems hin

mutual

theorem Element.outcomes_widen (h : mode.Widens mode') (e : Element)
    (he : e.Throughout (Element.Widening mode mode')) :
    Covered true (e.outcomes ⟨mode, text, names⟩) (e.outcomes ⟨mode', text, names⟩) := by
  cases e with
  | char span value => exact .consume rfl fun _ => h.sameChar
  | set span s => exact .consume rfl fun _ => h.inSet (he.self.dotPositive s rfl)
  | bracket span negate members => exact .consume rfl fun _ => h.inBracket text names he.self
  | anchor span anchor => exact .anchor fun _ => h.holdsAt
  | backreference => exact .refer rfl rfl rfl fun _ _ => h.sameChar
  | group span capture branches =>
    have hbranches := branchesOutcomes_widen h branches he.held
    cases capture with
    | none => exact hbranches
    | some capture => exact hbranches.group capture.index
  | look => cases he.self.look
  | quantifier span min max greedy inner =>
    exact .quantifier rfl rfl (Element.outcomes_widen h inner (he.held inner List.mem_cons_self))

theorem Branch.outcomes_widen (h : mode.Widens mode') (b : Branch)
    (hb : ∀ e ∈ b.elements, e.Throughout (Element.Widening mode mode')) :
    Covered true (b.outcomes ⟨mode, text, names⟩) (b.outcomes ⟨mode', text, names⟩) := by
  cases b with
  | mk span elements => exact elementsOutcomes_widen h elements hb

theorem elementsOutcomes_widen (h : mode.Widens mode') (es : List Element)
    (hes : ∀ e ∈ es, e.Throughout (Element.Widening mode mode')) :
    Covered true (elementsOutcomes ⟨mode, text, names⟩ es)
      (elementsOutcomes ⟨mode', text, names⟩ es) := by
  cases es with
  | nil => exact .nothing
  | cons e es =>
    obtain ⟨he, hes⟩ := List.forall_mem_cons.mp hes
    exact (Element.outcomes_widen h e he).seq (elementsOutcomes_widen h es hes)

theorem branchesOutcomes_widen (h : mode.Widens mode') (bs : List Branch)
    (hbs : ∀ e ∈ bs.flatMap Branch.elements, e.Throughout (Element.Widening mode mode')) :
    Covered true (branchesOutcomes ⟨mode, text, names⟩ bs)
      (branchesOutcomes ⟨mode', text, names⟩ bs) := by
  cases bs with
  | nil => exact fun _ _ _ _ hq => nomatch hq
  | cons b bs =>
    rw [List.flatMap_cons, List.forall_mem_append] at hbs
    exact (Branch.outcomes_widen h b hbs.1).choice (branchesOutcomes_widen h bs hbs.2)

end
end

namespace PatternTree

variable {tree : PatternTree} {mode mode' : Mode} {text : Array Char}

theorem firstMatch_widen (h : mode.Widens mode')
    (he : ∀ e ∈ tree.pattern.elements, e.Widening mode mode') {start : Nat}
    (hmatch : (tree.firstMatch mode text start).isSome) :
    (tree.firstMatch mode' text start).isSome := by
  rw [firstMatch, Option.isSome_map] at hmatch ⊢
  have hbranches := branchesOutcomes_widen text tree.names h tree.pattern.branches
    (Pattern.forall_elements.mp he)
  exact hbranches.head?_isSome (.refl (.start start)) hmatch

theorem search_widen (h : mode.Widens mode')
    (he : ∀ e ∈ tree.pattern.elements, e.Widening mode mode') {start : Nat} {sticky : Bool}
    (hfound : (tree.search mode text start sticky).isSome) :
    (tree.search mode' text start sticky).isSome := by
  unfold search at hfound ⊢
  cases sticky with
  | true => exact firstMatch_widen h he hfound
  | false =>
    obtain ⟨pos, hpos, hmatch⟩ := List.findSome?_isSome_iff.mp hfound
    exact List.findSome?_isSome_iff.mpr ⟨pos, hpos, firstMatch_widen h he hmatch⟩

end PatternTree

theorem Regex.isMatch_eq_search {unicode : Bool} {tree : PatternTree} {r : Regex} {s : Subject}
    (hw : tree.WellFormed unicode) (hc : compile r.flags.multiline tree = .ok r.program)
    (hl : r.isMatch s ≠ .error .stepLimit) :
    r.isMatch s = .ok (tree.search r.mode s.chars 0 r.flags.sticky).isSome := by
  have hfrom : r.capturesFrom s 0 ≠ .error .stepLimit := by
    intro hlimit
    rw [isMatch, hlimit] at hl
    exact hl rfl
  rw [isMatch, capturesFrom_eq_search hw hc (Nat.zero_le _) hfrom]
  exact congrArg Except.ok Option.isSome_map

/-- The second flags have more of the three switches of a mode on, and are the same otherwise. -/
structure Flags.Widens (flags flags' : Flags) : Prop where
  global : flags'.global = flags.global
  unicode : flags'.unicode = flags.unicode
  sticky : flags'.sticky = flags.sticky
  ignoreCase : flags.ignoreCase → flags'.ignoreCase
  multiline : flags.multiline → flags'.multiline
  dotAll : flags.dotAll → flags'.dotAll

/-- With more flags no match is lost. In a pattern without lookarounds the switches for case, lines and
dots may be added, that for case only if the pattern has no negated class: the pattern is still
accepted, and it matches wherever it did, as long as it does not exceed its limit. -/
theorem isMatch_of_widens {source : String} {flags flags' : Flags} {tree : PatternTree} {r : Regex}
    (hf : flags.Widens flags') (hp : parse flags.unicode source.toList = .ok tree)
    (hlook : ∀ e ∈ tree.pattern.elements, e.isLook = false)
    (hcase : flags'.ignoreCase = flags.ignoreCase ∨
      ∀ e ∈ tree.pattern.elements, e.isNegatedClass = false)
    (hr : Regex.build source flags = .ok r) :
    ∃ r', Regex.build source flags' = .ok r' ∧ ∀ (limit limit' : Nat) (s : Subject),
      ({ r with stepLimit := limit } : Regex).isMatch s = .ok true →
      ({ r' with stepLimit := limit' } : Regex).isMatch s ≠ .error .stepLimit →
      ({ r' with stepLimit := limit' } : Regex).isMatch s = .ok true := by
  obtain ⟨tree', hp', hc⟩ := Regex.build_parses hr
  cases hp.symm.trans hp'
  obtain rfl := Regex.build_flags hr
  obtain ⟨n, hcheck, hle, -⟩ := compile_cases hc
  obtain ⟨program', hc'⟩ := compile_of_check flags'.multiline hcheck hle
  let r' : Regex := ⟨source, flags', tree.names, program', Regex.defaultStepLimit⟩
  have hw : tree.WellFormed r.flags.unicode := .of_parse hp
  have hmode : r.mode.Widens r'.mode := ⟨hf.ignoreCase, hf.multiline, hf.dotAll⟩
  have hdots := parse_elements (Dialect.grants_dots _) hp
  have he : ∀ e ∈ tree.pattern.elements, e.Widening r.mode r'.mode := fun e hmem =>
    ⟨hlook e hmem, (hdots e hmem).1, (hdots e hmem).2, fun hnegated =>
      hcase.resolve_right fun hnone => by rw [hnone e hmem] at hnegated; cases hnegated⟩
  refine ⟨r', r'.build_of_parse (hf.unicode ▸ hp) hc' rfl rfl, fun limit limit' s hmatch hl => ?_⟩
  have hfound : (tree.search r.mode s.chars 0 r.flags.sticky).isSome := by
    have hok := Regex.isMatch_eq_search (r := { r with stepLimit := limit }) hw hc
      (by rw [hmatch]; rintro ⟨⟩)
    exact Except.ok.inj (hok.symm.trans hmatch)
  rw [Regex.isMatch_eq_search (r := { r' with stepLimit := limit' }) (hf.unicode ▸ hw) hc' hl]
  refine congrArg Except.ok ?_
  show (tree.search r'.mode s.chars 0 flags'.sticky).isSome
  rw [hf.sticky]
  exact PatternTree.search_widen hmode he hfound

/-- All three switches are added to a pattern with a reference, a class and an anchor. -/
theorem isMatch_of_widens_all :
    ∃ tree r r', parse false "(a)\\1[b-d]$".toList = .ok tree ∧
      (∀ e ∈ tree.pattern.elements, e.isLook = false ∧ e.isNegatedClass = false) ∧
      Flags.allOff.Widens ⟨false, true, true, true, false, false⟩ ∧
      Regex.build "(a)\\1[b-d]$" .allOff = .ok r ∧
      Regex.build "(a)\\1[b-d]$" ⟨false, true, true, true, false, false⟩ = .ok r' ∧
      r.isMatch (.ofChars ['x', 'a', 'a', 'b']) = .ok true ∧
      r'.isMatch (.ofChars ['x', 'a', 'a', 'b']) = .ok true := by
  have hparts : ((parse false "(a)\\1[b-d]$".toList).toOption.map fun tree =>
      tree.pattern.elements.all fun e => e.isLook = false ∧ e.isNegatedClass = false) = some true := by
    decide +kernel
  have h : (Regex.build "(a)\\1[b-d]$" .allOff).toOption.map
      (·.isMatch (.ofChars ['x', 'a', 'a', 'b'])) = some (.ok true) := by decide +kernel
  have h' : (Regex.build "(a)\\1[b-d]$" ⟨false, true, true, true, false, false⟩).toOption.map
      (fun r => decide (r.isMatch (.ofChars ['x', 'a', 'a', 'b']) = .error .stepLimit)) =
        some false := by decide +kernel
  obtain ⟨tree, hp, hall⟩ := ok_of_toOption_map hparts
  obtain ⟨r, hr, hmatch⟩ := ok_of_toOption_map h
  have hall := fun e he => of_decide_eq_true (List.all_eq_true.mp hall e he)
  have hwidens : Flags.allOff.Widens ⟨false, true, true, true, false, false⟩ :=
    ⟨rfl, rfl, rfl, fun _ => rfl, fun _ => rfl, fun _ => rfl⟩
  obtain ⟨r', hr', hwide⟩ := isMatch_of_widens hwidens hp (fun e he => (hall e he).1)
    (.inr fun e he => (hall e he).2) hr
  rw [hr'] at h'
  have hlimit := of_decide_eq_false (Option.some.inj h')
  exact ⟨tree, r, r', hp, hall, hwidens, hr, hr', hmatch,
    hwide r.stepLimit r'.stepLimit _ hmatch hlimit⟩

end RegexInsight
