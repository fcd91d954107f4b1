import RegexInsight.Proofs.Enumeration
import RegexInsight.Proofs.SearchAnswers
import RegexInsight.Proofs.Steps
import RegexInsight.Proofs.Tiling

/-! Unicode mode is strict. It reads a property, a code point in braces and a reference by name where
lenient reading may see plain letters; apart from these it turns down what lenient reading lets pass, and
reads all else in the same way. So a source that has none of the first two, and is accepted in unicode
mode, is accepted without it and read as the same tree. A reference by name has a group to refer to, and
with a named group in the source lenient reading sees the reference too. -/
namespace RegexInsight

/-- The text has none of the escapes that mean something else in unicode mode. -/
structure ModeFree (source : List Char) : Prop where
  property : ¬ ['\\', 'p'] <:+: source
  negated : ¬ ['\\', 'P'] <:+: source
  braced : ¬ ['\\', 'u', '\x7b'] <:+: source

theorem choice_of_else {α : Type} {p : Prop} [Decidable p] {x y z answer : α}
    (h : (if p then x else y) = answer) (helse : ¬ p → y = answer → z = answer) :
    (if p then x else z) = answer := by
  by_cases hp : p
  · rwa [if_pos hp] at h ⊢
  · rw [if_neg hp] at h ⊢
    exact helse hp h

namespace Cursor

variable {source : List Char} {c after : Cursor}

theorem Within.suffix (h : c.Within source) : c.rest <:+ source := by
  obtain ⟨text, hread⟩ := h
  exact ⟨text, hread.rest.symm⟩

/-- An escape in such a text. -/
structure Escapes (c : Cursor) : Prop where
  property : c.next.peek? ≠ some 'p'
  negated : c.next.peek? ≠ some 'P'
  braced : c.next.peek? = some 'u' → c.next.next.peek? ≠ some '\x7b'

theorem Within.escapes (h : c.Within source) (hs : ModeFree source) (hx : c.peek? = some '\\') :
    c.Escapes := by
  have hrest := rest_of_peek? hx
  have hpart : ∀ {y : Char}, c.next.peek? = some y → ['\\', y] <:+: source := by
    intro y hy
    refine List.IsInfix.trans ?_ h.suffix.isInfix
    rw [hrest, rest_of_peek? hy]
    exact ⟨[], _, rfl⟩
  refine ⟨fun hy => hs.property (hpart hy), fun hy => hs.negated (hpart hy), fun hy hz => ?_⟩
  refine hs.braced (List.IsInfix.trans ?_ h.suffix.isInfix)
  rw [hrest, rest_of_peek? hy, rest_of_peek? hz]
  exact ⟨[], _, rfl⟩

theorem codePoint_lenient {start : Nat} {found : Char × Cursor} (hc : c.peek? ≠ some '\x7b')
    (h : c.codePoint true start = .ok found) : c.codePoint false start = .ok found := by
  unfold codePoint at h ⊢
  rw [if_neg (by simpa using hc)] at h
  rw [if_neg (by simp)]
  split at h
  · exact h
  · cases h

theorem isDigit_of_octalValue? {x : Char} (h : (octalValue? x).isSome) : x.isDigit := by
  unfold octalValue? at h
  split at h
  · rename_i hx
    simp only [Bool.and_eq_true, decide_eq_true_eq, Char.le_def, UInt32.le_iff_toNat_le] at hx
    simp only [Char.isDigit, Bool.and_eq_true, decide_eq_true_eq, UInt32.le_iff_toNat_le,
      ge_iff_le]
    exact ⟨hx.1, Nat.le_trans hx.2 (by decide)⟩
  · cases h

/-- Of the escaped digits unicode mode knows the zero alone. -/
theorem escapedChar_digit {start : Nat} {inClass : Bool} {x : Char} (hx : c.peek? = some x)
    (hd : x.isDigit) : c.escapedChar true start inClass =
      if x == '0' && !c.next.peek?.any Char.isDigit then .ok ('\x00', c.next)
      else .error ⟨.invalidEscape, start⟩ := by
  have hdash : x ≠ '-' := by
    rintro rfl
    cases hd
  have hescapable : isEscapable x = false := by
    rw [Bool.eq_false_iff]
    intro h
    have hmem := List.contains_iff_mem.mp h
    simp only [List.mem_cons, List.not_mem_nil, or_false] at hmem
    rcases hmem with rfl | rfl | rfl | rfl | rfl | rfl | rfl | rfl | rfl | rfl | rfl | rfl | rfl |
      rfl | rfl <;> cases hd
  unfold escapedChar
  rw [hx]
  dsimp only
  split
  iterate 8 · cases hd
  · simp [hdash, hescapable]

theorem escapedChar_nonzero {start : Nat} {inClass : Bool} {x : Char} {found : Char × Cursor}
    (hx : c.peek? = some x) (hd : '1' ≤ x && x ≤ '9') :
    c.escapedChar true start inClass ≠ .ok found := by
  rw [escapedChar_digit hx (isDigit_of_nonzero hd), if_neg]
  · rintro ⟨⟩
  · intro hzero
    obtain rfl : x = '0' := by simp_all
    cases hd

theorem escapedChar_lenient {start : Nat} {inClass : Bool} {found : Char × Cursor}
    (hc : c.peek? = some 'u' → c.next.peek? ≠ some '\x7b')
    (h : c.escapedChar true start inClass = .ok found) :
    c.escapedChar false start inClass = .ok found := by
  cases hx : c.peek? with
  | none =>
    rw [escapedChar, hx] at h
    cases h
  | some x =>
    by_cases hd : x.isDigit
    · rw [escapedChar_digit hx hd] at h
      split at h
      · rename_i hzero
        obtain rfl : x = '0' := by simp_all
        rw [escapedChar, hx]
        dsimp only
        rw [if_pos hzero]
        exact h
      · cases h
    · have hoctal : octalValue? x = none := by
        rw [← Option.not_isSome_iff_eq_none]
        exact fun h => hd (isDigit_of_octalValue? h)
      rw [escapedChar, hx] at h ⊢
      dsimp only at h ⊢
      split at h
      iterate 5 · exact h
      · cases hletter : c.next.peek? with
        | none => simp [hletter] at h
        | some letter =>
          by_cases halpha : letter.isAlpha
          · simpa [hletter, halpha] using h
          · simp [hletter, halpha] at h
      · split at h
        · exact h
        · cases h
      · exact codePoint_lenient (hc hx) h
      · simp only [hoctal, Option.isSome_none, Bool.and_false, Bool.false_eq_true, if_false] at h ⊢
        refine choice_of_else h fun _ h => choice_of_else h fun _ h => choice_of_else h fun _ h => ?_
        cases h

theorem classAtom_lenient (hc : c.Within source) (hs : ModeFree source) {m : ClassMember}
    (h : c.classAtom true = .ok (m, after)) : c.classAtom false = .ok (m, after) := by
  unfold classAtom at h ⊢
  split at h
  · cases h
  · rename_i x hx
    refine choice_of_else h fun hslash h => ?_
    have hescape : c.Escapes := hc.escapes hs (by simp_all)
    split at h
    · cases h
    · rename_i y hy
      split at h
      · exact h
      · have hproperty : (y == 'p' || y == 'P') = false := by
          simpa [hy] using And.intro hescape.property hescape.negated
        simp only [hproperty, Bool.and_false, Bool.false_eq_true, if_false] at h ⊢
        refine choice_of_else h fun _ h => ?_
        rw [if_neg (by simp)] at h
        split at h
        · cases h
        · rename_i found hfound
          rw [if_neg fun hd => escapedChar_nonzero hy (by simpa using hd) hfound,
            escapedChar_lenient hescape.braced hfound]
          exact h

theorem classItem_lenient (hc : c.Within source) (hs : ModeFree source) {ms : List ClassMember}
    (h : c.classItem true = .ok (ms, after)) : c.classItem false = .ok (ms, after) := by
  unfold classItem at h ⊢
  split at h
  · cases h
  · rename_i first dash hfirst
    have hd : dash.Within source := hc.reaches (classAtom_reaches hfirst).1
    rw [classAtom_lenient hc hs hfirst]
    dsimp only
    refine choice_of_else h fun _ h => ?_
    split at h
    · cases h
    · rename_i second next hsecond
      rw [classAtom_lenient (hd.reaches (next_reaches dash)) hs hsecond]
      dsimp only
      split at h
      · exact h
      · cases h

theorem classMembers_lenient (hc : c.Within source) (hs : ModeFree source)
    {found ms : List ClassMember} (h : c.classMembers true found = .ok (ms, after)) :
    c.classMembers false found = .ok (ms, after) := by
  fun_induction classMembers true found c with
  | case1 => cases h
  | case2 found c hclose => rwa [classMembers_close found hclose]
  | case3 => cases h
  | case4 found c x hne hx item next hi ih =>
    rw [classMembers_item found hx hne (classItem_lenient hc hs hi)]
    exact ih (hc.reaches (classItem_placed hc hi).1) h

theorem bracket_lenient (hc : c.Within source) (hs : ModeFree source) {e : Element}
    (h : c.bracket true = .ok (e, after)) : c.bracket false = .ok (e, after) := by
  have hinside : ((c.next.eat? '^').getD c.next).Within source := by
    refine hc.reaches ((next_reaches c).trans ?_)
    cases he : c.next.eat? '^' with
    | none => exact .refl _
    | some inside => exact eat?_reaches he
  unfold bracket at h ⊢
  dsimp only at h ⊢
  split at h
  · cases h
  · rename_i hmembers
    rw [classMembers_lenient hinside hs hmembers]
    exact h

theorem bounds_lenient {found : Option ((Nat × Option Nat) × Cursor)}
    (h : c.bounds true = .ok found) : c.bounds false = .ok found := by
  unfold bounds at h ⊢
  split at h
  iterate 3 · exact h
  · split at h
    · exact h
    · cases h
  · exact h

end Cursor

theorem Element.withQuantifier_lenient {atom e : Element} {c after : Cursor}
    (h : atom.withQuantifier true c = .ok (e, after)) :
    atom.withQuantifier false c = .ok (e, after) := by
  unfold withQuantifier at h ⊢
  split at h
  · cases h
  · rename_i hb
    rw [Cursor.bounds_lenient hb]
    exact h
  · rename_i min max afterBounds hb
    rw [Cursor.bounds_lenient hb]
    dsimp only at h ⊢
    split at h
    · cases h
    · rename_i hq
      have hlenient : atom.isQuantifiable false := by
        cases atom <;> simp_all [isQuantifiable]
      simpa [hlenient] using h

/-- Whether the element is a reference by name. -/
def Element.isNamed : Element → Bool
  | backreference _ (.name _) => true
  | _ => false

namespace Cursor

variable {source : List Char} {c after : Cursor} {groups : GroupCount}

/-- Lenient reading sees a reference by name only if the source has a named group. -/
theorem escapeAtom_lenient (hc : c.Within source) (hs : ModeFree source)
    (hx : c.peek? = some '\\') {e : Element} (hn : e.isNamed → groups.named)
    (h : c.escapeAtom ⟨true, groups⟩ = .ok (e, after)) :
    c.escapeAtom ⟨false, groups⟩ = .ok (e, after) := by
  have hescape := hc.escapes hs hx
  unfold escapeAtom at h ⊢
  dsimp only at h ⊢
  split at h
  · cases h
  · rename_i x hy
    split at h
    · exact h
    · refine choice_of_else h fun _ h => choice_of_else h fun _ h => ?_
      have hproperty : (x == 'p' || x == 'P') = false := by
        simpa [hy] using And.intro hescape.property hescape.negated
      simp only [hproperty, Bool.and_false, Bool.false_eq_true, if_false, Bool.true_or,
        Bool.false_or, Bool.and_true] at h ⊢
      split at h
      · rename_i hk
        split at h
        · cases h
        · rename_i inside hinside
          split at h <;> cases h
          rw [if_pos (by simp [hk, hn rfl])]
      · rename_i hk
        rw [if_neg (by simp [hk])]
        split at h
        · rename_i hd
          rw [if_pos hd]
          split at h
          · refine choice_of_else h fun _ h => ?_
            cases h
          · exact h
        · rename_i hd
          rw [if_neg hd]
          split at h
          · cases h
          · rename_i hfound
            rw [escapedChar_lenient hescape.braced hfound]
            exact h

theorem atom_lenient (hc : c.Within source) (hs : ModeFree source) {x : Char}
    (hx : c.peek? = some x) {e : Element} (hn : e.isNamed → groups.named)
    (h : c.atom ⟨true, groups⟩ x = .ok (e, after)) : c.atom ⟨false, groups⟩ x = .ok (e, after) := by
  unfold atom at h ⊢
  dsimp only at h ⊢
  split at h
  · exact bracket_lenient hc hs h
  · exact escapeAtom_lenient hc hs hx hn h
  iterate 6 · exact h
  · split at h <;> cases h
  iterate 2 · cases h
  · exact h

end Cursor
namespace Reading

variable {source : List Char} {groups : GroupCount} {d : Dialect} {x : Char} {r s t : Reading}

theorem addTerm_references {atom : Element} {c : Cursor} {outer : Level}
    (h : addTerm d atom c outer r = .ok s) : s.references = r.references := by
  unfold addTerm at h
  split at h <;> cases h
  rfl

/-- A step keeps the references that were seen. Another one is seen if its atom is one. -/
theorem step_references (h : r.step d x = .ok s) : s.references = r.references ∨
    ∃ span name after, r.cursor.atom d x = .ok (.backreference span (.name name), after) ∧
      s.references = (name, r.cursor.offset) :: r.references := by
  unfold step at h
  split at h
  · cases h
    exact .inl rfl
  · unfold closeGroup at h
    split at h
    · cases h
    · have hsame := addTerm_references h
      exact .inl hsame
  · unfold openGroup at h
    split at h
    · cases h
    · dsimp only at h
      split at h
      · split at h <;> cases h
        exact .inl rfl
      · cases h
        exact .inl rfl
  · split at h
    · cases h
    · rename_i atom after hatom
      rw [addTerm_references h]
      unfold noteReference
      split
      · exact .inr ⟨_, _, after, hatom, rfl⟩
      · exact .inl rfl

theorem Steps.references (h : Steps d r s) : r.references <:+ s.references := by
  induction h with
  | refl => exact List.suffix_rfl
  | step _ hstep _ ih =>
    refine List.IsSuffix.trans ?_ ih
    obtain hsame | ⟨_, _, _, -, hmore⟩ := step_references hstep
    · exact hsame ▸ List.suffix_rfl
    · exact hmore ▸ List.suffix_cons _ _

theorem addTerm_lenient {atom : Element} {c : Cursor} {outer : Level}
    (h : addTerm ⟨true, groups⟩ atom c outer r = .ok s) :
    addTerm ⟨false, groups⟩ atom c outer r = .ok s := by
  unfold addTerm at h ⊢
  split at h
  · cases h
  · rename_i hterm
    rw [Element.withQuantifier_lenient hterm]
    exact h

/-- What one step reads in unicode mode it reads without it, if the names that are referred to are seen
as such. -/
theorem step_lenient (hc : r.cursor.Within source) (hs : ModeFree source)
    (hx : r.cursor.peek? = some x) (hn : s.references ≠ [] → groups.named)
    (h : r.step ⟨true, groups⟩ x = .ok s) : r.step ⟨false, groups⟩ x = .ok s := by
  unfold step at h ⊢
  split at h
  · exact h
  · unfold closeGroup at h ⊢
    split at h
    · cases h
    · exact addTerm_lenient h
  · exact h
  · split at h
    · cases h
    · rename_i atom after hatom
      have hnamed : atom.isNamed → groups.named := by
        intro hreference
        refine hn ?_
        rw [addTerm_references h]
        unfold Element.isNamed at hreference
        split at hreference
        · exact List.cons_ne_nil _ _
        · cases hreference
      rw [Cursor.atom_lenient hc hs hx hnamed hatom]
      exact addTerm_lenient h

theorem Steps.lenient (h : Steps ⟨true, groups⟩ r t) (hr : r.Tiled source) (hs : ModeFree source)
    (hn : t.references ≠ [] → groups.named) : Steps ⟨false, groups⟩ r t := by
  induction h with
  | refl r => exact .refl r
  | @step r s t x hx hstep hrest ih =>
    have hseen : s.references ≠ [] → groups.named := fun hsome =>
      hn fun hnone => hsome (List.suffix_nil.mp (hnone ▸ hrest.references))
    exact .step hx (step_lenient hr.within hs hx hseen hstep) (ih (step_tiled hr hx hstep) hn)

/-- A name that is referred to is that of a group, which the count ahead has seen. -/
theorem finish_named {tree : PatternTree} (hr : r.Sound d) (hend : r.cursor.peek? = none)
    (h : r.finish = .ok tree) (href : r.references ≠ []) : d.groups.named := by
  have hcounted : r.counted = d.groups := by
    rw [← hr.counted, List.head?_eq_none_iff.mp hend]
    rfl
  unfold finish at h
  split at h
  · cases h
  · cases h
  · rename_i hknown
    obtain ⟨⟨name, offset⟩, rest, hcons⟩ := List.exists_cons_of_ne_nil href
    have hmem := List.find?_eq_none.mp hknown (name, offset) (by simp [hcons])
    rw [← hcounted, counted]
    refine Array.any_eq_true'.mpr ⟨some name, by simpa using hmem, rfl⟩

end Reading

/-- Of a source without the escapes that mean something else in unicode mode, all that unicode mode
accepts is accepted without it, and is read as the same tree. -/
theorem parse_lenient {source : List Char} (hs : ModeFree source) {tree : PatternTree}
    (h : parse true source = .ok tree) : parse false source = .ok tree := by
  obtain ⟨s, hsteps, hend, hfinish⟩ := Reading.run_eq_ok.mp h
  have hsound := hsteps.keeps Reading.step_sound (Reading.ofText_sound true source)
  refine Reading.run_eq_ok.mpr ⟨s, ?_, hend, hfinish⟩
  exact hsteps.lenient (Reading.ofText_tiled source) hs (Reading.finish_named hsound hend hfinish)

/-- Unicode mode restricts what is accepted and changes nothing else, as long as the source has none of
the escapes that mean something else in it. The tree is the same, and so are the program or the reason why
there is none. -/
theorem build_lenient {source : String} (hs : ModeFree source.toList) {tree : PatternTree}
    (h : parse true source.toList = .ok tree) :
    parse false source.toList = .ok tree ∧ ∀ flags : Flags,
      Regex.build source { flags with unicode := false } =
        (Regex.build source { flags with unicode := true }).map fun r =>
          { r with flags := { flags with unicode := false } } := by
  have hlenient := parse_lenient hs h
  refine ⟨hlenient, fun flags => ?_⟩
  rw [Regex.build, Regex.build, h, hlenient]
  dsimp only
  unfold Regex.ofTree
  dsimp only
  cases compile flags.multiline tree with
  | error e => cases e <;> rfl
  | ok program => rfl

/-- A reference by name ahead of its group, which holds a class of escapes. -/
theorem build_lenient_named :
    ∃ tree r r', ModeFree "\\k<y>(?<y>[\\b\\x41-\\u0042]{2,})\\0".toList ∧
      parse true "\\k<y>(?<y>[\\b\\x41-\\u0042]{2,})\\0".toList = .ok tree ∧
      parse false "\\k<y>(?<y>[\\b\\x41-\\u0042]{2,})\\0".toList = .ok tree ∧
      Regex.build "\\k<y>(?<y>[\\b\\x41-\\u0042]{2,})\\0" ⟨false, false, false, false, true, false⟩ =
        .ok r ∧
      Regex.build "\\k<y>(?<y>[\\b\\x41-\\u0042]{2,})\\0" .allOff = .ok r' ∧
      r'.program = r.program ∧ r'.names = [some "y"] := by
  have hs : ModeFree "\\k<y>(?<y>[\\b\\x41-\\u0042]{2,})\\0".toList :=
    ⟨by decide +kernel, by decide +kernel, by decide +kernel⟩
  have hb : (Regex.build "\\k<y>(?<y>[\\b\\x41-\\u0042]{2,})\\0"
      ⟨false, false, false, false, true, false⟩).toOption.map Regex.names = some [some "y"] := by
    decide +kernel
  obtain ⟨r, hr, hnames⟩ := ok_of_toOption_map hb
  obtain ⟨tree, hp, -⟩ := Regex.build_parses hr
  obtain ⟨hlenient, hbuild⟩ := build_lenient hs hp
  exact ⟨tree, r, { r with flags := .allOff }, hs, hp, hlenient, hr,
    (hbuild .allOff).trans (congrArg (Except.map _) hr), rfl, hnames⟩

end RegexInsight
