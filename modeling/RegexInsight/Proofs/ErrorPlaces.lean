import RegexInsight.Proofs.RewrittenRuns
import RegexInsight.Proofs.StrictReading
import RegexInsight.Proofs.TreeChecks

/-! Where errors are reported. Whatever a reader refuses, the place that it names is one of the source,
and what stands there is what the message is about. -/
namespace RegexInsight

/-- The cursor before character `offset` of a source. -/
def Cursor.ofOffset (source : List Char) (offset : Nat) : Cursor :=
  ⟨source.drop offset, offset, width (source.take offset)⟩

/-- What stands at a cursor where a fault is reported. -/
def ParseFault.PointsAt (source : List Char) (c : Cursor) : ParseFault → Prop
  | unmatchedParen => c.peek? = some ')'
  | nothingToRepeat => (∃ x ∈ ['*', '+', '?', '\x7b'], c.peek? = some x) ∧ c.atQuantifier
  | boundsOutOfOrder => c.peek? = some '\x7b' ∧
    ∃ min max after, c.braces? = some ((min, some max), after) ∧ max < min
  | incompleteQuantifier => c.peek? = some '\x7b' ∧ c.braces? = none
  | loneBracket => ∃ x ∈ ['\x7b', '\x7d', ']'], c.peek? = some x
  | invalidGroup => c.peek? = some '(' ∧ c.next.peek? = some '?'
  | duplicateName =>
    c.peek? = some '(' ∧ c.next.peek? = some '?' ∧ c.next.next.peek? = some '<'
  | unterminatedGroup | unterminatedClass => c.peek? = none
  | invalidGroupName => ∃ bracket : Cursor, bracket.Within source ∧ bracket.eat? '<' = some c
  | trailingBackslash => c.peek? = some '\\' ∧ c.next.peek? = none
  | invalidEscape => c.peek? = some '\\'
  | invalidNamedReference => c.peek? = some '\\' ∧ c.next.peek? = some 'k'
  | unknownName =>
    c.peek? = some '\\' ∧ c.next.peek? = some 'k' ∧ c.next.next.peek? = some '<'
  | invalidProperty => c.peek? = some '\\' ∧ ∃ x ∈ ['p', 'P'], c.next.peek? = some x ∧
    ∀ s after, c.next.next.property (x == 'P') c.offset = .ok (s, after) → ¬ s.Known
  | invalidControlEscape => c.peek? = some '\\' ∧ c.next.peek? = some 'c'
  | invalidUnicodeEscape =>
    (c.peek? = some '\\' ∧ c.next.peek? = some 'u') ∨ c.peek? = some '\x7b'
  | rangeOutOfOrder | invalidClass => c.peek? = some '-'

/-- The error is reported at a place of the source where its fault is. -/
def ParseError.Placed (source : List Char) (e : ParseError) : Prop :=
  ∃ c : Cursor, c.Within source ∧ c.offset = e.offset ∧ e.fault.PointsAt source c

namespace Cursor

variable {source : List Char} {unicode : Bool} {d : Dialect} {c after : Cursor} {e : ParseError}
  {x : Char}

theorem Within.eq_ofOffset (h : c.Within source) :
    c.offset ≤ source.length ∧ c = ofOffset source c.offset := by
  obtain ⟨before, hrest, hoffset, hbyte⟩ := h
  obtain ⟨rest, offset, byte⟩ := c
  simp only [ofText, Nat.zero_add] at hrest hoffset hbyte
  subst hrest hoffset hbyte
  simp [ofOffset]

theorem Within.next (h : c.Within source) : c.next.Within source := h.reaches c.next_reaches

theorem Within.offset_of_end (h : c.Within source) (hend : c.peek? = none) :
    c.offset = source.length := by
  obtain ⟨before, hrest, hoffset, -⟩ := h
  have hnil : c.rest = [] := by simpa [peek?] using hend
  simp only [ofText, Nat.zero_add, hnil, List.append_nil] at hrest hoffset
  rw [hoffset, hrest]

theorem Within.placed {fault : ParseFault} (h : c.Within source) (hp : fault.PointsAt source c) :
    (⟨fault, c.offset⟩ : ParseError).Placed source := ⟨c, h, rfl, hp⟩

theorem property_error (hc : c.Within source) (hslash : c.peek? = some '\\')
    (hx : c.next.peek? = some x) (hp : x ∈ ['p', 'P'])
    (h : c.next.next.property (x == 'P') c.offset = .error e) : e.Placed source := by
  have he : e = ⟨.invalidProperty, c.offset⟩ := by
    have hread := h
    unfold property at hread
    dsimp only at hread
    repeat' split at hread
    all_goals
      cases hread
      try rfl
  subst he
  refine hc.placed ⟨hslash, x, hp, hx, fun s after hread => ?_⟩
  cases h.symm.trans hread

theorem groupName_error (hc : c.Within source) {bracket : Cursor} (hb : bracket.Within source)
    (hlt : bracket.eat? '<' = some c) (h : c.groupName = .error e) : e.Placed source := by
  have he : e = ⟨.invalidGroupName, c.offset⟩ := by
    unfold groupName at h
    dsimp only at h
    split at h
    · split at h <;> cases h
      rfl
    · cases h
      rfl
  exact he ▸ hc.placed ⟨bracket, hb, hlt⟩

theorem codePoint_error {start : Nat} (h : c.codePoint unicode start = .error e) :
    e = ⟨.invalidUnicodeEscape, start⟩ ∨
      c.peek? = some '\x7b' ∧ e = ⟨.invalidUnicodeEscape, c.offset⟩ := by
  unfold codePoint at h
  split at h
  · rename_i hb
    refine .inr ⟨by simpa using (Bool.and_eq_true_iff.mp hb).2, ?_⟩
    unfold bracedCodePoint at h
    dsimp only at h
    repeat' split at h
    all_goals
      cases h
      try rfl
  · repeat' split at h
    all_goals
      cases h
      try exact .inl rfl

/-- An escape is refused at its backslash, or at the brace of its code point. -/
theorem escapedChar_error {inClass : Bool} (hc : c.Within source) (hslash : c.peek? = some '\\')
    (hx : c.next.peek? = some x) (h : c.next.escapedChar unicode c.offset inClass = .error e) :
    e.Placed source := by
  have hplain : (⟨.invalidEscape, c.offset⟩ : ParseError).Placed source := hc.placed hslash
  unfold escapedChar at h
  rw [hx] at h
  dsimp only at h
  split at h
  all_goals try cases h
  · have hcontrol : (⟨.invalidControlEscape, c.offset⟩ : ParseError).Placed source :=
      hc.placed ⟨hslash, hx⟩
    repeat' split at h
    all_goals
      cases h
      try exact hcontrol
  · split at h
    · cases h
    · split at h <;> cases h
      exact hplain
  · obtain rfl | ⟨hbrace, rfl⟩ := codePoint_error h
    · exact hc.placed (Or.inl ⟨hslash, hx⟩)
    · exact hc.next.next.placed (Or.inr hbrace)
  · repeat' split at h
    all_goals
      cases h
      try exact hplain

theorem classAtom_error (hc : c.Within source) (h : c.classAtom unicode = .error e) :
    e.Placed source := by
  unfold classAtom at h
  split at h
  · cases h
    exact hc.placed ‹_›
  · rename_i x hx
    split at h
    · cases h
    · rename_i hslash
      obtain rfl : x = '\\' := by simpa using hslash
      split at h
      · cases h
        exact hc.placed ⟨hx, ‹_›⟩
      · rename_i y hy
        split at h
        · cases h
        · split at h
          · rename_i hp
            split at h <;> cases h
            exact property_error hc hx hy (by simpa using (Bool.and_eq_true_iff.mp hp).2) ‹_›
          · split at h
            · cases h
            · split at h
              · cases h
              · split at h <;> cases h
                exact escapedChar_error hc hx hy ‹_›

theorem classItem_error (hc : c.Within source) (h : c.classItem unicode = .error e) :
    e.Placed source := by
  unfold classItem at h
  split at h
  · cases h
    exact classAtom_error hc ‹_›
  · rename_i first dash hfirst
    have hd : dash.Within source := hc.reaches (classAtom_reaches hfirst).1
    split at h
    · cases h
    · rename_i hdash
      have hminus : dash.peek? = some '-' := by simp_all [atRangeDash]
      split at h
      · cases h
        exact classAtom_error hd.next ‹_›
      · split at h <;> split at h <;> cases h
        · exact hd.placed hminus
        · exact hd.placed hminus

theorem classMembers_error {found : List ClassMember} (hc : c.Within source)
    (h : c.classMembers unicode found = .error e) : e.Placed source := by
  fun_induction classMembers unicode found c with
  | case1 found c hx =>
    cases h
    exact hc.placed hx
  | case2 => cases h
  | case3 found c x hne hx e' he =>
    cases h
    exact classItem_error hc he
  | case4 found c x hne hx item next hi ih => exact ih (hc.reaches (classItem_placed hc hi).1) h

theorem bracket_error (hc : c.Within source) (h : c.bracket unicode = .error e) :
    e.Placed source := by
  unfold bracket at h
  dsimp only at h
  split at h <;> cases h
  exact classMembers_error (hc.next.reaches ⟨_, c.next.eat?_getD_reads '^'⟩) ‹_›

theorem escapeAtom_error (hc : c.Within source) (hslash : c.peek? = some '\\')
    (h : c.escapeAtom d = .error e) : e.Placed source := by
  unfold escapeAtom at h
  dsimp only at h
  split at h
  · cases h
    exact hc.placed ⟨hslash, ‹_›⟩
  · rename_i x hx
    split at h
    · cases h
    split at h
    · cases h
    split at h
    · cases h
    split at h
    · rename_i hk
      obtain rfl : x = 'k' := by simpa using (Bool.and_eq_true_iff.mp hk).1
      split at h
      · cases h
        exact hc.placed ⟨hslash, hx⟩
      · rename_i inside hi
        split at h <;> cases h
        exact groupName_error (hc.next.next.reaches ⟨_, eat?_reads hi⟩) hc.next.next hi ‹_›
    split at h
    · rename_i hp
      split at h <;> cases h
      exact property_error hc hslash hx (by simpa using (Bool.and_eq_true_iff.mp hp).2) ‹_›
    split at h
    · repeat' split at h
      all_goals
        cases h
        try exact hc.placed hslash
    · split at h <;> cases h
      exact escapedChar_error hc hslash hx ‹_›

theorem atom_error (hc : c.Within source) (hx : c.peek? = some x) (h : c.atom d x = .error e) :
    e.Placed source := by
  unfold atom at h
  dsimp only at h
  split at h
  · exact bracket_error hc h
  · exact escapeAtom_error hc hx h
  iterate 3 · cases h
  iterate 3
    cases h
    exact hc.placed ⟨⟨_, by simp, hx⟩, by simp [atQuantifier, hx]⟩
  · split at h
    · rename_i hb
      cases h
      exact hc.placed ⟨⟨_, by simp, hx⟩, by rw [atQuantifier, hx]; exact hb⟩
    · split at h <;> cases h
      exact hc.placed ⟨_, by simp, hx⟩
  iterate 2
    split at h <;> cases h
    exact hc.placed ⟨_, by simp, hx⟩
  · cases h

theorem opening_error {count : Nat} (hc : c.Within source) (hopen : c.peek? = some '(')
    (h : c.opening count = .error e) : e.Placed source := by
  unfold opening at h
  split at h
  · cases h
  · rename_i mark hm
    obtain ⟨hmark, rfl⟩ := peek?_of_eat? hm
    have hinvalid : (⟨.invalidGroup, c.offset⟩ : ParseError).Placed source :=
      hc.placed ⟨hopen, hmark⟩
    dsimp only at h
    split at h
    iterate 3 · cases h
    · rename_i hlt
      split at h
      iterate 2 · cases h
      · split at h <;> cases h
        exact groupName_error hc.next.next.next hc.next.next (if_pos hlt) ‹_›
    · cases h
      exact hinvalid

theorem bounds_error (hc : c.Within source) (h : c.bounds unicode = .error e) : e.Placed source := by
  unfold bounds at h
  split at h
  iterate 3 · cases h
  · rename_i hbrace
    split at h
    · rename_i min max after hb
      split at h <;> cases h
      rename_i hlt
      obtain ⟨m, rfl, hm⟩ := (Option.any_eq_true ..).mp hlt
      exact hc.placed ⟨hbrace, min, m, after, hb, by simpa using hm⟩
    · rename_i hb
      split at h <;> cases h
      exact hc.placed ⟨hbrace, hb⟩
  · cases h

theorem atQuantifier_peek? (h : c.atQuantifier) :
    ∃ x ∈ ['*', '+', '?', '\x7b'], c.peek? = some x := by
  unfold atQuantifier at h
  split at h
  · exact ⟨'*', by simp, ‹_›⟩
  · exact ⟨'+', by simp, ‹_›⟩
  · exact ⟨'?', by simp, ‹_›⟩
  · exact ⟨'\x7b', by simp, ‹_›⟩
  · cases h

theorem bounds_atQuantifier {found : (Nat × Option Nat) × Cursor}
    (h : c.bounds unicode = .ok (some found)) : c.atQuantifier := by
  unfold bounds at h
  unfold atQuantifier
  split at h
  iterate 3 · rfl
  · split at h
    · rename_i hb
      rw [hb]
      rfl
    · split at h <;> cases h
  · cases h

end Cursor

theorem Element.withQuantifier_error {source : List Char} {unicode : Bool} {atom : Element}
    {c : Cursor} {e : ParseError} (hc : c.Within source)
    (h : atom.withQuantifier unicode c = .error e) : e.Placed source := by
  unfold Element.withQuantifier at h
  split at h
  · cases h
    exact Cursor.bounds_error hc ‹_›
  · cases h
  · rename_i min max afterBounds hb
    obtain ⟨text, -, hreads⟩ := Cursor.bounds_reads hb
    have hrepeat : ∀ {c : Cursor}, c.Within source → c.atQuantifier →
        (⟨.nothingToRepeat, c.offset⟩ : ParseError).Placed source :=
      fun hc hq => hc.placed ⟨Cursor.atQuantifier_peek? hq, hq⟩
    dsimp only at h
    split at h
    · cases h
      exact hrepeat hc (Cursor.bounds_atQuantifier hb)
    · split at h <;> cases h
      rename_i hq
      exact hrepeat ((hc.reaches ⟨_, hreads⟩).reaches ⟨_, afterBounds.eat?_getD_reads '?'⟩) hq

theorem Cursor.atom_name {d : Dialect} {c after : Cursor} {x : Char} {span : Span} {name : String}
    (h : c.atom d x = .ok (.backreference span (.name name), after)) :
    x = '\\' ∧ c.next.peek? = some 'k' ∧ c.next.next.peek? = some '<' := by
  unfold atom at h
  dsimp only at h
  split at h
  · unfold bracket at h
    dsimp only at h
    split at h <;> cases h
  · obtain ⟨y, hy, hread⟩ := escapeAtom_read h
    cases hread with
    | name hk _ hi _ => exact ⟨rfl, hk ▸ hy, (peek?_of_eat? hi).1⟩
  all_goals
    repeat' split at h
    all_goals cases h

namespace Reading

variable {source : List Char} {d : Dialect} {x : Char} {r s : Reading} {e : ParseError}

theorem addTerm_error {atom : Element} {c : Cursor} {outer : Level} (hc : c.Within source)
    (h : addTerm d atom c outer r = .error e) : e.Placed source := by
  unfold addTerm at h
  split at h <;> cases h
  exact Element.withQuantifier_error hc ‹_›

theorem openGroup_error (hw : r.cursor.Within source) (hx : r.cursor.peek? = some '(')
    (h : r.openGroup = .error e) : e.Placed source := by
  unfold openGroup at h
  split at h
  · cases h
    exact Cursor.opening_error hw hx ‹_›
  · rename_i shell inside ho
    dsimp only at h
    split at h
    · rename_i capture
      split at h <;> cases h
      rename_i hname
      obtain ⟨index, name⟩ := capture
      obtain ⟨name, rfl⟩ := Option.isSome_iff_exists.mp (Bool.and_eq_true_iff.mp hname).1
      obtain ⟨-, hmark⟩ := (Cursor.opening_reads hx ho).cons
      exact hw.placed ⟨hx, hmark.cons.1, hmark.cons.2.cons.1⟩
    · cases h

theorem step_error (hw : r.cursor.Within source) (hx : r.cursor.peek? = some x)
    (h : r.step d x = .error e) : e.Placed source := by
  unfold step at h
  split at h
  · cases h
  · unfold closeGroup at h
    split at h
    · cases h
      exact hw.placed hx
    · exact addTerm_error hw.next h
  · exact openGroup_error hw hx h
  · split at h
    · cases h
      exact Cursor.atom_error hw hx ‹_›
    · rename_i ha
      exact addTerm_error (hw.reaches (Cursor.atom_sits hw hx ha).1) h

/-- Every reference that was seen is kept with the place of its escape. -/
def Referring (source : List Char) (r : Reading) : Prop :=
  ∀ ref ∈ r.references, (⟨.unknownName, ref.2⟩ : ParseError).Placed source

theorem step_referring (hw : r.cursor.Within source) (hx : r.cursor.peek? = some x)
    (h : r.step d x = .ok s) (hr : r.Referring source) : s.Referring source := by
  unfold Referring
  obtain hsame | ⟨span, name, after, hatom, hmore⟩ := step_references h
  · rw [hsame]
    exact hr
  · obtain ⟨rfl, hk, hlt⟩ := Cursor.atom_name hatom
    rw [hmore]
    exact List.forall_mem_cons.mpr ⟨hw.placed ⟨hx, hk, hlt⟩, hr⟩

theorem finish_error (hw : r.cursor.Within source) (hend : r.cursor.peek? = none)
    (hr : r.Referring source) (h : r.finish = .error e) : e.Placed source := by
  unfold finish at h
  split at h
  · cases h
    exact hw.placed hend
  · rename_i hunknown
    cases h
    exact hr _ (List.mem_reverse.mp (List.mem_of_find?_eq_some hunknown))
  · cases h

end Reading

theorem parse_error {unicode : Bool} {source : List Char} {e : ParseError}
    (h : parse unicode source = .error e) : e.Placed source := by
  obtain ⟨s, hs, herror⟩ := Reading.run_eq_error.mp h
  obtain ⟨hw, hr⟩ := hs.keeps_within Reading.step_referring (.refl _)
    (by simp [Reading.Referring, Reading.ofText])
  rcases herror with ⟨x, hx, hstep⟩ | ⟨hend, hfinish⟩
  · exact Reading.step_error hw hx hstep
  · exact Reading.finish_error hw hend hr hfinish

end RegexInsight
