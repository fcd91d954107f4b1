import RegexInsight.Proofs.GroupScan
import RegexInsight.Proofs.Relocation
import RegexInsight.Proofs.Steps

/-! Reading a pattern inside a group. A reader that accepts what stands before the end of a text
accepts it before a closing bracket as well, and what it has read differs in its places only. Step by
step the pattern is so read in the group as it is read alone, with one more open group below. -/
namespace RegexInsight

/-- The text in a group that captures nothing. -/
def enclose (source : List Char) : List Char := ['(', '?', ':'] ++ source ++ [')']

/-- The place of a span of a text in the group around the text. -/
def Span.enclosed (span : Span) : Span := ⟨span.start + 3, span.stop + 3⟩

namespace Cursor

/-- The same place in the text with a group around it. -/
def enclosed (c : Cursor) : Cursor := ⟨c.rest ++ [')'], c.offset + 3, c.byte + 3⟩

/-- What was read, with the place behind it. -/
def encloseRest {α : Type} (found : α × Cursor) : α × Cursor := (found.1, found.2.enclosed)

variable {c after : Cursor} {x : Char}

theorem enclosed_peek? (c : Cursor) : c.enclosed.peek? = some (c.peek?.getD ')') := by
  obtain ⟨rest, _, _⟩ := c
  cases rest <;> rfl

theorem enclosed_peek?_of (h : c.peek? = some x) : c.enclosed.peek? = some x := by
  rw [enclosed_peek?, h, Option.getD_some]

theorem enclosed_next (h : c.peek? = some x) : c.enclosed.next = c.next.enclosed := by
  obtain ⟨rest, _, _⟩ := c
  cases rest with
  | nil => cases h
  | cons y rest => simp [enclosed, next, Nat.add_right_comm]

theorem enclosed_eat? (hx : x ≠ ')') (c : Cursor) :
    c.enclosed.eat? x = (c.eat? x).map enclosed := by
  unfold eat?
  rw [enclosed_peek?]
  cases hc : c.peek? with
  | none => simp [Ne.symm hx]
  | some y =>
    rw [enclosed_next hc]
    by_cases hy : y = x <;> simp [hy]

theorem enclosed_spanWhile {p : Char → Bool} (hp : p ')' = false) (c : Cursor) :
    c.enclosed.spanWhile p = ((c.spanWhile p).1, (c.spanWhile p).2.enclosed) := by
  have htake : (c.rest ++ [')']).takeWhile p = c.rest.takeWhile p ∧
      (c.rest ++ [')']).dropWhile p = c.rest.dropWhile p ++ [')'] := by
    induction c.rest with
    | nil => simp [hp]
    | cons x rest ih =>
      by_cases hx : p x
      · simpa [hx] using ih
      · simp [hx]
  simp only [spanWhile, enclosed, htake, Nat.add_right_comm]

theorem enclosed_number? (c : Cursor) :
    c.enclosed.number? = c.number?.map encloseRest := by
  unfold number?
  rw [enclosed_spanWhile rfl]
  dsimp only
  split <;> rfl

theorem enclosed_upperBound (min : Nat) (c : Cursor) :
    c.enclosed.upperBound min = encloseRest (c.upperBound min) := by
  unfold upperBound
  rw [enclosed_eat? (by decide)]
  cases c.eat? ',' with
  | none => rfl
  | some afterComma =>
    simp only [Option.map_some, enclosed_number?]
    cases afterComma.number? <;> rfl

theorem enclosed_braces? (c : Cursor) :
    c.enclosed.braces? = c.braces?.map encloseRest := by
  unfold braces?
  rw [enclosed_eat? (by decide)]
  cases c.eat? '\x7b' with
  | none => rfl
  | some inside =>
    simp only [Option.map_some, enclosed_number?]
    cases inside.number? with
    | none => rfl
    | some found =>
      simp only [Option.map_some, encloseRest, enclosed_upperBound,
        enclosed_eat? (x := '\x7d') (by decide)]
      cases (found.2.upperBound found.1).2.eat? '\x7d' <;> rfl

theorem enclosed_atQuantifier (c : Cursor) : c.enclosed.atQuantifier = c.atQuantifier := by
  unfold atQuantifier
  rw [enclosed_peek?, enclosed_braces?, Option.isSome_map]
  cases c.peek? <;> rfl

theorem enclosed_bounds {unicode : Bool} {found : Option ((Nat × Option Nat) × Cursor)}
    (h : c.bounds unicode = .ok found) :
    c.enclosed.bounds unicode = .ok (found.map encloseRest) := by
  unfold bounds at h ⊢
  rw [enclosed_peek?, enclosed_braces?]
  cases hc : c.peek? with
  | none =>
    rw [hc] at h
    cases h
    rfl
  | some x =>
    rw [hc] at h
    rw [Option.getD_some, enclosed_next hc]
    split at h
    iterate 3
      rename_i hx
      cases hx
      cases h
      rfl
    · rename_i hx
      cases hx
      split at h
      · rename_i hb
        rw [hb]
        split at h <;> cases h
        rename_i hle
        simp [encloseRest, hle]
      · rename_i hb
        rw [hb]
        split at h <;> cases h
        rename_i hu
        simp [hu]
    · cases h
      rfl

theorem enclosed_hexDigits? (count value : Nat) (c : Cursor) :
    hexDigits? count value c.enclosed = (hexDigits? count value c).map encloseRest := by
  induction count generalizing value c with
  | zero => rfl
  | succ count ih =>
    simp only [hexDigits?, enclosed_peek?]
    cases hc : c.peek? with
    | none => rfl
    | some x =>
      simp only [Option.getD_some, Option.bind_eq_bind, Option.bind_some, enclosed_next hc, ih]
      cases hexValue? x <;> rfl

theorem enclosed_octalDigits (count value : Nat) (c : Cursor) :
    octalDigits count value c.enclosed = encloseRest (octalDigits count value c) := by
  induction count generalizing value c with
  | zero => rfl
  | succ count ih =>
    unfold octalDigits
    rw [enclosed_peek?]
    cases hc : c.peek? with
    | none => rfl
    | some x =>
      simp only [Option.getD_some, Option.bind_some, enclosed_next hc, ih]
      cases octalValue? x with
      | none => rfl
      | some d =>
        dsimp only
        split <;> rfl

theorem enclosed_octal (h : c.peek? = some x) : c.enclosed.octal = encloseRest c.octal := by
  unfold octal
  simp only [enclosed_peek?_of h, h, Option.getD_some, enclosed_next h, enclosed_octalDigits]
  cases octalValue? x <;> rfl

theorem enclosed_lowHalf? (high : Nat) (c : Cursor) :
    c.enclosed.lowHalf? high = (c.lowHalf? high).map encloseRest := by
  unfold lowHalf?
  split
  · simp only [enclosed_eat? (x := '\\') (by decide), Option.bind_eq_bind]
    cases c.eat? '\\' with
    | none => rfl
    | some slash =>
      simp only [Option.map_some, Option.bind_some, enclosed_eat? (x := 'u') (by decide)]
      cases slash.eat? 'u' with
      | none => rfl
      | some u =>
        rw [Option.map_some, Option.bind_some, Option.bind_some, enclosed_hexDigits?]
        cases hexDigits? 4 0 u with
        | none => rfl
        | some found =>
          obtain ⟨low, last⟩ := found
          simp only [Option.map_some, Option.bind_some, encloseRest]
          generalize Char.ofNat _ = y
          split <;> rfl
  · rfl

theorem enclosed_fourDigits? (c : Cursor) :
    c.enclosed.fourDigits? = c.fourDigits?.map encloseRest := by
  unfold fourDigits?
  rw [enclosed_hexDigits?]
  cases hexDigits? 4 0 c with
  | none => rfl
  | some found =>
    simp only [Option.map_some, encloseRest, enclosed_lowHalf?]
    cases found.2.lowHalf? found.1 <;> rfl

section
variable {unicode : Bool}

theorem enclosed_bracedCodePoint (hc : c.peek? = some '\x7b')
    (h : c.bracedCodePoint = .ok (x, after)) :
    c.enclosed.bracedCodePoint = .ok (x, after.enclosed) := by
  unfold bracedCodePoint at h ⊢
  rw [enclosed_next hc, enclosed_spanWhile rfl]
  dsimp only at h ⊢
  rw [enclosed_eat? (by decide)]
  split at h
  · rename_i last he
    rw [he, Option.map_some]
    split at h <;> cases h
    rename_i hv
    simp [hv]
  · cases h

theorem enclosed_any {p : Char → Bool} (hp : p ')' = false) (c : Cursor) :
    c.enclosed.peek?.any p = c.peek?.any p := by
  rw [enclosed_peek?]
  cases c.peek? <;> simp [hp]

theorem enclosed_codePoint {start : Nat} (start' : Nat)
    (h : c.codePoint unicode start = .ok (x, after)) :
    c.enclosed.codePoint unicode start' = .ok (x, after.enclosed) := by
  have hbrace : (c.enclosed.peek? == some '\x7b') = (c.peek? == some '\x7b') := by
    rw [enclosed_peek?]
    cases c.peek? <;> simp
  unfold codePoint at h ⊢
  rw [hbrace, enclosed_fourDigits?]
  split at h
  · rename_i hb
    rw [if_pos hb]
    exact enclosed_bracedCodePoint (by simp_all) h
  · rename_i hb
    rw [if_neg hb]
    split at h
    · rename_i hf
      cases h
      rw [hf]
      rfl
    · rename_i hf
      split at h <;> cases h
      rename_i hu
      rw [hf, Option.map_none]
      simp [hu]

theorem enclosed_escapedChar {inClass : Bool} {start : Nat} (start' : Nat)
    (h : c.escapedChar unicode start inClass = .ok (x, after)) :
    c.enclosed.escapedChar unicode start' inClass = .ok (x, after.enclosed) := by
  unfold escapedChar at h
  split at h
  · cases h
  · rename_i y hy
    unfold escapedChar
    rw [enclosed_peek?_of hy]
    dsimp only at h ⊢
    rw [enclosed_next hy]
    split at h
    iterate 5 · cases h; rfl
    · rw [enclosed_peek?]
      split at h
      · rename_i letter hl
        rw [hl, Option.getD_some, enclosed_next hl]
        split at h
        · rename_i ha
          cases h
          simp [ha]
        · split at h <;> cases h
          simp_all
      · rename_i hl
        rw [hl, Option.getD_none]
        split at h <;> cases h
        simp_all
    · rw [enclosed_hexDigits?]
      split at h
      · rename_i hd
        cases h
        rw [hd]
        rfl
      · rename_i hd
        rw [hd]
        split at h <;> cases h
        simp_all
    · exact enclosed_codePoint start' h
    · rw [enclosed_any rfl, enclosed_octal hy]
      split at h
      · rename_i hzero
        cases h
        exact if_pos hzero
      · rename_i hzero
        refine (if_neg hzero).trans ?_
        split at h
        · rename_i hoctal
          rw [if_pos hoctal, Except.ok.inj h]
          rfl
        · rename_i hoctal
          rw [if_neg hoctal]
          repeat' split at h
          all_goals
            cases h
            try simp_all

theorem enclosed_property {negate : Bool} {start : Nat} {s : CharSet} (start' : Nat)
    (h : c.property negate start = .ok (s, after)) :
    c.enclosed.property negate start' = .ok (s, after.enclosed) := by
  unfold property at h ⊢
  rw [enclosed_eat? (by decide)]
  split at h
  · cases h
  · rename_i inside hi
    rw [hi, Option.map_some]
    dsimp only at h ⊢
    rw [enclosed_spanWhile rfl]
    dsimp only
    rw [enclosed_eat? (by decide)]
    split at h
    · cases h
    · rename_i last ha hd
      rw [ha, hd]
      split at h <;> cases h
      rename_i hn
      simp [hn]
    · rename_i last ha hd
      rw [ha, hd]
      split at h <;> cases h
      rename_i hn
      simp [hn]

theorem enclosed_groupName {s : String} (h : c.groupName = .ok (s, after)) :
    c.enclosed.groupName = .ok (s, after.enclosed) := by
  unfold groupName at h ⊢
  rw [enclosed_spanWhile rfl]
  dsimp only at h ⊢
  rw [enclosed_eat? (by decide)]
  split at h
  · rename_i hn ha
    rw [hn, ha]
    split at h <;> cases h
    rename_i hf
    simp [hf, hn]
  · cases h

theorem enclosed_classAtom {m : ClassMember} (h : c.classAtom unicode = .ok (m, after)) :
    c.enclosed.classAtom unicode = .ok (m.mapSpans Span.enclosed, after.enclosed) := by
  unfold classAtom at h
  split at h
  · cases h
  · rename_i x hx
    unfold classAtom
    rw [enclosed_peek?_of hx]
    dsimp only
    rw [enclosed_next hx]
    split at h
    · rename_i hslash
      cases h
      exact if_pos hslash
    · rename_i hslash
      refine (if_neg hslash).trans ?_
      split at h
      · cases h
      · rename_i y hy
        rw [enclosed_peek?_of hy]
        dsimp only
        rw [enclosed_next hy]
        split at h
        · cases h
          rfl
        · split at h
          · rename_i hp
            rw [if_pos hp]
            split at h <;> cases h
            rename_i hread
            rw [enclosed_property _ hread]
            rfl
          · rename_i hp
            rw [if_neg hp]
            split at h
            · rename_i hb
              cases h
              exact if_pos hb
            · rename_i hb
              rw [if_neg hb]
              split at h
              · rename_i hd
                cases h
                rw [if_pos hd, enclosed_octal hy]
                rfl
              · rename_i hd
                rw [if_neg hd]
                split at h <;> cases h
                rename_i hread
                rw [enclosed_escapedChar _ hread]
                rfl

theorem enclosed_atRangeDash (h : c.rest ≠ ['-']) : c.enclosed.atRangeDash = c.atRangeDash := by
  obtain ⟨rest, _, _⟩ := c
  match rest with
  | [] => rfl
  | [x] =>
    have hx : x ≠ '-' := fun hx => h (by rw [hx])
    simp [atRangeDash, enclosed, peek?, beq_false_of_ne hx]
  | x :: y :: rest => rfl

theorem enclosed_classItem {ms : List ClassMember} (h : c.classItem unicode = .ok (ms, after))
    (hend : after.rest ≠ ['-']) :
    c.enclosed.classItem unicode = .ok (ms.map (·.mapSpans Span.enclosed), after.enclosed) := by
  unfold classItem at h
  split at h
  · cases h
  · rename_i first dash hfirst
    have hdash : dash.rest ≠ ['-'] := by
      intro hdash
      refine hend ?_
      have hrange : dash.atRangeDash = false := by
        simp [atRangeDash, peek?, next, hdash]
      rw [hrange] at h
      cases h
      exact hdash
    unfold classItem
    rw [enclosed_classAtom hfirst]
    dsimp only
    rw [enclosed_atRangeDash hdash]
    split at h
    · rename_i hrange
      cases h
      exact if_pos hrange
    · rename_i hrange
      refine (if_neg hrange).trans ?_
      have hpeek : dash.peek? = some '-' := by
        simp only [atRangeDash, Bool.not_eq_true', Bool.not_eq_false, Bool.and_eq_true,
          beq_iff_eq] at hrange
        exact hrange.1
      split at h
      · cases h
      · rename_i hsecond
        rw [enclosed_next hpeek, enclosed_classAtom hsecond]
        dsimp only [ClassMember.mapSpans]
        split at h
        · split at h <;> cases h
          rename_i hle
          exact if_neg hle
        · split at h <;> cases h
          rename_i hu
          rw [if_neg hu]
          rfl

/-- A class that is closed does not begin with a dash at the end of all. -/
theorem classMembers_ne_dash {found : List ClassMember} {read : List ClassMember × Cursor}
    (h : c.classMembers unicode found = .ok read) : c.rest ≠ ['-'] := by
  intro hc
  have hitem : c.classItem unicode = .ok ([⟨⟨c.byte, c.next.byte⟩, .char '-'⟩], c.next) := by
    simp [classItem, classAtom, atRangeDash, peek?, next, hc]
  rw [classMembers_item _ (x := '-') (by simp [peek?, hc]) (by decide) hitem] at h
  unfold classMembers at h
  simp [peek?, next, hc] at h

theorem enclosed_classMembers {found ms : List ClassMember}
    (h : c.classMembers unicode found = .ok (ms, after)) :
    c.enclosed.classMembers unicode (found.map (·.mapSpans Span.enclosed)) =
      .ok (ms.map (·.mapSpans Span.enclosed), after.enclosed) := by
  fun_induction classMembers unicode found c with
  | case1 => cases h
  | case2 found c hclose =>
    cases h
    rw [classMembers_close _ (enclosed_peek?_of hclose), enclosed_next hclose, List.map_reverse]
  | case3 => cases h
  | case4 found c x hclose hx item next hitem ih =>
    rw [classMembers_item _ (enclosed_peek?_of hx) hclose
      (enclosed_classItem hitem (classMembers_ne_dash h)), ← List.map_reverse, ← List.map_append]
    exact ih h

theorem enclosed_bracket {e : Element} (hc : c.peek? = some '[')
    (h : c.bracket unicode = .ok (e, after)) :
    c.enclosed.bracket unicode = .ok (e.mapSpans Span.enclosed, after.enclosed) := by
  unfold bracket at h ⊢
  dsimp only at h ⊢
  rw [enclosed_next hc, enclosed_eat? (by decide), Option.isSome_map, Option.getD_map]
  split at h
  · cases h
  · rename_i hm
    cases h
    have := enclosed_classMembers hm
    rw [List.map_nil] at this
    rw [this]
    rfl

theorem enclosed_escapeAtom {d : Dialect} {e : Element} (hc : c.peek? = some '\\')
    (h : c.escapeAtom d = .ok (e, after)) :
    c.enclosed.escapeAtom d = .ok (e.mapSpans Span.enclosed, after.enclosed) := by
  unfold escapeAtom at h
  dsimp only at h
  split at h
  · cases h
  · rename_i x hx
    unfold escapeAtom
    dsimp only
    rw [enclosed_next hc, enclosed_peek?_of hx]
    dsimp only
    rw [enclosed_next hx]
    split at h
    · cases h
      rfl
    split at h
    · rename_i hb
      cases h
      exact if_pos hb
    rename_i hb
    refine (if_neg hb).trans ?_
    split at h
    · rename_i hb
      cases h
      exact if_pos hb
    rename_i hb
    refine (if_neg hb).trans ?_
    split at h
    · rename_i hk
      refine (if_pos hk).trans ?_
      rw [enclosed_eat? (by decide)]
      split at h
      · cases h
      · rename_i hi
        rw [hi, Option.map_some]
        split at h <;> cases h
        rename_i hn
        dsimp only
        rw [enclosed_groupName hn]
        rfl
    rename_i hk
    refine (if_neg hk).trans ?_
    split at h
    · rename_i hp
      refine (if_pos hp).trans ?_
      split at h <;> cases h
      rename_i hread
      rw [enclosed_property _ hread]
      rfl
    rename_i hp
    refine (if_neg hp).trans ?_
    split at h
    · rename_i hdigit
      refine (if_pos hdigit).trans ?_
      rw [enclosed_number?]
      split at h
      · rename_i hn
        rw [hn, Option.map_some]
        split at h
        · rename_i hle
          cases h
          exact if_pos hle
        · rename_i hle
          refine (if_neg hle).trans ?_
          split at h <;> cases h
          rename_i hu
          refine (if_neg hu).trans ?_
          rw [enclosed_octal hx]
          rfl
      · cases h
    · rename_i hdigit
      refine (if_neg hdigit).trans ?_
      split at h <;> cases h
      rename_i hread
      rw [enclosed_escapedChar _ hread]
      rfl

theorem enclosed_atom {d : Dialect} {e : Element} (hc : c.peek? = some x)
    (h : c.atom d x = .ok (e, after)) :
    c.enclosed.atom d x = .ok (e.mapSpans Span.enclosed, after.enclosed) := by
  unfold atom at h ⊢
  dsimp only at h ⊢
  rw [enclosed_next hc, enclosed_braces?, Option.isSome_map]
  split at h
  · exact enclosed_bracket hc h
  · exact enclosed_escapeAtom hc h
  all_goals
    repeat' split at h
    all_goals cases h
  all_goals simp_all [Element.mapSpans, Span.enclosed, enclosed]

theorem enclosed_opening {n : Nat} {shell : Shell} (hc : c.peek? = some '(')
    (h : c.opening n = .ok (shell, after)) :
    c.enclosed.opening n = .ok (shell, after.enclosed) := by
  unfold opening at h ⊢
  rw [enclosed_next hc, enclosed_eat? (by decide)]
  split at h
  · rename_i hm
    cases h
    rw [hm]
    rfl
  · rename_i mark hm
    rw [hm, Option.map_some]
    dsimp only at h ⊢
    split at h
    iterate 3
      · rename_i hk
        cases h
        rw [enclosed_peek?_of hk, enclosed_next hk]
        rfl
    · rename_i hk
      rw [enclosed_peek?_of hk, enclosed_next hk]
      split at h
      iterate 2
        · rename_i hl
          cases h
          rw [enclosed_peek?_of hl, enclosed_next hl]
          rfl
      · rename_i h₁ h₂
        split at h <;> cases h
        rename_i hname
        rw [enclosed_groupName hname, enclosed_peek?]
        cases hl : mark.next.peek? with
        | none => rfl
        | some y =>
          have hy : y ≠ '=' ∧ y ≠ '!' := by
            constructor <;> rintro rfl <;> simp_all
          simp [hy.1, hy.2]
    · cases h

end

end Cursor

theorem Element.enclosed_withQuantifier {unicode : Bool} {atom e : Element} {c after : Cursor}
    (h : atom.withQuantifier unicode c = .ok (e, after)) :
    (atom.mapSpans Span.enclosed).withQuantifier unicode c.enclosed =
      .ok (e.mapSpans Span.enclosed, after.enclosed) := by
  unfold withQuantifier at h ⊢
  split at h
  · cases h
  · rename_i hb
    cases h
    rw [Cursor.enclosed_bounds hb]
    rfl
  · rename_i hb
    rw [Cursor.enclosed_bounds hb]
    dsimp only [Option.map_some, Cursor.encloseRest] at h ⊢
    rw [mapSpans_isQuantifiable, Cursor.enclosed_eat? (by decide), Option.getD_map, Option.isNone_map,
      Cursor.enclosed_atQuantifier, mapSpans_span]
    split at h
    · cases h
    · rename_i hq
      refine (if_neg hq).trans ?_
      split at h <;> cases h
      rename_i ha
      exact if_neg ha

namespace GroupCount

theorem opened_snoc (count : GroupCount) (rest : List Char) :
    count.opened (rest ++ [')']) = count.opened rest := by
  match rest with
  | [] => rfl
  | x :: rest =>
    by_cases hx : x = '?'
    · subst hx
      match rest with
      | [] => rfl
      | y :: rest =>
        by_cases hy : y = '<'
        · subst hy
          match rest with
          | [] => rfl
          | z :: rest =>
            by_cases hz : z = '=' ∨ z = '!'
            · rcases hz with rfl | rfl <;> rfl
            · rw [List.cons_append, List.cons_append, Cursor.opened_of_lt, Cursor.opened_of_lt] <;>
                simp_all
        · simp [opened, hy]
    · rw [Cursor.opened_of_ne, Cursor.opened_of_ne] <;> simp [hx]

theorem scan_snoc (inClass : Bool) (count : GroupCount) (cs : List Char) :
    scan inClass count (cs ++ [')']) = scan inClass count cs := by
  fun_induction scan inClass count cs with
  | case1 => rfl
  | case2 => rfl
  | case3 inClass count x rest ih => simpa [scan_escaped] using ih
  | case4 inClass count rest ih => simpa [scan_open] using ih
  | case5 inClass count rest ih => simpa [scan_close] using ih
  | case6 inClass count rest ih =>
    rw [← ih, ← opened_snoc]
    rfl
  | case7 inClass count x rest hlast hescape hopen hclose hgroup ih =>
    rw [← ih, List.cons_append, scan.eq_def]
    have hslash : x ≠ '\\' := fun hx => by
      cases rest with
      | nil => exact hlast hx rfl
      | cons y rest => exact hescape y rest hx rfl
    split <;> simp_all

theorem ofText_enclose (source : List Char) : ofText (enclose source) = ofText source := by
  have hlead : ∀ cs, ofText ('(' :: '?' :: ':' :: cs) = ofText cs := fun cs => by
    rw [ofText, scan_group, scan_plain rfl, scan_plain rfl]
    rfl
  rw [enclose, List.append_assoc]
  exact (hlead _).trans (scan_snoc _ _ _)

end GroupCount

def Level.enclosed (l : Level) : Level :=
  ⟨l.branches.map (·.mapSpans Span.enclosed), l.start + 3,
    l.elements.map (·.mapSpans Span.enclosed)⟩

def OpenGroup.enclosed (g : OpenGroup) : OpenGroup := ⟨g.start + 3, g.shell, g.outer.enclosed⟩

def PatternTree.enclosed (tree : PatternTree) : PatternTree :=
  let span : Span := ⟨0, tree.pattern.span.stop + 4⟩
  let branches := tree.pattern.branches.map (·.mapSpans Span.enclosed)
  ⟨⟨span, [.mk span [.group span none branches]]⟩, tree.names⟩

namespace Reading

/-- The reading of a text as a part of the reading of the group around it. -/
def enclosed (r : Reading) : Reading :=
  { cursor := r.cursor.enclosed
    names := r.names
    references := r.references.map fun (name, offset) => (name, offset + 3)
    level := r.level.enclosed
    groups := r.groups.map OpenGroup.enclosed ++ [⟨0, .group none, .empty 0⟩] }

variable {d : Dialect} {r s : Reading} {x : Char}

theorem enclosed_close (l : Level) (stop : Nat) :
    l.enclosed.close (stop + 3) = (l.close stop).map (·.mapSpans Span.enclosed) := by
  simp [Level.close, Level.enclosed, Span.enclosed]

theorem enclosed_addTerm {atom : Element} {c : Cursor} {outer : Level}
    (h : addTerm d atom c outer r = .ok s) :
    addTerm d (atom.mapSpans Span.enclosed) c.enclosed outer.enclosed r.enclosed =
      .ok s.enclosed := by
  unfold addTerm at h ⊢
  split at h
  · cases h
  · rename_i ht
    cases h
    rw [Element.enclosed_withQuantifier ht]
    rfl

theorem enclosed_openGroup (hx : r.cursor.peek? = some '(') (h : r.openGroup = .ok s) :
    r.enclosed.openGroup = .ok s.enclosed := by
  unfold openGroup at h
  split at h
  · cases h
  · rename_i ho
    have ho' : r.enclosed.cursor.opening r.enclosed.names.size = _ := Cursor.enclosed_opening hx ho
    unfold openGroup
    rw [ho']
    dsimp only at h ⊢
    split at h
    · split at h <;> cases h
      rename_i hn
      exact if_neg hn
    · cases h
      rfl

theorem enclosed_closeGroup (hx : r.cursor.peek? = some ')') (h : r.closeGroup d = .ok s) :
    r.enclosed.closeGroup d = .ok s.enclosed := by
  unfold closeGroup at h
  split at h
  · cases h
  · rename_i g groups hg
    have hgroups : r.enclosed.groups =
        g.enclosed :: (groups.map OpenGroup.enclosed ++ [⟨0, .group none, .empty 0⟩]) := by
      rw [enclosed, hg]
      rfl
    have hadd := enclosed_addTerm h
    rw [Shell.mapSpans_element, List.map_reverse, ← enclosed_close] at hadd
    have hnext : r.enclosed.cursor.next = r.cursor.next.enclosed := Cursor.enclosed_next hx
    unfold closeGroup
    rw [hgroups]
    dsimp only
    rw [hnext]
    exact hadd

theorem enclosed_noteReference (offset : Nat) (e : Element) (r : Reading) :
    (r.noteReference offset e).enclosed =
      r.enclosed.noteReference (offset + 3) (e.mapSpans Span.enclosed) := by
  cases e with
  | backreference span target => cases target <;> rfl
  | _ => rfl

/-- What a step does to a text, it does to the text in the group. -/
theorem enclosed_step (hx : r.cursor.peek? = some x) (h : r.step d x = .ok s) :
    r.enclosed.step d x = .ok s.enclosed := by
  unfold step at h ⊢
  split at h
  · cases h
    have hnext : r.enclosed.cursor.next = r.cursor.next.enclosed := Cursor.enclosed_next hx
    have hclose : r.enclosed.level.close r.enclosed.cursor.byte = _ :=
      enclosed_close r.level r.cursor.byte
    rw [hnext, hclose]
    rfl
  · exact enclosed_closeGroup hx h
  · exact enclosed_openGroup hx h
  · split at h
    · cases h
    · rename_i ha
      have hadd := enclosed_addTerm h
      rw [enclosed_noteReference] at hadd
      have ha' : r.enclosed.cursor.atom d x = _ := Cursor.enclosed_atom hx ha
      rw [ha']
      exact hadd

theorem Steps.enclosed (h : Steps d r s) : Steps d r.enclosed s.enclosed := by
  induction h with
  | refl => exact .refl _
  | step hx h _ ih => exact .step (Cursor.enclosed_peek?_of hx) (enclosed_step hx h) ih

theorem step_enclose (source : List Char) :
    (ofText (enclose source)).step d '(' = .ok (ofText source).enclosed := by
  rfl

theorem step_finish {tree : PatternTree} (hend : r.cursor.peek? = none)
    (h : r.finish = .ok tree) :
    ∃ s, r.enclosed.step d ')' = .ok s ∧ s.cursor.peek? = none ∧ s.finish = .ok tree.enclosed := by
  obtain ⟨⟨rest, offset, byte⟩, names, references, level, groups⟩ := r
  obtain rfl : rest = [] := by simpa [Cursor.peek?] using hend
  unfold finish at h
  split at h
  · cases h
  · cases h
  · rename_i hgroups hknown
    cases h
    obtain rfl : groups = [] := hgroups
    let branches := (level.enclosed.close (byte + 3)).reverse
    let s : Reading :=
      { cursor := ⟨[], offset + 4, byte + 4⟩
        names := names
        references := references.map fun (name, offset) => (name, offset + 3)
        level := ⟨[], 0, [.group ⟨0, byte + 4⟩ none branches]⟩
        groups := [] }
    refine ⟨s, rfl, rfl, ?_⟩
    have hbranches : branches = (level.close byte).reverse.map (·.mapSpans Span.enclosed) := by
      rw [List.map_reverse, ← enclosed_close]
    have hknown' : s.references.reverse.find? (fun (name, _) => !s.names.contains (some name)) =
        none := by
      rw [← List.map_reverse, List.find?_map, Option.map_eq_none_iff]
      exact hknown
    unfold finish
    rw [hknown']
    simp only [PatternTree.enclosed, ← hbranches]
    rfl

end Reading

theorem parse_enclose {unicode : Bool} {source : List Char} {tree : PatternTree}
    (h : parse unicode source = .ok tree) : parse unicode (enclose source) = .ok tree.enclosed := by
  unfold parse at h ⊢
  rw [GroupCount.ofText_enclose]
  obtain ⟨r, hr, hend, hfinish⟩ := Reading.run_eq_ok.mp h
  obtain ⟨s, hclose, hdone⟩ := Reading.step_finish hend hfinish
  refine Reading.run_eq_ok.mpr ⟨s, ?_, hdone⟩
  have hopen : (Reading.ofText (enclose source)).cursor.peek? = some '(' := rfl
  have hclosing : r.enclosed.cursor.peek? = some ')' := by
    rw [Reading.enclosed, Cursor.enclosed_peek?, hend]
    rfl
  exact .step hopen (Reading.step_enclose source) (hr.enclosed.trans (.single hclosing hclose))

end RegexInsight
