import RegexInsight.Proofs.Rewriting

/-! Reading atoms in a text whose counted quantifiers are written shorter. An atom has no quantifier in
it, so its reader meets no edit before the atom ends, and what it sees of the next one does not matter
to it. -/
namespace RegexInsight

theorem Cursor.escapedChar_brace {unicode inClass : Bool} {start : Nat} {c : Cursor}
    (h : c.peek? = some '\x7b') : c.escapedChar unicode start inClass = .ok ('\x7b', c.next) := by
  simp [escapedChar, h, octalValue?, isEscapable]

theorem Element.bare_bracket {span span' : Span} {negate : Bool} {ms ms' : List ClassMember}
    (h : ms'.map ClassMember.kind = ms.map ClassMember.kind) :
    (bracket span' negate ms').bare = (bracket span negate ms).bare := by
  have hmembers : ∀ ms : List ClassMember, ms.map (·.mapSpans fun _ => ⟨0, 0⟩) =
      (ms.map ClassMember.kind).map (ClassMember.mk ⟨0, 0⟩) := fun ms => by
    rw [List.map_map]
    rfl
  rw [bare, bare, mapSpans, mapSpans, hmembers, hmembers, h]

namespace Shortening

variable {w : Shortening} {c c' after : Cursor} {x : Char}

namespace Follows

theorem hexDigits? (h : w.Follows c c') (count value : Nat) :
    w.Both (Cursor.hexDigits? count value c) (Cursor.hexDigits? count value c') := by
  induction count generalizing value c c' with
  | zero => exact .inr ⟨value, c, c', rfl, rfl, h⟩
  | succ count ih =>
    simp only [Cursor.hexDigits?, Option.bind_eq_bind]
    cases hx : c.peek? with
    | none => exact .inl ⟨rfl, by rw [h.stop hx]; rfl⟩
    | some x =>
      cases hd : hexValue? x with
      | none =>
        have hany := h.any (p := fun y => (hexValue? y).isSome) (by decide)
        rw [hx, Option.any_some, hd, Option.isSome_none] at hany
        refine .inl ⟨by rw [Option.bind_some, hd, Option.bind_none], ?_⟩
        cases hx' : c'.peek? with
        | none => rfl
        | some y =>
          rw [hx', Option.any_some, Option.isSome_eq_false_iff, Option.isNone_iff_eq_none] at hany
          rw [Option.bind_some, hany, Option.bind_none]
      | some d =>
        obtain ⟨hx', hn⟩ := h.next hx fun he => by simp [he, hexValue?] at hd
        rw [hx', Option.bind_some, Option.bind_some, hd, Option.bind_some, Option.bind_some]
        exact ih hn _

theorem octalDigits (h : w.Follows c c') (count value : Nat) :
    (Cursor.octalDigits count value c').1 = (Cursor.octalDigits count value c).1 ∧
      w.Follows (Cursor.octalDigits count value c).2 (Cursor.octalDigits count value c').2 := by
  induction count generalizing value c c' with
  | zero => exact ⟨rfl, h⟩
  | succ count ih =>
    unfold Cursor.octalDigits
    cases hd : c.peek?.bind octalValue? with
    | none =>
      have hany := h.any (p := fun y => (octalValue? y).isSome) (by decide)
      have hd' : c'.peek?.bind octalValue? = none := by
        cases hx : c.peek? <;> cases hx' : c'.peek? <;> simp_all
      rw [hd']
      exact ⟨rfl, h⟩
    | some d =>
      obtain ⟨x, hx, hxd⟩ := Option.bind_eq_some_iff.mp hd
      obtain ⟨hx', hn⟩ := h.next hx fun he => by simp [he, octalValue?] at hxd
      rw [hx', Option.bind_some, hxd]
      dsimp only
      split
      · exact ih hn _
      · exact ⟨rfl, h⟩

theorem octal (h : w.Follows c c') (hx : c.peek? = some x) (hne : x ≠ '\x7b') :
    c'.octal.1 = c.octal.1 ∧ w.Follows c.octal.2 c'.octal.2 := by
  obtain ⟨hx', hn⟩ := h.next hx hne
  unfold Cursor.octal
  simp only [hx, hx', Option.getD_some]
  cases octalValue? x with
  | none => exact ⟨rfl, hn⟩
  | some d =>
    obtain ⟨hvalue, hafter⟩ := hn.octalDigits 2 d
    exact ⟨congrArg Char.ofNat hvalue, hafter⟩

theorem lowHalf? (h : w.Follows c c') (high : Nat) : w.Both (c.lowHalf? high) (c'.lowHalf? high) := by
  unfold Cursor.lowHalf?
  split
  · simp only [Option.bind_eq_bind]
    obtain ⟨hs, hs'⟩ | ⟨a, a', hs, hs', ha⟩ := h.eat? (x := '\\') (by decide)
    · rw [hs, hs']
      exact .inl ⟨rfl, rfl⟩
    · rw [hs, hs', Option.bind_some, Option.bind_some]
      obtain ⟨hu, hu'⟩ | ⟨b, b', hu, hu', hb⟩ := ha.eat? (x := 'u') (by decide)
      · rw [hu, hu']
        exact .inl ⟨rfl, rfl⟩
      · rw [hu, hu', Option.bind_some, Option.bind_some]
        obtain ⟨hd, hd'⟩ | ⟨low, d, d', hd, hd', hlow⟩ := hb.hexDigits? 4 0
        · rw [hd, hd']
          exact .inl ⟨rfl, rfl⟩
        · rw [hd, hd', Option.bind_some, Option.bind_some]
          dsimp only
          split
          · exact .inr ⟨_, d, d', rfl, rfl, hlow⟩
          · exact .inl ⟨rfl, rfl⟩
  · exact .inl ⟨rfl, rfl⟩

theorem fourDigits? (h : w.Follows c c') : w.Both c.fourDigits? c'.fourDigits? := by
  unfold Cursor.fourDigits?
  obtain ⟨hd, hd'⟩ | ⟨high, a, a', hd, hd', ha⟩ := h.hexDigits? 4 0
  · rw [hd, hd']
    exact .inl ⟨rfl, rfl⟩
  · rw [hd, hd']
    dsimp only
    obtain ⟨hl, hl'⟩ | ⟨x, b, b', hl, hl', hb⟩ := ha.lowHalf? high
    · rw [hl, hl']
      exact .inr ⟨_, a, a', rfl, rfl, ha⟩
    · rw [hl, hl']
      exact .inr ⟨x, b, b', rfl, rfl, hb⟩

section
variable {unicode : Bool}

theorem bracedCodePoint (h : w.Follows c c') (hc : c.peek? = some '\x7b')
    (hclear : w.at? c.byte = none) (hread : c.bracedCodePoint = .ok (x, after)) :
    ∃ after', c'.bracedCodePoint = .ok (x, after') ∧ w.Follows after after' := by
  obtain ⟨-, hn⟩ := h.plain hclear hc
  obtain ⟨hdigits, ha⟩ := hn.spanWhile (p := isHexDigit) (by decide) (by decide)
  unfold Cursor.bracedCodePoint at hread ⊢
  dsimp only at hread ⊢
  rw [hdigits]
  obtain ⟨he, he'⟩ | ⟨b, b', he, he', hb⟩ := ha.eat? (x := '\x7d') (by decide)
  · rw [he] at hread
    cases hread
  · rw [he] at hread
    rw [he']
    dsimp only at hread ⊢
    split at hread <;> cases hread
    rename_i hvalue
    exact ⟨b', if_neg hvalue, hb⟩

theorem codePoint {start : Nat} (start' : Nat) (h : w.Follows c c')
    (hclear : w.Clear c.byte after.byte) (hread : c.codePoint unicode start = .ok (x, after)) :
    ∃ after', c'.codePoint unicode start' = .ok (x, after') ∧ w.Follows after after' := by
  unfold Cursor.codePoint at hread ⊢
  split at hread
  · rename_i hu
    simp only [Bool.and_eq_true, beq_iff_eq] at hu
    have hplain : w.at? c.byte = none :=
      hclear c.byte (Nat.le_refl _) (Cursor.bracedCodePoint_byte_lt hu.2 hread)
    rw [(h.plain hplain hu.2).1, hu.1]
    exact h.bracedCodePoint hu.2 hplain hread
  · rename_i hu
    have hu' : ¬ (unicode && c'.peek? == some '\x7b') := by
      simp only [Bool.and_eq_true, beq_iff_eq] at hu ⊢
      exact fun hb => hu ⟨hb.1, h.peek?_of hb.2 (by decide)⟩
    rw [if_neg hu']
    obtain ⟨hf, hf'⟩ | ⟨y, a, a', hf, hf', ha⟩ := h.fourDigits?
    · rw [hf] at hread
      rw [hf']
      dsimp only at hread ⊢
      split at hread <;> cases hread
      rename_i hu
      exact ⟨c', if_neg hu, h⟩
    · rw [hf] at hread
      rw [hf']
      cases hread
      exact ⟨a', rfl, ha⟩

theorem escapedChar {inClass : Bool} {start : Nat} (start' : Nat) (h : w.Follows c c')
    (hclear : w.Clear c.byte after.byte)
    (hread : c.escapedChar unicode start inClass = .ok (x, after)) :
    ∃ after', c'.escapedChar unicode start' inClass = .ok (x, after') ∧ w.Follows after after' := by
  cases hy : c.peek? with
  | none =>
    rw [Cursor.escapedChar, hy] at hread
    cases hread
  | some y =>
    -- a brace can be escaped, but then it is read
    obtain ⟨hy', hn⟩ : c'.peek? = some y ∧ w.Follows c.next c'.next := by
      by_cases hbrace : y = '\x7b'
      · subst hbrace
        rw [Cursor.escapedChar_brace hy] at hread
        cases hread
        exact h.before hy hclear (Cursor.byte_lt_next hy)
      · exact h.next hy hbrace
    unfold Cursor.escapedChar at hread
    rw [hy] at hread
    dsimp only at hread
    unfold Cursor.escapedChar
    rw [hy']
    dsimp only
    split at hread
    iterate 5
      · cases hread
        exact ⟨_, rfl, hn⟩
    · split at hread
      · rename_i letter hl
        split at hread
        · rename_i ha
          cases hread
          obtain ⟨hl', hnn⟩ := hn.next hl fun he => by simp [he] at ha
          rw [hl']
          exact ⟨_, if_pos ha, hnn⟩
        · rename_i ha
          split at hread <;> cases hread
          rename_i hu
          have hany := hn.any (p := Char.isAlpha) (by decide)
          rw [hl, Option.any_some] at hany
          cases hl' : c'.next.peek? with
          | none => exact ⟨c', if_neg hu, h⟩
          | some letter' =>
            rw [hl', Option.any_some] at hany
            exact ⟨c', (if_neg (hany ▸ ha)).trans (if_neg hu), h⟩
      · rename_i hl
        rw [hn.stop hl]
        split at hread <;> cases hread
        exact ⟨c', by simp_all, h⟩
    · obtain ⟨hd, hd'⟩ | ⟨value, a, a', hd, hd', ha⟩ := hn.hexDigits? 2 0
      · rw [hd] at hread
        rw [hd']
        dsimp only at hread ⊢
        split at hread <;> cases hread
        rename_i hu
        exact ⟨_, if_neg hu, hn⟩
      · rw [hd] at hread
        rw [hd']
        cases hread
        exact ⟨a', rfl, ha⟩
    · exact hn.codePoint start' (hclear.mono (Nat.le_of_lt (Cursor.byte_lt_next hy)) (Nat.le_refl _)) hread
    · rw [hn.any (p := Char.isDigit) (by decide)]
      split at hread
      · rename_i hzero
        cases hread
        exact ⟨_, if_pos hzero, hn⟩
      rename_i hzero
      rw [if_neg hzero]
      split at hread
      · rename_i hoctal
        rw [if_pos hoctal]
        obtain ⟨hvalue, ha⟩ := h.octal hy fun he => by simp [he, octalValue?] at hoctal
        rw [Except.ok.inj hread] at hvalue ha
        exact ⟨c'.octal.2, congrArg Except.ok (Prod.ext hvalue rfl), ha⟩
      · rename_i hoctal
        rw [if_neg hoctal]
        repeat' split at hread
        all_goals
          cases hread
          try exact ⟨_, by simp_all, hn⟩

theorem property {negate : Bool} {start : Nat} {s : CharSet} (start' : Nat) (h : w.Follows c c')
    (hclear : w.Clear c.byte after.byte) (hread : c.property negate start = .ok (s, after)) :
    ∃ after', c'.property negate start' = .ok (s, after') ∧ w.Follows after after' := by
  obtain ⟨inside, hi, hr⟩ := Cursor.property_braces hread
  have hlt : c.byte < after.byte := by
    obtain ⟨hx, rfl⟩ := Cursor.peek?_of_eat? hi
    exact Nat.lt_of_lt_of_le (Cursor.byte_lt_next hx) hr.byte_le
  unfold Cursor.property at hread ⊢
  rw [hi] at hread
  obtain ⟨hi', -⟩ | ⟨a, a', hi', hi'', ha⟩ :=
    h.eat?_plain (hclear c.byte (Nat.le_refl _) hlt) '\x7b'
  · rw [hi'] at hi
    cases hi
  · obtain rfl : a = inside := Option.some.inj (hi'.symm.trans hi)
    obtain ⟨hbody, hb⟩ := ha.spanWhile (p := fun x => x.isAlphanum || x == '_' || x == '=')
      (by decide) (by decide)
    rw [hi'']
    dsimp only at hread ⊢
    rw [hbody]
    obtain ⟨he, he'⟩ | ⟨b, b', he, he', hb⟩ := hb.eat? (x := '\x7d') (by decide)
    · rw [he] at hread
      cases hread
    · rw [he] at hread
      rw [he']
      split at hread
      · cases hread
      all_goals
        rename_i hlast hd
        cases hlast
        rw [hd]
        split at hread <;> cases hread
        rename_i hn
        exact ⟨b', if_neg hn, hb⟩

theorem groupName {s : String} (h : w.Follows c c') (hread : c.groupName = .ok (s, after)) :
    ∃ after', c'.groupName = .ok (s, after') ∧ w.Follows after after' := by
  obtain ⟨hname, ha⟩ := h.spanWhile (p := isNamePart) (by decide) (by decide)
  unfold Cursor.groupName at hread ⊢
  dsimp only at hread ⊢
  rw [hname]
  obtain ⟨he, he'⟩ | ⟨b, b', he, he', hb⟩ := ha.eat? (x := '>') (by decide)
  · rw [he] at hread
    split at hread
    · rename_i hnone
      cases hnone
    · cases hread
  · rw [he] at hread
    rw [he']
    split at hread
    · rename_i hn hlast
      cases hlast
      rw [hn] at hread ⊢
      dsimp only
      split at hread <;> cases hread
      rename_i hfirst
      exact ⟨b', if_pos hfirst, hb⟩
    · cases hread

theorem classAtom {m : ClassMember} (h : w.Follows c c') (hclear : w.Clear c.byte after.byte)
    (hread : c.classAtom unicode = .ok (m, after)) :
    ∃ m' after', c'.classAtom unicode = .ok (m', after') ∧ m'.kind = m.kind ∧
      w.Follows after after' := by
  have hlt : c.byte < after.byte :=
    (Cursor.classAtom_reaches hread).1.byte_lt (Cursor.classAtom_length_lt hread)
  unfold Cursor.classAtom at hread
  split at hread
  · cases hread
  · rename_i x hx
    obtain ⟨hx', hn⟩ := h.before hx hclear hlt
    have hnext : w.Clear c.next.byte after.byte :=
      hclear.mono (Nat.le_of_lt (Cursor.byte_lt_next hx)) (Nat.le_refl _)
    unfold Cursor.classAtom
    rw [hx']
    dsimp only
    split at hread
    · rename_i hslash
      cases hread
      exact ⟨_, _, if_pos hslash, rfl, hn⟩
    · rename_i hslash
      rw [if_neg hslash]
      split at hread
      · cases hread
      · rename_i y hy
        obtain ⟨hy', hnn⟩ : c'.next.peek? = some y ∧ w.Follows c.next.next c'.next.next := by
          by_cases hbrace : y = '\x7b'
          · subst hbrace
            have hlast : c.next.next = after := by
              simp [shorthandSet?, Cursor.escapedChar_brace hy] at hread
              exact hread.2
            exact hn.before hy hnext (hlast ▸ Cursor.byte_lt_next hy)
          · exact hn.next hy hbrace
        rw [hy']
        dsimp only
        split at hread
        · cases hread
          exact ⟨_, _, rfl, rfl, hnn⟩
        · split at hread
          · rename_i hp
            rw [if_pos hp]
            split at hread <;> cases hread
            rename_i hprop
            obtain ⟨after', hprop', ha⟩ := hnn.property c'.offset
              (hnext.mono (Nat.le_of_lt (Cursor.byte_lt_next hy)) (Nat.le_refl _)) hprop
            rw [hprop']
            exact ⟨_, after', rfl, rfl, ha⟩
          rename_i hp
          rw [if_neg hp]
          split at hread
          · rename_i hb
            cases hread
            exact ⟨_, _, if_pos hb, rfl, hnn⟩
          rename_i hb
          rw [if_neg hb]
          split at hread
          · rename_i hd
            cases hread
            obtain ⟨hvalue, ha⟩ := hn.octal hy fun he => by simp [he] at hd
            rw [if_pos hd]
            exact ⟨_, _, rfl, congrArg MemberKind.char hvalue, ha⟩
          · rename_i hd
            rw [if_neg hd]
            split at hread <;> cases hread
            rename_i hchar
            obtain ⟨after', hchar', ha⟩ := hn.escapedChar c'.offset hnext hchar
            rw [hchar']
            exact ⟨_, after', rfl, rfl, ha⟩

theorem atRangeDash (h : w.Follows c c') : c'.atRangeDash = c.atRangeDash := by
  by_cases hdash : c.peek? = some '-'
  · obtain ⟨hdash', hn⟩ := h.next hdash (by decide)
    have hany := hn.any (p := (· != ']')) (by decide)
    simp only [Cursor.atRangeDash, hdash, hdash', hany]
  · have hdash' : c'.peek? ≠ some '-' := fun hx => hdash (h.peek?_of hx (by decide))
    rw [Cursor.atRangeDash, Cursor.atRangeDash, beq_false_of_ne hdash, beq_false_of_ne hdash',
      Bool.false_and, Bool.false_and]

theorem classItem {ms : List ClassMember} (h : w.Follows c c') (hclear : w.Clear c.byte after.byte)
    (hread : c.classItem unicode = .ok (ms, after)) :
    ∃ ms' after', c'.classItem unicode = .ok (ms', after') ∧
      ms'.map ClassMember.kind = ms.map ClassMember.kind ∧ w.Follows after after' := by
  unfold Cursor.classItem at hread
  split at hread
  · cases hread
  · rename_i first dash hfirst
    have hreach := (Cursor.classAtom_reaches hfirst).1
    by_cases hrange : dash.atRangeDash
    · rw [if_neg (by simp [hrange])] at hread
      split at hread
      · cases hread
      · rename_i second last hsecond
        have hlast := (Cursor.next_reaches dash).trans (Cursor.classAtom_reaches hsecond).1
        obtain rfl : last = after := by
          split at hread <;> split at hread <;> cases hread <;> rfl
        obtain ⟨first', dash', hfirst', hkind, hdash⟩ :=
          h.classAtom (hclear.mono (Nat.le_refl _) hlast.byte_le) hfirst
        have hpeek : dash.peek? = some '-' := by simp_all [Cursor.atRangeDash]
        obtain ⟨second', last', hsecond', hkind', hl⟩ := (hdash.next hpeek (by decide)).2.classAtom
          (hclear.mono (hreach.trans (Cursor.next_reaches dash)).byte_le (Nat.le_refl _)) hsecond
        unfold Cursor.classItem
        rw [hfirst']
        dsimp only
        rw [hdash.atRangeDash, if_neg (by simp [hrange]), hsecond']
        dsimp only
        rw [hkind, hkind']
        split at hread
        · split at hread <;> cases hread
          rename_i hle
          exact ⟨_, last', if_neg hle, rfl, hl⟩
        · split at hread <;> cases hread
          rename_i hu
          refine ⟨_, last', if_neg hu, by simp [hkind, hkind'], hl⟩
    · rw [if_pos (by simp [hrange])] at hread
      cases hread
      obtain ⟨first', dash', hfirst', hkind, hdash⟩ := h.classAtom hclear hfirst
      refine ⟨[first'], dash', ?_, by simp [hkind], hdash⟩
      simp [Cursor.classItem, hfirst', hdash.atRangeDash, hrange]

theorem classMembers {found found' ms : List ClassMember}
    (hfound : found'.map ClassMember.kind = found.map ClassMember.kind) (h : w.Follows c c')
    (hclear : w.Clear c.byte after.byte)
    (hread : c.classMembers unicode found = .ok (ms, after)) :
    ∃ ms' after', c'.classMembers unicode found' = .ok (ms', after') ∧
      ms'.map ClassMember.kind = ms.map ClassMember.kind ∧ w.Follows after after' := by
  fun_induction Cursor.classMembers unicode found c generalizing found' c' with
  | case1 => cases hread
  | case2 found c hclose =>
    cases hread
    obtain ⟨hclose', hn⟩ := h.next hclose (by decide)
    refine ⟨_, _, Cursor.classMembers_close _ hclose', ?_, hn⟩
    rw [List.map_reverse, List.map_reverse, hfound]
  | case3 => cases hread
  | case4 found c x hclose hx item next hitem ih =>
    have hr := (Cursor.classItem_placed h.within hitem).1
    have hlt := hr.byte_lt (Cursor.classItem_length_lt hitem)
    have hle := (Cursor.classMembers_reaches (h.within.reaches hr) hread).byte_le
    obtain ⟨item', next', hitem', hkinds, hnext⟩ :=
      h.classItem (hclear.mono (Nat.le_refl _) hle) hitem
    have hx' := (h.before hx hclear (Nat.lt_of_lt_of_le hlt hle)).1
    rw [Cursor.classMembers_item _ hx' hclose hitem']
    refine ih ?_ hnext (hclear.mono (Nat.le_of_lt hlt) (Nat.le_refl _)) hread
    rw [List.map_append, List.map_append, List.map_reverse, List.map_reverse, hkinds, hfound]

theorem bracket {e : Element} (h : w.Follows c c') (hc : c.peek? = some '[')
    (hclear : w.Clear c.byte after.byte) (hread : c.bracket unicode = .ok (e, after)) :
    ∃ e' after', c'.bracket unicode = .ok (e', after') ∧ e'.bare = e.bare ∧
      w.Follows after after' := by
  obtain ⟨-, hn⟩ := h.next hc (by decide)
  unfold Cursor.bracket at hread ⊢
  dsimp only at hread ⊢
  obtain ⟨hnegate, hinside⟩ : (c'.next.eat? '^').isSome = (c.next.eat? '^').isSome ∧
      w.Follows ((c.next.eat? '^').getD c.next) ((c'.next.eat? '^').getD c'.next) := by
    obtain ⟨hc, hc'⟩ | ⟨a, a', hc, hc', ha⟩ := hn.eat? (x := '^') (by decide)
    · rw [hc, hc']
      exact ⟨rfl, hn⟩
    · rw [hc, hc']
      exact ⟨rfl, ha⟩
  have hreach : c.Reaches ((c.next.eat? '^').getD c.next) :=
    c.next_reaches.trans ⟨_, c.next.eat?_getD_reads '^'⟩
  split at hread
  · cases hread
  · rename_i members last hm
    cases hread
    obtain ⟨members', after', hm', hkinds, ha⟩ :=
      hinside.classMembers rfl (hclear.mono hreach.byte_le (Nat.le_refl _)) hm
    rw [hm', hnegate]
    exact ⟨_, after', rfl, Element.bare_bracket hkinds, ha⟩

theorem escapeAtom {d : Dialect} {e : Element} (h : w.Follows c c') (hc : c.peek? = some '\\')
    (hclear : w.Clear c.byte after.byte) (hread : c.escapeAtom d = .ok (e, after)) :
    ∃ e' after', c'.escapeAtom d = .ok (e', after') ∧ e'.bare = e.bare ∧ w.Follows after after' := by
  obtain ⟨-, hn⟩ := h.next hc (by decide)
  have hnext : w.Clear c.next.byte after.byte :=
    hclear.mono c.next_reaches.byte_le (Nat.le_refl _)
  unfold Cursor.escapeAtom at hread
  dsimp only at hread
  split at hread
  · cases hread
  · rename_i x hx
    obtain ⟨hx', hnn⟩ : c'.next.peek? = some x ∧ w.Follows c.next.next c'.next.next := by
      by_cases hbrace : x = '\x7b'
      · subst hbrace
        have hlast : c.next.next = after := by
          simp [shorthandSet?, Cursor.escapedChar_brace hx] at hread
          exact hread.2
        exact hn.before hx hnext (hlast ▸ Cursor.byte_lt_next hx)
      · exact hn.next hx hbrace
    have hbehind : w.Clear c.next.next.byte after.byte :=
      hnext.mono c.next.next_reaches.byte_le (Nat.le_refl _)
    unfold Cursor.escapeAtom
    dsimp only
    rw [hx']
    dsimp only
    split at hread
    · cases hread
      exact ⟨_, _, rfl, rfl, hnn⟩
    split at hread
    · rename_i hb
      cases hread
      exact ⟨_, _, if_pos hb, rfl, hnn⟩
    rename_i hb
    rw [if_neg hb]
    split at hread
    · rename_i hb
      cases hread
      exact ⟨_, _, if_pos hb, rfl, hnn⟩
    rename_i hb
    rw [if_neg hb]
    split at hread
    · rename_i hk
      rw [if_pos hk]
      obtain ⟨hi, hi'⟩ | ⟨a, a', hi, hi', ha⟩ := hnn.eat? (x := '<') (by decide)
      · rw [hi] at hread
        cases hread
      · rw [hi] at hread
        rw [hi']
        dsimp only at hread ⊢
        split at hread <;> cases hread
        rename_i hname
        obtain ⟨after', hname', hl⟩ := ha.groupName hname
        rw [hname']
        exact ⟨_, after', rfl, rfl, hl⟩
    rename_i hk
    rw [if_neg hk]
    split at hread
    · rename_i hp
      rw [if_pos hp]
      split at hread <;> cases hread
      rename_i hprop
      obtain ⟨after', hprop', hl⟩ := hnn.property c'.offset hbehind hprop
      rw [hprop']
      exact ⟨_, after', rfl, rfl, hl⟩
    rename_i hp
    rw [if_neg hp]
    split at hread
    · rename_i hdigit
      rw [if_pos hdigit]
      obtain ⟨hm, hm'⟩ | ⟨n, a, a', hm, hm', ha⟩ := hn.number?
      · rw [hm] at hread
        cases hread
      · rw [hm] at hread
        rw [hm']
        dsimp only at hread ⊢
        split at hread
        · rename_i hle
          cases hread
          exact ⟨_, a', if_pos hle, rfl, ha⟩
        · rename_i hle
          rw [if_neg hle]
          split at hread <;> cases hread
          rename_i hu
          rw [if_neg hu]
          obtain ⟨hvalue, hl⟩ := hn.octal hx fun he => by simp [he] at hdigit
          rw [hvalue]
          exact ⟨_, _, rfl, rfl, hl⟩
    · rename_i hdigit
      rw [if_neg hdigit]
      split at hread <;> cases hread
      rename_i hchar
      obtain ⟨after', hchar', hl⟩ := hn.escapedChar c'.offset hnext hchar
      rw [hchar']
      exact ⟨_, after', rfl, rfl, hl⟩

/-- Where bounds are replaced no atom stands, so a brace that is an atom is in both texts. -/
theorem atom {d : Dialect} {e : Element} (h : w.Follows c c') (hx : c.peek? = some x)
    (hclear : w.Clear c.byte after.byte) (hread : c.atom d x = .ok (e, after)) :
    c'.peek? = some x ∧ ∃ e' after', c'.atom d x = .ok (e', after') ∧ e'.bare = e.bare ∧
      w.Follows after after' := by
  have hplain : w.at? c.byte = none := by
    have hreach := (Cursor.atom_sits h.within hx hread).1
    exact hclear c.byte (Nat.le_refl _) (hreach.byte_lt (Cursor.atom_length_lt hx hread))
  obtain ⟨hx', hn⟩ := h.plain hplain hx
  refine ⟨hx', ?_⟩
  unfold Cursor.atom at hread ⊢
  dsimp only at hread ⊢
  rw [(h.braces? hplain).isSome_eq]
  split at hread
  · exact h.bracket hx hclear hread
  · exact h.escapeAtom hx hclear hread
  iterate 3
    · cases hread
      exact ⟨_, _, rfl, rfl, hn⟩
  iterate 3 cases hread
  · split at hread
    · cases hread
    · rename_i hbraces
      rw [if_neg hbraces]
      split at hread <;> cases hread
      rename_i hu
      exact ⟨_, _, if_neg hu, rfl, hn⟩
  iterate 2
    · split at hread <;> cases hread
      rename_i hu
      exact ⟨_, _, if_neg hu, rfl, hn⟩
  · cases hread
    exact ⟨_, _, rfl, rfl, hn⟩

/-- The token of a group comes before the next edit, and none follows it at once. -/
theorem opening {n : Nat} {shell : Shell} (h : w.Follows c c') (hc : c.peek? = some '(')
    (hclear : w.Clear c.byte (after.byte + 1)) (hread : c.opening n = .ok (shell, after)) :
    ∃ after', c'.opening n = .ok (shell, after') ∧ w.Follows after after' := by
  obtain ⟨-, hn⟩ := h.next hc (by decide)
  have hplain : w.at? c.next.byte = none := by
    refine hclear _ c.next_reaches.byte_le (Nat.lt_succ_of_le ?_)
    obtain ⟨more, hmore⟩ := shell.openingText_head
    rw [(Cursor.opening_reads hc hread).byte, (Cursor.next_reads hc).byte, hmore, width_cons,
      width_cons]
    exact Nat.add_le_add_left (Nat.add_le_add_left (Nat.zero_le _) _) _
  unfold Cursor.opening at hread ⊢
  obtain ⟨hm, hm'⟩ | ⟨mark, mark', hm, hm', hmark⟩ := hn.eat?_plain hplain '?'
  · rw [hm] at hread
    rw [hm']
    cases hread
    exact ⟨_, rfl, hn⟩
  · rw [hm] at hread
    rw [hm']
    dsimp only at hread ⊢
    split at hread
    iterate 3
      rename_i hk
      obtain ⟨hk', hkind⟩ := hmark.next hk (by decide)
      cases hread
      rw [hk']
      exact ⟨_, rfl, hkind⟩
    · rename_i hk
      obtain ⟨hk', hkind⟩ := hmark.next hk (by decide)
      rw [hk']
      simp only
      split at hread
      iterate 2
        rename_i hl
        obtain ⟨hl', hlook⟩ := hkind.next hl (by decide)
        cases hread
        rw [hl']
        exact ⟨_, rfl, hlook⟩
      · rename_i h₁ h₂
        split at hread <;> cases hread
        rename_i hname
        obtain ⟨after', hname', ha⟩ := hkind.groupName hname
        split
        · exact absurd (hkind.peek?_of ‹_› (by decide)) h₁
        · exact absurd (hkind.peek?_of ‹_› (by decide)) h₂
        · rw [hname']
          exact ⟨after', rfl, ha⟩
    · cases hread

end

end Follows
end Shortening
end RegexInsight
