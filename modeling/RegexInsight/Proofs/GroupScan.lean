import Mathlib.Data.List.Basic
import RegexInsight.Parser

/-! The count ahead of reading and the reading itself pass over the same characters. A move of the
cursor is inert if the count goes on behind it as it would have gone on before it, inside a class as
well as outside. Every reader of an escape, a name, a number or a quantifier moves inertly, although
the count knows nothing of escapes but that they hide one character. -/
namespace RegexInsight
namespace GroupCount

/-- A character that the count does not look at. -/
def isPlain (x : Char) : Bool := x != '\\' && x != '[' && x != ']' && x != '('

theorem scan_plain {x : Char} (hx : isPlain x) (inClass : Bool) (count : GroupCount)
    (rest : List Char) : scan inClass count (x :: rest) = scan inClass count rest := by
  simp only [isPlain, Bool.and_eq_true, bne_iff_ne, ne_eq] at hx
  rw [scan.eq_def]
  split <;> simp_all

theorem scan_escaped (x : Char) (inClass : Bool) (count : GroupCount) (rest : List Char) :
    scan inClass count ('\\' :: x :: rest) = scan inClass count rest := by
  rw [scan]

theorem scan_open (inClass : Bool) (count : GroupCount) (rest : List Char) :
    scan inClass count ('[' :: rest) = scan true count rest := by
  rw [scan]

theorem scan_close (inClass : Bool) (count : GroupCount) (rest : List Char) :
    scan inClass count (']' :: rest) = scan false count rest := by
  rw [scan]

theorem scan_group (count : GroupCount) (rest : List Char) :
    scan false count ('(' :: rest) = scan false (count.opened rest) rest := by
  rw [scan]
  rfl

/-- Inside a class only an escape and the closing bracket matter. -/
theorem scan_inside {x : Char} (h₁ : x ≠ '\\') (h₂ : x ≠ ']') (count : GroupCount)
    (rest : List Char) : scan true count (x :: rest) = scan true count rest := by
  rw [scan.eq_def]
  split <;> simp_all

/-- A class of characters is plain if it leaves out the four characters that are not. -/
theorem isPlain_of {p : Char → Bool} (h : p '\\' = false ∧ p '[' = false ∧ p ']' = false ∧
    p '(' = false) {x : Char} (hx : p x) : isPlain x := by
  simp only [isPlain, Bool.and_eq_true, bne_iff_ne, ne_eq]
  refine ⟨⟨⟨?_, ?_⟩, ?_⟩, ?_⟩ <;> rintro rfl <;> simp_all

theorem isPlain_of_isDigit {x : Char} (h : x.isDigit) : isPlain x := isPlain_of (by decide) h

theorem isPlain_of_isAlpha {x : Char} (h : x.isAlpha) : isPlain x := isPlain_of (by decide) h

theorem isPlain_of_isHexDigit {x : Char} (h : isHexDigit x) : isPlain x := isPlain_of (by decide) h

theorem isPlain_of_isNamePart {x : Char} (h : isNamePart x) : isPlain x := isPlain_of (by decide) h

theorem isPlain_of_hexValue? {x : Char} {d : Nat} (h : hexValue? x = some d) : isPlain x :=
  isPlain_of (p := fun x => (hexValue? x).isSome) (by decide) (by simp [h])

theorem isPlain_of_octalValue? {x : Char} {d : Nat} (h : octalValue? x = some d) : isPlain x :=
  isPlain_of (p := fun x => (octalValue? x).isSome) (by decide) (by simp [h])

end GroupCount

namespace Cursor

open GroupCount

/-- The count goes on behind the move from `c` to `after` as it goes on before it. -/
def Inert (c after : Cursor) : Prop :=
  ∀ inClass count, scan inClass count c.rest = scan inClass count after.rest

theorem Inert.refl (c : Cursor) : c.Inert c := fun _ _ => rfl

theorem Inert.trans {a b c : Cursor} (h₁ : a.Inert b) (h₂ : b.Inert c) : a.Inert c :=
  fun inClass count => (h₁ inClass count).trans (h₂ inClass count)

theorem Inert.symm {a b : Cursor} (h : a.Inert b) : b.Inert a :=
  fun inClass count => (h inClass count).symm

theorem rest_of_peek? {c : Cursor} {x : Char} (h : c.peek? = some x) :
    c.rest = x :: c.next.rest := by
  obtain ⟨rest, _, _⟩ := c
  cases rest with
  | nil => cases h
  | cons y rest =>
    cases h
    rfl

theorem next_inert {c : Cursor} {x : Char} (h : c.peek? = some x) (hx : isPlain x) :
    c.Inert c.next := by
  intro inClass count
  rw [rest_of_peek? h, scan_plain hx]

theorem peek?_of_eat? {c after : Cursor} {x : Char} (h : c.eat? x = some after) :
    c.peek? = some x ∧ c.next = after := by
  unfold eat? at h
  split at h
  · exact ⟨‹_›, Option.some.inj h⟩
  · cases h

theorem eat?_inert {c after : Cursor} {x : Char} (h : c.eat? x = some after) (hx : isPlain x) :
    c.Inert after := by
  obtain ⟨hp, rfl⟩ := peek?_of_eat? h
  exact next_inert hp hx

theorem spanWhile_inert {p : Char → Bool} (hp : ∀ x, p x → isPlain x) (c : Cursor) :
    c.Inert (c.spanWhile p).2 := by
  intro inClass count
  change scan inClass count c.rest = scan inClass count (c.rest.dropWhile p)
  induction c.rest with
  | nil => rfl
  | cons x rest ih =>
    by_cases hx : p x
    · rw [List.dropWhile_cons_of_pos hx, scan_plain (hp x hx), ih]
    · rw [List.dropWhile_cons_of_neg hx]

theorem escape_inert {c : Cursor} {x : Char} (h : c.peek? = some '\\') (hx : c.next.peek? = some x) :
    c.Inert c.next.next := by
  intro inClass count
  rw [rest_of_peek? h, rest_of_peek? hx, scan_escaped]

theorem number?_inert {c after : Cursor} {n : Nat} (h : c.number? = some (n, after)) :
    c.Inert after := by
  have hs := spanWhile_inert (fun _ => isPlain_of_isDigit) c
  unfold number? at h
  dsimp only at h
  split at h <;> cases h
  exact hs

theorem upperBound_inert (min : Nat) (c : Cursor) : c.Inert (c.upperBound min).2 := by
  unfold upperBound
  split
  · exact .refl c
  · rename_i hc
    have hcomma := eat?_inert hc rfl
    split
    · exact hcomma.trans (number?_inert ‹_›)
    · exact hcomma

theorem braces?_inert {c after : Cursor} {b : Nat × Option Nat}
    (h : c.braces? = some (b, after)) : c.Inert after := by
  unfold braces? at h
  split at h
  · cases h
  · rename_i hi
    split at h
    · cases h
    · rename_i min afterMin hm
      split at h
      · cases h
      · rename_i ha
        cases h
        exact (eat?_inert hi rfl).trans ((number?_inert hm).trans
          ((upperBound_inert min afterMin).trans (eat?_inert ha rfl)))

theorem bounds_inert {unicode : Bool} {c after : Cursor} {b : Nat × Option Nat}
    (h : c.bounds unicode = .ok (some (b, after))) : c.Inert after := by
  unfold bounds at h
  split at h
  iterate 3 · cases h; exact next_inert ‹_› rfl
  · split at h
    · rename_i hb
      split at h <;> cases h
      exact braces?_inert hb
    · split at h <;> cases h
  · cases h

theorem hexDigits?_inert {count value v : Nat} {c after : Cursor}
    (h : hexDigits? count value c = some (v, after)) : c.Inert after := by
  induction count generalizing value c with
  | zero =>
    cases h
    exact .refl _
  | succ n ih =>
    simp only [hexDigits?, Option.bind_eq_bind, Option.bind_eq_some_iff] at h
    obtain ⟨x, hx, d, hd, h⟩ := h
    exact (next_inert hx (isPlain_of_hexValue? hd)).trans (ih h)

theorem octalDigits_inert (count value : Nat) (c : Cursor) :
    c.Inert (octalDigits count value c).2 := by
  induction count generalizing value c with
  | zero => exact .refl c
  | succ n ih =>
    unfold octalDigits
    split
    · rename_i d hd
      obtain ⟨x, hx, hd⟩ := Option.bind_eq_some_iff.mp hd
      split
      · exact (next_inert hx (isPlain_of_octalValue? hd)).trans (ih _ _)
      · exact .refl c
    · exact .refl c

/-- Behind the first digit of an octal escape there are only digits. -/
theorem octal_inert (c : Cursor) : c.next.Inert c.octal.2 := by
  unfold octal
  dsimp only
  split
  · exact .refl _
  · exact octalDigits_inert _ _ _

theorem lowHalf?_inert {high : Nat} {c after : Cursor} {x : Char}
    (h : c.lowHalf? high = some (x, after)) : c.Inert after := by
  unfold lowHalf? at h
  split at h
  · simp only [Option.bind_eq_bind, Option.bind_eq_some_iff] at h
    obtain ⟨slash, h₁, u, h₂, ⟨low, afterLow⟩, h₃, h⟩ := h
    obtain ⟨hp, rfl⟩ := peek?_of_eat? h₁
    obtain ⟨hu, rfl⟩ := peek?_of_eat? h₂
    have hl := (escape_inert hp hu).trans (hexDigits?_inert h₃)
    split at h
    · rw [← (Prod.mk.inj (Option.some.inj h)).2]
      exact hl
    · cases h
  · cases h

theorem fourDigits?_inert {c after : Cursor} {x : Char} (h : c.fourDigits? = some (x, after)) :
    c.Inert after := by
  unfold fourDigits? at h
  split at h
  · cases h
  · rename_i high mid hm
    have hd := hexDigits?_inert hm
    cases hp : mid.lowHalf? high with
    | none =>
      rw [hp] at h
      cases h
      exact hd
    | some found =>
      rw [hp] at h
      cases h
      exact hd.trans (lowHalf?_inert hp)

theorem bracedCodePoint_inert {c after : Cursor} {x : Char} (hc : c.peek? = some '\x7b')
    (h : c.bracedCodePoint = .ok (x, after)) : c.Inert after := by
  unfold bracedCodePoint at h
  dsimp only at h
  split at h
  · rename_i he
    have hd := spanWhile_inert (fun _ => isPlain_of_isHexDigit) c.next
    split at h <;> cases h
    exact (next_inert hc rfl).trans (hd.trans (eat?_inert he rfl))
  · cases h

theorem codePoint_inert {unicode : Bool} {start : Nat} {c after : Cursor} {x : Char}
    (h : c.codePoint unicode start = .ok (x, after)) : c.Inert after := by
  unfold codePoint at h
  split at h
  · rename_i hb
    exact bracedCodePoint_inert (by simp_all) h
  · split at h
    · cases h
      exact fourDigits?_inert ‹_›
    · split at h <;> cases h
      exact .refl c

/-- What an escape goes on to read behind its first character is plain, and a lone backslash goes
back over nothing but a `c`. -/
theorem escapedChar_inert {unicode inClass : Bool} {start : Nat} {c after : Cursor} {x : Char}
    (h : c.escapedChar unicode start inClass = .ok (x, after)) :
    (∃ y, c.peek? = some y) ∧ c.next.Inert after := by
  unfold escapedChar at h
  split at h
  · cases h
  · rename_i y hy
    refine ⟨⟨y, hy⟩, ?_⟩
    have ho := octal_inert c
    dsimp only at h
    split at h
    all_goals try (cases h; exact .refl _)
    · have hlone : c.next.Inert c := fun _ _ => by rw [rest_of_peek? hy, scan_plain rfl]
      split at h
      · rename_i letter hl
        split at h
        · rename_i ha
          cases h
          exact next_inert hl (isPlain_of_isAlpha ha)
        · split at h <;> cases h
          exact hlone
      · split at h <;> cases h
        exact hlone
    · split at h
      · cases h
        exact hexDigits?_inert ‹_›
      · split at h <;> cases h
        exact .refl _
    · exact codePoint_inert h
    · repeat' split at h
      all_goals first
        | cases h; exact .refl _
        | (rw [Except.ok.inj h] at ho; exact ho)
        | cases h

theorem property_inert {negate : Bool} {start : Nat} {c after : Cursor} {s : CharSet}
    (h : c.property negate start = .ok (s, after)) : c.Inert after := by
  unfold property at h
  split at h
  · cases h
  · rename_i inside hi
    have hp : ∀ x : Char, x.isAlphanum || x == '_' || x == '=' → isPlain x := fun _ =>
      isPlain_of (p := fun x => x.isAlphanum || x == '_' || x == '=') (by decide)
    have hb := (eat?_inert hi rfl).trans (spanWhile_inert hp inside)
    dsimp only at h
    split at h
    · cases h
    all_goals
      rename_i ha _
      split at h <;> cases h
      exact hb.trans (eat?_inert ha rfl)

theorem groupName_inert {c after : Cursor} {s : String} (h : c.groupName = .ok (s, after)) :
    c.Inert after := by
  unfold groupName at h
  have hn := spanWhile_inert (fun _ => isPlain_of_isNamePart) c
  dsimp only at h
  split at h
  · rename_i ha
    split at h <;> cases h
    exact hn.trans (eat?_inert ha rfl)
  · cases h

/-- The count goes on behind the move as before it, once the class state has changed from `b` to
`b'`. -/
def Passes (b b' : Bool) (c after : Cursor) : Prop :=
  ∀ count, scan b count c.rest = scan b' count after.rest

theorem Inert.passes {c after : Cursor} (h : c.Inert after) (b : Bool) : Passes b b c after :=
  fun count => h b count

theorem Passes.trans {x y z : Bool} {a b c : Cursor} (h₁ : Passes x y a b) (h₂ : Passes y z b c) :
    Passes x z a c := fun count => (h₁ count).trans (h₂ count)

theorem classAtom_passes {unicode : Bool} {c after : Cursor} {m : ClassMember}
    (hc : c.peek? ≠ some ']') (h : c.classAtom unicode = .ok (m, after)) :
    Passes true true c after := by
  obtain ⟨x, hx, hread⟩ := classAtom_read h
  have hescape : ∀ y, x = '\\' → c.next.peek? = some y → c.Inert c.next.next := by
    rintro y rfl hy
    exact escape_inert hx hy
  cases hread with
  | literal hne =>
    have hclose : x ≠ ']' := fun he => hc (he ▸ hx)
    intro count
    rw [rest_of_peek? hx, scan_inside hne hclose]
  | shorthand hs hy | backspace hs hy => exact (hescape _ hs hy).passes true
  | property hs hy hp => exact ((hescape _ hs hy).trans (property_inert hp)).passes true
  | octal hs hy => exact ((hescape _ hs hy).trans (octal_inert c.next)).passes true
  | char hs hy hr => exact ((hescape _ hs hy).trans (escapedChar_inert hr).2).passes true

theorem atRangeDash_passes {c : Cursor} (h : c.atRangeDash) :
    Passes true true c c.next ∧ c.next.peek? ≠ some ']' := by
  simp only [atRangeDash, Bool.and_eq_true, beq_iff_eq] at h
  refine ⟨(next_inert h.1 rfl).passes true, ?_⟩
  intro hb
  simp [hb] at h

theorem classItem_passes {unicode : Bool} {c after : Cursor} {ms : List ClassMember}
    (hc : c.peek? ≠ some ']') (h : c.classItem unicode = .ok (ms, after)) :
    Passes true true c after := by
  unfold classItem at h
  split at h
  · cases h
  · rename_i first dash hfirst
    have h₁ := classAtom_passes hc hfirst
    split at h
    · cases h
      exact h₁
    · rename_i hdash
      obtain ⟨h₂, hd⟩ := atRangeDash_passes (by simpa using hdash)
      split at h
      · cases h
      · rename_i hsecond
        have h₃ := h₁.trans (h₂.trans (classAtom_passes hd hsecond))
        split at h <;> split at h <;> cases h <;> exact h₃

theorem classMembers_passes {unicode : Bool} {found ms : List ClassMember} {c after : Cursor}
    (h : c.classMembers unicode found = .ok (ms, after)) : Passes true false c after := by
  fun_induction classMembers unicode found c with
  | case1 => cases h
  | case2 found c hc =>
    cases h
    intro count
    rw [rest_of_peek? hc, scan_close]
  | case3 => cases h
  | case4 found c x hne hx item next hi ih =>
    have hc : c.peek? ≠ some ']' := fun he => hne (Option.some.inj (hx.symm.trans he))
    exact (classItem_passes hc hi).trans (ih h)

theorem bracket_passes {unicode : Bool} {c after : Cursor} {e : Element} (hc : c.peek? = some '[')
    (h : c.bracket unicode = .ok (e, after)) : Passes false false c after := by
  have hopen : Passes false true c c.next := fun count => by rw [rest_of_peek? hc, scan_open]
  have hcaret : Passes true true c.next ((c.next.eat? '^').getD c.next) := by
    cases he : c.next.eat? '^' with
    | none => exact (Inert.refl _).passes true
    | some inside => exact (eat?_inert he rfl).passes true
  unfold bracket at h
  dsimp only at h
  split at h
  · cases h
  · rename_i hm
    cases h
    exact hopen.trans (hcaret.trans (classMembers_passes hm))

theorem isDigit_of_nonzero {x : Char} (h : ('1' ≤ x && x ≤ '9') = true) : x.isDigit := by
  simp only [Bool.and_eq_true, decide_eq_true_eq, Char.le_def, Char.isDigit] at *
  exact ⟨Nat.le_trans (by decide) h.1, h.2⟩

theorem escapeAtom_inert {d : Dialect} {c after : Cursor} {e : Element} (hc : c.peek? = some '\\')
    (h : c.escapeAtom d = .ok (e, after)) : c.Inert after := by
  obtain ⟨x, hx, hread⟩ := escapeAtom_read h
  have he := escape_inert hc hx
  cases hread with
  | shorthand | wordBoundary | nonWordBoundary => exact he
  | name _ _ hi hn => exact he.trans ((eat?_inert hi rfl).trans (groupName_inert hn))
  | property _ _ hp => exact he.trans (property_inert hp)
  | index hdigit hn _ =>
    -- the number begins with the digit that the escape has hidden
    have hback := next_inert hx (isPlain_of_isDigit (isDigit_of_nonzero hdigit))
    exact he.trans (hback.symm.trans (number?_inert hn))
  | octal => exact he.trans (octal_inert c.next)
  | char hr => exact he.trans (escapedChar_inert hr).2

theorem atom_passes {d : Dialect} {c after : Cursor} {e : Element} {x : Char}
    (hc : c.peek? = some x) (hx : x ≠ '(') (h : c.atom d x = .ok (e, after)) :
    Passes false false c after := by
  unfold atom at h
  dsimp only at h
  split at h
  · exact bracket_passes hc h
  · exact (escapeAtom_inert hc h).passes false
  iterate 3 · cases h; exact (next_inert hc rfl).passes false
  iterate 3 · cases h
  · repeat' split at h
    all_goals cases h
    exact (next_inert hc rfl).passes false
  · split at h <;> cases h
    exact (next_inert hc rfl).passes false
  · split at h <;> cases h
    exact fun count => by rw [rest_of_peek? hc, scan_close]
  · rename_i h₁ h₂ _ _ _ _ _ _ _ _ h₃
    cases h
    have hplain : isPlain x := by simp_all [isPlain]
    exact (next_inert hc hplain).passes false

end Cursor

/-- The count with the capture group that a bracket opens, if it opens one. -/
def Shell.countedBy (count : GroupCount) : Shell → GroupCount
  | group (some capture) => ⟨count.total + 1, count.named || capture.name.isSome⟩
  | _ => count

namespace Cursor

open GroupCount

theorem opened_of_ne {rest : List Char} (h : rest.head? ≠ some '?') (count : GroupCount) :
    count.opened rest = ⟨count.total + 1, count.named⟩ := by
  unfold opened
  split <;> simp_all

theorem opened_of_lt {rest : List Char} (h₁ : rest.head? ≠ some '=') (h₂ : rest.head? ≠ some '!')
    (count : GroupCount) : count.opened ('?' :: '<' :: rest) = ⟨count.total + 1, true⟩ := by
  match rest with
  | [] => rfl
  | x :: rest =>
    unfold opened
    split
    iterate 2 · simp_all
    · rfl
    · rename_i hlt heq
      exact absurd (List.cons.inj heq).2.symm (hlt _)
    · simp_all

/-- What the count makes of an opening bracket is what the reading makes of it. -/
theorem opening_counted {n : Nat} {c after : Cursor} {shell : Shell} (hc : c.peek? = some '(')
    (h : c.opening n = .ok (shell, after)) (count : GroupCount) :
    scan false count c.rest = scan false (shell.countedBy count) after.rest := by
  rw [rest_of_peek? hc, scan_group]
  unfold opening at h
  split at h
  · rename_i hm
    cases h
    rw [opened_of_ne (fun hq => by simp [eat?, peek?, hq] at hm)]
    simp [Shell.countedBy]
  · rename_i mark hm
    obtain ⟨hq, rfl⟩ := peek?_of_eat? hm
    have hquestion := (next_inert hq rfl).passes false
    dsimp only at h
    split at h
    iterate 3
      rename_i hk
      cases h
      rw [hquestion.trans ((next_inert hk rfl).passes false), rest_of_peek? hq, rest_of_peek? hk]
      rfl
    · rename_i hk
      have hlt := hquestion.trans ((next_inert hk rfl).passes false)
      split at h
      iterate 2
        rename_i hb
        cases h
        rw [hlt.trans ((next_inert hb rfl).passes false), rest_of_peek? hq, rest_of_peek? hk,
          rest_of_peek? hb]
        rfl
      · rename_i h₁ h₂
        split at h
        · cases h
        · rename_i hg
          cases h
          rw [hlt.trans ((groupName_inert hg).passes false), rest_of_peek? hq, rest_of_peek? hk,
            opened_of_lt (fun he => h₁ he) (fun he => h₂ he)]
          simp [Shell.countedBy]
    · cases h

end Cursor

theorem Element.withQuantifier_inert {unicode : Bool} {atom e : Element} {c after : Cursor}
    (h : atom.withQuantifier unicode c = .ok (e, after)) : c.Inert after := by
  unfold Element.withQuantifier at h
  split at h
  · cases h
  · cases h
    exact .refl _
  · rename_i afterBounds hb
    have hbounds := Cursor.bounds_inert hb
    dsimp only at h
    split at h
    · cases h
    · split at h
      · cases h
      · cases h
        cases hl : afterBounds.eat? '?' with
        | none => exact hbounds
        | some after => exact hbounds.trans (Cursor.eat?_inert hl rfl)

namespace Reading

/-- The capture groups that have been opened so far, counted. -/
def counted (r : Reading) : GroupCount := ⟨r.names.size, r.names.any Option.isSome⟩

theorem addTerm_passes {d : Dialect} {atom : Element} {c : Cursor} {outer : Level} {r s : Reading}
    (h : addTerm d atom c outer r = .ok s) :
    Cursor.Passes false false c s.cursor ∧ s.counted = r.counted := by
  unfold addTerm at h
  split at h
  · cases h
  · rename_i hq
    cases h
    exact ⟨(Element.withQuantifier_inert hq).passes false, rfl⟩

theorem openGroup_counted {r s : Reading} (hr : r.cursor.peek? = some '(')
    (h : r.openGroup = .ok s) :
    GroupCount.scan false s.counted s.cursor.rest =
      GroupCount.scan false r.counted r.cursor.rest := by
  unfold openGroup at h
  split at h
  · cases h
  · rename_i shell inside ho
    have hcount := Cursor.opening_counted hr ho r.counted
    dsimp only at h
    split at h
    · split at h <;> cases h
      rw [hcount]
      simp [counted, Shell.countedBy]
    · rename_i hshell
      cases h
      rw [hcount]
      cases shell with
      | look => rfl
      | group capture =>
        cases capture with
        | none => rfl
        | some capture => exact absurd rfl (hshell capture)

@[simp] theorem noteReference_counted (offset : Nat) (e : Element) (r : Reading) :
    (r.noteReference offset e).counted = r.counted := by
  unfold noteReference
  split <;> rfl

/-- One step keeps what the count ahead will say of the whole text. -/
theorem step_counted {d : Dialect} {x : Char} {r s : Reading} (hr : r.cursor.peek? = some x)
    (h : r.step d x = .ok s) :
    GroupCount.scan false s.counted s.cursor.rest =
      GroupCount.scan false r.counted r.cursor.rest := by
  unfold step at h
  split at h
  · cases h
    exact ((Cursor.next_inert hr rfl).passes false _).symm
  · unfold closeGroup at h
    split at h
    · cases h
    · obtain ⟨hp, hs⟩ := addTerm_passes h
      rw [hs]
      exact (((Cursor.next_inert hr rfl).passes false).trans hp r.counted).symm
  · exact openGroup_counted hr h
  · split at h
    · cases h
    · rename_i ha
      obtain ⟨hp, hs⟩ := addTerm_passes h
      rw [hs, noteReference_counted]
      exact ((Cursor.atom_passes hr (by assumption) ha).trans hp r.counted).symm

end Reading
end RegexInsight
