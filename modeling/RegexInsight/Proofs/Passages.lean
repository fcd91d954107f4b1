import RegexInsight.Proofs.GroupScan
import RegexInsight.Proofs.Slices

/-! Where a cursor stands. A reader leaves the cursor behind the text that it has read: as many characters
and bytes further as that text takes, with the rest of the text before it. A lone backslash is the one escape
that reads nothing behind its backslash. -/
namespace RegexInsight
namespace Cursor

/-- The cursor passes over `text`. -/
structure Reads (c : Cursor) (text : List Char) (after : Cursor) : Prop where
  rest : c.rest = text ++ after.rest
  offset : after.offset = c.offset + text.length
  byte : after.byte = c.byte + width text

/-- The cursor passes over some text. -/
def Reaches (c after : Cursor) : Prop := ∃ text, c.Reads text after

theorem Reads.trans {a b c : Cursor} {s t : List Char} (h₁ : a.Reads s b) (h₂ : b.Reads t c) :
    a.Reads (s ++ t) c := by
  refine ⟨?_, ?_, ?_⟩
  · rw [h₁.rest, h₂.rest, List.append_assoc]
  · rw [h₂.offset, h₁.offset, List.length_append, Nat.add_assoc]
  · rw [h₂.byte, h₁.byte, width_append, Nat.add_assoc]

theorem Reaches.refl (c : Cursor) : c.Reaches c := ⟨[], rfl, rfl, rfl⟩

theorem Reaches.trans {a b c : Cursor} (h₁ : a.Reaches b) (h₂ : b.Reaches c) : a.Reaches c := by
  obtain ⟨s, hs⟩ := h₁
  obtain ⟨t, ht⟩ := h₂
  exact ⟨s ++ t, hs.trans ht⟩

theorem Reaches.byte_le {c after : Cursor} (h : c.Reaches after) : c.byte ≤ after.byte := by
  obtain ⟨text, ht⟩ := h
  rw [ht.byte]
  exact Nat.le_add_right _ _

theorem Reads.byte_lt {c after : Cursor} {text : List Char} (h : c.Reads text after)
    (hne : text ≠ []) : c.byte < after.byte := by
  rw [h.byte]
  exact Nat.lt_add_of_pos_right (width_pos hne)

theorem Reaches.byte_lt {c after : Cursor} (h : c.Reaches after)
    (hl : after.rest.length < c.rest.length) : c.byte < after.byte := by
  obtain ⟨text, ht⟩ := h
  refine ht.byte_lt ?_
  rintro rfl
  rw [ht.rest] at hl
  exact absurd hl (Nat.lt_irrefl _)

theorem next_reads {c : Cursor} {x : Char} (h : c.peek? = some x) : c.Reads [x] c.next := by
  obtain ⟨rest, offset, byte⟩ := c
  cases rest with
  | nil => cases h
  | cons y rest =>
    cases h
    exact ⟨rfl, rfl, by simp [next, width_cons]⟩

theorem byte_lt_next {c : Cursor} {x : Char} (h : c.peek? = some x) : c.byte < c.next.byte :=
  (next_reads h).byte_lt (List.cons_ne_nil x [])

theorem next_reaches (c : Cursor) : c.Reaches c.next := by
  cases h : c.peek? with
  | some x => exact ⟨[x], next_reads h⟩
  | none =>
    have hend : c.next = c := by
      have : c.rest = [] := by simpa [peek?] using h
      simp [next, this]
    rw [hend]
    exact .refl c

theorem eat?_reads {c after : Cursor} {x : Char} (h : c.eat? x = some after) :
    c.Reads [x] after := by
  obtain ⟨hp, rfl⟩ := peek?_of_eat? h
  exact next_reads hp

theorem eat?_reaches {c after : Cursor} {x : Char} (h : c.eat? x = some after) :
    c.Reaches after := ⟨[x], eat?_reads h⟩

theorem eat?_getD_reads (c : Cursor) (x : Char) :
    c.Reads (if (c.eat? x).isNone then [] else [x]) ((c.eat? x).getD c) := by
  cases h : c.eat? x with
  | none => exact ⟨rfl, rfl, rfl⟩
  | some after => exact eat?_reads h

theorem spanWhile_reads (p : Char → Bool) (c : Cursor) :
    c.Reads (c.spanWhile p).1 (c.spanWhile p).2 :=
  ⟨(List.takeWhile_append_dropWhile (p := p) (l := c.rest)).symm, rfl, rfl⟩

theorem spanWhile_reaches (p : Char → Bool) (c : Cursor) : c.Reaches (c.spanWhile p).2 :=
  ⟨_, spanWhile_reads p c⟩

theorem Reads.eq {c a b : Cursor} {text : List Char} (ha : c.Reads text a) (hb : c.Reads text b) :
    a = b := by
  obtain ⟨hrest, hoffset, hbyte⟩ := ha
  rw [hb.rest, List.append_cancel_left_eq] at hrest
  rw [← hb.offset] at hoffset
  rw [← hb.byte] at hbyte
  cases a
  cases b
  simp_all

theorem Reads.split {c after : Cursor} {s t : List Char} (h : c.Reads (s ++ t) after) :
    ∃ middle, c.Reads s middle ∧ middle.Reads t after := by
  refine ⟨⟨t ++ after.rest, c.offset + s.length, c.byte + width s⟩, ⟨?_, rfl, rfl⟩, rfl, ?_, ?_⟩
  · rw [h.rest, List.append_assoc]
  · rw [h.offset, List.length_append, Nat.add_assoc]
  · rw [h.byte, width_append, Nat.add_assoc]

theorem Reads.cons {c after : Cursor} {x : Char} {text : List Char} (h : c.Reads (x :: text) after) :
    c.peek? = some x ∧ c.next.Reads text after := by
  have hx : c.peek? = some x := by rw [peek?, h.rest, List.cons_append, List.head?_cons]
  obtain ⟨middle, hfirst, hmore⟩ := Reads.split (s := [x]) h
  rw [hfirst.eq (next_reads hx)] at hmore
  exact ⟨hx, hmore⟩

theorem Reads.singleton {c after : Cursor} {x : Char} (h : c.Reads [x] after) :
    c.eat? x = some after := by
  have hx := h.cons.1
  rw [eat?, if_pos hx, h.eq (next_reads hx)]

theorem Reads.spanWhile {p : Char → Bool} {c after : Cursor} {text : List Char}
    (h : c.Reads text after) (ht : ∀ x ∈ text, p x) (hr : ∀ x ∈ after.peek?, p x = false) :
    c.spanWhile p = (text, after) := by
  have htaken : (c.spanWhile p).1 = text := by
    rw [Cursor.spanWhile, h.rest, List.takeWhile_append_of_pos ht]
    cases hx : after.rest with
    | nil => simp
    | cons x rest =>
      have hx : p x = false := hr x (by rw [peek?, hx, List.head?_cons]; rfl)
      simp [hx]
  have hreads := spanWhile_reads p c
  rw [htaken] at hreads
  exact Prod.ext htaken (hreads.eq h)

theorem peek?_spanWhile {p : Char → Bool} {c : Cursor} {x : Char}
    (h : (c.spanWhile p).2.peek? = some x) : p x = false := by
  have hhead := List.head?_dropWhile_not p c.rest
  rw [Cursor.spanWhile, peek?] at h
  rw [h] at hhead
  exact hhead

end Cursor

/-- The number that some digits make up, however many they are. -/
def numeralValue (digits : List Char) : Nat := Nat.ofDigitChars 10 digits 0

/-- Digits that make up a number, and its value, clipped at `maxBound`. -/
structure Numeral (digits : List Char) (n : Nat) : Prop where
  ne_nil : digits ≠ []
  isDigit : ∀ x ∈ digits, x.isDigit
  value : n = min (numeralValue digits) maxBound

/-- Bounds in braces, and what they are. -/
inductive BracesText : List Char → Nat → Option Nat → Prop
  | exactly {digits : List Char} {n : Nat} (h : Numeral digits n) :
    BracesText ('\x7b' :: (digits ++ ['\x7d'])) n (some n)
  | atLeast {digits : List Char} {n : Nat} (h : Numeral digits n) :
    BracesText ('\x7b' :: (digits ++ [',', '\x7d'])) n none
  | between {low high : List Char} {min max : Nat} (hl : Numeral low min) (hh : Numeral high max) :
    BracesText ('\x7b' :: (low ++ ',' :: (high ++ ['\x7d']))) min (some max)

/-- What a quantifier is written as, its lazy mark left out, and its bounds. -/
inductive BoundsText : List Char → Nat → Option Nat → Prop
  | star : BoundsText ['*'] 0 none
  | plus : BoundsText ['+'] 1 none
  | optional : BoundsText ['?'] 0 (some 1)
  | braces {text : List Char} {min : Nat} {max : Option Nat} (h : BracesText text min max) :
    BoundsText text min max

/-- Clipping while the digits are read is clipping their number. -/
theorem boundValue_eq (digits : List Char) :
    boundValue digits = min (numeralValue digits) maxBound := by
  have hclipped : ∀ n, digits.foldl (fun n d => Nat.min (n * 10 + (d.toNat - 0x30)) maxBound)
      (min n maxBound) = min (Nat.ofDigitChars 10 digits n) maxBound := by
    induction digits with
    | nil => exact fun n => rfl
    | cons d digits ih =>
      intro n
      have hstep : Nat.min (min n maxBound * 10 + (d.toNat - 0x30)) maxBound =
          min (10 * n + (d.toNat - 0x30)) maxBound := by
        show min _ _ = _
        omega
      rw [List.foldl_cons, hstep, ih]
      rfl
  exact hclipped 0

theorem BracesText.head? {text : List Char} {min : Nat} {max : Option Nat}
    (h : BracesText text min max) : text.head? = some '\x7b' := by
  cases h <;> rfl

theorem BoundsText.ne_nil {text : List Char} {min : Nat} {max : Option Nat}
    (h : BoundsText text min max) : text ≠ [] := by
  cases h with
  | braces h =>
    rintro rfl
    cases h.head?
  | _ => exact List.cons_ne_nil _ _

namespace Cursor

variable {c after : Cursor} {text : List Char} {n min : Nat} {max : Option Nat}

/-- A number is all the digits that stand there. -/
theorem number?_iff : c.number? = some (n, after) ↔
    ∃ digits, Numeral digits n ∧ c.Reads digits after ∧ ∀ x ∈ after.peek?, x.isDigit = false := by
  constructor
  · intro h
    have hreads := spanWhile_reads Char.isDigit c
    have hdigits := List.all_eq_true.mp (List.all_takeWhile (p := Char.isDigit) (l := c.rest))
    have hstop : ∀ x ∈ (c.spanWhile Char.isDigit).2.peek?, x.isDigit = false :=
      fun _ hx => peek?_spanWhile hx
    unfold number? at h
    dsimp only at h
    split at h <;> cases h
    rename_i hne
    exact ⟨_, ⟨fun hnil => hne (List.isEmpty_iff.mpr hnil), hdigits, boundValue_eq _⟩, hreads, hstop⟩
  · rintro ⟨digits, hd, hreads, hstop⟩
    rw [number?, hreads.spanWhile hd.isDigit hstop, hd.value, ← boundValue_eq]
    simp [hd.ne_nil]

theorem number?_reaches (h : c.number? = some (n, after)) : c.Reaches after := by
  obtain ⟨digits, -, hreads, -⟩ := number?_iff.mp h
  exact ⟨digits, hreads⟩

theorem braces?_reads (h : c.braces? = some ((min, max), after)) :
    ∃ text, BracesText text min max ∧ c.Reads text after := by
  unfold braces? at h
  split at h
  · cases h
  · rename_i hi
    split at h
    · cases h
    · rename_i low afterMin hm
      obtain ⟨digits, hd, hmin, -⟩ := number?_iff.mp hm
      have hopen := (eat?_reads hi).trans hmin
      unfold upperBound at h
      cases hc : afterMin.eat? ',' with
      | none =>
        rw [hc] at h
        split at h <;> cases h
        rename_i ha
        exact ⟨_, .exactly hd, by simpa using hopen.trans (eat?_reads ha)⟩
      | some afterComma =>
        rw [hc] at h
        have hcomma := hopen.trans (eat?_reads hc)
        dsimp only at h
        cases hn : afterComma.number? with
        | none =>
          rw [hn] at h
          split at h <;> cases h
          rename_i ha
          exact ⟨_, .atLeast hd, by simpa using hcomma.trans (eat?_reads ha)⟩
        | some found =>
          obtain ⟨high, hh, hmax, -⟩ := number?_iff.mp hn
          rw [hn] at h
          split at h <;> cases h
          rename_i ha
          exact ⟨_, .between hd hh, by simpa using (hcomma.trans hmax).trans (eat?_reads ha)⟩

theorem braces?_of_reads (ht : BracesText text min max) (h : c.Reads text after) :
    c.braces? = some ((min, max), after) := by
  obtain ⟨x, more, rfl⟩ : ∃ x more, text = x :: more := by cases ht <;> exact ⟨_, _, rfl⟩
  have hopen : c.eat? x = some c.next := by rw [eat?, if_pos h.cons.1]
  have hinside := h.cons.2
  unfold braces?
  cases ht with
  | exactly hd =>
    obtain ⟨afterMin, hmin, hclose⟩ := hinside.split
    have hnumber := number?_iff.mpr ⟨_, hd, hmin, by simp [hclose.cons.1]⟩
    have hcomma : afterMin.eat? ',' = none := by rw [eat?, hclose.cons.1]; rfl
    simp [hopen, hnumber, upperBound, hcomma, hclose.singleton]
  | atLeast hd =>
    obtain ⟨afterMin, hmin, hrest⟩ := hinside.split
    have hnumber := number?_iff.mpr ⟨_, hd, hmin, by simp [hrest.cons.1]⟩
    have hcomma : afterMin.eat? ',' = some afterMin.next := by rw [eat?, if_pos hrest.cons.1]
    have hclose := hrest.cons.2
    have hnone : afterMin.next.number? = none := by
      cases hn : afterMin.next.number? with
      | none => rfl
      | some found =>
        obtain ⟨digits, hd, hread, -⟩ := number?_iff.mp hn
        obtain ⟨d, digits, rfl⟩ := List.exists_cons_of_ne_nil hd.ne_nil
        have hdigit := hd.isDigit d List.mem_cons_self
        rw [Option.some.inj (hread.cons.1.symm.trans hclose.cons.1)] at hdigit
        exact absurd hdigit (by decide)
    simp [hopen, hnumber, upperBound, hcomma, hnone, hclose.singleton]
  | between hl hh =>
    obtain ⟨afterMin, hmin, hrest⟩ := hinside.split
    have hnumber := number?_iff.mpr ⟨_, hl, hmin, by simp [hrest.cons.1]⟩
    have hcomma : afterMin.eat? ',' = some afterMin.next := by rw [eat?, if_pos hrest.cons.1]
    obtain ⟨afterMax, hmax, hclose⟩ := hrest.cons.2.split
    have hnumber' := number?_iff.mpr ⟨_, hh, hmax, by simp [hclose.cons.1]⟩
    simp [hopen, hnumber, upperBound, hcomma, hnumber', hclose.singleton]

/-- A quantifier is read as it is written. -/
theorem bounds_reads {unicode : Bool} (h : c.bounds unicode = .ok (some ((min, max), after))) :
    ∃ text, BoundsText text min max ∧ c.Reads text after := by
  unfold bounds at h
  split at h
  · cases h
    exact ⟨_, .star, next_reads ‹_›⟩
  · cases h
    exact ⟨_, .plus, next_reads ‹_›⟩
  · cases h
    exact ⟨_, .optional, next_reads ‹_›⟩
  · split at h
    · rename_i hb
      split at h <;> cases h
      obtain ⟨text, ht, hreads⟩ := braces?_reads hb
      exact ⟨text, .braces ht, hreads⟩
    · split at h <;> cases h
  · cases h

theorem hexDigits?_reaches {count value v : Nat} {c after : Cursor}
    (h : hexDigits? count value c = some (v, after)) : c.Reaches after := by
  induction count generalizing value c with
  | zero =>
    cases h
    exact .refl _
  | succ n ih =>
    simp only [hexDigits?, Option.bind_eq_bind, Option.bind_eq_some_iff] at h
    obtain ⟨_, _, _, _, h⟩ := h
    exact (next_reaches c).trans (ih h)

theorem octalDigits_reaches (count value : Nat) (c : Cursor) :
    c.Reaches (octalDigits count value c).2 := by
  induction count generalizing value c with
  | zero => exact .refl c
  | succ n ih =>
    unfold octalDigits
    split
    · split
      · exact (next_reaches c).trans (ih _ _)
      · exact .refl c
    · exact .refl c

theorem octal_reaches (c : Cursor) : c.next.Reaches c.octal.2 := by
  unfold octal
  dsimp only
  split
  · exact .refl _
  · exact octalDigits_reaches _ _ _

theorem lowHalf?_reaches {high : Nat} {c after : Cursor} {x : Char}
    (h : c.lowHalf? high = some (x, after)) : c.Reaches after := by
  unfold lowHalf? at h
  split at h
  · simp only [Option.bind_eq_bind, Option.bind_eq_some_iff] at h
    obtain ⟨slash, h₁, u, h₂, ⟨low, afterLow⟩, h₃, h⟩ := h
    have hl := (eat?_reaches h₁).trans ((eat?_reaches h₂).trans (hexDigits?_reaches h₃))
    split at h
    · rw [← (Prod.mk.inj (Option.some.inj h)).2]
      exact hl
    · cases h
  · cases h

theorem fourDigits?_reaches {c after : Cursor} {x : Char} (h : c.fourDigits? = some (x, after)) :
    c.Reaches after := by
  unfold fourDigits? at h
  split at h
  · cases h
  · rename_i high mid hm
    have hd := hexDigits?_reaches hm
    cases hp : mid.lowHalf? high with
    | none =>
      rw [hp] at h
      cases h
      exact hd
    | some found =>
      rw [hp] at h
      cases h
      exact hd.trans (lowHalf?_reaches hp)

theorem bracedCodePoint_reaches {c after : Cursor} {x : Char}
    (h : c.bracedCodePoint = .ok (x, after)) : c.Reaches after := by
  unfold bracedCodePoint at h
  dsimp only at h
  split at h
  · rename_i he
    have hd := spanWhile_reaches isHexDigit c.next
    split at h <;> cases h
    exact (next_reaches c).trans (hd.trans (eat?_reaches he))
  · cases h

theorem bracedCodePoint_byte_lt {c after : Cursor} {x : Char} (hc : c.peek? = some '\x7b')
    (h : c.bracedCodePoint = .ok (x, after)) : c.byte < after.byte := by
  refine Nat.lt_of_lt_of_le (byte_lt_next hc) (Reaches.byte_le ?_)
  unfold bracedCodePoint at h
  dsimp only at h
  split at h
  · rename_i he
    split at h <;> cases h
    exact (spanWhile_reaches isHexDigit c.next).trans (eat?_reaches he)
  · cases h

theorem codePoint_reaches {unicode : Bool} {start : Nat} {c after : Cursor} {x : Char}
    (h : c.codePoint unicode start = .ok (x, after)) : c.Reaches after := by
  unfold codePoint at h
  split at h
  · exact bracedCodePoint_reaches h
  · split at h
    · cases h
      exact fourDigits?_reaches ‹_›
    · split at h <;> cases h
      exact .refl c

/-- An escape is read from the character behind the backslash on, and a lone backslash goes no
further than that. -/
theorem escapedChar_reaches {unicode inClass : Bool} {start : Nat} {c after : Cursor} {x : Char}
    (h : c.escapedChar unicode start inClass = .ok (x, after)) : c.Reaches after := by
  have hn := next_reaches c
  unfold escapedChar at h
  split at h
  · cases h
  · dsimp only at h
    split at h
    all_goals try (cases h; exact hn)
    · split at h
      · split at h
        · cases h
          exact hn.trans (next_reaches _)
        · split at h <;> cases h
          exact .refl c
      · split at h <;> cases h
        exact .refl c
    · split at h
      · cases h
        exact hn.trans (hexDigits?_reaches ‹_›)
      · split at h <;> cases h
        exact hn
    · exact hn.trans (codePoint_reaches h)
    · have ho := octal_reaches c
      repeat' split at h
      all_goals first
        | cases h; exact hn
        | (rw [Except.ok.inj h] at ho; exact hn.trans ho)
        | cases h

theorem property_braces {negate : Bool} {start : Nat} {c after : Cursor} {s : CharSet}
    (h : c.property negate start = .ok (s, after)) :
    ∃ inside, c.eat? '\x7b' = some inside ∧ inside.Reaches after := by
  unfold property at h
  split at h
  · cases h
  · rename_i inside hi
    have hb := spanWhile_reaches (fun x => x.isAlphanum || x == '_' || x == '=') inside
    refine ⟨inside, hi, ?_⟩
    dsimp only at h
    split at h
    · cases h
    all_goals
      rename_i ha _
      split at h <;> cases h
      exact hb.trans (eat?_reaches ha)

theorem property_reaches {negate : Bool} {start : Nat} {c after : Cursor} {s : CharSet}
    (h : c.property negate start = .ok (s, after)) : c.Reaches after := by
  obtain ⟨inside, hi, hr⟩ := property_braces h
  exact (eat?_reaches hi).trans hr

theorem groupName_reads {c after : Cursor} {s : String} (h : c.groupName = .ok (s, after)) :
    c.Reads (s.toList ++ ['>']) after := by
  unfold groupName at h
  have hn := spanWhile_reads isNamePart c
  dsimp only at h
  split at h
  · rename_i ha
    split at h <;> cases h
    simpa using hn.trans (eat?_reads ha)
  · cases h

theorem groupName_reaches {c after : Cursor} {s : String} (h : c.groupName = .ok (s, after)) :
    c.Reaches after := ⟨_, groupName_reads h⟩

theorem classAtom_reaches {unicode : Bool} {c after : Cursor} {m : ClassMember}
    (h : c.classAtom unicode = .ok (m, after)) :
    c.Reaches after ∧ m.span = ⟨c.byte, after.byte⟩ := by
  obtain ⟨x, hx, hread⟩ := classAtom_read h
  have hn := next_reaches c
  have hnn := hn.trans (next_reaches c.next)
  cases hread with
  | literal => exact ⟨hn, rfl⟩
  | shorthand | backspace => exact ⟨hnn, rfl⟩
  | property _ _ hp => exact ⟨hnn.trans (property_reaches hp), rfl⟩
  | octal => exact ⟨hnn.trans (octal_reaches c.next), rfl⟩
  | char _ _ he => exact ⟨hn.trans (escapedChar_reaches he), rfl⟩

theorem escapeAtom_reaches {d : Dialect} {c after : Cursor} {e : Element}
    (h : c.escapeAtom d = .ok (e, after)) :
    c.Reaches after ∧ e.span = ⟨c.byte, after.byte⟩ := by
  obtain ⟨x, hx, hread⟩ := escapeAtom_read h
  have hn := next_reaches c
  have hnn := hn.trans (next_reaches c.next)
  cases hread with
  | shorthand | wordBoundary | nonWordBoundary => exact ⟨hnn, rfl⟩
  | name _ _ hi hg => exact ⟨hnn.trans ((eat?_reaches hi).trans (groupName_reaches hg)), rfl⟩
  | property _ _ hp => exact ⟨hnn.trans (property_reaches hp), rfl⟩
  | index _ hi _ => exact ⟨hn.trans (number?_reaches hi), rfl⟩
  | octal => exact ⟨hnn.trans (octal_reaches c.next), rfl⟩
  | char he => exact ⟨hn.trans (escapedChar_reaches he), rfl⟩

end Cursor

def Shell.openingText : Shell → List Char
  | group none => ['(', '?', ':']
  | group (some ⟨_, none⟩) => ['(']
  | group (some ⟨_, some name⟩) => ['(', '?', '<'] ++ name.toList ++ ['>']
  | look .ahead false => ['(', '?', '=']
  | look .ahead true => ['(', '?', '!']
  | look .behind false => ['(', '?', '<', '=']
  | look .behind true => ['(', '?', '<', '!']

theorem Cursor.opening_reads {n : Nat} {c after : Cursor} {shell : Shell} (hc : c.peek? = some '(')
    (h : c.opening n = .ok (shell, after)) : c.Reads shell.openingText after := by
  have hopen := next_reads hc
  unfold opening at h
  split at h
  · cases h
    exact hopen
  · rename_i mark hm
    have hmark := hopen.trans (eat?_reads hm)
    dsimp only at h
    split at h
    iterate 3
      rename_i hk
      cases h
      exact hmark.trans (next_reads hk)
    · rename_i hk
      have hlt := hmark.trans (next_reads hk)
      split at h
      iterate 2
        rename_i hb
        cases h
        exact hlt.trans (next_reads hb)
      · split at h
        · cases h
        · rename_i hg
          cases h
          simpa [Shell.openingText] using hlt.trans (groupName_reads hg)
    · cases h

theorem Element.withQuantifier_reads {unicode : Bool} {atom e : Element} {c after : Cursor}
    (h : atom.withQuantifier unicode c = .ok (e, after)) : (e = atom ∧ after = c) ∨
      ∃ min max greedy text, e = .quantifier ⟨atom.span.start, after.byte⟩ min max greedy atom ∧
        BoundsText text min max ∧ c.Reads (text ++ if greedy then [] else ['?']) after := by
  unfold Element.withQuantifier at h
  split at h
  · cases h
  · cases h
    exact .inl ⟨rfl, rfl⟩
  · rename_i min max afterBounds hb
    obtain ⟨text, ht, hreads⟩ := Cursor.bounds_reads hb
    dsimp only at h
    split at h
    · cases h
    · split at h <;> cases h
      exact .inr ⟨_, _, _, text, rfl, ht, hreads.trans (afterBounds.eat?_getD_reads '?')⟩

theorem Reading.addTerm_reaches {d : Dialect} {atom : Element} {c : Cursor} {outer : Level} {r s : Reading}
    (h : addTerm d atom c outer r = .ok s) : c.Reaches s.cursor := by
  unfold addTerm at h
  split at h
  · cases h
  · rename_i ht
    cases h
    rcases Element.withQuantifier_reads ht with ⟨-, rfl⟩ | ⟨_, _, _, _, -, -, hr⟩
    · exact .refl _
    · exact ⟨_, hr⟩

end RegexInsight
