import RegexInsight.Cursor
import RegexInsight.Letters

/-! Reading what follows a backslash. Positions of errors are those of the backslash, except inside
a braced code point and a group name. -/
namespace RegexInsight

/-- The character of a code point, with U+FFFD in the place of a surrogate. -/
def charOfCode (n : Nat) : Char :=
  if n.isValidChar then Char.ofNat n else '\uFFFD'

def isEscapable (c : Char) : Bool :=
  ['^', '$', '\\', '.', '*', '+', '?', '(', ')', '[', ']', '\x7b', '\x7d', '|', '/'].contains c

def isNameStart (c : Char) : Bool := isAlphabetic c || c == '_' || c == '$'

def isNamePart (c : Char) : Bool := isAlphanumeric c || c == '_' || c == '$'

def shorthandSet? : Char → Option CharSet
  | 'd' => some ⟨.digit, false⟩
  | 'D' => some ⟨.digit, true⟩
  | 'w' => some ⟨.word, false⟩
  | 'W' => some ⟨.word, true⟩
  | 's' => some ⟨.space, false⟩
  | 'S' => some ⟨.space, true⟩
  | _ => none

namespace Cursor

def hexDigits? : Nat → Nat → Cursor → Option (Nat × Cursor)
  | 0, value, c => some (value, c)
  | count + 1, value, c => do
    let d ← hexValue? (← c.peek?)
    hexDigits? count (value * 16 + d) c.next

/-- Reads up to `count` further octal digits onto `value`, as long as it stays within a byte. -/
def octalDigits : Nat → Nat → Cursor → Nat × Cursor
  | 0, value, c => (value, c)
  | count + 1, value, c =>
    match c.peek?.bind octalValue? with
    | some d =>
      if value * 8 + d ≤ 0o377 then octalDigits count (value * 8 + d) c.next else (value, c)
    | none => (value, c)

/-- Reads an octal escape of up to three digits. A first digit `8` or `9` stands for itself. -/
def octal (c : Cursor) : Char × Cursor :=
  let first := c.peek?.getD '0'
  match octalValue? first with
  | none => (first, c.next)
  | some d =>
    let (value, after) := octalDigits 2 d c.next
    (Char.ofNat value, after)

/-- Reads the escaped low half of a surrogate pair whose high half is `high`. -/
def lowHalf? (high : Nat) (c : Cursor) : Option (Char × Cursor) :=
  if 0xD800 ≤ high && high < 0xDC00 then do
    let (low, after) ← hexDigits? 4 0 (← (← c.eat? '\\').eat? 'u')
    if 0xDC00 ≤ low && low < 0xE000 then
      some (Char.ofNat (0x10000 + (high - 0xD800) * 0x400 + (low - 0xDC00)), after)
    else none
  else none

def fourDigits? (c : Cursor) : Option (Char × Cursor) :=
  match hexDigits? 4 0 c with
  | none => none
  | some (high, after) => some ((after.lowHalf? high).getD (charOfCode high, after))

def codePointValue (digits : List Char) : Nat :=
  digits.foldl (fun n d => Nat.min (n * 16 + (hexValue? d).getD 0) 0x110000) 0

def bracedCodePoint (c : Cursor) : Except ParseError (Char × Cursor) :=
  let (digits, afterDigits) := c.next.spanWhile isHexDigit
  let value := codePointValue digits
  match afterDigits.eat? '\x7d' with
  | some after =>
    if digits.isEmpty || 0x10FFFF < value then .error ⟨.invalidUnicodeEscape, c.offset⟩
    else .ok (charOfCode value, after)
  | none => .error ⟨.invalidUnicodeEscape, c.offset⟩

/-- Reads what follows `\u` in the escape at `start`. Outside unicode mode a `u` without its digits
stands for itself. -/
def codePoint (unicode : Bool) (start : Nat) (c : Cursor) : Except ParseError (Char × Cursor) :=
  if unicode && c.peek? == some '\x7b' then c.bracedCodePoint
  else match c.fourDigits? with
    | some found => .ok found
    | none => if unicode then .error ⟨.invalidUnicodeEscape, start⟩ else .ok ('u', c)

/-- Reads the character that an escape stands for. The backslash, at `start`, is behind `c`. Outside
unicode mode a `\c` without its letter is a lone backslash: the `c` is read again. -/
def escapedChar (unicode : Bool) (start : Nat) (inClass : Bool) (c : Cursor) :
    Except ParseError (Char × Cursor) :=
  match c.peek? with
  | none => .error ⟨.trailingBackslash, start⟩
  | some x =>
    let after := c.next
    match x with
    | 'n' => .ok ('\n', after)
    | 'r' => .ok ('\r', after)
    | 't' => .ok ('\t', after)
    | 'f' => .ok ('\x0c', after)
    | 'v' => .ok ('\x0b', after)
    | 'c' => match after.peek? with
      | some letter =>
        if letter.isAlpha then .ok (Char.ofNat (letter.toNat % 32), after.next)
        else if unicode then .error ⟨.invalidControlEscape, start⟩
        else .ok ('\\', c)
      | none => if unicode then .error ⟨.invalidControlEscape, start⟩ else .ok ('\\', c)
    | 'x' => match hexDigits? 2 0 after with
      | some (value, afterDigits) => .ok (Char.ofNat value, afterDigits)
      | none => if unicode then .error ⟨.invalidEscape, start⟩ else .ok ('x', after)
    | 'u' => after.codePoint unicode start
    | _ =>
      if x == '0' && !after.peek?.any Char.isDigit then .ok ('\x00', after)
      else if !unicode && (octalValue? x).isSome then .ok c.octal
      else if inClass && x == '-' then .ok ('-', after)
      else if isEscapable x then .ok (x, after)
      else if unicode then .error ⟨.invalidEscape, start⟩
      else .ok (x, after)

def property (negate : Bool) (start : Nat) (c : Cursor) : Except ParseError (CharSet × Cursor) :=
  match c.eat? '\x7b' with
  | none => .error ⟨.invalidProperty, start⟩
  | some inside =>
    let (body, afterBody) := inside.spanWhile fun x => x.isAlphanum || x == '_' || x == '='
    let name := body.takeWhile (· != '=')
    match afterBody.eat? '\x7d', body.dropWhile (· != '=') with
    | none, _ => .error ⟨.invalidProperty, start⟩
    | some after, [] =>
      if name.isEmpty then .error ⟨.invalidProperty, start⟩
      else .ok (⟨.property (String.ofList name) none, negate⟩, after)
    | some after, _ :: value =>
      if name.isEmpty || value.isEmpty then .error ⟨.invalidProperty, start⟩
      else .ok (⟨.property (String.ofList name) (some (String.ofList value)), negate⟩, after)

def groupName (c : Cursor) : Except ParseError (String × Cursor) :=
  let (name, afterName) := c.spanWhile isNamePart
  match name, afterName.eat? '>' with
  | first :: _, some after =>
    if isNameStart first then .ok (String.ofList name, after)
    else .error ⟨.invalidGroupName, c.offset⟩
  | _, _ => .error ⟨.invalidGroupName, c.offset⟩

theorem hexDigits?_length_le {count value v : Nat} {c after : Cursor}
    (h : hexDigits? count value c = some (v, after)) : after.rest.length ≤ c.rest.length := by
  induction count generalizing value c with
  | zero => simp [hexDigits?] at h; simp [h.2]
  | succ n ih =>
    simp only [hexDigits?, Option.bind_eq_bind, Option.bind_eq_some_iff] at h
    obtain ⟨_, _, _, _, h⟩ := h
    exact Nat.le_trans (ih h) c.next_length_le

theorem octalDigits_length_le (count value : Nat) (c : Cursor) :
    (octalDigits count value c).2.rest.length ≤ c.rest.length := by
  induction count generalizing value c with
  | zero => simp [octalDigits]
  | succ n ih =>
    unfold octalDigits
    split
    · split
      · exact Nat.le_trans (ih _ _) c.next_length_le
      · simp
    · simp

theorem octal_length_le (c : Cursor) : c.octal.2.rest.length ≤ c.rest.length := by
  unfold octal
  dsimp only
  split
  · exact c.next_length_le
  · exact Nat.le_trans (octalDigits_length_le _ _ _) c.next_length_le

theorem lowHalf?_length_le {high : Nat} {c after : Cursor} {x : Char}
    (h : c.lowHalf? high = some (x, after)) : after.rest.length ≤ c.rest.length := by
  unfold lowHalf? at h
  split at h
  · simp only [Option.bind_eq_bind, Option.bind_eq_some_iff] at h
    obtain ⟨_, h1, _, h2, ⟨_, afterLow⟩, h3, h⟩ := h
    have := hexDigits?_length_le h3
    have := eat?_length_lt h2
    have := eat?_length_lt h1
    split at h
    · have e : afterLow = after := (Prod.mk.inj (Option.some.inj h)).2
      subst e
      omega
    · cases h
  · cases h

theorem fourDigits?_length_le {c after : Cursor} {x : Char} (h : c.fourDigits? = some (x, after)) :
    after.rest.length ≤ c.rest.length := by
  unfold fourDigits? at h
  split at h
  · cases h
  · rename_i high mid hm
    have := hexDigits?_length_le hm
    cases hp : mid.lowHalf? high with
    | none => simp_all
    | some found =>
      obtain ⟨_, afterPair⟩ := found
      have := lowHalf?_length_le hp
      simp_all
      omega

theorem bracedCodePoint_length_le {c after : Cursor} {x : Char}
    (h : c.bracedCodePoint = .ok (x, after)) : after.rest.length ≤ c.rest.length := by
  unfold bracedCodePoint at h
  dsimp only at h
  split at h
  · rename_i he
    have := eat?_length_lt he
    have := spanWhile_length_le isHexDigit c.next
    have := c.next_length_le
    split at h <;> cases h
    omega
  · cases h

theorem codePoint_length_le {unicode : Bool} {start : Nat} {c after : Cursor} {x : Char}
    (h : c.codePoint unicode start = .ok (x, after)) : after.rest.length ≤ c.rest.length := by
  unfold codePoint at h
  split at h
  · exact bracedCodePoint_length_le h
  · split at h
    · rename_i hf
      cases h
      exact fourDigits?_length_le hf
    · split at h <;> cases h
      exact Nat.le_refl _

theorem escapedChar_length_le {unicode inClass : Bool} {start : Nat} {c after : Cursor} {x : Char}
    (h : c.escapedChar unicode start inClass = .ok (x, after)) :
    after.rest.length ≤ c.rest.length := by
  have hn := c.next_length_le
  have hnn := c.next.next_length_le
  have ho := c.octal_length_le
  unfold escapedChar at h
  split at h
  · cases h
  · dsimp only at h
    split at h
    all_goals try (cases h; exact hn)
    · split at h
      · split at h
        · cases h; omega
        · split at h <;> cases h
          exact Nat.le_refl _
      · split at h <;> cases h
        exact Nat.le_refl _
    · split at h
      · rename_i hd
        cases h
        exact Nat.le_trans (hexDigits?_length_le hd) hn
      · split at h <;> cases h
        exact hn
    · exact Nat.le_trans (codePoint_length_le h) hn
    · repeat' split at h
      all_goals first
        | cases h; exact hn
        | (rw [Except.ok.inj h] at ho; exact ho)
        | cases h

theorem property_length_le {negate : Bool} {start : Nat} {c after : Cursor} {s : CharSet}
    (h : c.property negate start = .ok (s, after)) : after.rest.length ≤ c.rest.length := by
  unfold property at h
  split at h
  · cases h
  · rename_i inside hi
    have := eat?_length_lt hi
    have := spanWhile_length_le (fun x => x.isAlphanum || x == '_' || x == '=') inside
    dsimp only at h
    split at h
    · cases h
    all_goals
      rename_i ha _
      have := eat?_length_lt ha
      split at h <;> cases h
      omega

theorem groupName_length_le {c after : Cursor} {s : String} (h : c.groupName = .ok (s, after)) :
    after.rest.length ≤ c.rest.length := by
  unfold groupName at h
  have := spanWhile_length_le isNamePart c
  dsimp only at h
  split at h
  · rename_i ha
    have := eat?_length_lt ha
    split at h <;> cases h
    omega
  · cases h

end Cursor
end RegexInsight
