import RegexInsight.Proofs.Passages
import RegexInsight.Proofs.Relocation
import RegexInsight.Proofs.Steps
import RegexInsight.Proofs.WellFormed
import RegexInsight.Text

/-! How a tree is printed, with every character as an escaped code point, and what the readers of
single tokens make of the printed text. -/
namespace RegexInsight

/-- The character as a code point in braces, behind the backslash that stands before it. -/
def Char.escapeBody (x : Char) : List Char :=
  ['u', '\x7b'] ++ Nat.toDigits 16 x.toNat ++ ['\x7d']

def CharSet.print : CharSet → List Char
  | ⟨.dot, _⟩ => ['.']
  | ⟨.digit, negate⟩ => ['\\', if negate then 'D' else 'd']
  | ⟨.word, negate⟩ => ['\\', if negate then 'W' else 'w']
  | ⟨.space, negate⟩ => ['\\', if negate then 'S' else 's']
  | ⟨.property name value, negate⟩ =>
    ['\\', if negate then 'P' else 'p', '\x7b'] ++ name.toList ++
      value.elim [] (fun v => '=' :: v.toList) ++ ['\x7d']

def MemberKind.print : MemberKind → List Char
  | .char value => '\\' :: Char.escapeBody value
  | .range min max => '\\' :: Char.escapeBody min ++ '-' :: '\\' :: Char.escapeBody max
  | .set s => s.print

def Anchor.print : Anchor → List Char
  | .start => ['^']
  | .stop => ['$']
  | .wordBoundary => ['\\', 'b']
  | .nonWordBoundary => ['\\', 'B']

def Reference.print : Reference → List Char
  | .index n => '\\' :: Nat.toDigits 10 n
  | .name s => ['\\', 'k', '<'] ++ s.toList ++ ['>']

/-- The bounds of a quantifier in braces, with a mark if it is lazy. -/
def printBounds (min : Nat) (max : Option Nat) (greedy : Bool) : List Char :=
  '\x7b' :: (Nat.toDigits 10 min ++ ',' :: (max.elim [] (Nat.toDigits 10) ++
    '\x7d' :: if greedy then [] else ['?']))

mutual

def Element.print : Element → List Char
  | .char _ value => '\\' :: Char.escapeBody value
  | .set _ s => s.print
  | .bracket _ negate members =>
    '[' :: (if negate then ['^'] else []) ++ members.flatMap (·.kind.print) ++ [']']
  | .group _ capture branches =>
    (Shell.group capture).openingText ++ branchesPrint branches ++ [')']
  | .quantifier _ min max greedy inner => inner.print ++ printBounds min max greedy
  | .anchor _ anchor => anchor.print
  | .look _ direction negate branches =>
    (Shell.look direction negate).openingText ++ branchesPrint branches ++ [')']
  | .backreference _ target => target.print

def Branch.print : Branch → List Char
  | .mk _ elements => elementsPrint elements

def elementsPrint : List Element → List Char
  | [] => []
  | e :: es => e.print ++ elementsPrint es

def branchesPrint : List Branch → List Char
  | [] => []
  | [b] => b.print
  | b :: bs => b.print ++ '|' :: branchesPrint bs

end

def PatternTree.print (tree : PatternTree) : List Char := branchesPrint tree.pattern.branches

/-- A dot is not negated, and what a property is called by is made of the characters that may stand
in its braces. -/
def CharSet.Printable (s : CharSet) : Prop :=
  match s.kind with
  | .dot => s.negate = false
  | .property name value =>
    name.toList ≠ [] ∧ (∀ x ∈ name.toList, x.isAlphanum || x == '_') ∧
      ∀ v ∈ value, v.toList ≠ [] ∧ ∀ x ∈ v.toList, x.isAlphanum || x == '_' || x == '='
  | .digit | .word | .space => True

def MemberKind.Printable : MemberKind → Prop
  | .set s => s.Printable
  | .char _ | .range .. => True

def MemberKind.isDot : MemberKind → Bool
  | .set s => s.isDot
  | .char _ | .range .. => false

/-- Numbers are within their bounds, and sets have names that can be read. -/
def Element.Printable : Element → Prop
  | .set _ s => s.Printable
  | .bracket _ _ members => ∀ m ∈ members, m.kind.Printable
  | .quantifier _ min max _ _ => min ≤ maxBound ∧ ∀ m ∈ max, m ≤ maxBound
  | .backreference _ (.index n) => n ≤ maxBound
  | .backreference _ (.name _) | .char .. | .group .. | .anchor .. | .look .. => True

/-- A class holds no dot, which stands for itself there. -/
def Element.DotFree : Element → Prop
  | .bracket _ _ members => ∀ m ∈ members, m.kind.isDot = false
  | _ => True

/-- A name that a group may have. -/
def IsGroupName (name : String) : Prop :=
  ∃ first rest, name.toList = first :: rest ∧ isNameStart first ∧ ∀ x ∈ name.toList, isNamePart x

structure PatternTree.Printable (tree : PatternTree) : Prop where
  elements : ∀ e ∈ tree.pattern.elements, e.Printable
  names : ∀ name, some name ∈ tree.names → IsGroupName name

/-- Neither a quantifier nor a number goes on here. -/
def Clear (rest : List Char) : Prop :=
  ∀ x ∈ rest.head?, x ∉ ['*', '+', '?', '\x7b'] ∧ x.isDigit = false

section
variable {b cap n : Nat}

theorem forall_mem_toDigits (hb : 1 < b) {p : Char → Prop} (hp : ∀ k < b, p k.digitChar) (n : Nat) :
    ∀ x ∈ Nat.toDigits b n, p x := by
  induction n using Nat.strongRecOn with
  | ind n ih =>
    by_cases hn : n < b
    · rw [Nat.toDigits_of_lt_base hn]
      simpa using hp n hn
    · rw [Nat.toDigits_of_base_le hb (by omega)]
      intro x hx
      rcases List.mem_append.mp hx with hx | hx
      · exact ih _ (Nat.div_lt_self (by omega) hb) x hx
      · exact List.mem_singleton.mp hx ▸ hp _ (Nat.mod_lt _ (by omega))

theorem foldl_toDigits (hb : 1 < b) {value : Char → Nat} (hv : ∀ k < b, value k.digitChar = k)
    (n : Nat) (hn : n ≤ cap) :
    (Nat.toDigits b n).foldl (fun v x => Nat.min (v * b + value x) cap) 0 = n := by
  induction n using Nat.strongRecOn with
  | ind n ih =>
    by_cases hlt : n < b
    · rw [Nat.toDigits_of_lt_base hlt]
      simpa [hv n hlt] using Nat.min_eq_left hn
    · have hdiv : n / b ≤ n := Nat.div_le_self n b
      rw [Nat.toDigits_of_base_le hb (by omega), List.foldl_append,
        ih _ (Nat.div_lt_self (by omega) hb) (by omega)]
      have hdigits : n / b * b + n % b = n := by
        rw [Nat.mul_comm]
        exact Nat.div_add_mod n b
      simpa [hv _ (Nat.mod_lt n (by omega)), hdigits] using Nat.min_eq_left hn

end

theorem numeral_toDigits {n : Nat} (hn : n ≤ maxBound) : Numeral (Nat.toDigits 10 n) n where
  ne_nil := Nat.toDigits_ne_nil
  isDigit := forall_mem_toDigits (by decide) (by decide) n
  value := by rw [numeralValue, Nat.ofDigitChars_toDigits (by decide) (by decide), Nat.min_eq_left hn]

namespace Cursor

variable {c : Cursor} {x : Char} {text rest : List Char}

theorem peek?_of_rest (h : c.rest = x :: rest) : c.peek? = some x ∧ c.next.rest = rest := by
  obtain ⟨_, _, _⟩ := c
  cases h
  exact ⟨rfl, rfl⟩

theorem eat?_of_rest (h : c.rest = x :: rest) : c.eat? x = some c.next := by
  rw [eat?, if_pos (peek?_of_rest h).1]

theorem eat?_eq_none (h : c.rest.head? ≠ some x) : c.eat? x = none := by
  rw [eat?, peek?, if_neg h]

theorem reads_of_rest (h : c.rest = text ++ rest) : ∃ after, c.Reads text after ∧ after.rest = rest :=
  ⟨⟨rest, c.offset + text.length, c.byte + width text⟩, ⟨h, rfl, rfl⟩, rfl⟩

theorem spanWhile_of_rest {p : Char → Bool} (h : c.rest = text ++ rest) (ht : ∀ x ∈ text, p x)
    (hr : ∀ x ∈ rest.head?, p x = false) :
    (c.spanWhile p).1 = text ∧ (c.spanWhile p).2.rest = rest := by
  obtain ⟨after, hreads, rfl⟩ := reads_of_rest h
  rw [hreads.spanWhile ht hr]
  exact ⟨rfl, rfl⟩

theorem number?_print {n : Nat} (hn : n ≤ maxBound) (h : c.rest = Nat.toDigits 10 n ++ rest)
    (hr : ∀ x ∈ rest.head?, x.isDigit = false) :
    ∃ after, c.number? = some (n, after) ∧ after.rest = rest := by
  obtain ⟨after, hreads, rfl⟩ := reads_of_rest h
  exact ⟨after, number?_iff.mpr ⟨_, numeral_toDigits hn, hreads, hr⟩, rfl⟩

theorem braces?_print {min : Nat} {max : Option Nat} (hmin : min ≤ maxBound)
    (hmax : ∀ m ∈ max, m ≤ maxBound)
    (h : c.rest = '\x7b' :: (Nat.toDigits 10 min ++ ',' :: (max.elim [] (Nat.toDigits 10) ++
      '\x7d' :: rest))) :
    ∃ after, c.braces? = some ((min, max), after) ∧ after.rest = rest := by
  have htext : BracesText ('\x7b' :: (Nat.toDigits 10 min ++
      ',' :: (max.elim [] (Nat.toDigits 10) ++ ['\x7d']))) min max := by
    cases max with
    | none => exact .atLeast (numeral_toDigits hmin)
    | some m => exact .between (numeral_toDigits hmin) (numeral_toDigits (hmax m rfl))
  have hrest : c.rest = '\x7b' :: (Nat.toDigits 10 min ++
      ',' :: (max.elim [] (Nat.toDigits 10) ++ ['\x7d'])) ++ rest := by simpa using h
  obtain ⟨after, hreads, rfl⟩ := reads_of_rest hrest
  exact ⟨after, braces?_of_reads htext hreads, rfl⟩

theorem bounds_clear (h : Clear c.rest) (unicode : Bool) : c.bounds unicode = .ok none := by
  unfold bounds peek?
  cases hx : c.rest.head? with
  | none => rfl
  | some x =>
    have hclear := (h x hx).1
    split <;> simp_all

theorem atQuantifier_clear (h : Clear c.rest) : c.atQuantifier = false := by
  unfold atQuantifier peek?
  cases hx : c.rest.head? with
  | none => rfl
  | some x =>
    have hclear := (h x hx).1
    split <;> simp_all

theorem withQuantifier_print {min : Nat} {max : Option Nat} {greedy : Bool} {atom : Element}
    (hmin : min ≤ maxBound) (hmax : ∀ m ∈ max, m ≤ maxBound) (hle : ∀ m ∈ max, min ≤ m)
    (hq : atom.isQuantifiable true) (hclear : Clear rest)
    (h : c.rest = printBounds min max greedy ++ rest) :
    ∃ after, atom.withQuantifier true c =
        .ok (.quantifier ⟨atom.span.start, after.byte⟩ min max greedy atom, after) ∧
      after.rest = rest := by
  have hbraces : c.rest = '\x7b' :: (Nat.toDigits 10 min ++ ',' ::
      (max.elim [] (Nat.toDigits 10) ++ '\x7d' :: ((if greedy then [] else ['?']) ++ rest))) := by
    rw [h, printBounds]
    simp
  obtain ⟨last, hread, hlast⟩ := braces?_print hmin hmax hbraces
  have hbounds : c.bounds true = .ok (some ((min, max), last)) := by
    have hordered : max.any (· < min) = false := by
      cases max with
      | none => rfl
      | some max => simpa using hle max rfl
    unfold bounds
    rw [(peek?_of_rest hbraces).1]
    simp [hread, hordered]
  unfold Element.withQuantifier
  rw [hbounds]
  cases greedy with
  | true =>
    have hlast : last.rest = rest := hlast
    have hno : last.eat? '?' = none := eat?_eq_none fun hx => by
      rw [hlast] at hx
      exact (hclear _ hx).1 (by decide)
    exact ⟨last, by simp [hq, hno, atQuantifier_clear (hlast ▸ hclear)], hlast⟩
  | false =>
    have hlast : last.rest = '?' :: rest := hlast
    have hnext := (peek?_of_rest hlast).2
    exact ⟨last.next, by simp [hq, eat?_of_rest hlast, atQuantifier_clear (hnext ▸ hclear)], hnext⟩

theorem bracedCodePoint_print (x : Char)
    (h : c.rest = '\x7b' :: (Nat.toDigits 16 x.toNat ++ '\x7d' :: rest)) :
    ∃ after, c.bracedCodePoint = .ok (x, after) ∧ after.rest = rest := by
  have hdigits : ∀ y ∈ Nat.toDigits 16 x.toNat, isHexDigit y :=
    forall_mem_toDigits (by decide) (by decide) _
  have hle : x.toNat ≤ 0x10FFFF := by
    have := x.valid
    unfold Char.toNat
    rcases this with h | h <;> omega
  have hhex : ∀ k < 16, (fun d => (hexValue? d).getD 0) k.digitChar = k := by decide
  have hvalue : codePointValue (Nat.toDigits 16 x.toNat) = x.toNat :=
    foldl_toDigits (by decide) hhex _ (by omega)
  obtain ⟨htext, hrest⟩ := spanWhile_of_rest (peek?_of_rest h).2 hdigits (by simp; decide)
  have hne : (Nat.toDigits 16 x.toNat).isEmpty = false := by
    rw [List.isEmpty_eq_false_iff]
    exact Nat.toDigits_ne_nil
  have hchar : charOfCode x.toNat = x := by
    have hvalid : x.toNat.isValidChar := x.valid
    rw [charOfCode, if_pos hvalid, Char.ofNat_toNat]
  unfold bracedCodePoint
  dsimp only
  rw [eat?_of_rest hrest, htext, hvalue, hne, hchar]
  refine ⟨_, ?_, (peek?_of_rest hrest).2⟩
  simp [Nat.not_lt.mpr hle]

theorem escapedChar_print (x : Char) (start : Nat) (inClass : Bool)
    (h : c.rest = Char.escapeBody x ++ rest) :
    ∃ after, c.escapedChar true start inClass = .ok (x, after) ∧ after.rest = rest := by
  rw [Char.escapeBody] at h
  simp only [List.cons_append, List.nil_append, List.append_assoc] at h
  obtain ⟨hu, hnext⟩ := peek?_of_rest h
  obtain ⟨after, hread, hafter⟩ := bracedCodePoint_print x hnext
  refine ⟨after, ?_, hafter⟩
  unfold escapedChar
  rw [hu]
  dsimp only
  rw [codePoint, (peek?_of_rest hnext).1]
  exact hread

theorem property_print {name : String} {value : Option String} {negate : Bool} (start : Nat)
    (hs : CharSet.Printable ⟨.property name value, negate⟩)
    (h : c.rest = '\x7b' :: (name.toList ++ value.elim [] (fun v => '=' :: v.toList) ++
      '\x7d' :: rest)) :
    ∃ after, c.property negate start = .ok (⟨.property name value, negate⟩, after) ∧
      after.rest = rest := by
  obtain ⟨hname, hchars, hvalue⟩ : name.toList ≠ [] ∧ (∀ x ∈ name.toList, x.isAlphanum || x == '_') ∧
    ∀ v ∈ value, v.toList ≠ [] ∧ ∀ x ∈ v.toList, x.isAlphanum || x == '_' || x == '=' := hs
  have hequals : ∀ x ∈ name.toList, (x != '=') = true := by
    intro x hx
    rw [bne_iff_ne]
    rintro rfl
    exact absurd (hchars _ hx) (by decide)
  have hbody : ∀ x ∈ name.toList ++ value.elim [] (fun v => '=' :: v.toList),
      x.isAlphanum || x == '_' || x == '=' := by
    intro x hx
    rcases List.mem_append.mp hx with hx | hx
    · rw [hchars x hx]
      rfl
    · cases value with
      | none => cases hx
      | some v =>
        rcases List.mem_cons.mp hx with rfl | hx
        · decide
        · exact (hvalue v rfl).2 x hx
  have htake : (name.toList ++ value.elim [] (fun v => '=' :: v.toList)).takeWhile (· != '=') =
      name.toList := by
    rw [List.takeWhile_append_of_pos hequals]
    cases value <;> simp
  have hdrop : (name.toList ++ value.elim [] (fun v => '=' :: v.toList)).dropWhile (· != '=') =
      value.elim [] fun v => '=' :: v.toList := by
    rw [List.dropWhile_append_of_pos hequals]
    cases value <;> simp
  obtain ⟨htext, hrest⟩ := spanWhile_of_rest (peek?_of_rest h).2 hbody (by simp)
  refine ⟨_, ?_, (peek?_of_rest hrest).2⟩
  unfold property
  rw [eat?_of_rest h]
  dsimp only
  rw [htext, eat?_of_rest hrest, htake, hdrop]
  cases value with
  | none => simp [hname]
  | some v => simp [hname, (hvalue v rfl).1]

theorem groupName_print {name : String} (hn : IsGroupName name)
    (h : c.rest = name.toList ++ '>' :: rest) :
    ∃ after, c.groupName = .ok (name, after) ∧ after.rest = rest := by
  obtain ⟨first, more, hname, hfirst, hparts⟩ := hn
  obtain ⟨htext, hrest⟩ := spanWhile_of_rest h hparts (by simp; decide)
  refine ⟨_, ?_, (peek?_of_rest hrest).2⟩
  unfold groupName
  dsimp only
  rw [htext, eat?_of_rest hrest, hname]
  simp [hfirst, ← hname]

/-- The atom that stands here is read as the element, but for its place. -/
def ReadsAtom (d : Dialect) (c : Cursor) (e : Element) (rest : List Char) : Prop :=
  ∃ x b after, c.peek? = some x ∧ (x ≠ '|' ∧ x ≠ ')' ∧ x ≠ '(') ∧ c.atom d x = .ok (b, after) ∧
    b.bare = e.bare ∧ after.rest = rest

variable {d : Dialect}

theorem ReadsAtom.escape {e b : Element} {after : Cursor} {more : List Char}
    (h : c.rest = '\\' :: more) (hread : c.escapeAtom d = .ok (b, after)) (hb : b.bare = e.bare)
    (hr : after.rest = rest) : c.ReadsAtom d e rest :=
  ⟨'\\', b, after, (peek?_of_rest h).1, by decide, hread, hb, hr⟩

theorem anchor_print (span : Span) (anchor : Anchor) (h : c.rest = anchor.print ++ rest) :
    c.ReadsAtom d (.anchor span anchor) rest := by
  cases anchor with
  | start => exact ⟨'^', _, c.next, (peek?_of_rest h).1, by decide, rfl, rfl, (peek?_of_rest h).2⟩
  | stop => exact ⟨'$', _, c.next, (peek?_of_rest h).1, by decide, rfl, rfl, (peek?_of_rest h).2⟩
  | wordBoundary =>
    obtain ⟨hx, hrest⟩ := peek?_of_rest (peek?_of_rest h).2
    have hread : c.escapeAtom d =
        .ok (.anchor ⟨c.byte, c.next.next.byte⟩ .wordBoundary, c.next.next) := by
      unfold escapeAtom
      dsimp only
      rw [hx]
      rfl
    exact .escape h hread rfl hrest
  | nonWordBoundary =>
    obtain ⟨hx, hrest⟩ := peek?_of_rest (peek?_of_rest h).2
    have hread : c.escapeAtom d =
        .ok (.anchor ⟨c.byte, c.next.next.byte⟩ .nonWordBoundary, c.next.next) := by
      unfold escapeAtom
      dsimp only
      rw [hx]
      rfl
    exact .escape h hread rfl hrest

theorem char_print (hd : d.unicode = true) (span : Span) (x : Char)
    (h : c.rest = '\\' :: Char.escapeBody x ++ rest) : c.ReadsAtom d (.char span x) rest := by
  have hnext := (peek?_of_rest h).2
  obtain ⟨after, hread, hrest⟩ := escapedChar_print x c.offset false hnext
  have hu : c.next.peek? = some 'u' := (peek?_of_rest hnext).1
  have hchar : c.escapeAtom d = .ok (.char ⟨c.byte, after.byte⟩ x, after) := by
    unfold escapeAtom
    dsimp only
    rw [hu, hd]
    simp [shorthandSet?, hread]
  exact .escape h hchar rfl hrest

theorem set_print (hd : d.unicode = true) (span : Span) {s : CharSet} (hs : s.Printable)
    (h : c.rest = s.print ++ rest) : c.ReadsAtom d (.set span s) rest := by
  obtain ⟨kind, negate⟩ := s
  cases kind with
  | dot =>
    obtain rfl : negate = false := hs
    exact ⟨'.', _, c.next, (peek?_of_rest h).1, by decide, rfl, rfl, (peek?_of_rest h).2⟩
  | digit | word | space =>
    obtain ⟨hx, hrest⟩ := peek?_of_rest (peek?_of_rest h).2
    refine .escape h (b := .set ⟨c.byte, c.next.next.byte⟩ _) ?_ rfl hrest
    unfold escapeAtom
    dsimp only
    rw [hx]
    cases negate <;> rfl
  | property name value =>
    simp only [CharSet.print, List.cons_append, List.nil_append, List.append_assoc] at h
    have hnext := (peek?_of_rest h).2
    obtain ⟨hx, hinside⟩ := peek?_of_rest hnext
    obtain ⟨after, hread, hrest⟩ := property_print c.offset hs (by simpa using hinside)
    have hset : c.escapeAtom d =
        .ok (.set ⟨c.byte, after.byte⟩ ⟨.property name value, negate⟩, after) := by
      unfold escapeAtom
      dsimp only
      rw [hx, hd]
      cases negate <;> simp [shorthandSet?, hread]
    exact .escape h hset rfl hrest

theorem leading_digit {n : Nat} (hn : 1 ≤ n) :
    ∃ k more, 1 ≤ k ∧ k < 10 ∧ Nat.toDigits 10 n = k.digitChar :: more := by
  induction n using Nat.strongRecOn with
  | ind n ih =>
    by_cases hlt : n < 10
    · exact ⟨n, [], hn, hlt, Nat.toDigits_of_lt_base hlt⟩
    · obtain ⟨k, more, h₁, h₂, heq⟩ := ih (n / 10) (by omega) (by omega)
      rw [Nat.toDigits_of_base_le (by decide) (by omega), heq]
      exact ⟨k, _, h₁, h₂, rfl⟩

theorem index_print (span : Span) {n : Nat} (hn : 1 ≤ n) (hle : n ≤ d.groups.total)
    (hmax : n ≤ maxBound) (h : c.rest = '\\' :: Nat.toDigits 10 n ++ rest)
    (hr : ∀ x ∈ rest.head?, x.isDigit = false) :
    c.ReadsAtom d (.backreference span (.index n)) rest := by
  have hnext := (peek?_of_rest h).2
  obtain ⟨after, hread, hrest⟩ := number?_print hmax hnext hr
  obtain ⟨k, more, hlow, hhigh, hdigits⟩ := leading_digit hn
  have hx : c.next.peek? = some k.digitChar := (peek?_of_rest (by rw [hnext, hdigits]; rfl)).1
  have hno : ∀ k < 10, 1 ≤ k → shorthandSet? k.digitChar = none ∧
      (k.digitChar == 'b') = false ∧ (k.digitChar == 'B') = false ∧ (k.digitChar == 'k') = false ∧
      (k.digitChar == 'p' || k.digitChar == 'P') = false ∧
      ('1' ≤ k.digitChar && k.digitChar ≤ '9') = true := by decide
  obtain ⟨h₁, h₂, h₃, h₄, h₅, h₆⟩ := hno k hhigh hlow
  have hindex : c.escapeAtom d = .ok (.backreference ⟨c.byte, after.byte⟩ (.index n), after) := by
    unfold escapeAtom
    dsimp only
    rw [hx]
    simp [h₁, h₂, h₃, h₄, h₅, h₆, hread, hle]
  exact .escape h hindex rfl hrest

theorem name_print (hd : d.unicode = true) (span : Span) {name : String} (hn : IsGroupName name)
    (h : c.rest = ['\\', 'k', '<'] ++ name.toList ++ ['>'] ++ rest) :
    c.ReadsAtom d (.backreference span (.name name)) rest := by
  simp only [List.cons_append, List.nil_append, List.append_assoc] at h
  have hnext := (peek?_of_rest h).2
  obtain ⟨hx, hlt⟩ := peek?_of_rest hnext
  obtain ⟨after, hread, hrest⟩ := groupName_print hn (peek?_of_rest hlt).2
  have hname : c.escapeAtom d = .ok (.backreference ⟨c.byte, after.byte⟩ (.name name), after) := by
    unfold escapeAtom
    dsimp only
    rw [hx, hd]
    simp [shorthandSet?, eat?_of_rest hlt, hread]
  exact .escape h hname rfl hrest

theorem classAtom_print {kind : MemberKind} (hk : kind.Printable) (hdot : kind.isDot = false)
    (hr : ∀ min max : Char, kind ≠ .range min max) (h : c.rest = kind.print ++ rest) :
    ∃ m after, c.classAtom true = .ok (m, after) ∧ m.kind = kind ∧ after.rest = rest := by
  cases kind with
  | range min max => exact absurd rfl (hr min max)
  | char x =>
    have hnext := (peek?_of_rest h).2
    obtain ⟨after, hread, hrest⟩ := escapedChar_print x c.offset true hnext
    have hu : c.next.peek? = some 'u' := (peek?_of_rest hnext).1
    refine ⟨⟨⟨c.byte, after.byte⟩, .char x⟩, after, ?_, rfl, hrest⟩
    unfold classAtom
    rw [(peek?_of_rest h).1]
    simp [hu, shorthandSet?, hread]
  | set s =>
    obtain ⟨kind, negate⟩ := s
    cases kind with
    | dot => cases hdot
    | digit | word | space =>
      obtain ⟨hslash, hnext⟩ := peek?_of_rest h
      obtain ⟨hx, hrest⟩ := peek?_of_rest hnext
      refine ⟨⟨⟨c.byte, c.next.next.byte⟩, .set _⟩, c.next.next, ?_, rfl, hrest⟩
      unfold classAtom
      rw [hslash]
      dsimp only
      rw [hx]
      cases negate <;> rfl
    | property name value =>
      simp only [MemberKind.print, CharSet.print, List.cons_append, List.nil_append,
        List.append_assoc] at h
      obtain ⟨hslash, hnext⟩ := peek?_of_rest h
      obtain ⟨hx, hinside⟩ := peek?_of_rest hnext
      have hset : CharSet.Printable ⟨.property name value, negate⟩ := hk
      obtain ⟨after, hread, hrest⟩ := property_print c.offset hset (by simpa using hinside)
      refine ⟨⟨⟨c.byte, after.byte⟩, .set _⟩, after, ?_, rfl, hrest⟩
      unfold classAtom
      rw [hslash]
      dsimp only
      rw [hx]
      cases negate <;> simp [shorthandSet?, hread]

theorem atRangeDash_eq_false (h : c.rest.head? ≠ some '-') : c.atRangeDash = false := by
  unfold atRangeDash peek?
  simp [h]

theorem classItem_print {kind : MemberKind} (hk : kind.Printable) (hdot : kind.isDot = false)
    (ho : kind.Ordered) (h : c.rest = kind.print ++ rest) (hdash : rest.head? ≠ some '-') :
    ∃ m after, c.classItem true = .ok ([m], after) ∧ m.kind = kind ∧ after.rest = rest := by
  by_cases hr : ∀ min max : Char, kind ≠ .range min max
  · obtain ⟨m, after, hread, hm, hrest⟩ := classAtom_print hk hdot hr h
    refine ⟨m, after, ?_, hm, hrest⟩
    unfold classItem
    rw [hread]
    simp [atRangeDash_eq_false (hrest.symm ▸ hdash)]
  · obtain ⟨min, max, rfl⟩ : ∃ min max : Char, kind = .range min max := by simpa using hr
    have hle : ¬ max < min := Char.not_lt.mpr ho
    have hfirst : c.rest = (MemberKind.char min).print ++ '-' :: ((MemberKind.char max).print ++ rest) := by
      rw [h]
      simp [MemberKind.print]
    have hchar : ∀ x, (MemberKind.char x).Printable ∧
        ∀ min max : Char, MemberKind.char x ≠ .range min max := fun x => ⟨trivial, by simp⟩
    obtain ⟨first, dash, hread₁, hkind₁, hrest₁⟩ :=
      classAtom_print (hchar min).1 rfl (hchar min).2 hfirst
    obtain ⟨hpeek, hnext⟩ := peek?_of_rest hrest₁
    obtain ⟨second, after, hread₂, hkind₂, hrest₂⟩ :=
      classAtom_print (hchar max).1 rfl (hchar max).2 hnext
    have hrange : dash.atRangeDash = true := by
      have hslash : dash.next.peek? = some '\\' := (peek?_of_rest hnext).1
      unfold atRangeDash
      rw [hpeek, hslash]
      rfl
    refine ⟨⟨⟨first.span.start, second.span.stop⟩, .range min max⟩, after, ?_, rfl, hrest₂⟩
    unfold classItem
    rw [hread₁]
    dsimp only
    rw [hrange, hread₂]
    simp [hkind₁, hkind₂, hle]

theorem member_head {kind : MemberKind} (hdot : kind.isDot = false) :
    ∃ more, kind.print = '\\' :: more := by
  rcases kind with value | ⟨min, max⟩ | ⟨kind, negate⟩
  · exact ⟨_, rfl⟩
  · exact ⟨_, rfl⟩
  · cases kind with
    | dot => cases hdot
    | digit | word | space | property => exact ⟨_, rfl⟩

theorem classMembers_print {ms : List ClassMember} (found : List ClassMember)
    (hp : ∀ m ∈ ms, m.kind.Printable) (hdot : ∀ m ∈ ms, m.kind.isDot = false)
    (ho : ∀ m ∈ ms, m.kind.Ordered) (h : c.rest = ms.flatMap (·.kind.print) ++ ']' :: rest) :
    ∃ read after, c.classMembers true found = .ok (found.reverse ++ read, after) ∧
      read.map ClassMember.kind = ms.map ClassMember.kind ∧ after.rest = rest := by
  induction ms generalizing c found with
  | nil =>
    obtain ⟨hclose, hrest⟩ := peek?_of_rest h
    exact ⟨[], c.next, by rw [classMembers_close found hclose, List.append_nil], rfl, hrest⟩
  | cons m ms ih =>
    obtain ⟨hm, hms⟩ := List.forall_mem_cons.mp hp
    obtain ⟨hdm, hdms⟩ := List.forall_mem_cons.mp hdot
    obtain ⟨hom, homs⟩ := List.forall_mem_cons.mp ho
    have hdash : (ms.flatMap (·.kind.print) ++ ']' :: rest).head? ≠ some '-' := by
      cases ms with
      | nil => simp
      | cons m' ms =>
        obtain ⟨more, hhead⟩ := member_head (hdms m' List.mem_cons_self)
        simp [hhead]
    rw [List.flatMap_cons, List.append_assoc] at h
    obtain ⟨first, dash, hread, hkind, hrest⟩ := classItem_print hm hdm hom h hdash
    obtain ⟨more, hhead⟩ := member_head hdm
    have hpeek : c.peek? = some '\\' := (peek?_of_rest (by rw [h, hhead]; rfl)).1
    obtain ⟨read, after, hmembers, hkinds, hafter⟩ := ih (first :: found) hms hdms homs hrest
    refine ⟨first :: read, after, ?_, by simp [hkind, hkinds], hafter⟩
    rw [classMembers_item found hpeek (by decide) hread]
    simpa using hmembers

theorem bracket_print (hd : d.unicode = true) (span : Span) {negate : Bool} {ms : List ClassMember}
    (hp : ∀ m ∈ ms, m.kind.Printable) (hdot : ∀ m ∈ ms, m.kind.isDot = false)
    (ho : ∀ m ∈ ms, m.kind.Ordered)
    (h : c.rest = '[' :: (if negate then ['^'] else []) ++ ms.flatMap (·.kind.print) ++ [']'] ++ rest) :
    c.ReadsAtom d (.bracket span negate ms) rest := by
  have hinside : (c.next.eat? '^').isSome = negate ∧
      ((c.next.eat? '^').getD c.next).rest = ms.flatMap (·.kind.print) ++ ']' :: rest := by
    simp only [List.cons_append, List.append_assoc, List.nil_append] at h
    have hnext := (peek?_of_rest h).2
    cases negate with
    | true =>
      rw [eat?_of_rest hnext]
      exact ⟨rfl, (peek?_of_rest hnext).2⟩
    | false =>
      have hno : c.next.eat? '^' = none := by
        refine eat?_eq_none ?_
        rw [hnext]
        cases ms with
        | nil => simp
        | cons m ms =>
          obtain ⟨more, hhead⟩ := member_head (hdot m List.mem_cons_self)
          simp [hhead]
      rw [hno]
      exact ⟨rfl, hnext⟩
  obtain ⟨read, after, hread, hkinds, hrest⟩ := classMembers_print [] hp hdot ho hinside.2
  refine ⟨'[', .bracket ⟨c.byte, after.byte⟩ negate read, after, ?_, by decide, ?_, ?_, hrest⟩
  · exact (peek?_of_rest (by simpa using h)).1
  · have hbracket : c.bracket true = .ok (.bracket ⟨c.byte, after.byte⟩ negate read, after) := by
      unfold bracket
      dsimp only
      rw [hread, hinside.1]
      rfl
    rw [← hd] at hbracket
    exact hbracket
  · have hmembers : ∀ ms : List ClassMember, ms.map (·.mapSpans fun _ => ⟨0, 0⟩) =
        (ms.map ClassMember.kind).map fun kind => ⟨⟨0, 0⟩, kind⟩ := by
      intro ms
      rw [List.map_map]
      rfl
    rw [Element.bare, Element.bare, Element.mapSpans, Element.mapSpans, hmembers, hkinds, ← hmembers]

theorem opening_print {n : Nat} {shell : Shell} (hs : ∀ capture, shell = .group (some capture) →
      capture.index = n + 1 ∧ ∀ name ∈ capture.name, IsGroupName name)
    (h : c.rest = shell.openingText ++ rest) (hr : rest.head? ≠ some '?') :
    ∃ after, c.opening n = .ok (shell, after) ∧ after.rest = rest := by
  rcases shell with (_ | ⟨index, _ | name⟩) | ⟨direction, negate⟩
  · have hnext := (peek?_of_rest h).2
    obtain ⟨hmark, hrest⟩ := peek?_of_rest (peek?_of_rest hnext).2
    refine ⟨c.next.next.next, ?_, hrest⟩
    unfold opening
    rw [eat?_of_rest hnext]
    dsimp only
    rw [hmark]
    rfl
  · obtain ⟨rfl, -⟩ := hs _ rfl
    have hnext := (peek?_of_rest h).2
    refine ⟨c.next, ?_, hnext⟩
    unfold opening
    rw [eat?_eq_none (hnext.symm ▸ hr)]
  · obtain ⟨rfl, hname⟩ := hs _ rfl
    simp only [Shell.openingText, List.cons_append, List.nil_append, List.append_assoc] at h
    have hnext := (peek?_of_rest h).2
    obtain ⟨hmark, hlt⟩ := peek?_of_rest (peek?_of_rest hnext).2
    obtain ⟨after, hread, hrest⟩ := groupName_print (hname name rfl) hlt
    obtain ⟨first, more, hfirst, hstart, _⟩ := hname name rfl
    have hpeek : c.next.next.next.peek? = some first :=
      (peek?_of_rest (by rw [hlt, hfirst]; rfl)).1
    have hne : first ≠ '=' ∧ first ≠ '!' := by
      constructor <;> rintro rfl <;> exact absurd hstart (by decide)
    refine ⟨after, ?_, hrest⟩
    unfold opening
    rw [eat?_of_rest hnext]
    dsimp only
    rw [hmark, hpeek, hread]
    simp [hne.1, hne.2]
  · cases direction with
    | ahead =>
      cases negate
      all_goals
        have hnext := (peek?_of_rest h).2
        obtain ⟨hmark, hrest⟩ := peek?_of_rest (peek?_of_rest hnext).2
        refine ⟨c.next.next.next, ?_, hrest⟩
        unfold opening
        rw [eat?_of_rest hnext]
        dsimp only
        rw [hmark]
        rfl
    | behind =>
      cases negate
      all_goals
        have hnext := (peek?_of_rest h).2
        obtain ⟨hmark, hlt⟩ := peek?_of_rest (peek?_of_rest hnext).2
        obtain ⟨hpeek, hrest⟩ := peek?_of_rest hlt
        refine ⟨c.next.next.next.next, ?_, hrest⟩
        unfold opening
        rw [eat?_of_rest hnext]
        dsimp only
        rw [hmark, hpeek]
        rfl

end Cursor

/-- A printed element begins with one of these characters, none of which goes on what stands before
it. -/
theorem Element.print_head (e : Element) :
    ∃ x more, e.print = x :: more ∧ x ∈ ['\\', '.', '[', '(', '^', '$'] := by
  cases e with
  | char => exact ⟨_, _, rfl, by simp⟩
  | bracket => exact ⟨_, _, rfl, by simp⟩
  | set span s =>
    obtain ⟨kind, negate⟩ := s
    cases kind <;> exact ⟨_, _, rfl, by simp⟩
  | anchor span anchor => cases anchor <;> exact ⟨_, _, rfl, by simp⟩
  | backreference span target => cases target <;> exact ⟨_, _, rfl, by simp⟩
  | group span capture branches =>
    rcases capture with _ | ⟨index, _ | name⟩ <;> exact ⟨_, _, rfl, by simp⟩
  | look span direction negate branches =>
    cases direction <;> cases negate <;> exact ⟨_, _, rfl, by simp⟩
  | quantifier span min max greedy inner =>
    obtain ⟨x, more, heq, hx⟩ := inner.print_head
    exact ⟨x, _, by rw [print, heq]; rfl, hx⟩

theorem Clear.cons {x : Char} {rest : List Char}
    (hx : x ∉ ['*', '+', '?', '\x7b'] ∧ x.isDigit = false) : Clear (x :: rest) := by
  rintro y ⟨⟩
  exact hx

theorem elementsPrint_clear (es : List Element) {rest : List Char} (hr : Clear rest) :
    Clear (elementsPrint es ++ rest) := by
  cases es with
  | nil => exact hr
  | cons e es =>
    obtain ⟨x, more, heq, hx⟩ := e.print_head
    rw [elementsPrint, heq]
    refine .cons ?_
    simp only [List.mem_cons, List.not_mem_nil, or_false] at hx
    rcases hx with rfl | rfl | rfl | rfl | rfl | rfl <;> exact ⟨by simp, rfl⟩

end RegexInsight
