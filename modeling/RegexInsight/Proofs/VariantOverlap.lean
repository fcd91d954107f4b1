import Mathlib.Data.List.TakeWhile
import RegexInsight.Proofs.CaseForms
import RegexInsight.Proofs.KeptVariants

/-! Texts that are expected both to match and not to match. A pattern that allows white space is expected to
accept a space at the end, which is also the first change that makes any text look wrong. Without white space
the one change that both sides can share is a last character repeated. -/
namespace RegexInsight
namespace Variant

variable {seed text p q : List Char} {t : PatternTraits} {c n : Char}

/-- The characters that are appended to make a text look wrong. -/
def strays (t : PatternTraits) : List Char :=
  [' ', '\t', '§'] ++ (if t.digitClass then ['x'] else []) ++ (if t.wordClass then ['!'] else [])

/-- The separators that are doubled to make a text look wrong. -/
def separators (t : PatternTraits) : List Char :=
  (if t.dot then ['.'] else []) ++ (if t.hyphen then ['-'] else []) ++ (if t.colon then [':'] else [])

/-- To repeat the last character is to append a stray one, or to double a separator, when the text ends in a
run of the separator that holds its first occurrence. -/
def RepeatsStray (t : PatternTraits) (seed : List Char) : Prop :=
  3 ≤ seed.length ∧ ∃ c ∈ seed.getLast?,
    c ∈ strays t ∨ c ∈ separators t ∧ ∀ d ∈ seed.dropWhile (· != c), d = c

theorem mem_strays : c ∈ strays t ↔ c = ' ' ∨ c = '\t' ∨ c = '§' ∨
    t.digitClass ∧ c = 'x' ∨ t.wordClass ∧ c = '!' := by
  cases hdigit : t.digitClass <;> cases hword : t.wordClass <;> simp [strays, hdigit, hword]

theorem mem_separators : c ∈ separators t ↔
    t.dot ∧ c = '.' ∨ t.hyphen ∧ c = '-' ∨ t.colon ∧ c = ':' := by
  cases hdot : t.dot <;> cases hhyphen : t.hyphen <;> cases hcolon : t.colon <;>
    simp [separators, hdot, hhyphen, hcolon]

theorem replaceFirst?_eq_some {f : Char → Bool} {new : List Char} :
    replaceFirst? f new seed = some text ↔
      ∃ c after, seed.dropWhile (!f ·) = c :: after ∧
        text = seed.takeWhile (!f ·) ++ new ++ after := by
  unfold replaceFirst?
  cases seed.dropWhile (!f ·) with
  | nil => simp
  | cons c after => simp [eq_comm]

/-- A text that is split where a character passes a test for the first time. -/
theorem replaceFirst?_split {f : Char → Bool} {new : List Char}
    (h : replaceFirst? f new seed = some text) : ∃ p c q,
      seed = p ++ c :: q ∧ text = p ++ new ++ q ∧ f c ∧ ∀ d ∈ p, ¬ f d := by
  obtain ⟨c, after, hdrop, htext⟩ := replaceFirst?_eq_some.mp h
  refine ⟨_, c, after, ?_, htext, ?_, ?_⟩
  · rw [← hdrop, List.takeWhile_append_dropWhile]
  · have hpass := List.head?_dropWhile_not (!f ·) seed
    simpa [hdrop] using hpass
  · intro d hd
    simpa using List.mem_takeWhile_imp hd

theorem text_mem_intolerable : text ∈ (intolerable t seed).map Variant.text ↔
    (∃ c ∈ strays t, text = seed ++ [c]) ∨
    t.digitClass ∧ replaceFirst? Char.isDigit ['x'] seed = some text ∨
    t.wordClass ∧ replaceFirst? isAlphabetic ['!'] seed = some text ∨
    (∃ c ∈ separators t, replaceFirst? (· == c) [c, c] seed = some text) ∨
    t.fullyAnchored = false ∧
      (text = ['x', 'x', '_'] ++ seed ++ ['_', 'x', 'x'] ∨ text = '\x7b' :: seed ++ ['\x7d']) := by
  simp only [intolerable, List.map_append, List.mem_append, List.mem_map, List.mem_ite_nil_right,
    List.mem_ite_nil_left, List.mem_cons, List.not_mem_nil, or_false, Option.mem_toList,
    Option.map_eq_some_iff, mem_strays, mem_separators, or_and_right, exists_or, exists_eq_left,
    and_assoc, exists_and_left, exists_exists_and_eq_and, exists_eq_right', eq_comm (b := text),
    Bool.not_eq_true]
  grind

/-- What a text becomes when it is made to look wrong. -/
inductive Spoiled (t : PatternTraits) : List Char → List Char → Prop
  | appended {seed : List Char} {c : Char} : c ∈ strays t → Spoiled t seed (seed ++ [c])
  | digit {p q : List Char} {c : Char} : c.isDigit → Spoiled t (p ++ c :: q) (p ++ 'x' :: q)
  | letter {p q : List Char} {c : Char} : isAlphabetic c → Spoiled t (p ++ c :: q) (p ++ '!' :: q)
  | doubled {p q : List Char} {c : Char} : c ∈ separators t → c ∉ p →
      Spoiled t (p ++ c :: q) (p ++ c :: c :: q)
  | wrapped {seed : List Char} : Spoiled t seed (['x', 'x', '_'] ++ seed ++ ['_', 'x', 'x'])
  | braced {seed : List Char} : Spoiled t seed ('\x7b' :: seed ++ ['\x7d'])

theorem spoiled_of_mem (h : text ∈ (intolerable t seed).map Variant.text) :
    Spoiled t seed text := by
  rcases text_mem_intolerable.mp h with ⟨c, hc, rfl⟩ | ⟨-, hfirst⟩ | ⟨-, hfirst⟩ |
    ⟨c, hc, hfirst⟩ | ⟨-, rfl | rfl⟩
  · exact .appended hc
  · obtain ⟨p, d, q, rfl, rfl, hd, -⟩ := replaceFirst?_split hfirst
    simpa using Spoiled.digit hd
  · obtain ⟨p, d, q, rfl, rfl, hd, -⟩ := replaceFirst?_split hfirst
    simpa using Spoiled.letter hd
  · obtain ⟨p, d, q, rfl, rfl, hd, hp⟩ := replaceFirst?_split hfirst
    obtain rfl : d = c := by simpa using hd
    simpa using Spoiled.doubled (q := q) hc fun hmem => hp d hmem hd
  · exact .wrapped
  · exact .braced

theorem Spoiled.length_le (h : Spoiled t seed text) : seed.length ≤ text.length := by
  cases h <;> simp <;> omega

theorem text_mem_tolerable (h : t.allowsWhitespace = false) :
    text ∈ (tolerable t seed).map Variant.text ↔
      seed.any isAlphabetic ∧
        (text = upperText seed ∨ text = lowerText seed ∨ text = alternatingCase seed) ∨
      t.hyphen ∧ '-' ∈ seed ∧ text = replaceChar '-' ['_'] seed ∨
      t.dot ∧ '.' ∈ seed ∧ text = replaceChar '.' ['-'] seed ∨
      t.colon ∧ ':' ∈ seed ∧ text = replaceChar ':' ['-'] seed ∨
      2 ≤ seed.length ∧ text = seed.dropLast ∨
      3 ≤ seed.length ∧ text = seed ++ seed.getLast?.toList := by
  simp only [tolerable, h, Bool.false_eq_true, if_false, List.nil_append, List.map_append,
    List.mem_append, List.mem_map, List.mem_ite_nil_right, List.mem_cons, List.not_mem_nil, or_false,
    Bool.and_eq_true, List.contains_eq_mem, decide_eq_true_eq, or_and_right, exists_or,
    exists_eq_left, and_assoc, exists_and_left, eq_comm (b := text), or_assoc]

/-- The text in other letters. None of them is the text within unrelated characters. -/
structure Recased (seed text : List Char) : Prop where
  spelled : Spelled CaseForm seed text
  bare : text ≠ ['x', 'x', '_'] ++ seed ++ ['_', 'x', 'x']

theorem upperForm_append_ne (text : List Char) : upperForm c ++ text ≠ 'x' :: p := by
  have hhead := upperForm_head_ne_x c
  cases hform : upperForm c with
  | nil => exact absurd hform (upperForm_caseForm c).ne_nil
  | cons d form =>
    rw [hform] at hhead
    simp only [List.cons_append, ne_eq, List.cons.injEq, not_and]
    exact fun hd => absurd (congrArg some hd) hhead

theorem upperText_recased : Recased seed (upperText seed) := by
  refine ⟨.flatMap upperForm_caseForm, ?_⟩
  cases seed with
  | nil => decide
  | cons c seed => exact upperForm_append_ne _

theorem alternatingCase_spelled (seed : List Char) (i : Nat) : Spelled CaseForm seed
    ((seed.zipIdx i).flatMap fun (c, i) => if i % 2 = 0 then upperForm c else lowerForm c) := by
  induction seed generalizing i with
  | nil => exact .nil
  | cons c seed ih =>
    rw [List.zipIdx_cons, List.flatMap_cons]
    refine .cons ?_ (ih (i + 1))
    show CaseForm c (if i % 2 = 0 then upperForm c else lowerForm c)
    split_ifs
    · exact upperForm_caseForm c
    · exact lowerForm_caseForm c

theorem alternatingCase_recased : Recased seed (alternatingCase seed) := by
  refine ⟨alternatingCase_spelled seed 0, ?_⟩
  cases seed with
  | nil => decide
  | cons c seed => exact upperForm_append_ne _

/-- A text with a character whose small form is long has none of it in its small letters. All others are as
long as theirs. -/
theorem lowerText_recased : Recased seed (lowerText seed) := by
  have hspelled := lowerText_spelled seed
  refine ⟨hspelled.mono fun c form => LowerForm.caseForm, ?_⟩
  intro hwrapped
  by_cases hdotted : '\u0130' ∈ seed
  · have hnone : '\u0130' ∉ lowerText seed := fun hmem =>
      hspelled.forall_mem (P := (· ≠ '\u0130'))
        (fun c form hform d hd => by rintro rfl; exact hform.dotted_not_mem hd) _ hmem rfl
    exact hnone (by simp [hwrapped, hdotted])
  · have hlength := hspelled.length_eq fun c hc form hform =>
      hform.length_eq_one fun hc' => hdotted (hc' ▸ hc)
    simp [hwrapped] at hlength
    omega

theorem replaceChar_eq_map (old new : Char) :
    replaceChar old [new] seed = seed.map fun c => if c == old then new else c := by
  rw [replaceChar, List.map_eq_flatMap]
  congr 1
  funext c
  by_cases hc : c = old <;> simp [hc]

/-- What a text becomes when a change that it tolerates is made to it, other than by white space. -/
inductive Tolerated : List Char → List Char → Prop
  | recased {seed text : List Char} : Recased seed text → Tolerated seed text
  | respelled {seed : List Char} {f : Char → Char} :
      (∀ c, f c = c ∨ f c = '_' ∨ f c = '-') → Tolerated seed (seed.map f)
  | shortened {seed : List Char} : 2 ≤ seed.length → Tolerated seed seed.dropLast
  | repeated {seed : List Char} {c : Char} :
      3 ≤ seed.length → c ∈ seed.getLast? → Tolerated seed (seed ++ [c])

theorem replaceChar_tolerated {old new : Char} (h : new = '_' ∨ new = '-') :
    Tolerated seed (replaceChar old [new] seed) := by
  rw [replaceChar_eq_map]
  apply Tolerated.respelled
  intro c
  split_ifs
  · exact .inr h
  · exact .inl rfl

theorem tolerated_of_mem (h : t.allowsWhitespace = false)
    (hmem : text ∈ (tolerable t seed).map Variant.text) : Tolerated seed text := by
  rcases (text_mem_tolerable h).mp hmem with ⟨-, rfl | rfl | rfl⟩ | ⟨-, -, rfl⟩ | ⟨-, -, rfl⟩ |
    ⟨-, -, rfl⟩ | ⟨hlength, rfl⟩ | ⟨hlength, rfl⟩
  · exact .recased upperText_recased
  · exact .recased lowerText_recased
  · exact .recased alternatingCase_recased
  · exact replaceChar_tolerated (by simp)
  · exact replaceChar_tolerated (by simp)
  · exact replaceChar_tolerated (by simp)
  · exact .shortened hlength
  · cases hlast : seed.getLast? with
    | none => simp [List.getLast?_eq_none_iff.mp hlast] at hlength
    | some c => exact .repeated hlength hlast

theorem separators_caseless (hc : c ∈ separators t) : inBlocks caselessBlocks c := by
  rcases mem_separators.mp hc with ⟨-, rfl⟩ | ⟨-, rfl⟩ | ⟨-, rfl⟩ <;> decide

theorem Recased.not_spoiled (h : Recased seed text) : ¬ Spoiled t seed text := by
  obtain ⟨hspelled, hbare⟩ := h
  intro hspoiled
  cases hspoiled with
  | appended => exact Spelled.not_append (by simp) hspelled
  | @digit p q c hc =>
    have hhead := hspelled.append_cancel.head_eq_of_caseless (.inl (isDigit_caseless hc))
    subst hhead
    simp at hc
  | @letter p q c hc =>
    have hhead := hspelled.append_cancel.head_eq_of_caseless (.inr (by decide))
    subst hhead
    revert hc
    decide
  | @doubled p q c hc hp =>
    have hrest : Spelled CaseForm q (c :: q) := hspelled.append_cancel.cons_cancel
    apply Spelled.not_before (q := []) (separators_caseless hc)
    simpa using hrest
  | wrapped => exact hbare rfl
  | braced => exact Spelled.not_before (by decide) hspelled

theorem apply_eq_of_map_eq {f : Char → Char} (h : (p ++ c :: q).map f = p ++ n :: q) : f c = n := by
  simp only [List.map_append, List.map_cons] at h
  exact (List.cons.inj (List.append_inj h (by simp)).2).1

/-- Only a change of one character leaves the length as it is, and it puts a character there that no
respelling does. -/
theorem map_not_spoiled {f : Char → Char} (hf : ∀ c, f c = c ∨ f c = '_' ∨ f c = '-') :
    ¬ Spoiled t seed (seed.map f) := by
  generalize htext : seed.map f = text
  intro hspoiled
  have hlength : text.length = seed.length := by simp [← htext]
  cases hspoiled with
  | appended => simp at hlength
  | @digit p q c hc =>
    have hchar := apply_eq_of_map_eq htext
    rcases hf c with heq | heq | heq <;> simp [heq] at hchar
    simp [hchar] at hc
  | @letter p q c hc =>
    have hchar := apply_eq_of_map_eq htext
    rcases hf c with heq | heq | heq <;> simp [heq] at hchar
    subst hchar
    revert hc
    decide
  | doubled => simp at hlength
  | wrapped => simp at hlength; omega
  | braced => simp at hlength; omega

theorem dropLast_not_spoiled (hlength : 2 ≤ seed.length) : ¬ Spoiled t seed seed.dropLast := by
  intro hspoiled
  have hle := hspoiled.length_le
  simp at hle
  omega

/-- A text with a character behind it and one before it is the same only if it is a run. -/
theorem concat_eq_cons_iff {d : Char} : q ++ [d] = c :: q ↔ d = c ∧ ∀ e ∈ q, e = c := by
  induction q with
  | nil => simp
  | cons e q ih =>
    simp only [List.cons_append, List.cons.injEq, List.forall_mem_cons]
    constructor
    · rintro ⟨rfl, hrest⟩
      exact ⟨(ih.mp hrest).1, rfl, (ih.mp hrest).2⟩
    · rintro ⟨hd, rfl, hall⟩
      exact ⟨rfl, ih.mpr ⟨hd, hall⟩⟩

theorem repeatsStray_of_spoiled (hlength : 3 ≤ seed.length) (hc : c ∈ seed.getLast?)
    (hspoiled : Spoiled t seed (seed ++ [c])) : RepeatsStray t seed := by
  refine ⟨hlength, c, hc, ?_⟩
  generalize htext : seed ++ [c] = text at hspoiled
  have hone : text.length = seed.length + 1 := by simp [← htext]
  cases hspoiled with
  | appended hd =>
    left
    simp only [List.append_cancel_left_eq, List.cons.injEq, and_true] at htext
    exact htext ▸ hd
  | digit => simp at hone
  | letter => simp at hone
  | @doubled p q d hd hp =>
    right
    have hrun : q ++ [c] = d :: q := by simpa using htext
    obtain ⟨rfl, hall⟩ := concat_eq_cons_iff.mp hrun
    refine ⟨hd, ?_⟩
    have hdrop : (p ++ c :: q).dropWhile (· != c) = c :: q := by
      rw [List.dropWhile_append_of_pos]
      · simp
      · intro e he
        have hne : e ≠ c := by
          rintro rfl
          exact hp he
        simpa using hne
    simpa [hdrop] using hall
  | wrapped => simp at hone; omega
  | braced => simp at hone

/-- Without white space, a change that is expected to match and is also expected not to match repeats the last
character. -/
theorem Tolerated.repeatsStray (h : Tolerated seed text) (hspoiled : Spoiled t seed text) :
    RepeatsStray t seed := by
  cases h with
  | recased hrecased => exact absurd hspoiled hrecased.not_spoiled
  | respelled hf => exact absurd hspoiled (map_not_spoiled hf)
  | shortened hlength => exact absurd hspoiled (dropLast_not_spoiled hlength)
  | repeated hlength hc => exact repeatsStray_of_spoiled hlength hc hspoiled

section
variable {α : Type} {xs ys : List α} {m k : Nat}

theorem length_ite_nil_le {b : Bool} (h : xs.length ≤ k) : (if b then xs else []).length ≤ k := by
  split_ifs
  · exact h
  · exact Nat.zero_le _

theorem length_append_le (hx : xs.length ≤ m) (hy : ys.length ≤ k) : (xs ++ ys).length ≤ m + k := by
  simp
  omega

end

/-- Without those for white space there is room for all tolerable changes. -/
theorem tolerable_length_le (h : t.allowsWhitespace = false) :
    (tolerable t seed).length ≤ maxShouldMatch := by
  have hbound : (tolerable t seed).length ≤ 0 + 3 + 1 + 1 + 1 + 1 + 1 := by
    unfold tolerable
    refine length_append_le (length_append_le (length_append_le (length_append_le (length_append_le
      (length_append_le ?_ ?_) ?_) ?_) ?_) ?_) ?_
    · simp [h]
    all_goals split_ifs <;> simp
  exact hbound

theorem intolerable_length_le (h : t.fullyAnchored) :
    (intolerable t seed).length ≤ maxShouldNotMatch := by
  have hbound : (intolerable t seed).length ≤ 3 + (1 + 1) + (1 + 1) + 1 + 1 + 1 + 0 := by
    unfold intolerable
    refine length_append_le (length_append_le (length_append_le (length_append_le (length_append_le
      (length_append_le ?_ ?_) ?_) ?_) ?_) ?_) ?_
    · simp
    · exact length_ite_nil_le (length_append_le Option.length_toList_le (by simp))
    · exact length_ite_nil_le (Nat.add_le_add_right Option.length_toList_le 1)
    · exact length_ite_nil_le Option.length_toList_le
    · exact length_ite_nil_le Option.length_toList_le
    · exact length_ite_nil_le Option.length_toList_le
    · simp [h]
  exact hbound

/-- All changes but the last two, which put a text within another, are kept. -/
theorem text_mem_shouldNotMatch (hne : text ≠ seed)
    (h : text ∈ (intolerable { t with fullyAnchored := true } seed).map Variant.text) :
    text ∈ (shouldNotMatch seed t).map Variant.text := by
  obtain ⟨ws, hsplit⟩ : ∃ ws, intolerable t seed =
      intolerable { t with fullyAnchored := true } seed ++ ws := by
    simp only [intolerable, if_true, List.append_nil]
    exact ⟨_, rfl⟩
  obtain ⟨v, hv, rfl⟩ := List.mem_map.mp h
  rw [shouldNotMatch, hsplit]
  exact text_mem_keep_of_length_le hv (intolerable_length_le rfl) hne

theorem appended_mem_shouldNotMatch (hc : c ∈ strays t) :
    seed ++ [c] ∈ (shouldNotMatch seed t).map Variant.text :=
  text_mem_shouldNotMatch (by simp) (text_mem_intolerable.mpr (.inl ⟨c, hc, rfl⟩))

theorem doubled_mem_shouldNotMatch (hc : c ∈ separators t) (hlast : c ∈ seed.getLast?)
    (hrun : ∀ d ∈ seed.dropWhile (· != c), d = c) :
    seed ++ [c] ∈ (shouldNotMatch seed t).map Variant.text := by
  apply text_mem_shouldNotMatch (by simp)
  have hfirst : replaceFirst? (· == c) [c, c] seed = some (seed ++ [c]) := by
    cases hdrop : seed.dropWhile (· != c) with
    | nil =>
      have hnone := List.dropWhile_eq_nil_iff.mp hdrop c (List.mem_of_getLast? hlast)
      simp at hnone
    | cons d after =>
      rw [hdrop] at hrun
      obtain ⟨rfl, hall⟩ := List.forall_mem_cons.mp hrun
      refine replaceFirst?_eq_some.mpr ⟨d, after, hdrop, ?_⟩
      have hseed : seed.takeWhile (· != d) ++ d :: after = seed := by
        rw [← hdrop, List.takeWhile_append_dropWhile]
      have hswap : after ++ [d] = d :: after := concat_eq_cons_iff.mpr ⟨rfl, hall⟩
      calc seed ++ [d] = seed.takeWhile (· != d) ++ d :: (after ++ [d]) := by
            nth_rewrite 1 [← hseed]
            simp
        _ = seed.takeWhile (· != d) ++ [d, d] ++ after := by simp [hswap]
  exact text_mem_intolerable.mpr (.inr (.inr (.inr (.inl ⟨c, hc, hfirst⟩))))

theorem repeated_mem_shouldMatch (h : t.allowsWhitespace = false) (hlength : 3 ≤ seed.length)
    (hlast : c ∈ seed.getLast?) : seed ++ [c] ∈ (shouldMatch seed t).map Variant.text := by
  have hmem : seed ++ [c] ∈ (tolerable t seed).map Variant.text := by
    have hc : seed.getLast?.toList = [c] := by simp [Option.mem_def.mp hlast]
    simp [text_mem_tolerable h, hlength, hc]
  obtain ⟨v, hv, htext⟩ := List.mem_map.mp hmem
  have hkept : v.text ∈ (keep maxShouldMatch seed (tolerable t seed ++ [])).map Variant.text :=
    text_mem_keep_of_length_le hv (tolerable_length_le h) (by simp [htext])
  simpa [shouldMatch, htext] using hkept

theorem trailing_space_mem_shouldMatch (h : t.allowsWhitespace) :
    seed ++ [' '] ∈ (shouldMatch seed t).map Variant.text := by
  obtain ⟨ws, hsplit⟩ : ∃ ws, tolerable t seed =
      [⟨' ' :: seed, "a leading space"⟩] ++ ⟨seed ++ [' '], "a trailing space"⟩ :: ws := by
    simp only [tolerable, h, if_true, List.append_assoc]
    exact ⟨_, rfl⟩
  rw [shouldMatch, hsplit]
  exact text_mem_keep (by simp [maxShouldMatch]) (by simp)

/-- The texts that are expected to match are not expected to fail, and the other way round, exactly when the
pattern allows no white space and to repeat the last character is not to append a stray one or to double a
separator. -/
theorem expectations_disjoint_iff (seed : List Char) (t : PatternTraits) :
    ((shouldMatch seed t).map Variant.text).Disjoint ((shouldNotMatch seed t).map Variant.text) ↔
      t.allowsWhitespace = false ∧ ¬ RepeatsStray t seed := by
  constructor
  · intro hdisjoint
    have hspace : t.allowsWhitespace = false := by
      by_contra h
      simp only [Bool.not_eq_false] at h
      exact hdisjoint (trailing_space_mem_shouldMatch h)
        (appended_mem_shouldNotMatch (by simp [mem_strays]))
    refine ⟨hspace, ?_⟩
    intro ⟨hlength, c, hlast, hstray⟩
    apply hdisjoint (repeated_mem_shouldMatch hspace hlength hlast)
    rcases hstray with hc | ⟨hc, hrun⟩
    · exact appended_mem_shouldNotMatch hc
    · exact doubled_mem_shouldNotMatch hc hlast hrun
  · intro ⟨hspace, hrepeat⟩ text hmatch hfail
    apply hrepeat
    apply (tolerated_of_mem hspace ?_).repeatsStray (spoiled_of_mem (t := t) ?_)
    · exact text
    · obtain ⟨v, hv, rfl⟩ := List.mem_map.mp hmatch
      exact List.mem_map_of_mem (mem_of_mem_keep hv).1
    · obtain ⟨v, hv, rfl⟩ := List.mem_map.mp hfail
      exact List.mem_map_of_mem (mem_of_mem_keep hv).1

/-- A trailing space is expected of a pattern with white space, and expected to fail. So is a second
exclamation mark of a pattern with a word class. -/
theorem expectations_overlap :
    ¬ ((shouldMatch ['a'] ⟨true, false, false, false, false, false, false⟩).map Variant.text).Disjoint
      ((shouldNotMatch ['a'] ⟨true, false, false, false, false, false, false⟩).map Variant.text) ∧
    ¬ ((shouldMatch ['a', 'b', '!'] ⟨false, false, true, false, false, false, false⟩).map
        Variant.text).Disjoint
      ((shouldNotMatch ['a', 'b', '!'] ⟨false, false, true, false, false, false, false⟩).map
        Variant.text) := by
  constructor
  · intro hdisjoint
    exact hdisjoint (a := ['a', ' ']) (by decide +kernel) (by decide +kernel)
  · intro hdisjoint
    exact hdisjoint (a := ['a', 'b', '!', '!']) (by decide +kernel) (by decide +kernel)

end Variant
end RegexInsight
