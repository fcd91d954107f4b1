import RegexInsight.Features
import RegexInsight.Proofs.ShorterForms

/-! The text of a quantifier. What stands between the end of a repeated element and the end of its
repetition is the quantifier that was read there, so what is looked up in that text is known from the
tree. -/
namespace RegexInsight

/-- The repetition is written in the source with `text` for its bounds and a mark behind if it is lazy. -/
structure Element.Repetition.Written (source text : List Char) (q : Element.Repetition) : Prop where
  bounds : BoundsText text q.min q.max
  slice : sliceChars? source ⟨q.inner.span.stop, q.span.stop⟩ =
    some (text ++ if q.greedy then [] else ['?'])

theorem Span.Marks.slice {source text : List Char} {span : Span} (h : Marks source text span) :
    sliceChars? source span = some text := by
  obtain ⟨before, after, rfl, rfl⟩ := h
  rw [List.append_assoc, ← width_append]
  exact sliceChars?_append before text after

namespace Reading

variable {source : List Char} {d : Dialect} {x : Char} {r s : Reading}

theorem step_written (hw : r.cursor.Within source) (hx : r.cursor.peek? = some x)
    (hs : r.step d x = .ok s) (hr : ∀ q ∈ r.repetitions, ∃ text, q.Written source text) :
    ∀ q ∈ s.repetitions, ∃ text, q.Written source text := by
  rw [forall_repetitions] at hr ⊢
  refine step_throughout hr hs (fun hatom q hq => ?_) ?_
  · rw [(hatom.placed hw hx).1] at hq
    cases hq
  · rintro atom c hatom min max greedy text ht hreads q ⟨⟩
    obtain ⟨-, hstop, hreach, -⟩ := hatom.placed hw hx
    have hslice := ((hw.reaches hreach).marks hreads).slice
    rw [← hstop] at hslice
    exact ⟨text, ht, hslice⟩

end Reading

theorem parse_written {unicode : Bool} {source : List Char} {tree : PatternTree}
    (h : parse unicode source = .ok tree) {e : Element} (he : e ∈ tree.pattern.elements)
    {q : Element.Repetition} (hq : e.repetition? = some q) : ∃ text, q.Written source text := by
  obtain ⟨s, hs, -, hf⟩ := Reading.run_eq_ok.mp h
  obtain ⟨-, hread⟩ := hs.keeps_within Reading.step_written (.refl _)
    (Reading.forall_repetitions.mpr (Reading.ofText_throughout source))
  exact Reading.finish_throughout (Reading.forall_repetitions.mp hread) hf e he q hq

theorem BoundsText.head?_eq_brace {text : List Char} {min : Nat} {max : Option Nat}
    (h : BoundsText text min max) : text.head? = some '\x7b' ↔ BracesText text min max := by
  constructor
  · cases h with
    | braces h => exact fun _ => h
    | _ => simp
  · exact BracesText.head?

theorem BracesText.getLast? {text : List Char} {min : Nat} {max : Option Nat}
    (h : BracesText text min max) : text.getLast? = some '\x7d' := by
  cases h <;> simp [List.getLast?_cons]

theorem BracesText.unique {text : List Char} {min min' : Nat} {max max' : Option Nat}
    (h : BracesText text min max) (h' : BracesText text min' max') : min = min' ∧ max = max' := by
  obtain ⟨after, hreads⟩ : ∃ after, (Cursor.ofText text).Reads text after :=
    ⟨⟨[], _, _⟩, (List.append_nil text).symm, rfl, rfl⟩
  have hread := Cursor.braces?_of_reads h hreads
  rw [Cursor.braces?_of_reads h' hreads] at hread
  simpa [eq_comm] using hread

theorem Shorthand.bounded {text short : List Char} (h : Shorthand text short) :
    ∃ min max, BracesText text min max ∧ BoundsText short min max := by
  have hzero : Numeral ['0'] 0 := ⟨by decide, List.all_eq_true.mp rfl, by decide⟩
  have hone : Numeral ['1'] 1 := ⟨by decide, List.all_eq_true.mp rfl, by decide⟩
  cases h with
  | star => exact ⟨0, none, .atLeast hzero, .star⟩
  | plus => exact ⟨1, none, .atLeast hone, .plus⟩
  | optional => exact ⟨0, some 1, .between hzero hone, .optional⟩

/-- What is replaced by a shorter form is written with braces, and the form for the same bounds. -/
theorem BoundsText.shorthand {text short : List Char} {min : Nat} {max : Option Nat}
    (h : BoundsText text min max) (hs : Shorthand text short) :
    BracesText text min max ∧ BoundsText short min max := by
  obtain ⟨min', max', htext, hshort⟩ := hs.bounded
  have hbraces := h.head?_eq_brace.mp htext.head?
  obtain ⟨rfl, rfl⟩ := hbraces.unique htext
  exact ⟨hbraces, hshort⟩

theorem mem_insertAscending {m n : Nat} {ns : List Nat} :
    m ∈ insertAscending n ns ↔ m = n ∨ m ∈ ns := by
  induction ns with
  | nil => simp [insertAscending]
  | cons k ns ih =>
    unfold insertAscending
    split_ifs with hlt heq
    · simp
    · simp [heq]
    · simp [ih, or_left_comm]

theorem mem_foldr_insertAscending {m : Nat} {ns : List Nat} :
    m ∈ ns.foldr insertAscending [] ↔ m ∈ ns := by
  induction ns with
  | nil => simp
  | cons n ns ih => rw [List.foldr_cons, mem_insertAscending, ih, List.mem_cons]

namespace ParsedPattern

variable {p : ParsedPattern} {r : Element.Repetition} {text : List Char}

theorem raw_written (h : r.Written p.source.toList text) :
    p.raw ⟨r.inner.span.stop, r.span.stop⟩ = text ++ if r.greedy then [] else ['?'] := by
  rw [raw, h.slice, Option.getD_some]

theorem head?_raw_written (h : r.Written p.source.toList text) :
    (p.raw ⟨r.inner.span.stop, r.span.stop⟩).head? = some '\x7b' ↔ BracesText text r.min r.max := by
  rw [raw_written h, List.head?_append_of_ne_nil _ h.bounds.ne_nil, h.bounds.head?_eq_brace]

theorem mem_bracedBoundsOf {b : Nat × Option Nat} : b ∈ bracedBoundsOf p ↔
    ∃ r ∈ p.repetitions, (p.raw ⟨r.inner.span.stop, r.span.stop⟩).head? = some '\x7b' ∧
      b = (r.min, r.max) := by
  simp only [bracedBoundsOf, repetitions, List.mem_filterMap]
  constructor
  · rintro ⟨e, he, hb⟩
    split at hb
    · split at hb <;> cases hb
      rename_i hbrace
      exact ⟨_, ⟨_, he, rfl⟩, by simpa using hbrace, rfl⟩
    · cases hb
  · rintro ⟨r, ⟨e, he, hr⟩, hbrace, rfl⟩
    refine ⟨e, he, ?_⟩
    cases e <;> cases hr
    simpa using hbrace

/-- What is left of the text without a lazy mark is what was read, but for a question mark that makes
nothing lazy. -/
theorem countedText_written (h : r.Written p.source.toList text) :
    (p.countedText r).toList = text ∨ (p.countedText r).toList = [] ∧ text = ['?'] := by
  rw [countedText, String.toList_ofList, raw_written h]
  have hbounds := h.bounds
  generalize r.min = min, r.max = max at hbounds
  cases r.greedy with
  | false => simp
  | true =>
    cases hbounds with
    | star | plus => exact .inl rfl
    | optional => exact .inr ⟨rfl, rfl⟩
    | braces hb => simp [hb.getLast?]

theorem shorthand?_written (h : r.Written p.source.toList text) {short : String} :
    shorthand? (p.countedText r) = some short ↔ Shorthand text short.toList := by
  rw [shorthand?_eq_some]
  obtain htext | ⟨hnil, rfl⟩ := countedText_written h
  · rw [htext]
  · rw [hnil]
    constructor <;> rintro ⟨⟩

theorem mem_redundantSpans {span : Span} : span ∈ p.redundantSpans ↔
    ∃ r ∈ p.repetitions, r.span = span ∧ ∃ short, shorthand? (p.countedText r) = some short := by
  rw [redundantSpans_eq, List.mem_map]
  simp only [List.mem_filter, shortening?, Option.isSome_map, Option.isSome_iff_exists, and_assoc]
  exact exists_congr fun r => and_congr_right fun _ => and_comm

theorem mem_exactCounts {n : Nat} : n ∈ p.features.exactCounts ↔ (n, some n) ∈ bracedBoundsOf p := by
  show n ∈ ((bracedBoundsOf p).filterMap fun b => if b.2 = some b.1 then b.2 else none).foldr
    insertAscending [] ↔ _
  rw [mem_foldr_insertAscending, List.mem_filterMap]
  constructor
  · rintro ⟨⟨min, max⟩, hb, hn⟩
    dsimp only at hn
    split at hn
    · rename_i hmax
      rw [hn, Option.some.injEq] at hmax
      rwa [← hmax, hn] at hb
    · cases hn
  · exact fun hb => ⟨_, hb, if_pos rfl⟩

/-- The source text behind a repeated element is its quantifier. So the signals for quantifiers in braces
and for their counts, and the advice on redundant quantifiers, speak about what was read. -/
theorem quantifiers_written (hp : parse p.flags.unicode p.source.toList = .ok p.tree) :
    (∀ r ∈ p.repetitions, ∃! text, r.Written p.source.toList text) ∧
    (p.features.braceQuantifier ↔ ∃ r ∈ p.repetitions, ∃ text,
      r.Written p.source.toList text ∧ BracesText text r.min r.max) ∧
    (∀ n, n ∈ p.features.exactCounts ↔ ∃ r ∈ p.repetitions, ∃ text,
      r.Written p.source.toList text ∧ BracesText text n (some n) ∧ r.min = n ∧ r.max = some n) ∧
    ∀ span, span ∈ p.redundantSpans ↔ ∃ r ∈ p.repetitions, r.span = span ∧ ∃ text short,
      r.Written p.source.toList text ∧ Shorthand text short ∧ BoundsText short r.min r.max := by
  have hwritten : ∀ r ∈ p.repetitions, ∃ text, r.Written p.source.toList text := by
    intro r hr
    obtain ⟨e, he, hq⟩ := List.mem_filterMap.mp hr
    exact parse_written hp he hq
  refine ⟨fun r hr => ?_, ?_, fun n => ?_, fun span => ?_⟩
  · obtain ⟨text, ht⟩ := hwritten r hr
    refine ⟨text, ht, fun text' ht' => ?_⟩
    exact List.append_cancel_right (Option.some.inj (ht'.slice.symm.trans ht.slice))
  · have hbraced : p.features.braceQuantifier ↔ ∃ b, b ∈ bracedBoundsOf p := by
      simp [features, List.eq_nil_iff_forall_not_mem]
    simp only [hbraced, mem_bracedBoundsOf]
    constructor
    · rintro ⟨_, r, hr, hbrace, -⟩
      obtain ⟨text, ht⟩ := hwritten r hr
      exact ⟨r, hr, text, ht, (head?_raw_written ht).mp hbrace⟩
    · rintro ⟨r, hr, text, ht, hbraces⟩
      exact ⟨_, r, hr, (head?_raw_written ht).mpr hbraces, rfl⟩
  · rw [mem_exactCounts, mem_bracedBoundsOf]
    constructor
    · rintro ⟨r, hr, hbrace, hb⟩
      obtain ⟨hmin, hmax⟩ := Prod.mk.inj hb
      obtain ⟨text, ht⟩ := hwritten r hr
      have hbraces := (head?_raw_written ht).mp hbrace
      rw [← hmin, ← hmax] at hbraces
      exact ⟨r, hr, text, ht, hbraces, hmin.symm, hmax.symm⟩
    · rintro ⟨r, hr, text, ht, hbraces, hmin, hmax⟩
      refine ⟨r, hr, (head?_raw_written ht).mpr ?_, by rw [hmin, hmax]⟩
      rwa [hmin, hmax]
  · rw [mem_redundantSpans]
    constructor
    · rintro ⟨r, hr, hspan, short, hshort⟩
      obtain ⟨text, ht⟩ := hwritten r hr
      have hs := (shorthand?_written ht).mp hshort
      exact ⟨r, hr, hspan, text, _, ht, hs, (ht.bounds.shorthand hs).2⟩
    · rintro ⟨r, hr, hspan, text, short, ht, hs, -⟩
      have hshort : Shorthand text (String.ofList short).toList := by rwa [String.toList_ofList]
      exact ⟨r, hr, hspan, String.ofList short, (shorthand?_written ht).mpr hshort⟩

/-- Two lazy marks, a number that is clipped, a group in a group, and braces that repeat nothing. -/
theorem quantifiers_written_nested :
    ∃ p : ParsedPattern,
      p.source = "(?:é\x7b007\x7d|\\\x7b*)+?x\x7b2,99999999999\x7d?\x7b,2\x7dy\x7b0,\x7d" ∧
      parse p.flags.unicode p.source.toList = .ok p.tree ∧
      p.repetitions.map (fun r => (r.min, r.max, r.greedy)) =
        [(1, none, false), (7, some 7, true), (0, none, true), (2, some 4294967295, false),
          (0, none, true)] ∧
      (∀ r ∈ p.repetitions, ∃! text, r.Written p.source.toList text) ∧
      (p.features.braceQuantifier ↔ ∃ r ∈ p.repetitions, ∃ text,
        r.Written p.source.toList text ∧ BracesText text r.min r.max) ∧
      (∀ n, n ∈ p.features.exactCounts ↔ ∃ r ∈ p.repetitions, ∃ text,
        r.Written p.source.toList text ∧ BracesText text n (some n) ∧ r.min = n ∧ r.max = some n) ∧
      ∀ span, span ∈ p.redundantSpans ↔ ∃ r ∈ p.repetitions, r.span = span ∧ ∃ text short,
        r.Written p.source.toList text ∧ Shorthand text short ∧ BoundsText short r.min r.max := by
  obtain ⟨source, hsource, hs⟩ : ∃ source,
      source = "(?:é\x7b007\x7d|\\\x7b*)+?x\x7b2,99999999999\x7d?\x7b,2\x7dy\x7b0,\x7d" ∧
      (parse false source.toList).toOption.map (fun tree =>
          (tree.pattern.elements.filterMap Element.repetition?).map fun r =>
            (r.min, r.max, r.greedy)) =
        some [(1, none, false), (7, some 7, true), (0, none, true), (2, some 4294967295, false),
          (0, none, true)] := ⟨_, rfl, by decide +kernel⟩
  cases hp : parse false source.toList with
  | error e =>
    rw [hp] at hs
    cases hs
  | ok tree =>
    rw [hp] at hs
    let p : ParsedPattern := ⟨source, ⟨false, false, false, false, false, false⟩, tree⟩
    have hparse : parse p.flags.unicode p.source.toList = .ok p.tree := hp
    exact ⟨p, hsource, hparse, Option.some.inj hs, quantifiers_written hparse⟩

end ParsedPattern

def countedSource (low high : List Char) : List Char :=
  'a' :: '\x7b' :: (low ++ ',' :: (high ++ ['\x7d']))

def countedTree (low high : List Char) : PatternTree :=
  let span : Span := ⟨0, width (countedSource low high)⟩
  ⟨⟨span, [.mk span [.quantifier span (min (numeralValue low) maxBound)
    (some (min (numeralValue high) maxBound)) true (.char ⟨0, 1⟩ 'a')]]⟩, []⟩

theorem Cursor.bounds_of_braces? {c after : Cursor} {min : Nat} {max : Option Nat}
    (h : c.braces? = some ((min, max), after)) (unicode : Bool) : c.bounds unicode =
      if max.any (· < min) then .error ⟨.boundsOutOfOrder, c.offset⟩
      else .ok (some ((min, max), after)) := by
  obtain ⟨text, ht, hreads⟩ := braces?_reads h
  have hx : c.peek? = some '\x7b' := by
    rw [peek?, hreads.rest, List.head?_append_of_ne_nil _ (BoundsText.braces ht).ne_nil, ht.head?]
  rw [bounds, hx, h]
  rfl

/-- Bounds are compared once they are clipped, so those out of order are found unless the upper one is
clipped as well. -/
theorem parse_counted (unicode : Bool) (low high : List Char) (hl : low ≠ []) (hh : high ≠ [])
    (hlow : ∀ x ∈ low, x.isDigit) (hhigh : ∀ x ∈ high, x.isDigit) :
    parse unicode (countedSource low high) =
      if numeralValue high < numeralValue low ∧ numeralValue high < maxBound then
        .error ⟨.boundsOutOfOrder, 1⟩
      else .ok (countedTree low high) := by
  let text := '\x7b' :: (low ++ ',' :: (high ++ ['\x7d']))
  let d : Dialect := ⟨unicode, .ofText (countedSource low high)⟩
  let c : Cursor := ⟨text, 1, 1⟩
  let after : Cursor := ⟨[], 1 + text.length, 1 + width text⟩
  have htext : BracesText text (min (numeralValue low) maxBound)
      (some (min (numeralValue high) maxBound)) := .between ⟨hl, hlow, rfl⟩ ⟨hh, hhigh, rfl⟩
  have hreads : c.Reads text after := ⟨(List.append_nil text).symm, rfl, rfl⟩
  have hbounds := Cursor.bounds_of_braces? (Cursor.braces?_of_reads htext hreads) unicode
  have hstart : (Reading.ofText (countedSource low high)).cursor.peek? = some 'a' := rfl
  -- the clipped bounds are out of order exactly if the two numbers are, the upper one not being clipped
  have horder : (some (min (numeralValue high) maxBound)).any
      (· < min (numeralValue low) maxBound) =
        decide (numeralValue high < numeralValue low ∧ numeralValue high < maxBound) := by
    rw [Option.any_some, decide_eq_decide]
    omega
  have hstep : (Reading.ofText (countedSource low high)).step d 'a' =
      Reading.addTerm d (.char ⟨0, 1⟩ 'a') c (.empty 0) (.ofText (countedSource low high)) := rfl
  rw [Reading.addTerm, Element.withQuantifier, hbounds, horder] at hstep
  by_cases h : numeralValue high < numeralValue low ∧ numeralValue high < maxBound
  · rw [if_pos h]
    rw [decide_eq_true h] at hstep
    exact Reading.run_eq_error.mpr ⟨_, .refl _, .inl ⟨'a', hstart, hstep⟩⟩
  · rw [if_neg h]
    rw [decide_eq_false h] at hstep
    have hwidth : width (countedSource low high) = 1 + width text := width_cons 'a' text
    have hfinish : ∀ term, Reading.finish ⟨after, #[], [], ⟨[], 0, [term]⟩, []⟩ =
        .ok ⟨⟨⟨0, 1 + width text⟩, [.mk ⟨0, 1 + width text⟩ [term]]⟩, []⟩ := fun term => rfl
    refine Reading.run_eq_ok.mpr ⟨_, .single hstart hstep, rfl, ?_⟩
    rw [countedTree, hwidth]
    exact hfinish _

/-- Numbers one apart at the limit, and long ones with zeros in front. -/
theorem parse_counted_limit :
    (∀ unicode, parse unicode (countedSource "4294967295".toList "4294967294".toList) =
      .error ⟨.boundsOutOfOrder, 1⟩) ∧
    ∀ unicode, parse unicode (countedSource "99999999999999999999".toList "004294967295".toList) =
      .ok (countedTree "99999999999999999999".toList "004294967295".toList) := by
  have hfirst := fun unicode => parse_counted unicode "4294967295".toList "4294967294".toList
    (by decide) (by decide) (List.all_eq_true.mp rfl) (List.all_eq_true.mp rfl)
  have hsecond := fun unicode => parse_counted unicode "99999999999999999999".toList
    "004294967295".toList (by decide) (by decide) (List.all_eq_true.mp rfl) (List.all_eq_true.mp rfl)
  exact ⟨fun unicode => (hfirst unicode).trans (if_pos (by decide +kernel)),
    fun unicode => (hsecond unicode).trans (if_neg (by decide +kernel))⟩

/-- Numbers of any size are not told apart above the limit. -/
theorem parse_counted_clipped :
    ¬ ∀ (unicode : Bool) (low high : List Char), low ≠ [] → high ≠ [] → (∀ x ∈ low, x.isDigit) →
      (∀ x ∈ high, x.isDigit) → ((∃ offset, parse unicode (countedSource low high) =
        .error ⟨.boundsOutOfOrder, offset⟩) ↔ numeralValue high < numeralValue low) := by
  intro h
  obtain ⟨-, hrefused⟩ := h false "4294967296".toList "4294967295".toList (by decide) (by decide)
    (List.all_eq_true.mp rfl) (List.all_eq_true.mp rfl)
  obtain ⟨offset, herror⟩ := hrefused (by decide +kernel)
  have hread : (parse false (countedSource "4294967296".toList "4294967295".toList)).toOption.isSome :=
    by decide +kernel
  rw [herror] at hread
  cases hread

end RegexInsight
