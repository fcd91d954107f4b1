import Mathlib.Data.List.Find
import RegexInsight.Features
import RegexInsight.Proofs.Enclosure
import RegexInsight.Proofs.Slices

/-! What is seen of a text when there is a group around it. The texts and shapes that are looked for in
a source begin with no character of the group's opening token and do not end with a closing bracket,
so they stand in the group exactly if they stand in the source. The parts of the source are the same
parts of the group, three bytes further on. -/
namespace RegexInsight

/-- The text does not begin in the opening token of a group that captures nothing. -/
def StartsInside (part : List Char) : Bool :=
  part.head?.any fun x => x != '(' && x != '?' && x != ':'

/-- The text does not end with a closing bracket. -/
def EndsInside (part : List Char) : Bool := part.getLast? != some ')'

/-- What neither depends on the characters of the token nor on the closing bracket is the same for
the group. -/
theorem eq_enclose {α : Type} {g : List Char → α}
    (hlead : ∀ x ∈ ['(', '?', ':'], ∀ cs, g (x :: cs) = g cs)
    (hclose : ∀ cs, g (cs ++ [')']) = g cs) (cs : List Char) : g (enclose cs) = g cs := by
  have hthree : enclose cs = '(' :: '?' :: ':' :: (cs ++ [')']) := rfl
  rw [hthree, hlead '(' (by decide), hlead '?' (by decide), hlead ':' (by decide), hclose]

section
variable {part : List Char} {x : Char}

theorem isPrefixOf_lead (h : StartsInside part) (hx : x ∈ ['(', '?', ':']) (cs : List Char) :
    part.isPrefixOf (x :: cs) = false := by
  cases part with
  | nil => cases h
  | cons y part =>
    have hy : y ≠ x := by
      rintro rfl
      simp [StartsInside] at h hx
      tauto
    simp [List.isPrefixOf, hy]

theorem isPrefixOf_close (h : EndsInside part) (cs : List Char) :
    part.isPrefixOf (cs ++ [')']) = part.isPrefixOf cs := by
  rw [Bool.eq_iff_iff, List.isPrefixOf_iff_prefix, List.isPrefixOf_iff_prefix,
    List.prefix_concat_iff, or_iff_right]
  rintro rfl
  simp [EndsInside] at h

/-- A text that is looked for stands in the group if it stands in the source. -/
theorem holdsText_enclose (hs : StartsInside part) (he : EndsInside part) (cs : List Char) :
    holdsText part (enclose cs) = holdsText part cs := by
  refine eq_enclose (fun x hx cs => ?_) (fun cs => ?_) cs
  · rw [holdsText, isPrefixOf_lead hs hx, Bool.false_or]
  · induction cs with
    | nil =>
      have hfirst : part.isPrefixOf [')'] = part.isPrefixOf [] := isPrefixOf_close he []
      rw [List.nil_append, holdsText, holdsText, hfirst]
      cases part <;> rfl
    | cons x cs ih =>
      rw [List.cons_append, holdsText, holdsText, ih, ← List.cons_append, isPrefixOf_close he]

end

namespace Shape

/-- All texts of the shape end inside. -/
def EndsInside (shape : Shape) : Bool :=
  shape.all fun spellings => spellings.all fun s => RegexInsight.EndsInside s.toList

/-- The shape begins inside, whichever text it begins with. -/
def StartsInside (shape : Shape) : Bool :=
  shape.head?.any fun spellings => spellings.all fun s => RegexInsight.StartsInside s.toList

theorem after?_close {shape : Shape} (h : shape.EndsInside) (cs : List Char) :
    shape.after? (cs ++ [')']) = (shape.after? cs).map (· ++ [')']) := by
  induction shape generalizing cs with
  | nil => rfl
  | cons spellings shape ih =>
    simp only [EndsInside, List.all_cons, Bool.and_eq_true, List.all_eq_true] at h
    have hfind : (spellings.find? fun s => s.toList.isPrefixOf (cs ++ [')'])) =
        spellings.find? fun s => s.toList.isPrefixOf cs :=
      List.find?_congr fun s hs => isPrefixOf_close (h.1 s hs) cs
    rw [after?, after?, hfind]
    cases hs : spellings.find? fun s => s.toList.isPrefixOf cs with
    | none => rfl
    | some s =>
      have hprefix : s.toList <+: cs := List.isPrefixOf_iff_prefix.mp
        (List.find?_some (p := fun s : String => s.toList.isPrefixOf cs) hs)
      have hlength : s.length ≤ cs.length := hprefix.length_le
      dsimp only
      rw [List.drop_append_of_le_length hlength]
      exact ih (by simpa [EndsInside] using h.2) _

theorem after?_lead {shape : Shape} (h : shape.StartsInside) {x : Char} (hx : x ∈ ['(', '?', ':'])
    (cs : List Char) : shape.after? (x :: cs) = none := by
  cases shape with
  | nil => cases h
  | cons spellings shape =>
    have hfind : (spellings.find? fun s => s.toList.isPrefixOf (x :: cs)) = none := by
      rw [List.find?_eq_none]
      intro s hs
      simp only [StartsInside, List.head?_cons, Option.any_some, List.all_eq_true] at h
      rw [isPrefixOf_lead (h s hs) hx]
      decide
    rw [after?, hfind]

theorem find?_close {shape : Shape} (h : shape.EndsInside) (cs : List Char) :
    shape.find? (cs ++ [')']) = (shape.find? cs).map (· ++ [')']) := by
  induction cs with
  | nil =>
    have hfirst : shape.after? [')'] = (shape.after? []).map (· ++ [')']) := after?_close h []
    rw [List.nil_append, find?, find?, find?, hfirst]
    cases shape.after? [] <;> rfl
  | cons x cs ih =>
    rw [List.cons_append, find?, find?, ← List.cons_append, after?_close h]
    cases shape.after? (x :: cs) with
    | none => exact ih
    | some rest => rfl

theorem find?_lead {shape : Shape} (h : shape.StartsInside) {x : Char} (hx : x ∈ ['(', '?', ':'])
    (cs : List Char) : shape.find? (x :: cs) = shape.find? cs := by
  rw [find?, after?_lead h hx]

theorem find?_enclose {shape : Shape} (hs : shape.StartsInside) (he : shape.EndsInside)
    (cs : List Char) : (shape.find? (enclose cs)).isSome = (shape.find? cs).isSome := by
  refine eq_enclose (g := fun cs => (shape.find? cs).isSome) (fun x hx cs => ?_) (fun cs => ?_) cs
  · rw [find?_lead hs hx]
  · rw [find?_close he, Option.isSome_map]

/-- The shapes end inside, and the first of them begins inside. -/
def AllInside (shapes : List Shape) : Bool :=
  shapes.head?.any StartsInside && shapes.all EndsInside

theorem inOrder_close {shapes : List Shape} (h : shapes.all EndsInside) (cs : List Char) :
    inOrder shapes (cs ++ [')']) = inOrder shapes cs := by
  induction shapes generalizing cs with
  | nil => rfl
  | cons shape shapes ih =>
    rw [List.all_cons, Bool.and_eq_true] at h
    rw [inOrder, inOrder, find?_close h.1]
    cases shape.find? cs with
    | none => rfl
    | some rest => exact ih h.2 rest

theorem inOrder_lead {shapes : List Shape} (h : shapes.head?.any StartsInside) {x : Char}
    (hx : x ∈ ['(', '?', ':']) (cs : List Char) : inOrder shapes (x :: cs) = inOrder shapes cs := by
  cases shapes with
  | nil => cases h
  | cons shape shapes => rw [inOrder, inOrder, find?_lead h hx]

end Shape

section
variable {p : Char → Bool} {x : Char}

theorem splitOnto_eq (p : Char → Bool) (part : List Char) (parts : List (List Char))
    (cs : List Char) : splitOnto p part parts cs = parts.reverse ++ cs.splitOnPPrepend p part := by
  induction cs generalizing part parts with
  | nil => simp [splitOnto]
  | cons x cs ih =>
    rw [splitOnto, List.splitOnPPrepend_cons_eq_if, ih, ih, List.splitOnP_eq_splitOnPPrepend]
    split <;> simp

theorem splitText_eq (p : Char → Bool) (cs : List Char) : splitText p cs = cs.splitOnP p := by
  rw [splitText, splitOnto_eq, List.splitOnP_eq_splitOnPPrepend]
  rfl

/-- A character that does not separate goes to the first part if it stands in front. -/
theorem splitText_cons (hx : p x = false) (cs : List Char) : ∃ first more,
    splitText p cs = first :: more ∧ splitText p (x :: cs) = (x :: first) :: more := by
  have hne : cs.splitOnP p ≠ [] := List.splitOnP_ne_nil p cs
  obtain ⟨first, more, hcs⟩ := List.exists_cons_of_ne_nil hne
  refine ⟨first, more, by rw [splitText_eq, hcs], ?_⟩
  rw [splitText_eq, List.splitOnP_cons_eq_if_modifyHead, hx, hcs]
  rfl

theorem splitText_concat (hx : p x = false) (cs : List Char) : ∃ before last,
    splitText p cs = before ++ [last] ∧ splitText p (cs ++ [x]) = before ++ [last ++ [x]] := by
  simp only [splitText_eq]
  induction cs with
  | nil => exact ⟨[], [], rfl, by simp [List.splitOnP_cons_eq_if_modifyHead, hx]⟩
  | cons y cs ih =>
    obtain ⟨before, last, hcs, hsnoc⟩ := ih
    rw [List.cons_append, List.splitOnP_cons_eq_if_modifyHead, List.splitOnP_cons_eq_if_modifyHead,
      hcs, hsnoc]
    split
    · exact ⟨[] :: before, last, rfl, rfl⟩
    · cases before with
      | nil => exact ⟨[], y :: last, rfl, rfl⟩
      | cons first before => exact ⟨(y :: first) :: before, last, rfl, rfl⟩

end

theorem Shape.inSomeLine_enclose {shapes : List Shape} (h : AllInside shapes) (cs : List Char) :
    inSomeLine shapes (enclose cs) = inSomeLine shapes cs := by
  rw [AllInside, Bool.and_eq_true] at h
  refine eq_enclose (fun x hx cs => ?_) (fun cs => ?_) cs
  · have hline : (x == '\n') = false := by
      have hlead := hx
      simp only [List.mem_cons, List.not_mem_nil, or_false] at hlead
      rcases hlead with rfl | rfl | rfl <;> rfl
    obtain ⟨first, more, hcs, hcons⟩ := splitText_cons (p := (· == '\n')) hline cs
    rw [inSomeLine, inSomeLine, hcs, hcons, List.any_cons, List.any_cons, inOrder_lead h.1 hx]
  · obtain ⟨before, last, hcs, hconcat⟩ := splitText_concat (p := (· == '\n')) (x := ')') rfl cs
    rw [inSomeLine, inSomeLine, hcs, hconcat, List.any_append, List.any_append, List.any_cons,
      List.any_cons, inOrder_close h.2]

section
variable {old new : List Char}

theorem replaceOnto_out (old new : List Char) (skip : Nat) (out cs : List Char) :
    replaceOnto old new skip out cs = replaceOnto old new skip [] cs ++ out := by
  induction cs generalizing skip out with
  | nil => rfl
  | cons x cs ih =>
    cases skip with
    | succ skip => exact ih skip out
    | zero =>
      rw [replaceOnto, replaceOnto]
      split
      · rw [ih, ih _ (new.reverse ++ []), List.append_nil, List.append_assoc]
      · rw [ih, ih _ [x], List.append_assoc]
        rfl

theorem replaceOnto_close (hne : old ≠ []) (h : EndsInside old) {skip : Nat} {cs : List Char}
    (hskip : skip ≤ cs.length) (out : List Char) :
    replaceOnto old new skip out (cs ++ [')']) = ')' :: replaceOnto old new skip out cs := by
  induction cs generalizing skip out with
  | nil =>
    obtain rfl : skip = 0 := Nat.le_zero.mp hskip
    have hfirst : old.isPrefixOf [')'] = old.isPrefixOf [] := isPrefixOf_close h []
    have hnil : old.isPrefixOf [] = false := by
      cases old with
      | nil => exact absurd rfl hne
      | cons => rfl
    rw [List.nil_append, replaceOnto, replaceOnto, hfirst, hnil]
    rfl
  | cons x cs ih =>
    cases skip with
    | succ skip => exact ih (by simpa using hskip) out
    | zero =>
      rw [List.cons_append, replaceOnto, replaceOnto, ← List.cons_append, isPrefixOf_close h]
      split
      · rename_i hprefix
        refine ih ?_ _
        have hlength := (List.isPrefixOf_iff_prefix.mp hprefix).length_le
        rw [List.length_cons] at hlength
        omega
      · exact ih (Nat.zero_le _) _

theorem replaceText_close (hne : old ≠ []) (h : EndsInside old) (cs : List Char) :
    replaceText old new (cs ++ [')']) = replaceText old new cs ++ [')'] := by
  rw [replaceText, replaceText, replaceOnto_close hne h (Nat.zero_le _), List.reverse_cons]

theorem replaceText_lead (h : StartsInside old) {x : Char} (hx : x ∈ ['(', '?', ':'])
    (cs : List Char) : replaceText old new (x :: cs) = x :: replaceText old new cs := by
  rw [replaceText, replaceText, replaceOnto, isPrefixOf_lead h hx, if_neg Bool.false_ne_true,
    replaceOnto_out, List.reverse_append]
  rfl

theorem replaceText_enclose (hs : StartsInside old) (he : EndsInside old) (cs : List Char) :
    replaceText old new (enclose cs) = enclose (replaceText old new cs) := by
  have hne : old ≠ [] := by
    rintro rfl
    cases hs
  have hthree : ∀ cs, enclose cs = '(' :: '?' :: ':' :: (cs ++ [')']) := fun _ => rfl
  rw [hthree, hthree, replaceText_lead hs (by decide), replaceText_lead hs (by decide),
    replaceText_lead hs (by decide), replaceText_close hne he]

end

theorem colons_enclose (cs : List Char) :
    (replaceText "(?:".toList [] (enclose cs)).count ':' =
      (replaceText "(?:".toList [] cs).count ':' := by
  have hopen : replaceText "(?:".toList [] (enclose cs) = replaceText "(?:".toList [] (cs ++ [')']) :=
    rfl
  rw [hopen, replaceText_close (by decide +kernel) (by decide +kernel), List.count_append]
  rfl

theorem logLevelsIn_enclose (cs : List Char) : logLevelsIn (enclose cs) = logLevelsIn cs := by
  have hthree : enclose cs = [] ++ '(' :: ([] ++ '?' :: ([] ++ ':' :: (cs ++ ')' :: []))) := rfl
  have hsplit : splitText (fun c => !isWordLetter c) (enclose cs) =
      [[], [], []] ++ splitText (fun c => !isWordLetter c) cs ++ [[]] := by
    simp only [splitText_eq]
    rw [hthree, List.splitOnP_append_cons _ _ (by decide), List.splitOnP_append_cons _ _ (by decide),
      List.splitOnP_append_cons _ _ (by decide), List.splitOnP_append_cons _ _ (by decide)]
    rfl
  rw [logLevelsIn, logLevelsIn, hsplit]
  refine List.filter_congr fun level hlevel => ?_
  have hempty : "" ∉ logLevels := by decide +kernel
  have hne : level ≠ "" := fun h => hempty (h ▸ hlevel)
  simp [hne]

namespace sliceChars?

theorem skip_close {cs : List Char} {n : Nat} (hn : n ≤ width cs) :
    skip (cs ++ [')']) n = (skip cs n).map (· ++ [')']) := by
  induction cs generalizing n with
  | nil =>
    obtain rfl : n = 0 := Nat.le_zero.mp hn
    rfl
  | cons x cs ih =>
    rw [width_cons] at hn
    cases n with
    | zero => rfl
    | succ n =>
      rw [List.cons_append, skip, skip]
      · split
        · exact ih (by omega)
        · rfl
      iterate 2 · exact Nat.succ_ne_zero n

theorem skip_width {cs rest : List Char} {n : Nat} (h : skip cs n = some rest) :
    n + width rest = width cs := by
  induction cs generalizing n with
  | nil =>
    cases n with
    | zero => cases h; rfl
    | succ n => cases h
  | cons x cs ih =>
    cases n with
    | zero => cases h; exact Nat.zero_add _
    | succ n =>
      rw [skip] at h
      · split at h
        · have := ih h
          rw [width_cons]
          omega
        · cases h
      · exact Nat.succ_ne_zero n

theorem take_close {cs : List Char} {n : Nat} (hn : n ≤ width cs) (out : List Char) :
    take (cs ++ [')']) out n = take cs out n := by
  induction cs generalizing n out with
  | nil =>
    obtain rfl : n = 0 := Nat.le_zero.mp hn
    rfl
  | cons x cs ih =>
    rw [width_cons] at hn
    cases n with
    | zero => rfl
    | succ n =>
      rw [List.cons_append, take, take]
      · split
        · exact ih (by omega) _
        · rfl
      iterate 2 · exact Nat.succ_ne_zero n

end sliceChars?

theorem sliceChars?_enclose {cs : List Char} {span : Span} (h : span.stop ≤ width cs) :
    sliceChars? (enclose cs) span.enclosed = sliceChars? cs span := by
  have hlead : sliceChars?.skip (enclose cs) (span.start + 3) =
      sliceChars?.skip (cs ++ [')']) span.start := rfl
  unfold sliceChars?
  rw [Span.enclosed, hlead]
  dsimp only
  rw [Nat.add_sub_add_right]
  by_cases horder : span.stop < span.start
  · simp only [if_pos horder, if_pos (Nat.add_lt_add_right horder 3)]
    split <;> split <;> rfl
  · simp only [if_neg horder, if_neg (mt Nat.lt_of_add_lt_add_right horder)]
    rw [sliceChars?.skip_close (by omega)]
    cases hrest : sliceChars?.skip cs span.start with
    | none => rfl
    | some rest =>
      have := sliceChars?.skip_width hrest
      exact sliceChars?.take_close (by omega) []

end RegexInsight
