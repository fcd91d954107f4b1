import Mathlib.Data.List.DropRight
import RegexInsight.Proofs.SearchAnswers
import RegexInsight.Proofs.Seeds
import RegexInsight.Proofs.Slices

/-! Where a long line cuts the seeds. The cut is that of the line on which the match starts, and all candidates
of the match are cut there. For a group that starts on the same line this is the cut of its own line. -/
namespace RegexInsight

def lineBefore (cs : List Char) (i : Nat) : List Char := (cs.take i).rtakeWhile (· != '\n')

/-- The line that holds character `i`. -/
def lineAround (cs : List Char) (i : Nat) : List Char :=
  lineBefore cs i ++ (cs.drop i).takeWhile (· != '\n')

/-- The character at which the line of character `i` is cut, if it has more than `count` characters. -/
def cutAround? (count : Nat) (cs : List Char) (i : Nat) : Option Nat :=
  if count < (lineAround cs i).length then some (i - (lineBefore cs i).length + count) else none

section
variable {cs : List Char} {i k count : Nat}

theorem lineBefore_succ (hi : i < cs.length) : lineBefore cs (i + 1) =
    if cs[i] != '\n' then lineBefore cs i ++ [cs[i]] else [] := by
  rw [lineBefore, List.take_add_one, List.getElem?_eq_getElem hi, Option.toList_some,
    List.rtakeWhile_concat]
  rfl

theorem lineBefore_length_le (hi : i ≤ cs.length) : (lineBefore cs i).length ≤ i := by
  have hle := (List.rtakeWhile_suffix (· != '\n') (cs.take i)).length_le
  rwa [List.length_take_of_le hi] at hle

theorem drop_lineStart (hi : i ≤ cs.length) :
    cs.drop (i - (lineBefore cs i).length) = lineBefore cs i ++ cs.drop i := by
  obtain ⟨front, hfront⟩ := List.rtakeWhile_suffix (· != '\n') (cs.take i)
  change front ++ lineBefore cs i = cs.take i at hfront
  have hlength := congrArg List.length hfront
  rw [List.length_append, List.length_take_of_le hi] at hlength
  have hstart : i - (lineBefore cs i).length = front.length := by omega
  have hcs : cs = front ++ (lineBefore cs i ++ cs.drop i) := by
    rw [← List.append_assoc, hfront, List.take_append_drop]
  calc cs.drop (i - (lineBefore cs i).length)
      = (front ++ (lineBefore cs i ++ cs.drop i)).drop front.length := by rw [hstart, ← hcs]
    _ = lineBefore cs i ++ cs.drop i := List.drop_left

theorem takeWhile_lineStart (hi : i ≤ cs.length) :
    (cs.drop (i - (lineBefore cs i).length)).takeWhile (· != '\n') = lineAround cs i := by
  have hline : ∀ c ∈ lineBefore cs i, (c != '\n') = true := fun c hc =>
    List.mem_rtakeWhile_imp (p := (· != '\n')) hc
  rw [drop_lineStart hi, List.takeWhile_append_of_pos hline]
  rfl

theorem cutAround?_le {p : Nat} (hi : i ≤ cs.length) (h : p ∈ cutAround? count cs i) :
    p ≤ cs.length := by
  have hle := (List.takeWhile_sublist (· != '\n')
    (l := cs.drop (i - (lineBefore cs i).length))).length_le
  rw [takeWhile_lineStart hi, List.length_drop] at hle
  simp only [cutAround?, Option.mem_def] at h
  split_ifs at h
  cases h
  omega

/-- Two characters with no line feed from the one up to the other have the same line. -/
theorem lineBefore_add (hk : i + k ≤ cs.length) (h : '\n' ∉ (cs.take (i + k)).drop i) :
    lineBefore cs (i + k) = lineBefore cs i ++ (cs.take (i + k)).drop i := by
  induction k with
  | zero => simp
  | succ k ih =>
    have hlt : i + k < cs.length := by omega
    have hdrop : (cs.take (i + k + 1)).drop i = (cs.take (i + k)).drop i ++ [cs[i + k]] := by
      rw [List.take_add_one, List.getElem?_eq_getElem hlt, Option.toList_some,
        List.drop_append_of_le_length (by simp; omega)]
    rw [← Nat.add_assoc, hdrop] at h ⊢
    simp only [List.mem_append, List.mem_singleton, not_or] at h
    have hne : (cs[i + k] != '\n') = true := by simpa using Ne.symm h.2
    rw [lineBefore_succ hlt, hne, if_pos rfl, ih (by omega) h.1, List.append_assoc]

theorem cutAround?_add (hk : i + k ≤ cs.length) (h : '\n' ∉ (cs.take (i + k)).drop i) :
    cutAround? count cs (i + k) = cutAround? count cs i := by
  have hbefore := lineBefore_add hk h
  have hle : (lineBefore cs i).length ≤ i := lineBefore_length_le (by omega)
  have hstart : i + k - (lineBefore cs (i + k)).length = i - (lineBefore cs i).length := by
    rw [hbefore, List.length_append, List.length_drop, List.length_take_of_le hk]
    omega
  rw [cutAround?, cutAround?, ← takeWhile_lineStart hk, hstart, takeWhile_lineStart (by omega)]

end

namespace Subject

variable {cs : List Char} {i k : Nat}

theorem getElem?_chars_ofChars : (ofChars cs).chars[i]? = cs[i]? := by simp [ofChars]

theorem lineStart_ofChars (hi : i ≤ cs.length) :
    (ofChars cs).lineStart i = i - (lineBefore cs i).length := by
  induction i with
  | zero => simp [lineStart]
  | succ i ih =>
    have hlt : i < cs.length := hi
    have hle := lineBefore_length_le (Nat.le_of_lt hlt)
    rw [lineStart, getElem?_chars_ofChars, List.getElem?_eq_getElem hlt, lineBefore_succ hlt]
    by_cases hfeed : cs[i] = '\n'
    · simp [hfeed]
    · simp [hfeed, ih (Nat.le_of_lt hlt)]

theorem lineExceeds_ofChars (count i : Nat) : (ofChars cs).lineExceeds count i =
    decide (count < ((cs.drop i).takeWhile (· != '\n')).length) := by
  induction count generalizing i with
  | zero =>
    rw [lineExceeds, getElem?_chars_ofChars, ← List.head?_drop]
    cases cs.drop i with
    | nil => simp
    | cons c rest => by_cases hfeed : c = '\n' <;> simp [hfeed]
  | succ count ih =>
    rw [lineExceeds, getElem?_chars_ofChars, ih, ← List.head?_drop, ← List.drop_drop]
    cases cs.drop i with
    | nil => simp
    | cons c rest => by_cases hfeed : c = '\n' <;> simp [hfeed]

theorem charAtByte?_ofChars (hi : i ≤ cs.length) :
    (ofChars cs).charAtByte? (width (cs.take i)) = some i := by
  rw [charAtByte?, bytes_ofChars, List.idxOf?_toArray, List.idxOf?_eq_some_iff]
  refine ⟨by simp; omega, by simp, fun j hj => ?_⟩
  have hlt := width_take_lt hj hi
  simp
  omega

theorem lineCut?_ofChars {count : Nat} (hk : k ≤ cs.length) :
    (ofChars cs).lineCut? (width (cs.take k)) count =
      (cutAround? count cs k).map fun p => width (cs.take p) := by
  have hlong : (ofChars cs).lineExceeds count (k - (lineBefore cs k).length) =
      decide (count < (lineAround cs k).length) := by
    rw [lineExceeds_ofChars, takeWhile_lineStart hk]
  simp only [lineCut?, charAtByte?_ofChars hk, Option.getD_some, lineStart_ofChars hk, hlong,
    decide_eq_true_eq, cutAround?]
  by_cases h : count < (lineAround cs k).length
  · have hcut : k - (lineBefore cs k).length + count ≤ cs.length :=
      cutAround?_le hk (Option.mem_def.mpr (if_pos h))
    simp [h, byteAt_ofChars hcut]
  · simp [h]

theorem sliceBytes?_ofChars {j : Nat} (hi : i ≤ cs.length) (hj : j ≤ cs.length) :
    (ofChars cs).sliceBytes? ⟨width (cs.take i), width (cs.take j)⟩ =
      if i ≤ j then some ((cs.take j).drop i) else none := by
  simp only [sliceBytes?, charAtByte?_ofChars hi, charAtByte?_ofChars hj]
  by_cases h : i ≤ j
  · simp [h, ofChars, List.drop_take]
  · simp [h]

end Subject

/-- The span holds the characters of a text from `i` up to `j`. -/
structure Span.Holds (cs : List Char) (span : Span) (i j : Nat) : Prop where
  start_eq : span.start = width (cs.take i)
  stop_eq : span.stop = width (cs.take j)
  ordered : i ≤ j
  stop_le : j ≤ cs.length

/-- The characters from `i` up to `j` and not behind the cut, three hundred at most. -/
def textUpTo (cs : List Char) (i j : Nat) : Option Nat → List Char
  | none => ((cs.take j).drop i).take Estimate.maxSeedChars
  | some cut =>
    if cut ≤ i then [] else ((cs.take (min j cut)).drop i).take Estimate.maxSeedChars

/-- The number of characters from `i` up to `j` that a cut leaves. -/
def leftOf (i j : Nat) (cut : Option Nat) : Nat :=
  min Estimate.maxSeedChars (min j (cut.getD j) - i)

section
variable {cs : List Char} {span : Span} {i j : Nat}

theorem textUpTo_eq (cs : List Char) (i j : Nat) (cut : Option Nat) :
    textUpTo cs i j cut = (cs.drop i).take (leftOf i j cut) := by
  cases cut with
  | none => simp [textUpTo, leftOf, List.drop_take, List.take_take]
  | some cut =>
    by_cases h : cut ≤ i
    · have hnone : min j cut - i = 0 := by omega
      simp [textUpTo, leftOf, h, hnone]
    · simp [textUpTo, leftOf, h, List.drop_take, List.take_take]

theorem length_textUpTo (hj : j ≤ cs.length) (cut : Option Nat) :
    (textUpTo cs i j cut).length = leftOf i j cut := by
  rw [textUpTo_eq, List.length_take, List.length_drop]
  unfold leftOf
  omega

theorem textUpTo_eq_iff (hj : j ≤ cs.length) (cut cut' : Option Nat) :
    textUpTo cs i j cut = textUpTo cs i j cut' ↔ leftOf i j cut = leftOf i j cut' := by
  constructor
  · intro h
    rw [← length_textUpTo hj cut, h, length_textUpTo hj]
  · intro h
    rw [textUpTo_eq, textUpTo_eq, h]

theorem window?_ofChars (h : span.Holds cs i j) {cut : Option Nat} (hcut : ∀ p ∈ cut, p ≤ cs.length) :
    (((Subject.ofChars cs).window? span (cut.map fun p => width (cs.take p))).getD []).take
      Estimate.maxSeedChars = textUpTo cs i j cut := by
  obtain ⟨start, stop⟩ := span
  obtain ⟨rfl, rfl, hordered, hstop⟩ := h
  have hstart : i ≤ cs.length := Nat.le_trans hordered hstop
  cases cut with
  | none => simp [Subject.window?, textUpTo, Subject.sliceBytes?_ofChars hstart hstop, hordered]
  | some cut =>
    have hcut : cut ≤ cs.length := hcut cut rfl
    by_cases hbehind : cut ≤ i
    · simp [Subject.window?, textUpTo, width_take_le_iff hcut hstart, hbehind]
    · have hmin : min j cut ≤ cs.length := Nat.le_trans (Nat.min_le_left _ _) hstop
      have hle : i ≤ min j cut := by omega
      simp [Subject.window?, textUpTo, width_take_le_iff hcut hstart, hbehind,
        width_take_min hstop hcut, Subject.sliceBytes?_ofChars hstart hmin, hle]

end

/-- The spans of a match and of its groups are places in a text. -/
structure MatchRecord.Placed (cs : List Char) (m : MatchRecord) : Prop where
  whole : ∃ i j, m.span.Holds cs i j
  groups : ∀ g ∈ m.groups, ∀ span ∈ g.span, ∃ i j, span.Holds cs i j

namespace Estimate

theorem candidatesOf_placed {cs : List Char} {m : MatchRecord} (h : m.Placed cs) :
    ∀ c ∈ candidatesOf m, c.line = m.span.start ∧ ∃ i j, c.span.Holds cs i j := by
  intro c hc
  obtain ⟨span, hspan, rfl⟩ := List.mem_map.mp hc
  refine ⟨rfl, ?_⟩
  rcases List.mem_cons.mp hspan with rfl | hgroup
  · exact h.whole
  · obtain ⟨g, hg, hfilter⟩ := List.mem_filterMap.mp hgroup
    split_ifs at hfilter
    exact h.groups g hg span hfilter

/-- A candidate gives its text up to the cut of the line on which its match starts. -/
theorem seedText_eq {cs : List Char} {settings : EstimatorSettings} {c : Candidate} {i j k : Nat}
    (hspan : c.span.Holds cs i j) (hline : c.line = width (cs.take k)) (hk : k ≤ cs.length) :
    seedText settings (.ofChars cs) c = textUpTo cs i j (cutAround? settings.maxLineChars cs k) := by
  rw [seedText, hline, Subject.lineCut?_ofChars hk]
  exact window?_ofChars hspan fun p hp => cutAround?_le hk hp

end Estimate

open Estimate in
/-- The seeds are the texts of the candidates, each up to the cut of the line on which its match starts. This is
the cut of the candidate's own line if it starts there, and otherwise if both cuts leave as much. -/
theorem seeds_clipped {sample : List Char} {found : List MatchRecord}
    (hfound : ∀ m ∈ found, m.Placed sample) (settings : EstimatorSettings) :
    (seedsOf settings (.ofChars sample) found).seeds =
      (distinctTexts (((found.flatMap candidatesOf).take settings.maxCandidates).map
        (seedText settings (.ofChars sample)))).take maxSeeds ∧
    ∀ m ∈ found, ∀ c ∈ candidatesOf m, (∃ i j, c.span.Holds sample i j) ∧
      ∀ k stop i j, m.span.Holds sample k stop → c.span.Holds sample i j →
        let cut := cutAround? settings.maxLineChars sample
        seedText settings (.ofChars sample) c = textUpTo sample i j (cut k) ∧
        (seedText settings (.ofChars sample) c = textUpTo sample i j (cut i) ↔
          leftOf i j (cut k) = leftOf i j (cut i)) ∧
        ('\n' ∉ (sample.take (max i k)).drop (min i k) →
          seedText settings (.ofChars sample) c = textUpTo sample i j (cut i)) := by
  refine ⟨seedsOf_seeds settings (.ofChars sample) found, fun m hm c hc => ?_⟩
  obtain ⟨hline, hplaced⟩ := candidatesOf_placed (hfound m hm) c hc
  refine ⟨hplaced, fun k stop i j hmatch hspan => ?_⟩
  have hk : k ≤ sample.length := Nat.le_trans hmatch.ordered hmatch.stop_le
  have hi : i ≤ sample.length := Nat.le_trans hspan.ordered hspan.stop_le
  have htext : seedText settings (.ofChars sample) c =
      textUpTo sample i j (cutAround? settings.maxLineChars sample k) :=
    seedText_eq hspan (hline.trans hmatch.start_eq) hk
  refine ⟨htext, ?_, fun hsame => ?_⟩
  · rw [htext]
    exact textUpTo_eq_iff hspan.stop_le _ _
  · rw [htext]
    congr 1
    rcases Nat.le_total i k with hle | hle
    · obtain ⟨n, rfl⟩ := Nat.exists_eq_add_of_le hle
      rw [Nat.max_eq_right hle, Nat.min_eq_left hle] at hsame
      exact cutAround?_add hk hsame
    · obtain ⟨n, rfl⟩ := Nat.exists_eq_add_of_le hle
      rw [Nat.max_eq_left hle, Nat.min_eq_right hle] at hsame
      exact (cutAround?_add hi hsame).symm

/-- A match on a long line, with a group on this line and one on the next. The first group is cut as its line is,
and the second one is left out. -/
theorem seeds_clipped_two_lines :
    let sample := "abcdé\nfg".toList
    let m : MatchRecord := ⟨⟨0, 9⟩, "abcdé\nfg", 1,
      [⟨1, none, "bcdé", some ⟨1, 6⟩⟩, ⟨2, none, "fg", some ⟨7, 9⟩⟩]⟩
    let settings : EstimatorSettings := ⟨250, 4, 2000, 100000⟩
    (∀ r ∈ [m], MatchRecord.Placed sample r) ∧ m.span.Holds sample 0 8 ∧
      Span.Holds sample ⟨1, 6⟩ 1 5 ∧ '\n' ∉ (sample.take (max 1 0)).drop (min 1 0) ∧
      Estimate.seedText settings (.ofChars sample) ⟨⟨1, 6⟩, 0⟩ =
        textUpTo sample 1 5 (cutAround? 4 sample 1) ∧
      textUpTo sample 1 5 (cutAround? 4 sample 1) = "bcd".toList ∧
      (Estimate.seedsOf settings (.ofChars sample) [m]).seeds = ["abcd".toList, "bcd".toList] := by
  intro sample m settings
  have hwhole : m.span.Holds sample 0 8 :=
    ⟨by decide +kernel, by decide +kernel, by decide, by decide⟩
  have hgroup : Span.Holds sample ⟨1, 6⟩ 1 5 :=
    ⟨by decide +kernel, by decide +kernel, by decide, by decide⟩
  have hplaced : ∀ r ∈ [m], MatchRecord.Placed sample r := by
    intro r hr
    obtain rfl := List.mem_singleton.mp hr
    refine ⟨⟨0, 8, hwhole⟩, fun g hg span hspan => ?_⟩
    simp only [m, List.mem_cons, List.not_mem_nil, or_false] at hg
    rcases hg with rfl | rfl
    · cases hspan
      exact ⟨1, 5, hgroup⟩
    · cases hspan
      exact ⟨6, 8, by decide +kernel, by decide +kernel, by decide, by decide⟩
  have hcandidate : (⟨⟨1, 6⟩, 0⟩ : Estimate.Candidate) ∈ Estimate.candidatesOf m := by
    have hlong : 2 ≤ "bcdé".length := by decide
    simp [Estimate.candidatesOf, m, hlong]
  have hsame : '\n' ∉ (sample.take (max 1 0)).drop (min 1 0) := by decide +kernel
  obtain ⟨-, hall⟩ := seeds_clipped hplaced settings
  exact ⟨hplaced, hwhole, hgroup, hsame,
    ((hall m List.mem_cons_self _ hcandidate).2 0 8 1 5 hwhole hgroup).2.2 hsame,
    by decide +kernel, by decide +kernel⟩

/-- A group on a short line is left out because its match starts on a long one. -/
theorem seed_cut_on_other_line :
    ∃ r l, Regex.build "aaa\\n(bb)" ⟨false, false, false, false, false, false⟩ = .ok r ∧
      r.collect (.ofString "aaa\nbb") 1000 = .ok l ∧
      (∃ m ∈ l.found, ∃ c ∈ Estimate.candidatesOf m,
        c.span.Holds "aaa\nbb".toList 4 6 ∧ cutAround? 2 "aaa\nbb".toList 4 = none ∧
        textUpTo "aaa\nbb".toList 4 6 none = "bb".toList ∧
        Estimate.seedText ⟨250, 2, 2000, 100000⟩ (.ofString "aaa\nbb") c = []) ∧
      (Estimate.seedsOf ⟨250, 2, 2000, 100000⟩ (.ofString "aaa\nbb") l.found).seeds =
        ["aa".toList] := by
  have h : (Regex.build "aaa\\n(bb)" ⟨false, false, false, false, false, false⟩).toOption.map
      (fun r => (r.collect (.ofString "aaa\nbb") 1000).toOption.map MatchList.found) =
      some (some [⟨⟨0, 6⟩, "aaa\nbb", 1, [⟨1, none, "bb", some ⟨4, 6⟩⟩]⟩]) := by
    decide +kernel
  obtain ⟨r, hr, hcollect⟩ := ok_of_toOption_map h
  obtain ⟨l, hl, hfound⟩ := ok_of_toOption_map hcollect
  refine ⟨r, l, hr, hl, ?_, ?_⟩
  · rw [hfound]
    refine ⟨_, List.mem_cons_self, ⟨⟨4, 6⟩, 0⟩, ?_, ?_, by decide +kernel, by decide +kernel,
      by decide +kernel⟩
    · have hlong : 2 ≤ "bb".length := by decide
      simp [Estimate.candidatesOf, hlong]
    · exact ⟨by decide +kernel, by decide +kernel, by decide, by decide +kernel⟩
  · rw [hfound]
    decide +kernel

end RegexInsight
