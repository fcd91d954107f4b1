import RegexInsight.Proofs.Enumeration
import RegexInsight.Proofs.SearchAnswers

/-! When a list of matches is said to be cut short. The limit is asked for before the next search is
tried, so a list that holds as many matches as it may is cut short wherever the search would go on,
whether or not it would find another match. -/
namespace RegexInsight

/-- Whether the search goes on behind a match: the pattern is global, and the match is not an empty
one at the end of the sample. -/
def Regex.GoesOn (r : Regex) (sample : String) (m : MatchRecord) : Prop :=
  r.flags.global = true ∧ (m.span.start < m.span.stop ∨ m.span.stop < width sample.toList)

namespace Regex

variable {r : Regex} {s : Subject} {count more start : Nat} {cs all : List Captures}
  {truncated truncated' : Bool}

/-- What a larger limit finds tells whether the smaller one has cut the search short: it has if there
is more, or if there is just as much and another search would have been tried behind it. -/
theorem Lists.truncated_iff (h : r.Lists s count start cs truncated)
    (h' : r.Lists s more start all truncated') (hlt : count < more) :
    truncated = true ↔ count < all.length ∨
      all.length = count ∧ ∀ c ∈ all.getLast?, (r.next? s c).isSome := by
  induction h generalizing more all truncated' with
  | cut start =>
    rcases Nat.eq_zero_or_pos all.length with hnil | hpos
    · simp [List.length_eq_zero_iff.mp hnil]
    · simp [hpos]
  | none hnone =>
    cases h' with
    | cut => omega
    | none => simp
    | last hsome | more hsome => cases hnone.symm.trans hsome
  | last hsome hlast =>
    cases h' with
    | cut => omega
    | none hnone => cases hsome.symm.trans hnone
    | last hsome' =>
      cases hsome.symm.trans hsome'
      simp [hlast]
    | more hsome' hnext =>
      cases hsome.symm.trans hsome'
      cases hlast.symm.trans hnext
  | more hsome hnext _ ih =>
    cases h' with
    | cut => omega
    | none hnone => cases hsome.symm.trans hnone
    | last hsome' hlast =>
      cases hsome.symm.trans hsome'
      cases hnext.symm.trans hlast
    | @more _ _ _ _ rest _ hsome' hnext' hrest =>
      cases hsome.symm.trans hsome'
      cases hnext.symm.trans hnext'
      rw [ih hrest (Nat.lt_of_succ_lt_succ hlt), List.length_cons, Nat.add_lt_add_iff_right,
        Nat.add_right_cancel_iff]
      -- the last match is the last of the rest, or the one in hand, behind which the search goes on
      cases rest with
      | nil => simp [hnext]
      | cons d rest => rw [List.getLast?_cons_cons]

theorem Hit.goesOn_iff {sample : String} {c : Captures} (h : r.Hit (.ofString sample) start c) :
    r.GoesOn sample (r.record (.ofString sample) c) ↔
      (r.next? (.ofString sample) c).isSome = true := by
  have hstop := h.stop_le
  rw [Subject.ofString, Subject.size_ofChars] at hstop
  have hspan := Hit.span (show r.Hit (.ofChars sample.toList) start c from h)
  have hempty := width_take_lt_iff (Nat.le_trans h.ordered hstop) hstop
  have hend := width_take_lt_iff hstop (Nat.le_refl _)
  rw [List.take_length] at hend
  rw [GoesOn, Subject.ofString, hspan, hempty, hend, next?, Subject.size_ofChars]
  split_ifs <;> simp_all

end Regex

/-- A list of matches is marked as cut short just if there are more matches than the limit allows for,
or as many, the last of which is one that the search goes on behind. -/
theorem collect_truncated_iff {source : String} {flags : Flags} {r : Regex}
    (hb : Regex.build source flags = .ok r) (stepLimit : Nat) {sample : String} {limit more : Nat}
    (hlt : limit < more) {l all : MatchList}
    (h : ({ r with stepLimit := stepLimit } : Regex).collect (.ofString sample) limit = .ok l)
    (hall : ({ r with stepLimit := stepLimit } : Regex).collect (.ofString sample) more = .ok all) :
    l.truncated = true ↔ limit < all.found.length ∨
      all.found.length = limit ∧ ∀ m ∈ all.found.getLast?, r.GoesOn sample m := by
  obtain ⟨tree, hp, hc⟩ := Regex.build_parses hb
  obtain ⟨cs, hlists, -⟩ := Regex.collectFrom_lists h
  obtain ⟨cs', hlists', hfound'⟩ := Regex.collectFrom_lists hall
  rw [hlists.truncated_iff hlists' hlt, hfound', List.reverse_nil, List.nil_append, List.length_map,
    List.getLast?_map]
  refine or_congr_right (and_congr_right fun _ => ?_)
  cases hlast : cs'.getLast? with
  | none => simp
  | some c =>
    obtain ⟨first, -, hhit⟩ := hlists'.hits (r := { r with stepLimit := stepLimit }) hp hc
      (Nat.zero_le _) c (List.mem_of_getLast? hlast)
    simp only [Option.map_some, Option.mem_some_iff, forall_eq']
    exact hhit.goesOn_iff.symm

/-- With a limit of one, one of two matches is left out. -/
theorem collect_truncated_iff_two :
    ∃ r l all, Regex.build "a" ⟨true, false, false, false, false, false⟩ = .ok r ∧
      ({ r with stepLimit := 50 } : Regex).collect (.ofString "aba") 1 = .ok l ∧
      ({ r with stepLimit := 50 } : Regex).collect (.ofString "aba") 9 = .ok all ∧
      (l.truncated = true ↔ 1 < all.found.length ∨
        all.found.length = 1 ∧ ∀ m ∈ all.found.getLast?, r.GoesOn "aba" m) := by
  let first : MatchRecord := ⟨⟨0, 1⟩, "a", 1, []⟩
  let second : MatchRecord := ⟨⟨2, 3⟩, "a", 1, []⟩
  have h : (Regex.build "a" ⟨true, false, false, false, false, false⟩).toOption.map (fun r =>
      (({ r with stepLimit := 50 } : Regex).collect (.ofString "aba") 1,
        ({ r with stepLimit := 50 } : Regex).collect (.ofString "aba") 9)) =
      some (.ok ⟨[first], true⟩, .ok ⟨[first, second], false⟩) := by decide +kernel
  obtain ⟨r, hr, hboth⟩ := ok_of_toOption_map h
  obtain ⟨hl, hall⟩ := Prod.mk.inj hboth
  exact ⟨r, _, _, hr, hl, hall, collect_truncated_iff hr 50 (by decide) hl hall⟩

/-- A list may be marked as cut short although no match is left out: behind the only match there is
still a character, and with the limit reached it is not looked at. -/
theorem collect_truncated_without_more :
    ∃ r l, Regex.build "a" ⟨true, false, false, false, false, false⟩ = .ok r ∧
      r.collect (.ofString "ab") 1 = .ok l ∧ l.truncated = true ∧
      ∀ more > 1, ∃ all, r.collect (.ofString "ab") more = .ok all ∧ all.found.length = 1 := by
  let r : Regex := ⟨"a", ⟨true, false, false, false, false, false⟩, [],
    ⟨#[.char 'a', .accept], 0, 2, false⟩, Regex.defaultStepLimit⟩
  have hr : Regex.build "a" ⟨true, false, false, false, false, false⟩ = .ok r := by
    with_unfolding_all rfl
  have hfirst : r.capturesFrom (.ofString "ab") 0 = .ok (some [some (0, 1)]) := by decide +kernel
  have hnext : r.next? (.ofString "ab") [some (0, 1)] = some 1 := rfl
  have hnone : r.capturesFrom (.ofString "ab") 1 = .ok none := by decide +kernel
  refine ⟨r, ⟨[r.record (.ofString "ab") [some (0, 1)]], true⟩, hr, ?_, rfl, fun more hmore =>
    ⟨⟨[r.record (.ofString "ab") [some (0, 1)]], false⟩, ?_, rfl⟩⟩
  · rw [Regex.collect, Regex.collectFrom_succ, hfirst]
    simp only [Except.bind, hnext]
    rfl
  · obtain ⟨n, rfl⟩ : ∃ n, more = n + 2 := ⟨more - 2, by omega⟩
    rw [Regex.collect, Regex.collectFrom_succ, hfirst]
    simp only [Except.bind, hnext]
    rw [Regex.collectFrom_succ, hnone]
    rfl

end RegexInsight
