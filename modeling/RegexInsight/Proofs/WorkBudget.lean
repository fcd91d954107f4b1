import Mathlib.Data.List.Infix
import RegexInsight.Proofs.EstimateSound
import RegexInsight.Proofs.KeptVariants
import RegexInsight.Proofs.Seeds

/-! A smaller budget leaves the first part of the work. Two runs with different budgets ask the same until one
of the budgets is used up. What was found by then is the beginning of what the other run finds, for findings
are only ever added at the end. -/
namespace RegexInsight
namespace Estimate

def Trial.next (test : List Char → Option Bool) (wrong : Bool) (reason : String → String) (t : Trial)
    (v : Variant) : Trial :=
  ⟨t.used + 1,
    if test v.text == some wrong then t.found ++ [⟨v.text, reason v.edit⟩] else t.found, false⟩

/-- What was found before is still there, at the beginning, and no test is taken back. -/
structure Trial.Extends (t t' : Trial) : Prop where
  used_le : t.used ≤ t'.used
  found_isPrefix : t.found <+: t'.found

/-- What a budget of `limit` tests leaves of a trial with more: all of it, or what came before the budget ran
out. -/
inductive Trial.Cut (limit : Nat) (more : Trial) : Trial → Prop
  | whole (h : more.used ≤ limit) : Cut limit more more
  | short {t : Trial} (h : limit < more.used) (exhausted : t.exhausted = true)
      (used : t.used = limit) (found : t.found <+: more.found) : Cut limit more t

section
variable {test : List Char → Option Bool} {limit more : Nat} {wrong : Bool}
  {reason : String → String} {t : Trial} {v : Variant} {vs : List Variant}

theorem Trial.Extends.refl (t : Trial) : t.Extends t := ⟨Nat.le_refl _, List.prefix_refl _⟩

theorem Trial.Extends.trans {t t' t'' : Trial} (h : t.Extends t') (h' : t'.Extends t'') :
    t.Extends t'' :=
  ⟨h.used_le.trans h'.used_le, h.found_isPrefix.trans h'.found_isPrefix⟩

theorem Trial.next_extends : t.Extends (t.next test wrong reason v) := by
  constructor
  · simp [Trial.next]
  · by_cases h : test v.text == some wrong <;> simp [Trial.next, h]

theorem trial_next : trial test limit wrong reason t (v :: vs) =
    if t.found.any (·.text == v.text) then trial test limit wrong reason t vs
    else if limit ≤ t.used then { t with exhausted := true }
    else trial test limit wrong reason (t.next test wrong reason v) vs := trial_cons

theorem trial_extends : t.Extends (trial test limit wrong reason t vs) := by
  induction vs generalizing t with
  | nil => exact .refl t
  | cons v vs ih =>
    rw [trial_next]
    split_ifs
    · exact ih
    · exact ⟨Nat.le_refl _, List.prefix_refl _⟩
    · exact Trial.next_extends.trans ih

theorem trial_cut (hmore : limit ≤ more) (hused : t.used ≤ limit) :
    (trial test more wrong reason t vs).Cut limit (trial test limit wrong reason t vs) := by
  induction vs generalizing t with
  | nil => exact .whole hused
  | cons v vs ih =>
    simp only [trial_next]
    by_cases hknown : t.found.any (·.text == v.text)
    · simp only [hknown, if_true]
      exact ih hused
    simp only [hknown, Bool.false_eq_true, if_false]
    by_cases hlimit : limit ≤ t.used
    · by_cases henough : more ≤ t.used
      · simp only [henough, hlimit, if_true]
        exact .whole hused
      · -- the smaller budget ends here, and the other run makes at least this test
        simp only [henough, hlimit, if_false, if_true]
        have hrest : (t.next test wrong reason v).Extends
          (trial test more wrong reason (t.next test wrong reason v) vs) := trial_extends
        have hlater := Nat.lt_of_succ_le hrest.used_le
        exact .short (by omega) rfl (by dsimp only; omega)
          (Trial.next_extends.trans hrest).found_isPrefix
    · have henough : ¬ more ≤ t.used := by omega
      simp only [henough, hlimit, if_false]
      exact ih (Nat.succ_le_of_lt (by omega))

theorem trial_used_le : (trial test limit wrong reason t vs).used ≤ t.used + vs.length := by
  induction vs generalizing t with
  | nil => exact Nat.le_refl _
  | cons v vs ih =>
    have hnext : (t.next test wrong reason v).used = t.used + 1 := rfl
    rw [trial_next, List.length_cons]
    split_ifs
    · exact ih.trans (by omega)
    · simp
    · exact ih.trans (by omega)

theorem trial_done (hused : t.used + vs.length ≤ limit) (ht : t.exhausted = false) :
    (trial test limit wrong reason t vs).exhausted = false := by
  induction vs generalizing t with
  | nil => exact ht
  | cons v vs ih =>
    have hnext : (t.next test wrong reason v).used = t.used + 1 := rfl
    rw [List.length_cons] at hused
    rw [trial_next]
    split_ifs
    · exact ih (by omega) ht
    · omega
    · exact ih (by omega) rfl

theorem side_eq : side test limit wrong reason t vs =
    if t.found.length < maxFindings then trial test limit wrong reason t vs else t := by
  by_cases h : t.found.length < maxFindings
  · simp [side, trySide, trial, h]
  · simp [side, trySide, h]

theorem side_extends : t.Extends (side test limit wrong reason t vs) := by
  rw [side_eq]
  split_ifs
  · exact trial_extends
  · exact .refl t

theorem side_cut (hmore : limit ≤ more) (hused : t.used ≤ limit) :
    (side test more wrong reason t vs).Cut limit (side test limit wrong reason t vs) := by
  rw [side_eq, side_eq]
  split_ifs
  · exact trial_cut hmore hused
  · exact .whole hused

theorem side_used_le : (side test limit wrong reason t vs).used ≤ t.used + vs.length := by
  rw [side_eq]
  split_ifs
  · exact trial_used_le
  · omega

theorem side_done (hused : t.used + vs.length ≤ limit) (ht : t.exhausted = false) :
    (side test limit wrong reason t vs).exhausted = false := by
  rw [side_eq]
  split_ifs
  · exact trial_done hused ht
  · exact ht

end

/-- What was found on both sides is still there, at the beginning. -/
structure Tally.Extends (t t' : Tally) : Prop where
  used_le : t.used ≤ t'.used
  negatives_isPrefix : t.negatives <+: t'.negatives
  positives_isPrefix : t.positives <+: t'.positives

/-- What a budget of `limit` tests leaves of a run over seeds with more. -/
inductive Tally.Cut (limit : Nat) (more : Tally) : Tally → Prop
  | whole (h : more.used ≤ limit) : Cut limit more more
  | short {t : Tally} (h : limit < more.used) (exhausted : t.exhausted = true)
      (used : t.used = limit) (negatives : t.negatives <+: more.negatives)
      (positives : t.positives <+: more.positives) : Cut limit more t

section
variable {test : List Char → Option Bool} {limit more : Nat} {traits : PatternTraits}
  {seed : List Char} {seeds : List (List Char)} {t : Tally}

theorem Tally.Extends.refl (t : Tally) : t.Extends t :=
  ⟨Nat.le_refl _, List.prefix_refl _, List.prefix_refl _⟩

theorem Tally.Extends.trans {t t' t'' : Tally} (h : t.Extends t') (h' : t'.Extends t'') :
    t.Extends t'' :=
  ⟨h.used_le.trans h'.used_le, h.negatives_isPrefix.trans h'.negatives_isPrefix,
    h.positives_isPrefix.trans h'.positives_isPrefix⟩

/-- The first part of the work on a seed: the variants that should match. -/
def rejected (test : List Char → Option Bool) (limit : Nat) (traits : PatternTraits)
    (seed : List Char) (t : Tally) : Trial :=
  side test limit false (rejectedReason seed) ⟨t.used, t.negatives, false⟩
    (Variant.shouldMatch seed traits)

/-- The second part, after `used` tests: the variants that should not match. -/
def accepted (test : List Char → Option Bool) (limit : Nat) (traits : PatternTraits)
    (seed : List Char) (t : Tally) (used : Nat) : Trial :=
  side test limit true (acceptedReason seed) ⟨used, t.positives, false⟩
    (Variant.shouldNotMatch seed traits)

theorem seedTally_parts : seedTally test limit traits seed t =
    if (rejected test limit traits seed t).exhausted then
      ⟨(rejected test limit traits seed t).used, (rejected test limit traits seed t).found,
        t.positives, true⟩
    else
      ⟨(accepted test limit traits seed t (rejected test limit traits seed t).used).used,
        (rejected test limit traits seed t).found,
        (accepted test limit traits seed t (rejected test limit traits seed t).used).found,
        (accepted test limit traits seed t (rejected test limit traits seed t).used).exhausted⟩ := rfl

theorem rejected_extends (test : List Char → Option Bool) (limit : Nat) (traits : PatternTraits)
    (seed : List Char) (t : Tally) :
    Trial.Extends ⟨t.used, t.negatives, false⟩ (rejected test limit traits seed t) := side_extends

theorem accepted_extends (test : List Char → Option Bool) (limit : Nat) (traits : PatternTraits)
    (seed : List Char) (t : Tally) (used : Nat) :
    Trial.Extends ⟨used, t.positives, false⟩ (accepted test limit traits seed t used) := side_extends

namespace Tally.Cut

variable {more t : Tally}

theorem used_eq (h : more.Cut limit t) : t.used = min limit more.used := by
  cases h with
  | whole h => exact (Nat.min_eq_right h).symm
  | short h _ used _ _ => exact used.trans (Nat.min_eq_left h.le).symm

theorem exhausted_eq (h : more.Cut limit t) (hmore : more.exhausted = false) :
    t.exhausted = decide (limit < more.used) := by
  cases h with
  | whole h => simp [hmore, h]
  | short h exhausted _ _ _ => simp [h, exhausted]

theorem negatives_isPrefix (h : more.Cut limit t) : t.negatives <+: more.negatives := by
  cases h with
  | whole => exact List.prefix_refl _
  | short _ _ _ negatives _ => exact negatives

theorem positives_isPrefix (h : more.Cut limit t) : t.positives <+: more.positives := by
  cases h with
  | whole => exact List.prefix_refl _
  | short _ _ _ _ positives => exact positives

end Tally.Cut

theorem seedTally_extends : t.Extends (seedTally test limit traits seed t) := by
  have hrejected := rejected_extends test limit traits seed t
  have haccepted := accepted_extends test limit traits seed t
    (rejected test limit traits seed t).used
  rw [seedTally_parts]
  split_ifs
  · exact ⟨hrejected.used_le, hrejected.found_isPrefix, List.prefix_refl _⟩
  · exact ⟨hrejected.used_le.trans haccepted.used_le, hrejected.found_isPrefix,
      haccepted.found_isPrefix⟩

theorem seedTally_cut (hmore : limit ≤ more) (hused : t.used ≤ limit) :
    (seedTally test more traits seed t).Cut limit (seedTally test limit traits seed t) := by
  have hrejected : (rejected test more traits seed t).Cut limit
    (rejected test limit traits seed t) := side_cut hmore hused
  have hextends := accepted_extends test more traits seed t (rejected test more traits seed t).used
  simp only [seedTally_parts]
  generalize rejected test limit traits seed t = first at hrejected ⊢
  cases hrejected with
  | whole hle =>
    have haccepted : (accepted test more traits seed t _).Cut limit
      (accepted test limit traits seed t (rejected test more traits seed t).used) :=
      side_cut hmore hle
    split_ifs
    · exact .whole hle
    · generalize accepted test limit traits seed t _ = second at haccepted ⊢
      cases haccepted with
      | whole hle => exact .whole hle
      | short hlt hexhausted hlimit hfound =>
        exact .short hlt hexhausted hlimit (List.prefix_refl _) hfound
  | short hlt hexhausted hlimit hfound =>
    simp only [hexhausted, if_true]
    split_ifs
    · exact .short hlt rfl hlimit hfound (List.prefix_refl _)
    · exact .short (hlt.trans_le hextends.used_le) rfl hlimit hfound hextends.found_isPrefix

theorem tally_extends : t.Extends (tally test limit traits t seeds) := by
  induction seeds generalizing t with
  | nil => exact .refl t
  | cons seed seeds ih =>
    rw [tally_cons]
    dsimp only
    split_ifs
    · exact seedTally_extends
    · exact seedTally_extends.trans ih

theorem tally_cut (hmore : limit ≤ more) (hused : t.used ≤ limit) :
    (tally test more traits t seeds).Cut limit (tally test limit traits t seeds) := by
  induction seeds generalizing t with
  | nil => exact .whole hused
  | cons seed seeds ih =>
    have hcut : (seedTally test more traits seed t).Cut limit (seedTally test limit traits seed t) :=
      seedTally_cut hmore hused
    have hextends : (seedTally test more traits seed t).Extends
      (tally test more traits (seedTally test more traits seed t) seeds) := tally_extends
    simp only [tally_cons]
    generalize seedTally test limit traits seed t = next at hcut ⊢
    cases hcut with
    | whole hle =>
      split_ifs
      · exact .whole hle
      · exact ih hle
    | short hlt hexhausted hlimit hnegatives hpositives =>
      simp only [hexhausted, Bool.true_or, if_true]
      split_ifs
      · exact .short hlt hexhausted hlimit hnegatives hpositives
      · exact .short (hlt.trans_le hextends.used_le) hexhausted hlimit
          (hnegatives.trans hextends.negatives_isPrefix) (hpositives.trans hextends.positives_isPrefix)

/-- The tests that one seed can take. -/
def seedTests : Nat := Variant.maxShouldMatch + Variant.maxShouldNotMatch

theorem rejected_used_le :
    (rejected test limit traits seed t).used ≤ t.used + Variant.maxShouldMatch :=
  side_used_le.trans (Nat.add_le_add_left (Variant.shouldMatch_length_le seed traits) _)

theorem accepted_used_le (used : Nat) :
    (accepted test limit traits seed t used).used ≤ used + Variant.maxShouldNotMatch :=
  side_used_le.trans (Nat.add_le_add_left (Variant.shouldNotMatch_length_le seed traits) _)

theorem seedTally_used_le : (seedTally test limit traits seed t).used ≤ t.used + seedTests := by
  have hrejected : (rejected test limit traits seed t).used ≤ t.used + Variant.maxShouldMatch :=
    rejected_used_le
  have hboth : (accepted test limit traits seed t (rejected test limit traits seed t).used).used ≤
      (rejected test limit traits seed t).used + Variant.maxShouldNotMatch := accepted_used_le _
  rw [seedTally_parts, seedTests]
  split_ifs
  · dsimp only
    omega
  · dsimp only
    omega

theorem seedTally_done (h : t.used + seedTests ≤ limit) :
    (seedTally test limit traits seed t).exhausted = false := by
  have hmatch := Variant.shouldMatch_length_le seed traits
  have hnotMatch := Variant.shouldNotMatch_length_le seed traits
  unfold seedTests at h
  have hfirst : (rejected test limit traits seed t).exhausted = false :=
    side_done (by dsimp only; omega) rfl
  have hused : (rejected test limit traits seed t).used ≤ t.used + Variant.maxShouldMatch :=
    rejected_used_le
  have hsecond : (accepted test limit traits seed t
      (rejected test limit traits seed t).used).exhausted = false :=
    side_done (by dsimp only; omega) rfl
  simp [seedTally_parts, hfirst, hsecond]

theorem tally_used_le : (tally test limit traits t seeds).used ≤ t.used + seeds.length * seedTests := by
  induction seeds generalizing t with
  | nil => exact Nat.le_add_right _ _
  | cons seed seeds ih =>
    have hseed : (seedTally test limit traits seed t).used ≤ t.used + seedTests := seedTally_used_le
    rw [tally_cons, List.length_cons, Nat.succ_mul]
    dsimp only
    split_ifs
    · omega
    · exact Nat.le_trans ih (by omega)

theorem tally_done (h : t.used + seeds.length * seedTests ≤ limit) (ht : t.exhausted = false) :
    (tally test limit traits t seeds).exhausted = false := by
  induction seeds generalizing t with
  | nil => exact ht
  | cons seed seeds ih =>
    rw [List.length_cons, Nat.succ_mul] at h
    have hseed : (seedTally test limit traits seed t).exhausted = false :=
      seedTally_done (by omega)
    have hused : (seedTally test limit traits seed t).used ≤ t.used + seedTests := seedTally_used_le
    rw [tally_cons]
    dsimp only
    split_ifs
    · exact hseed
    · exact ih (by omega) hseed

theorem tally_cut_done {w : Nat} (hlimit : t.used + seeds.length * seedTests ≤ limit)
    (hused : t.used ≤ w) (ht : t.exhausted = false) :
    (tally test limit traits t seeds).Cut w (tally test w traits t seeds) := by
  by_cases hw : w ≤ limit
  · exact tally_cut hw hused
  · have hdone : (tally test limit traits t seeds).exhausted = false := tally_done hlimit ht
    have hcut : (tally test w traits t seeds).Cut limit (tally test limit traits t seeds) :=
      tally_cut (by omega) (by omega)
    generalize tally test limit traits t seeds = done at hcut hdone ⊢
    cases hcut with
    | whole hle => exact .whole (by omega)
    | short _ hexhausted _ _ _ => simp [hexhausted] at hdone

end

/-- The remark that the budget ran out. -/
def stoppedNote (used : Nat) : String := s!"Estimation capped: stopped after {used} variant tests"

theorem gather_maxTotalWork (settings : EstimatorSettings) (sample : Subject) (w : Nat) (s : Seeds)
    (cs : List Candidate) :
    gather { settings with maxTotalWork := w } sample s cs = gather settings sample s cs := by
  induction cs generalizing s with
  | nil => rfl
  | cons c cs ih =>
    rw [gather_cons, gather_cons, ih]
    rfl

/-- The remark that the budget ran out is known by how it begins. -/
theorem stoppedNote_ne {a : String} {x : List Char} (ha : x <+: a.toList) (hlength : x.length = 20)
    (hne : x ≠ "Estimation capped: s".toList) (used : Nat) (b : String) :
    stoppedNote used ≠ a ++ b := by
  have hstart : "Estimation capped: s".toList <+: "Estimation capped: stopped after ".toList := by
    decide +kernel
  have hstartLength : "Estimation capped: s".toList.length = 20 := by decide +kernel
  have hparts : stoppedNote used =
      "Estimation capped: stopped after " ++ (toString used ++ " variant tests") :=
    String.append_assoc
  rw [hparts]
  exact append_ne_append hstart ha (hstartLength.trans hlength.symm) hne.symm _ b

theorem stoppedNote_not_mem_notes (settings : EstimatorSettings) (s : Seeds) (used : Nat) :
    stoppedNote used ∉ s.notes settings := by
  intro hmem
  rcases List.mem_append.mp hmem with hmem | hmem
  · split at hmem
    · exact stoppedNote_ne (a := "Sample lines longer than ") (x := "Sample lines longer ".toList)
        (by decide +kernel) (by decide +kernel) (by decide +kernel) used _
        ((List.mem_singleton.mp hmem).trans String.append_assoc)
    · cases hmem
  · split at hmem
    · exact stoppedNote_ne (a := "Estimation capped: only the first ")
        (x := "Estimation capped: o".toList) (by decide +kernel) (by decide +kernel)
        (by decide +kernel) used _ ((List.mem_singleton.mp hmem).trans String.append_assoc)
    · cases hmem

end Estimate

namespace ParsedPattern

open Estimate

theorem estimate_cases (p : ParsedPattern) (sample : Subject) (found : List MatchRecord)
    (settings : EstimatorSettings) :
    (∃ note, (∀ used, stoppedNote used ≠ note) ∧ ∀ w,
      p.estimate sample found { settings with maxTotalWork := w } = ⟨[], [], [note], 0⟩) ∨
    ∃ test, ∀ w, p.estimate sample found { settings with maxTotalWork := w } =
      let t := tally test w p.traits ⟨0, [], [], false⟩ (seedsOf settings sample found).seeds
      ⟨t.positives.take maxFindings, t.negatives.take maxFindings,
        (seedsOf settings sample found).notes settings ++
          if t.exhausted then [stoppedNote t.used] else [], t.used⟩ := by
  cases hr : p.regex p.flags.withoutGlobal with
  | error e =>
    refine .inl ⟨skippedNote e, fun used heq => ?_, fun w => by simp [estimate, estimateWith, hr]⟩
    exact stoppedNote_ne
      (a := "Estimation skipped: the pattern could not be compiled for testing (")
      (x := "Estimation skipped: ".toList) (by decide +kernel) (by decide +kernel) (by decide +kernel)
      used _ (heq.trans String.append_assoc)
  | ok r =>
    by_cases hfound : found.isEmpty
    · refine .inl ⟨noMatchesNote, fun used heq => ?_, fun w => by
        simp [estimate, estimateWith, hr, hfound]⟩
      exact stoppedNote_ne (a := noMatchesNote) (x := "No matches in the sa".toList)
        (by decide +kernel) (by decide +kernel) (by decide +kernel) used ""
        (heq.trans String.append_empty.symm)
    · refine .inr ⟨Estimate.test { r with stepLimit := settings.testStepLimit }, fun w => ?_⟩
      have hseeds : seedsOf { settings with maxTotalWork := w } sample found =
        seedsOf settings sample found := gather_maxTotalWork _ _ _ _ _
      simp only [estimate, estimateWith, hr, hfound, hseeds]
      rfl

/-- What is reported within a budget of `w` tests by estimates that differ in it only. -/
structure CutAt (report : Nat → Estimate) (total : Nat) (notes : List String) : Prop where
  attempts : ∀ w, (report w).attempts = min w total
  notes : ∀ w, (report w).notes = notes ++ if w < total then [stoppedNote w] else []
  found : ∀ w w', w ≤ w' → (report w).falsePositives <+: (report w').falsePositives ∧
    (report w).falseNegatives <+: (report w').falseNegatives

theorem estimate_cut (p : ParsedPattern) (sample : Subject) (found : List MatchRecord)
    (settings : EstimatorSettings) : ∃ total ≤ maxSeeds * seedTests, ∃ notes,
      (∀ used, stoppedNote used ∉ notes) ∧
      CutAt (fun w => p.estimate sample found { settings with maxTotalWork := w }) total notes := by
  rcases p.estimate_cases sample found settings with ⟨note, hnote, hall⟩ | ⟨test, hall⟩
  · refine ⟨0, Nat.zero_le _, [note], fun used hmem => hnote used (List.mem_singleton.mp hmem), ?_⟩
    constructor <;> simp [hall]
  · have hseeds := seedsOf_length_le settings sample found
    generalize hnotes : (seedsOf settings sample found).notes settings = notes at hall
    have hnone : ∀ used, stoppedNote used ∉ notes := fun used =>
      hnotes ▸ stoppedNote_not_mem_notes settings _ used
    generalize (seedsOf settings sample found).seeds = seeds at hall hseeds
    let done := tally test (seeds.length * seedTests) p.traits ⟨0, [], [], false⟩ seeds
    have htotal : done.used ≤ maxSeeds * seedTests :=
      (tally_used_le.trans (Nat.zero_add _).le).trans (Nat.mul_le_mul_right _ hseeds)
    have hdone : done.exhausted = false := tally_done (Nat.zero_add _).le rfl
    have hcut : ∀ w, done.Cut w (tally test w p.traits ⟨0, [], [], false⟩ seeds) := fun w =>
      tally_cut_done (Nat.zero_add _).le (Nat.zero_le w) rfl
    refine ⟨done.used, htotal, notes, hnone, fun w => ?_, fun w => ?_, fun w w' hle => ?_⟩
    · rw [hall]
      exact (hcut w).used_eq
    · have hexhausted := (hcut w).exhausted_eq hdone
      have hused := (hcut w).used_eq
      by_cases hlt : w < done.used
      · simp [hall, hexhausted, hused, hlt, Nat.min_eq_left hlt.le]
      · simp [hall, hexhausted, hlt]
    · have hcut' : (tally test w' p.traits ⟨0, [], [], false⟩ seeds).Cut w
        (tally test w p.traits ⟨0, [], [], false⟩ seeds) := tally_cut hle (Nat.zero_le w)
      simp only [hall]
      exact ⟨List.IsPrefix.take hcut'.positives_isPrefix _, List.IsPrefix.take hcut'.negatives_isPrefix _⟩

end ParsedPattern

open Estimate in
/-- A budget of `w` tests stops an estimate at test `w`, if it takes more than that. What is reported is what
was found by then, and but for the remark that it was stopped nothing else changes. -/
theorem estimate_within_budget (p : ParsedPattern) (sample : Subject) (found : List MatchRecord)
    (settings : EstimatorSettings) :
    let report := fun w => p.estimate sample found { settings with maxTotalWork := w }
    ∃ total ≤ maxSeeds * seedTests, ∃ notes, (∀ used, stoppedNote used ∉ notes) ∧
      (∀ w, (report w).attempts = min w total ∧
        Notes (p.estimateWith (fun r => noting (Estimate.test r)) sample found
          { settings with maxTotalWork := w }) (report w) (min w total) ∧
        (report w).notes = notes ++ if w < total then [stoppedNote w] else []) ∧
      ∀ w w', w ≤ w' → (report w).falsePositives <+: (report w').falsePositives ∧
        (report w).falseNegatives <+: (report w').falseNegatives := by
  intro report
  obtain ⟨total, htotal, notes, hnone, hcut⟩ := p.estimate_cut sample found settings
  refine ⟨total, htotal, notes, hnone, fun w => ⟨hcut.attempts w, ?_, hcut.notes w⟩, hcut.found⟩
  have hasked := p.estimate_notes sample found { settings with maxTotalWork := w }
  rwa [hcut.attempts w] at hasked

/-- Nine tests with the pattern `cat`, stopped after five. One accepted and three rejected texts are found by
then. -/
theorem estimate_within_budget_cat :
    ∃ p, parsePattern "cat" "g" = .ok p ∧
      let report := fun w =>
        p.estimate (.ofString "cat") [⟨⟨0, 3⟩, "cat", 1, []⟩] ⟨10, 100, w, 1000⟩
      ((report 5).falsePositives.length, (report 5).falseNegatives.length) = (1, 3) ∧
        ((report 9).falsePositives.length, (report 9).falseNegatives.length) = (5, 3) ∧
        5 ≤ 9 ∧ (report 5).falsePositives <+: (report 9).falsePositives ∧
        (report 5).falseNegatives <+: (report 9).falseNegatives ∧
        (report 5).attempts = 5 ∧ (report 2000).attempts = 9 ∧
        (report 5).notes = (report 2000).notes ++ [Estimate.stoppedNote 5] := by
  have h : (parsePattern "cat" "g").toOption.map (fun p =>
      let report := fun w =>
        p.estimate (.ofString "cat") [⟨⟨0, 3⟩, "cat", 1, []⟩] ⟨10, 100, w, 1000⟩
      ((report 5).falsePositives.length, (report 5).falseNegatives.length,
        (report 9).falsePositives.length, (report 9).falseNegatives.length,
        (report 2000).attempts)) = some (1, 3, 5, 3, 9) := by
    decide +kernel
  obtain ⟨p, hp, hcounts⟩ := ok_of_toOption_map h
  simp only [Prod.mk.injEq] at hcounts
  obtain ⟨hpositives, hnegatives, hpositives', hnegatives', hattempts⟩ := hcounts
  obtain ⟨total, -, notes, -, hall, hfound⟩ :=
    estimate_within_budget p (.ofString "cat") [⟨⟨0, 3⟩, "cat", 1, []⟩] ⟨10, 100, 0, 1000⟩
  have htotal : total = 9 := by
    have := (hall 2000).1
    simp only [hattempts] at this
    omega
  subst htotal
  refine ⟨p, hp, by simp [hpositives, hnegatives], by simp [hpositives', hnegatives'], by decide,
    (hfound 5 9 (by decide)).1, (hfound 5 9 (by decide)).2, (hall 5).1, hattempts, ?_⟩
  have hstopped := (hall 5).2.2
  have hwhole := (hall 2000).2.2
  simp only [Nat.reduceLT, if_true, if_false, List.append_nil] at hstopped hwhole
  rw [hstopped, hwhole]

end RegexInsight
