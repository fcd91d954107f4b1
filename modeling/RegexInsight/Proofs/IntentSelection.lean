import Mathlib.Data.List.MinMax
import Mathlib.Tactic.Linarith
import RegexInsight.Intent
import RegexInsight.Proofs.Layout

/-! Which label is reported. The first of the labels with the most points wins, and it is named if it has
at least 42 of them, which no label has without a reason that speaks for it. -/
namespace RegexInsight
namespace Score

/-- Place `i` is the first one that holds as many points as there are. -/
structure IsFirstBest (scores : List Score) (i : Nat) (s : Score) : Prop where
  at_place : scores[i]? = some s
  most : ∀ t ∈ scores, t.clamped ≤ s.clamped
  first : ∀ j < i, ∀ t, scores[j]? = some t → t.clamped < s.clamped

theorem pickBest?_eq_argmax (scores : List Score) :
    pickBest? scores = scores.argmax clamped := by
  rw [pickBest?, List.argmax]
  congr 1
  funext best s
  cases best with
  | none => rfl
  | some b =>
    rw [better, List.argAux]
    simp only [← Nat.not_lt, ite_not]

theorem isFirstBest_of_pickBest? {scores : List Score} {s : Score} (h : pickBest? scores = some s) :
    IsFirstBest scores (scores.idxOf s) s := by
  rw [pickBest?_eq_argmax, List.argmax_eq_some_iff] at h
  obtain ⟨hmem, hmost, hfirst⟩ := h
  refine ⟨List.getElem?_idxOf hmem, hmost, fun j hj t ht => ?_⟩
  obtain ⟨hlt, rfl⟩ := List.getElem?_eq_some_iff.mp ht
  by_contra hle
  -- an equal score at an earlier place would be found there
  have hidx := hfirst _ (List.getElem_mem hlt) (Nat.le_of_not_lt hle)
  have hother := List.not_of_lt_findIdx (Nat.lt_of_lt_of_le hj hidx)
  simp at hother

/-- Of any scores the first best one is picked, and one is picked if there are any. -/
theorem pickBest?_spec (scores : List Score) : scores = [] ∧ pickBest? scores = none ∨
    ∃ i s, IsFirstBest scores i s ∧ pickBest? scores = some s := by
  cases h : pickBest? scores with
  | none =>
    rw [pickBest?_eq_argmax, List.argmax_eq_none] at h
    exact .inl ⟨h, rfl⟩
  | some s => exact .inr ⟨_, s, isFirstBest_of_pickBest? h, rfl⟩

theorem foldl_points_le (rules : List (Bool × Int × String)) (h : ∀ rule ∈ rules, rule.2.1 ≤ 0)
    (start : Int) : rules.foldl (fun points rule => points + rule.2.1) start ≤ start := by
  induction rules generalizing start with
  | nil => exact Int.le_refl start
  | cons rule rules ih =>
    obtain ⟨hrule, hrules⟩ := List.forall_mem_cons.mp h
    have hrest := ih hrules (start + rule.2.1)
    rw [List.foldl_cons]
    omega

theorem rationale_ne_nil {label : IntentLabel} {rules : List (Bool × Int × String)}
    (h : 0 < (ofRules label rules).clamped) : (ofRules label rules).rationale ≠ [] := by
  intro hnone
  have hagainst : ∀ rule ∈ rules.filter (·.1), rule.2.1 ≤ 0 := by
    simpa [ofRules] using hnone
  have hpoints : (ofRules label rules).points ≤ 0 := foldl_points_le _ hagainst 0
  rw [clamped] at h
  omega

theorem mem_rationale {label : IntentLabel} {rules : List (Bool × Int × String)} {reason : String}
    (h : reason ∈ (ofRules label rules).rationale) :
    ∃ points, 0 < points ∧ (true, points, reason) ∈ rules := by
  simp only [ofRules, List.mem_map, List.mem_filter, decide_eq_true_eq] at h
  obtain ⟨⟨signal, points, reason⟩, ⟨⟨hmem, hsignal⟩, hpos⟩, rfl⟩ := h
  obtain rfl : signal = true := hsignal
  exact ⟨points, hpos, hmem⟩

theorem clamped_le (s : Score) : s.clamped ≤ 100 := Nat.min_le_right _ _

end Score

namespace Confidence

/-- What the points of a label give in exact arithmetic. -/
def exact (points : Nat) : ℚ := 35 / 100 + points / 100 * (6 / 10)

theorem le_exact_iff (points : Nat) : 6 / 10 ≤ exact points ↔ 42 ≤ points := by
  have hscaled : 6 / 10 ≤ exact points ↔ (250 : ℚ) ≤ 6 * points := by
    rw [exact]
    constructor <;> intro h <;> linarith
  have hcast : (250 : ℚ) ≤ 6 * points ↔ 250 ≤ 6 * points := by exact_mod_cast Iff.rfl
  rw [hscaled, hcast]
  omega

/-- Rounding keeps to the threshold. -/
theorem reaches_threshold_iff {points : Nat} (h : points ≤ 100) :
    (ofPoints points).less threshold = false ↔ 42 ≤ points := by
  have hall : ∀ n : Nat, n < 101 → ((ofPoints n).less threshold = false ↔ 42 ≤ n) := by
    decide +kernel
  exact hall points (Nat.lt_succ_of_le h)

theorem maximum_not_less {points : Nat} (h : points ≤ 100) :
    maximum.less (ofPoints points) = false := by
  have hall : ∀ n : Nat, n < 101 → maximum.less (ofPoints n) = false := by decide +kernel
  exact hall points (Nat.lt_succ_of_le h)

/-- The maximum is above all that is too little. -/
theorem ofPoints_of_lt {points : Nat} (h : points < 42) :
    ofPoints points = (Binary64.ofRatio 35 100).add (share points) := by
  have hall : ∀ n : Nat, n < 42 → ofPoints n = (Binary64.ofRatio 35 100).add (share n) := by decide +kernel
  exact hall points h

end Confidence

namespace IntentLabel

theorem rules_reasons (f : Features) (label : IntentLabel) :
    (label.rules f).map (·.2.2) = (label.rules default).map (·.2.2) := by
  cases label <;> rfl

theorem reason_ne_filler {f : Features} {label : IntentLabel} {rule : Bool × Int × String}
    (h : rule ∈ label.rules f) (name : String) :
    rule.2.2 ≠ "Pattern structure resembles a " ++ name := by
  have hmem : rule.2.2 ∈ (label.rules default).map (·.2.2) := by
    rw [← rules_reasons f]
    exact List.mem_map_of_mem h
  have hstart : ∀ reason ∈ (label.rules default).map (·.2.2), reason.toList.head? ≠ some 'P' := by
    cases label <;> decide +kernel
  intro heq
  refine hstart _ hmem ?_
  rw [heq, String.toList_append]
  rfl

end IntentLabel

namespace Intent

/-- What is reported if `best` is the first of the labels with the most points. -/
structure Reports (f : Features) (best : Score) (intent : Intent) : Prop where
  named : 42 ≤ best.clamped → intent.label = best.label ∧ best.label ≠ .general ∧
    intent.confidence = Confidence.ofPoints best.clamped ∧
    intent.confidence.less Confidence.threshold = false ∧
    Confidence.maximum.less intent.confidence = false ∧
    intent.rationale = best.rationale.take 3 ∧ intent.rationale ≠ [] ∧
    ∀ reason ∈ intent.rationale, ∃ points, 0 < points ∧ (true, points, reason) ∈ best.label.rules f ∧
      ∀ label : IntentLabel, reason ≠ "Pattern structure resembles a " ++ label.displayName
  general : best.clamped < 42 → intent.label = .general ∧
    intent.confidence =
      ((Binary64.ofRatio 35 100).add (Confidence.share best.clamped)).min Confidence.fallbackMaximum

end Intent

theorem Score.all_getElem? {f : Features} {i : Nat} {s : Score} (h : (Score.all f)[i]? = some s) :
    ∃ label, IntentLabel.candidates[i]? = some label ∧ label ≠ .general ∧
      s = ofRules label (label.rules f) := by
  rw [all, List.getElem?_map, Option.map_eq_some_iff] at h
  obtain ⟨label, hlabel, rfl⟩ := h
  refine ⟨label, hlabel, ?_, rfl⟩
  rintro rfl
  have hmem : IntentLabel.general ∈ IntentLabel.candidates := List.mem_of_getElem? hlabel
  revert hmem
  decide

namespace Intent

variable {scores : List Score} {best : Score}

theorem ofScores_of_reaches (h : Score.pickBest? scores = some best)
    (hmany : (Confidence.ofPoints best.clamped).less Confidence.threshold = false)
    (hreasons : best.rationale ≠ []) :
    ofScores scores =
      ⟨best.label, Confidence.ofPoints best.clamped, best.rationale.take maxRationale⟩ := by
  have htake : (best.rationale.take maxRationale).isEmpty = false := by
    simpa [maxRationale] using hreasons
  rw [ofScores, h]
  dsimp only
  rw [hmany, if_neg Bool.false_ne_true, htake, if_neg Bool.false_ne_true]

theorem ofScores_of_falls (h : Score.pickBest? scores = some best)
    (hfew : (Confidence.ofPoints best.clamped).less Confidence.threshold = true) :
    ofScores scores = fallback (Confidence.ofPoints best.clamped) := by
  rw [ofScores, h]
  dsimp only
  rw [if_pos hfew]

end Intent

theorem ParsedPattern.intent_reports (p : ParsedPattern) {i : Nat} {best : Score}
    (hbest : Score.IsFirstBest (Score.all p.features) i best)
    (hpick : Score.pickBest? (Score.all p.features) = some best) :
    p.intent.Reports p.features best := by
  obtain ⟨label, -, hlabel, hscore⟩ := Score.all_getElem? hbest.at_place
  have hreach := Confidence.reaches_threshold_iff best.clamped_le
  constructor
  · intro hmany
    have hreasons : best.rationale ≠ [] :=
      hscore ▸ Score.rationale_ne_nil (hscore ▸ Nat.lt_of_lt_of_le (by decide) hmany)
    have hintent := Intent.ofScores_of_reaches hpick (hreach.mpr hmany) hreasons
    rw [intent, hintent]
    dsimp only
    refine ⟨rfl, by rwa [hscore], rfl, hreach.mpr hmany,
      Confidence.maximum_not_less best.clamped_le, rfl, ?_, fun reason hreason => ?_⟩
    · simpa [Intent.maxRationale] using hreasons
    have hmem : reason ∈ (Score.ofRules label (label.rules p.features)).rationale :=
      hscore ▸ List.mem_of_mem_take hreason
    obtain ⟨points, hpos, hrule⟩ := Score.mem_rationale hmem
    rw [hscore]
    exact ⟨points, hpos, hrule, fun other => IntentLabel.reason_ne_filler hrule _⟩
  · intro hfew
    have hless : (Confidence.ofPoints best.clamped).less Confidence.threshold = true := by
      rw [← Bool.not_eq_false, hreach]
      exact Nat.not_le.mpr hfew
    rw [intent, Intent.ofScores_of_falls hpick hless, Confidence.ofPoints_of_lt hfew]
    dsimp only [Intent.fallback]
    exact ⟨rfl, rfl⟩

/-- Which label is reported, and with which confidence. The first best of any scores is picked; of the
scores of a pattern it is reported if it has at least 42 points, the least number that gives a confidence
of 0.6, and what is reported otherwise is the general label. -/
theorem intent_selection :
    (∀ scores : List Score, scores = [] ∧ Score.pickBest? scores = none ∨
      ∃ i s, Score.IsFirstBest scores i s ∧ Score.pickBest? scores = some s) ∧
    (∀ points : Nat, (6 / 10 ≤ Confidence.exact points ↔ 42 ≤ points) ∧
      (points ≤ 100 →
        ((Confidence.ofPoints points).less Confidence.threshold = false ↔ 42 ≤ points))) ∧
    ∀ p : ParsedPattern,
      (p.intent.label ≠ .general ↔ ∃ s ∈ Score.all p.features, 42 ≤ s.clamped) ∧
      ∃ i best, Score.IsFirstBest (Score.all p.features) i best ∧
        IntentLabel.candidates[i]? = some best.label ∧ p.intent.Reports p.features best := by
  refine ⟨Score.pickBest?_spec, fun points =>
    ⟨Confidence.le_exact_iff points, Confidence.reaches_threshold_iff⟩, fun p => ?_⟩
  obtain ⟨hnone, -⟩ | ⟨i, best, hbest, hpick⟩ := Score.pickBest?_spec (Score.all p.features)
  · exact absurd hnone (by simp [Score.all, IntentLabel.candidates])
  have hreports := p.intent_reports hbest hpick
  obtain ⟨label, hlabel, -, rfl⟩ := Score.all_getElem? hbest.at_place
  refine ⟨⟨fun hnamed => ?_, fun ⟨s, hs, hmany⟩ => ?_⟩, i, _, hbest, hlabel, hreports⟩
  · refine ⟨_, List.mem_of_getElem? hbest.at_place, ?_⟩
    by_contra hfew
    exact hnamed (hreports.general (Nat.lt_of_not_le hfew)).1
  · obtain ⟨hreported, hgeneral, -⟩ := hreports.named (Nat.le_trans hmany (hbest.most s hs))
    rwa [hreported]

/-- Four things speak for an address, and the first three of them are told. -/
theorem intent_selection_email :
    ∃ p i, parsePattern "^\\b\\w+@\\w+\\.com$" "" = .ok p ∧
      Score.IsFirstBest (Score.all p.features) i ⟨.emailLike, 75,
        ["Contains a literal '@' separator", "Contains a literal dot, as in a domain",
          "Anchored to match a whole value", "Uses word boundaries"]⟩ ∧
      p.intent.label = .emailLike ∧ p.intent.confidence = Confidence.ofPoints 75 ∧
      p.intent.rationale =
        ["Contains a literal '@' separator", "Contains a literal dot, as in a domain",
          "Anchored to match a whole value"] := by
  let email : Score := ⟨.emailLike, 75,
    ["Contains a literal '@' separator", "Contains a literal dot, as in a domain",
      "Anchored to match a whole value", "Uses word boundaries"]⟩
  have h : (parsePattern "^\\b\\w+@\\w+\\.com$" "").toOption.map (fun p =>
      (Score.all p.features).filter (42 ≤ ·.clamped)) = some [email] := by decide +kernel
  obtain ⟨p, hp, hmany⟩ := ok_of_toOption_map h
  have honly : ∀ s, s ∈ Score.all p.features ∧ 42 ≤ s.clamped ↔ s = email := fun s => by
    rw [← List.mem_singleton, ← hmany, List.mem_filter, decide_eq_true_iff]
  obtain ⟨hmem, hemail⟩ := (honly email).mpr rfl
  obtain ⟨-, i, best, hbest, -, hreports⟩ := intent_selection.2.2 p
  have hreach := Nat.le_trans hemail (hbest.most email hmem)
  obtain rfl := (honly best).mp ⟨List.mem_of_getElem? hbest.at_place, hreach⟩
  obtain ⟨hlabel, -, hconfidence, -, -, hreasons, -⟩ := hreports.named hreach
  exact ⟨p, i, hp, hbest, hlabel, hconfidence, hreasons⟩

end RegexInsight
