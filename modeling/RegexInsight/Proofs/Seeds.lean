import Mathlib.Data.List.Basic
import RegexInsight.Estimate

/-! The seeds of an estimate. The loop over the candidates leaves early for two reasons, and what it leaves
with can be said without it: the distinct texts of the first candidates in order, forty at most. -/
namespace RegexInsight
namespace Estimate

/-- The text that a candidate gives. -/
def seedText (settings : EstimatorSettings) (sample : Subject) (c : Candidate) : List Char :=
  ((sample.window? c.span (sample.lineCut? c.line settings.maxLineChars)).getD []).take maxSeedChars

/-- The texts that are not empty, each where it stands first. -/
def distinctTexts (texts : List (List Char)) : List (List Char) :=
  (texts.filter (!·.isEmpty)).eraseDups

theorem distinctTexts_append (texts more : List (List Char)) :
    distinctTexts (texts ++ more) = distinctTexts texts ++
      ((more.filter (!·.isEmpty)).removeAll (texts.filter (!·.isEmpty))).eraseDups := by
  simp [distinctTexts, List.eraseDups_append]

theorem distinctTexts_isPrefix (texts more : List (List Char)) :
    distinctTexts texts <+: distinctTexts (texts ++ more) := by
  simp [distinctTexts_append]

theorem mem_distinctTexts {texts : List (List Char)} {text : List Char} :
    text ∈ distinctTexts texts ↔ text ∈ texts ∧ text ≠ [] := by
  simp [distinctTexts]

theorem distinctTexts_concat (texts : List (List Char)) (text : List Char) :
    distinctTexts (texts ++ [text]) =
      if text.isEmpty || (distinctTexts texts).contains text then distinctTexts texts
      else distinctTexts texts ++ [text] := by
  rw [distinctTexts_append]
  by_cases hempty : text.isEmpty
  · simp [hempty, List.removeAll]
  · have hne : text ≠ [] := by simpa using hempty
    by_cases hknown : text ∈ texts
    · simp [hne, hknown, mem_distinctTexts, List.removeAll]
    · simp [hne, hknown, mem_distinctTexts, List.removeAll, List.eraseDups_cons]

/-- The state after one candidate more. -/
def Seeds.consider (settings : EstimatorSettings) (sample : Subject) (s : Seeds) (c : Candidate) :
    Seeds :=
  Seeds.add (seedText settings sample c)
    ⟨s.seeds, s.considered + 1,
      s.lineCut || (sample.lineCut? c.line settings.maxLineChars).isSome, s.capped⟩

theorem gather_cons {settings : EstimatorSettings} {sample : Subject} {s : Seeds} {c : Candidate}
    {cs : List Candidate} : gather settings sample s (c :: cs) =
      if settings.maxCandidates ≤ s.considered then
        ⟨s.seeds, s.considered, s.lineCut || (sample.lineCut? c.line settings.maxLineChars).isSome,
          true⟩
      else if maxSeeds ≤ (s.consider settings sample c).seeds.length then
        s.consider settings sample c
      else gather settings sample (s.consider settings sample c) cs := rfl

/-- The seeds are those of some texts, of which each came from a candidate. -/
structure Seeds.Of (s : Seeds) (texts : List (List Char)) : Prop where
  seeds_eq : s.seeds = distinctTexts texts
  considered_eq : s.considered = texts.length

section
variable {settings : EstimatorSettings} {sample : Subject} {s : Seeds} {texts : List (List Char)}
  {c : Candidate}

theorem Seeds.Of.consider (h : s.Of texts) :
    (s.consider settings sample c).Of (texts ++ [seedText settings sample c]) := by
  constructor
  · rw [distinctTexts_concat, ← h.seeds_eq]
    unfold Seeds.consider Seeds.add
    split_ifs <;> rfl
  · have hcount : (s.consider settings sample c).considered = s.considered + 1 := by
      unfold Seeds.consider Seeds.add
      split_ifs <;> rfl
    simp [hcount, h.considered_eq]

theorem Seeds.Of.consider_length_le (h : s.Of texts) :
    (s.consider settings sample c).seeds.length ≤ s.seeds.length + 1 := by
  rw [h.consider.seeds_eq, distinctTexts_concat, h.seeds_eq]
  split_ifs <;> simp

theorem gather_seeds (h : s.Of texts) (hfew : s.seeds.length < maxSeeds) (cs : List Candidate) :
    (gather settings sample s cs).seeds =
      (distinctTexts (texts ++ (cs.take (settings.maxCandidates - texts.length)).map
        (seedText settings sample))).take maxSeeds := by
  induction cs generalizing s texts with
  | nil => simp [gather, ← h.seeds_eq, List.take_of_length_le (Nat.le_of_lt hfew)]
  | cons c cs ih =>
    have hlength := h.considered_eq
    rw [gather_cons]
    by_cases hcap : settings.maxCandidates ≤ s.considered
    · have hnone : settings.maxCandidates - texts.length = 0 := by omega
      simp [hcap, hnone, ← h.seeds_eq, List.take_of_length_le (Nat.le_of_lt hfew)]
    · have hnext : (s.consider settings sample c).Of (texts ++ [seedText settings sample c]) :=
        h.consider
      have hleft : settings.maxCandidates - texts.length =
          settings.maxCandidates - (texts ++ [seedText settings sample c]).length + 1 := by
        simp
        omega
      rw [hleft, List.take_succ_cons, List.map_cons, List.append_cons]
      by_cases hfull : maxSeeds ≤ (s.consider settings sample c).seeds.length
      · -- what further candidates give comes behind the seeds that are kept
        obtain ⟨more, hmore⟩ := distinctTexts_isPrefix (texts ++ [seedText settings sample c])
          ((cs.take _).map (seedText settings sample))
        have hexact : (s.consider settings sample c).seeds.length = maxSeeds :=
          Nat.le_antisymm (Nat.le_trans h.consider_length_le hfew) hfull
        simp only [hcap, hfull, if_false, if_true]
        rw [← hmore, ← hnext.seeds_eq, ← hexact, List.take_left]
      · simp only [hcap, hfull, if_false]
        exact ih hnext (Nat.lt_of_not_le hfull)

end

theorem seedsOf_seeds (settings : EstimatorSettings) (sample : Subject) (found : List MatchRecord) :
    (seedsOf settings sample found).seeds =
      (distinctTexts (((found.flatMap candidatesOf).take settings.maxCandidates).map
        (seedText settings sample))).take maxSeeds := by
  have hstart : Seeds.Of ⟨[], 0, false, false⟩ [] := ⟨rfl, rfl⟩
  exact gather_seeds hstart (by decide) _

theorem seedsOf_length_le (settings : EstimatorSettings) (sample : Subject)
    (found : List MatchRecord) : (seedsOf settings sample found).seeds.length ≤ maxSeeds := by
  rw [seedsOf_seeds]
  exact List.length_take_le _ _

end Estimate
end RegexInsight
