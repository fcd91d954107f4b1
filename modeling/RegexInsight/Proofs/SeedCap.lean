import Mathlib.Data.List.Induction
import Mathlib.Data.List.Infix
import Mathlib.Data.List.Nodup
import RegexInsight.Proofs.SeedClipping

/-! The cap on the candidates of an estimate. It stops the loop in front of a candidate, and forty seeds stop it
behind one. So the loop has gone through the first candidates and no others, a larger cap adds seeds at the end,
and the remark on the cap says that there was a candidate more while there were too few seeds. -/
namespace RegexInsight
namespace Estimate

/-- The remark on candidates that were left out. -/
def cappedNote (settings : EstimatorSettings) : String :=
  "Estimation capped: only the first " ++ toString settings.maxCandidates ++
    " seed candidates were considered"

section
variable {settings : EstimatorSettings} {sample : Subject} {s : Seeds} {texts : List (List Char)}
  {c : Candidate} {cs : List Candidate}

theorem cappedNote_ne_lineNote (length : Nat) : cappedNote settings ≠
    s!"Sample lines longer than {length} characters were truncated for estimation" := by
  have hfront : ∀ s t : String,
      "Estimation capped: only the first " ++ s ≠ "Sample lines longer than " ++ t := by
    intro s t h
    have hhead := congrArg (fun s : String => s.toList.head?) h
    simp at hhead
  have h := hfront (toString settings.maxCandidates ++ " seed candidates were considered")
    (toString length ++ " characters were truncated for estimation")
  rw [← String.append_assoc, ← String.append_assoc] at h
  exact h

theorem cappedNote_mem_notes : cappedNote settings ∈ s.notes settings ↔ s.capped = true := by
  have hline : cappedNote settings ∉ (if s.lineCut then
      [s!"Sample lines longer than {settings.maxLineChars} characters were truncated for estimation"]
      else []) := by
    by_cases hcut : s.lineCut
    · rw [if_pos hcut, List.mem_singleton]
      exact cappedNote_ne_lineNote _
    · simp [hcut]
  rw [Seeds.notes, List.mem_append]
  by_cases hcapped : s.capped
  · rw [if_pos hcapped, iff_true_right hcapped]
    exact .inr (List.mem_singleton.mpr rfl)
  · rw [if_neg hcapped, iff_false_right hcapped]
    simpa using hline

@[simp] theorem Seeds.consider_considered :
    (s.consider settings sample c).considered = s.considered + 1 := by
  simp only [consider, add]
  split <;> rfl

@[simp] theorem Seeds.consider_capped : (s.consider settings sample c).capped = s.capped := by
  simp only [consider, add]
  split <;> rfl

/-- The loop ends with the texts of the candidates that it has considered, and these are the first ones. -/
theorem gather_of (h : s.Of texts) (hcap : s.considered ≤ settings.maxCandidates) :
    ∃ k, (gather settings sample s cs).Of (texts ++ (cs.take k).map (seedText settings sample)) ∧
      k ≤ cs.length ∧ (gather settings sample s cs).considered ≤ settings.maxCandidates := by
  induction cs generalizing s texts with
  | nil => exact ⟨0, by simpa [gather] using h, Nat.le_refl 0, hcap⟩
  | cons c cs ih =>
    rw [gather_cons]
    by_cases hfull : settings.maxCandidates ≤ s.considered
    · refine ⟨0, ?_, Nat.zero_le _, ?_⟩
      · simpa [hfull] using ⟨h.seeds_eq, h.considered_eq⟩
      · simpa [hfull] using hcap
    · have hnext : (s.consider settings sample c).Of (texts ++ [seedText settings sample c]) :=
        h.consider
      have hroom : (s.consider settings sample c).considered ≤ settings.maxCandidates := by
        simp
        omega
      by_cases henough : maxSeeds ≤ (s.consider settings sample c).seeds.length
      · refine ⟨1, ?_, by simp, ?_⟩
        · simpa [hfull, henough] using hnext
        · simpa only [hfull, henough, if_false, if_true] using hroom
      · obtain ⟨k, hof, hk, hle⟩ := ih hnext hroom
        refine ⟨k + 1, ?_, by simpa using hk, ?_⟩
        · simpa [hfull, henough] using hof
        · simpa [hfull, henough] using hle

/-- Candidates are left out just if there are more than the cap and seeds enough were not found among those up to
the cap. -/
theorem gather_capped (hfew : s.seeds.length < maxSeeds)
    (hcap : s.considered ≤ settings.maxCandidates) (hnot : s.capped = false) :
    (gather settings sample s cs).capped = true ↔
      (gather settings sample s cs).considered = settings.maxCandidates ∧
        settings.maxCandidates < s.considered + cs.length ∧
          (gather settings sample s cs).seeds.length < maxSeeds := by
  induction cs generalizing s with
  | nil => simp [gather, hnot, hcap]
  | cons c cs ih =>
    rw [gather_cons]
    by_cases hfull : settings.maxCandidates ≤ s.considered
    · simp [hfull, hfew]
      omega
    · by_cases henough : maxSeeds ≤ (s.consider settings sample c).seeds.length
      · simp [hfull, henough, hnot]
      · have hnext := ih (Nat.lt_of_not_le henough) (by simp; omega) (by simpa using hnot)
        simpa [hfull, henough, Nat.add_assoc, Nat.add_comm 1] using hnext

end

theorem seedText_isPrefix (settings : EstimatorSettings) {sample : List Char} {m : MatchRecord}
    (hm : m.Placed sample) {c : Candidate} (hc : c ∈ candidatesOf m) :
    ∃ i j, c.span.Holds sample i j ∧
      seedText settings (.ofChars sample) c <+: (sample.take j).drop i := by
  obtain ⟨k, stop, hwhole⟩ := hm.whole
  obtain ⟨hline, i, j, hspan⟩ := candidatesOf_placed hm c hc
  refine ⟨i, j, hspan, ?_⟩
  have hk : k ≤ sample.length := Nat.le_trans hwhole.ordered hwhole.stop_le
  rw [seedText_eq hspan (hline.trans hwhole.start_eq) hk, textUpTo_eq, List.drop_take]
  apply List.take_prefix_take_left
  unfold leftOf
  omega

theorem seedText_isInfix (settings : EstimatorSettings) (sample : List Char) (c : Candidate) :
    seedText settings (.ofChars sample) c <:+: sample := by
  have hslice : ∀ span : Span,
      ((Subject.ofChars sample).sliceBytes? span).getD [] <:+: sample := by
    intro span
    unfold Subject.sliceBytes?
    split
    · split
      · simpa [Subject.ofChars] using
          (List.take_prefix _ _).isInfix.trans (List.drop_suffix _ _).isInfix
      · exact List.nil_infix
    · exact List.nil_infix
  have hwindow : ∀ cut, ((Subject.ofChars sample).window? c.span cut).getD [] <:+: sample := by
    intro cut
    unfold Subject.window?
    split
    · exact hslice _
    · split
      · exact List.nil_infix
      · exact hslice _
  exact (List.take_prefix _ _).isInfix.trans (hwindow _)

theorem mem_candidatesOf {m : MatchRecord} {c : Candidate} (h : c ∈ candidatesOf m) :
    c.span = m.span ∨ ∃ g ∈ m.groups, g.span = some c.span ∧ 2 ≤ g.value.length := by
  simp only [candidatesOf, List.mem_map, List.mem_cons, List.mem_filterMap] at h
  obtain ⟨span, rfl | ⟨g, hg, hspan⟩, rfl⟩ := h
  · exact .inl rfl
  · by_cases hlong : 2 ≤ g.value.length
    · exact .inr ⟨g, hg, by simpa [hlong] using hspan, hlong⟩
    · simp [hlong] at hspan

/-- The spans that the seeds come from: those of the matches, and those of groups of two characters or more. -/
theorem mem_seedsOf {settings : EstimatorSettings} {sample : Subject} {found : List MatchRecord}
    {seed : List Char} (h : seed ∈ (seedsOf settings sample found).seeds) :
    seed ≠ [] ∧ ∃ m ∈ found, ∃ c ∈ candidatesOf m, seedText settings sample c = seed := by
  rw [seedsOf_seeds] at h
  obtain ⟨htext, hne⟩ := mem_distinctTexts.mp (List.mem_of_mem_take h)
  obtain ⟨c, hc, rfl⟩ := List.mem_map.mp htext
  obtain ⟨m, hm, hcm⟩ := List.mem_flatMap.mp (List.mem_of_mem_take hc)
  exact ⟨hne, m, hm, c, hcm, rfl⟩

theorem distinctTexts_nodup (texts : List (List Char)) : (distinctTexts texts).Nodup := by
  induction texts using List.reverseRecOn with
  | nil => exact List.nodup_nil
  | append_singleton texts text ih =>
    rw [distinctTexts_concat]
    by_cases hknown : text.isEmpty || (distinctTexts texts).contains text
    · rwa [if_pos hknown]
    · have hnew : text ∉ distinctTexts texts := fun hmem => hknown (by simp [hmem])
      rw [if_neg hknown]
      exact ih.append (List.nodup_singleton text) (by simpa using hnew)

theorem seedsOf_isPrefix (settings : EstimatorSettings) (sample : Subject) (found : List MatchRecord)
    {more : Nat} (h : settings.maxCandidates ≤ more) :
    (seedsOf settings sample found).seeds <+:
      (seedsOf { settings with maxCandidates := more } sample found).seeds := by
  rw [seedsOf_seeds, seedsOf_seeds]
  obtain ⟨n, rfl⟩ := Nat.exists_eq_add_of_le h
  apply List.IsPrefix.take
  rw [List.take_add, List.map_append]
  exact distinctTexts_isPrefix _ _

end Estimate

open Estimate in
/-- The seeds of an estimate are few, short and distinct, each one the beginning of a match or of a group of two
characters or more. They come from the first candidates, no more of them than the cap says, and a larger cap adds
to them at the end. The remark on the cap is made just if a candidate more would have been considered. -/
theorem seeds_capped {sample : List Char} {found : List MatchRecord}
    (hfound : ∀ m ∈ found, m.Placed sample) (settings : EstimatorSettings) :
    let candidates := found.flatMap candidatesOf
    let s := seedsOf settings (.ofChars sample) found
    (s.seeds.Nodup ∧ s.seeds.length ≤ 40) ∧
    (∀ seed ∈ s.seeds, seed ≠ [] ∧ seed.length ≤ 300 ∧ ∃ m ∈ found, ∃ span : Span,
      (span = m.span ∨ ∃ g ∈ m.groups, g.span = some span ∧ 2 ≤ g.value.length) ∧
        ∃ i j, span.Holds sample i j ∧ seed <+: (sample.take j).drop i) ∧
    (s.considered ≤ settings.maxCandidates ∧ s.considered ≤ candidates.length ∧
      s.seeds = distinctTexts ((candidates.take s.considered).map
        (seedText settings (.ofChars sample)))) ∧
    (∀ more, settings.maxCandidates ≤ more → s.seeds <+:
      (seedsOf { settings with maxCandidates := more } (.ofChars sample) found).seeds) ∧
    (cappedNote settings ∈ s.notes settings ↔
      s.considered = settings.maxCandidates ∧ settings.maxCandidates < candidates.length ∧
        s.seeds.length < 40) := by
  intro candidates s
  have hstart : Seeds.Of ⟨[], 0, false, false⟩ [] := ⟨rfl, rfl⟩
  have hgather : ∃ k, s.Of ([] ++ (candidates.take k).map (seedText settings (.ofChars sample))) ∧
      k ≤ candidates.length ∧ s.considered ≤ settings.maxCandidates :=
    gather_of hstart (Nat.zero_le _)
  obtain ⟨k, hof, hk, hcap⟩ := hgather
  have hconsidered : s.considered = k := by
    simpa [Nat.min_eq_left hk] using hof.considered_eq
  have hcapped : s.capped = true ↔ s.considered = settings.maxCandidates ∧
      settings.maxCandidates < 0 + candidates.length ∧ s.seeds.length < maxSeeds :=
    gather_capped (by decide) (Nat.zero_le _) rfl
  refine ⟨⟨?_, seedsOf_length_le _ _ _⟩, ?_, ⟨hcap, hconsidered ▸ hk, ?_⟩,
    fun more => seedsOf_isPrefix settings _ found, ?_⟩
  · show (seedsOf settings (.ofChars sample) found).seeds.Nodup
    rw [seedsOf_seeds]
    exact (distinctTexts_nodup _).sublist (List.take_sublist _ _)
  · intro seed hseed
    obtain ⟨hne, m, hm, c, hc, rfl⟩ := mem_seedsOf hseed
    obtain ⟨i, j, hspan, hprefix⟩ := seedText_isPrefix settings (hfound m hm) hc
    exact ⟨hne, List.length_take_le _ _, m, hm, c.span, mem_candidatesOf hc, i, j, hspan, hprefix⟩
  · rw [hconsidered]
    exact hof.seeds_eq
  · rw [Nat.zero_add] at hcapped
    exact cappedNote_mem_notes.trans hcapped

/-- A cap of two is reached at a match that is known already, with one match left that has a group. -/
theorem seeds_capped_known_match :
    let sample := "ab ab çd".toList
    let found : List MatchRecord := [⟨⟨0, 2⟩, "ab", 1, [⟨1, none, "a", some ⟨0, 1⟩⟩]⟩,
      ⟨⟨3, 5⟩, "ab", 1, [⟨1, none, "", none⟩]⟩, ⟨⟨6, 9⟩, "çd", 1, [⟨1, none, "çd", some ⟨6, 9⟩⟩]⟩]
    let settings : EstimatorSettings := ⟨2, 500, 2000, 100000⟩
    let s := Estimate.seedsOf settings (.ofChars sample) found
    let more := Estimate.seedsOf { settings with maxCandidates := 3 } (.ofChars sample) found
    (∀ m ∈ found, m.Placed sample) ∧ settings.maxCandidates ≤ 3 ∧
      s.seeds = ["ab".toList] ∧ more.seeds = ["ab".toList, "çd".toList] ∧ s.seeds <+: more.seeds ∧
      (s.seeds.Nodup ∧ s.seeds.length ≤ 40) ∧ Estimate.cappedNote settings ∈ s.notes settings := by
  intro sample found settings s more
  have hplaced : ∀ m ∈ found, m.Placed sample := by
    intro m hm
    simp only [found, List.mem_cons, List.not_mem_nil, or_false] at hm
    rcases hm with rfl | rfl | rfl
    · refine ⟨⟨0, 2, by decide +kernel, by decide +kernel, by decide, by decide⟩, fun g hg span hspan => ?_⟩
      obtain rfl := List.mem_singleton.mp hg
      cases hspan
      exact ⟨0, 1, by decide +kernel, by decide +kernel, by decide, by decide⟩
    · refine ⟨⟨3, 5, by decide +kernel, by decide +kernel, by decide, by decide⟩, fun g hg span hspan => ?_⟩
      obtain rfl := List.mem_singleton.mp hg
      cases hspan
    · refine ⟨⟨6, 8, by decide +kernel, by decide +kernel, by decide, by decide⟩, fun g hg span hspan => ?_⟩
      obtain rfl := List.mem_singleton.mp hg
      cases hspan
      exact ⟨6, 8, by decide +kernel, by decide +kernel, by decide, by decide⟩
  have hcap : settings.maxCandidates ≤ 3 := by decide
  obtain ⟨hfew, -, -, hprefix, hnote⟩ := seeds_capped hplaced settings
  have hreached : s.considered = 2 ∧ 2 < (found.flatMap Estimate.candidatesOf).length ∧
      s.seeds.length < 40 := by
    decide +kernel
  exact ⟨hplaced, hcap, by decide +kernel, by decide +kernel, hprefix 3 hcap, hfew,
    hnote.mpr hreached⟩

end RegexInsight
