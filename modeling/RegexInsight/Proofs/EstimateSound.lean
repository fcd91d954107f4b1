import RegexInsight.Proofs.Validity

/-! What an estimate says is so. Every text that is listed was tried, and the pattern did answer as it is
said to. Where the loops over seeds and variants are left does not matter, since nothing is listed or
counted but with a test. -/
namespace RegexInsight
namespace Estimate

/-- A test that notes what it is asked. -/
def noting (test : List Char → Option Bool) (text : List Char) :
    StateM (List (List Char)) (Option Bool) :=
  fun asked => (test text, asked ++ [text])

/-- A run that gives `outcome` whatever is noted before, and notes `count` texts. -/
def Notes {α : Type} (run : StateM (List (List Char)) α) (outcome : α) (count : Nat) : Prop :=
  ∀ asked, ∃ more, run asked = (outcome, asked ++ more) ∧ more.length = count

namespace Notes

theorem pure {α : Type} (a : α) : Notes (Pure.pure a) a 0 :=
  fun asked => ⟨[], by rw [List.append_nil]; rfl, rfl⟩

theorem test (test : List Char → Option Bool) (text : List Char) :
    Notes (noting test text) (test text) 1 := fun _ => ⟨[text], rfl, rfl⟩

theorem bind {α β : Type} {run : StateM (List (List Char)) α} {a : α} {m : Nat}
    {next : α → StateM (List (List Char)) β} {b : β} {n : Nat} (h : Notes run a m)
    (hnext : Notes (next a) b n) : Notes (run >>= next) b (m + n) := by
  intro asked
  obtain ⟨first, hrun, hfirst⟩ := h asked
  obtain ⟨second, hrest, hsecond⟩ := hnext (asked ++ first)
  refine ⟨first ++ second, ?_, by rw [List.length_append, hfirst, hsecond]⟩
  have hbind : (run >>= next) asked = next (run asked).1 (run asked).2 := rfl
  rw [hbind, hrun, hrest, List.append_assoc]

theorem map {α β : Type} {run : StateM (List (List Char)) α} {a : α} {n : Nat}
    (h : Notes run a n) (f : α → β) : Notes (run >>= fun x => Pure.pure (f x)) (f a) n := by
  rw [← Nat.add_zero n]
  exact h.bind (.pure (f a))

end Notes

/-- What holds of the findings of one side: the pattern is wrong about each of them, each comes from
somewhere, and no two of them have the same text. -/
structure Side (test : List Char → Option Bool) (wrong : Bool) (origin : Finding → Prop)
    (found : List Finding) : Prop where
  answers : ∀ f ∈ found, test f.text = some wrong
  origins : ∀ f ∈ found, origin f
  distinct : (found.map Finding.text).Nodup

namespace Side

variable {test : List Char → Option Bool} {wrong : Bool} {origin : Finding → Prop}
  {found : List Finding} {f : Finding}

theorem nil : Side test wrong origin [] := ⟨by simp, by simp, List.nodup_nil⟩

theorem append (h : Side test wrong origin found) (hnew : found.any (·.text == f.text) = false)
    (hanswer : test f.text = some wrong) (horigin : origin f) :
    Side test wrong origin (found ++ [f]) := by
  have hnot : f.text ∉ found.map Finding.text := by
    intro hmem
    obtain ⟨g, hg, heq⟩ := List.mem_map.mp hmem
    have := List.any_eq_false.mp hnew g hg
    simp [heq] at this
  refine ⟨fun g hg => ?_, fun g hg => ?_, ?_⟩
  · rcases List.mem_append.mp hg with hg | hg
    · exact h.answers g hg
    · exact List.mem_singleton.mp hg ▸ hanswer
  · rcases List.mem_append.mp hg with hg | hg
    · exact h.origins g hg
    · exact List.mem_singleton.mp hg ▸ horigin
  · rw [List.map_append]
    exact List.nodup_append.mpr ⟨h.distinct, by simp, by simpa using hnot⟩

theorem take (h : Side test wrong origin found) (n : Nat) :
    Side test wrong origin (found.take n) := by
  refine ⟨fun g hg => h.answers g (List.mem_of_mem_take hg),
    fun g hg => h.origins g (List.mem_of_mem_take hg), ?_⟩
  rw [List.map_take]
  exact h.distinct.sublist (List.take_sublist _ _)

end Side

/-- What holds of a trial within a budget. -/
structure Trial.Sound (test : List Char → Option Bool) (limit : Nat) (wrong : Bool)
    (origin : Finding → Prop) (t : Trial) : Prop where
  side : Side test wrong origin t.found
  used_le : t.used ≤ limit

/-- What holds of what was found with some seeds. -/
structure Tally.Sound (test : List Char → Option Bool) (limit : Nat)
    (negative positive : Finding → Prop) (t : Tally) : Prop where
  negatives : Side test false negative t.negatives
  positives : Side test true positive t.positives
  used_le : t.used ≤ limit

section
variable {test : List Char → Option Bool} {limit : Nat} {wrong : Bool} {reason : String → String}
  {origin : Finding → Prop} {t : Trial} {v : Variant} {vs : List Variant}

def trial (test : List Char → Option Bool) (limit : Nat) (wrong : Bool) (reason : String → String)
    (t : Trial) (vs : List Variant) : Trial :=
  Id.run (tryVariants (fun text => pure (test text)) limit wrong reason t vs)

theorem trial_cons : trial test limit wrong reason t (v :: vs) =
    if t.found.any (·.text == v.text) then trial test limit wrong reason t vs
    else if limit ≤ t.used then { t with exhausted := true }
    else trial test limit wrong reason ⟨t.used + 1,
      if test v.text == some wrong then t.found ++ [⟨v.text, reason v.edit⟩] else t.found, false⟩ vs := by
  rw [trial, tryVariants]
  split
  · rfl
  · split <;> rfl

theorem trial_sound (h : t.Sound test limit wrong origin)
    (hvs : ∀ v ∈ vs, origin ⟨v.text, reason v.edit⟩) :
    (trial test limit wrong reason t vs).Sound test limit wrong origin := by
  induction vs generalizing t with
  | nil => exact h
  | cons v vs ih =>
    have hrest := fun w hw => hvs w (List.mem_cons_of_mem v hw)
    rw [trial_cons]
    split
    · exact ih h hrest
    · rename_i hnew
      split
      · exact ⟨h.side, h.used_le⟩
      · rename_i hused
        refine ih ⟨?_, Nat.lt_of_not_le hused⟩ hrest
        dsimp only
        split
        · rename_i hanswer
          exact h.side.append (by simpa using hnew) (by simpa using hanswer) (hvs v List.mem_cons_self)
        · exact h.side

/-- A trial that notes what it asks is the same trial, and it counts what it notes. -/
theorem trial_notes (test : List Char → Option Bool) (limit : Nat) (wrong : Bool)
    (reason : String → String) (t : Trial) (vs : List Variant) : ∃ n, Notes (tryVariants (noting test) limit wrong reason t vs)
    (trial test limit wrong reason t vs) n ∧
      (trial test limit wrong reason t vs).used = t.used + n := by
  induction vs generalizing t with
  | nil => exact ⟨0, .pure t, rfl⟩
  | cons v vs ih =>
    rw [trial_cons, tryVariants]
    split
    · exact ih t
    · split
      · exact ⟨0, .pure _, rfl⟩
      · obtain ⟨n, hnotes, hused⟩ := ih ⟨t.used + 1,
          if test v.text == some wrong then t.found ++ [⟨v.text, reason v.edit⟩] else t.found, false⟩
        exact ⟨1 + n, (Notes.test test v.text).bind hnotes, by rw [hused]; dsimp only; omega⟩

def side (test : List Char → Option Bool) (limit : Nat) (wrong : Bool) (reason : String → String)
    (t : Trial) (vs : List Variant) : Trial :=
  Id.run (trySide (fun text => pure (test text)) limit wrong reason t vs)

theorem side_sound (h : t.Sound test limit wrong origin)
    (hvs : ∀ v ∈ vs, origin ⟨v.text, reason v.edit⟩) :
    (side test limit wrong reason t vs).Sound test limit wrong origin := by
  unfold side trySide
  split
  · exact trial_sound h hvs
  · exact h

theorem side_notes (test : List Char → Option Bool) (limit : Nat) (wrong : Bool)
    (reason : String → String) (t : Trial) (vs : List Variant) : ∃ n, Notes (trySide (noting test) limit wrong reason t vs)
    (side test limit wrong reason t vs) n ∧
      (side test limit wrong reason t vs).used = t.used + n := by
  unfold side trySide
  split
  · exact trial_notes test limit wrong reason t vs
  · exact ⟨0, .pure t, rfl⟩

end

section
variable {test : List Char → Option Bool} {limit : Nat} {traits : PatternTraits}
  {negative positive : Finding → Prop} {seed : List Char} {seeds : List (List Char)} {t : Tally}

def seedTally (test : List Char → Option Bool) (limit : Nat) (traits : PatternTraits)
    (seed : List Char) (t : Tally) : Tally :=
  Id.run (trySeed (fun text => pure (test text)) limit traits seed t)

theorem seedTally_eq : seedTally test limit traits seed t =
    let rejected := side test limit false (rejectedReason seed) ⟨t.used, t.negatives, false⟩
      (Variant.shouldMatch seed traits)
    if rejected.exhausted then ⟨rejected.used, rejected.found, t.positives, true⟩
    else
      let accepted := side test limit true (acceptedReason seed) ⟨rejected.used, t.positives, false⟩
        (Variant.shouldNotMatch seed traits)
      ⟨accepted.used, rejected.found, accepted.found, accepted.exhausted⟩ := rfl

theorem seedTally_sound (h : t.Sound test limit negative positive)
    (hnegative : ∀ v ∈ Variant.shouldMatch seed traits,
      negative ⟨v.text, rejectedReason seed v.edit⟩)
    (hpositive : ∀ v ∈ Variant.shouldNotMatch seed traits,
      positive ⟨v.text, acceptedReason seed v.edit⟩) :
    (seedTally test limit traits seed t).Sound test limit negative positive := by
  rw [seedTally_eq]
  have hrejected := side_sound (t := ⟨t.used, t.negatives, false⟩) ⟨h.negatives, h.used_le⟩ hnegative
  dsimp only
  split
  · exact ⟨hrejected.side, h.positives, hrejected.used_le⟩
  · have haccepted := side_sound (t := ⟨_, t.positives, false⟩) ⟨h.positives, hrejected.used_le⟩
      hpositive
    exact ⟨hrejected.side, haccepted.side, haccepted.used_le⟩

theorem seedTally_notes (test : List Char → Option Bool) (limit : Nat) (traits : PatternTraits)
    (seed : List Char) (t : Tally) : ∃ n, Notes (trySeed (noting test) limit traits seed t)
      (seedTally test limit traits seed t) n ∧
        (seedTally test limit traits seed t).used = t.used + n := by
  obtain ⟨n, hrejected, hused⟩ := side_notes test limit false (rejectedReason seed)
    ⟨t.used, t.negatives, false⟩ (Variant.shouldMatch seed traits)
  rw [seedTally_eq, trySeed]
  dsimp only
  split
  · rename_i hexhausted
    refine ⟨n + 0, hrejected.bind ?_, hused⟩
    rw [if_pos hexhausted]
    exact .pure _
  · rename_i hexhausted
    obtain ⟨k, haccepted, hused'⟩ := side_notes test limit true (acceptedReason seed)
      ⟨_, t.positives, false⟩ (Variant.shouldNotMatch seed traits)
    refine ⟨n + (k + 0), hrejected.bind ?_, by rw [hused', hused]; dsimp only; omega⟩
    rw [if_neg hexhausted]
    exact haccepted.bind (.pure _)

def tally (test : List Char → Option Bool) (limit : Nat) (traits : PatternTraits) (t : Tally)
    (seeds : List (List Char)) : Tally :=
  Id.run (trySeeds (fun text => pure (test text)) limit traits t seeds)

theorem tally_cons : tally test limit traits t (seed :: seeds) =
    let t := seedTally test limit traits seed t
    if t.exhausted || (maxFindings ≤ t.negatives.length && maxFindings ≤ t.positives.length) then t
    else tally test limit traits t seeds := rfl

/-- The finding is a variant of one of the seeds that should match, and says so. -/
def Rejected (traits : PatternTraits) (seeds : List (List Char)) (f : Finding) : Prop :=
  ∃ seed ∈ seeds, ∃ v ∈ Variant.shouldMatch seed traits, f = ⟨v.text, rejectedReason seed v.edit⟩

/-- The finding is a variant of one of the seeds that should not match, and says so. -/
def Accepted (traits : PatternTraits) (seeds : List (List Char)) (f : Finding) : Prop :=
  ∃ seed ∈ seeds, ∃ v ∈ Variant.shouldNotMatch seed traits, f = ⟨v.text, acceptedReason seed v.edit⟩

theorem tally_sound {all : List (List Char)} (hseeds : ∀ seed ∈ seeds, seed ∈ all)
    (h : t.Sound test limit (Rejected traits all) (Accepted traits all)) :
    (tally test limit traits t seeds).Sound test limit (Rejected traits all) (Accepted traits all) := by
  induction seeds generalizing t with
  | nil => exact h
  | cons seed seeds ih =>
    obtain ⟨hseed, hrest⟩ := List.forall_mem_cons.mp hseeds
    have hnext := seedTally_sound h (fun v hv => ⟨seed, hseed, v, hv, rfl⟩)
      fun v hv => ⟨seed, hseed, v, hv, rfl⟩
    rw [tally_cons]
    dsimp only
    split
    · exact hnext
    · exact ih hrest hnext

theorem tally_notes (test : List Char → Option Bool) (limit : Nat) (traits : PatternTraits)
    (t : Tally) (seeds : List (List Char)) : ∃ n, Notes (trySeeds (noting test) limit traits t seeds)
      (tally test limit traits t seeds) n ∧
        (tally test limit traits t seeds).used = t.used + n := by
  induction seeds generalizing t with
  | nil => exact ⟨0, .pure t, rfl⟩
  | cons seed seeds ih =>
    obtain ⟨n, hseed, hused⟩ := seedTally_notes test limit traits seed t
    rw [tally_cons, trySeeds]
    dsimp only
    split
    · rename_i hstop
      refine ⟨n + 0, hseed.bind ?_, hused⟩
      rw [if_pos hstop]
      exact .pure _
    · rename_i hstop
      obtain ⟨k, hrest, hused'⟩ := ih (seedTally test limit traits seed t)
      refine ⟨n + k, hseed.bind ?_, by rw [hused', hused, Nat.add_assoc]⟩
      rw [if_neg hstop]
      exact hrest

end
structure Sound (r : Regex) (traits : PatternTraits) (seeds : List (List Char)) (limit : Nat)
    (e : Estimate) : Prop where
  accepted : ∀ f ∈ e.falsePositives, r.isMatch (.ofChars f.text) = .ok true
  rejected : ∀ f ∈ e.falseNegatives, r.isMatch (.ofChars f.text) = .ok false
  few : e.falsePositives.length ≤ 6 ∧ e.falseNegatives.length ≤ 6
  distinct : ((e.falsePositives ++ e.falseNegatives).map Finding.text).Nodup
  positives : ∀ f ∈ e.falsePositives, Accepted traits seeds f
  negatives : ∀ f ∈ e.falseNegatives, Rejected traits seeds f
  attempts_le : e.attempts ≤ limit

theorem test_eq_some {r : Regex} {text : List Char} {b : Bool} (h : test r text = some b) :
    r.isMatch (.ofChars text) = .ok b := by
  unfold test at h
  cases hmatch : r.isMatch (.ofChars text) with
  | error e =>
    rw [hmatch] at h
    cases h
  | ok matched =>
    rw [hmatch] at h
    cases h
    rfl

/-- A report of what was found is as it has to be. The two sides have no text in common, since the
pattern gives one answer to it. -/
theorem Tally.Sound.report {r : Regex} {traits : PatternTraits} {seeds : List (List Char)}
    {limit : Nat} {t : Tally}
    (h : t.Sound (test r) limit (Rejected traits seeds) (Accepted traits seeds)) (notes : List String) :
    Estimate.Sound r traits seeds limit
      ⟨t.positives.take maxFindings, t.negatives.take maxFindings, notes, t.used⟩ := by
  have hpositives := h.positives.take maxFindings
  have hnegatives := h.negatives.take maxFindings
  refine ⟨fun f hf => test_eq_some (hpositives.answers f hf),
    fun f hf => test_eq_some (hnegatives.answers f hf),
    ⟨List.length_take_le _ _, List.length_take_le _ _⟩, ?_, hpositives.origins, hnegatives.origins,
    h.used_le⟩
  rw [List.map_append]
  refine List.nodup_append.mpr ⟨hpositives.distinct, hnegatives.distinct, ?_⟩
  rintro _ hf _ hg rfl
  obtain ⟨f, hf, htext⟩ := List.mem_map.mp hf
  obtain ⟨g, hg, heq⟩ := List.mem_map.mp hg
  have haccepted := hpositives.answers f hf
  rw [htext, ← heq, hnegatives.answers g hg] at haccepted
  cases haccepted

end Estimate

/-- An estimate that notes what it asks is the same estimate, and it reports how much it has asked. -/
theorem ParsedPattern.estimate_notes (p : ParsedPattern) (sample : Subject)
    (found : List MatchRecord) (settings : EstimatorSettings) :
    Estimate.Notes (p.estimateWith (fun r => Estimate.noting (Estimate.test r)) sample found settings)
      (p.estimate sample found settings) (p.estimate sample found settings).attempts := by
  unfold estimate estimateWith
  cases p.regex p.flags.withoutGlobal with
  | error e => exact .pure _
  | ok r =>
    dsimp only
    split
    · exact .pure _
    · obtain ⟨n, hnotes, hused⟩ := Estimate.tally_notes
        (Estimate.test { r with stepLimit := settings.testStepLimit }) settings.maxTotalWork p.traits
        ⟨0, [], [], false⟩ (Estimate.seedsOf settings sample found).seeds
      rw [Nat.zero_add] at hused
      subst hused
      exact hnotes.map _

theorem ParsedPattern.estimate_ok {p : ParsedPattern} {r : Regex}
    (hr : p.regex p.flags.withoutGlobal = .ok r) (sample : Subject) (found : List MatchRecord)
    (settings : EstimatorSettings) :
    (p.estimate sample found settings).Sound { r with stepLimit := settings.testStepLimit } p.traits
      (Estimate.seedsOf settings sample found).seeds settings.maxTotalWork := by
  unfold estimate estimateWith
  rw [hr]
  dsimp only
  split
  · exact ⟨by simp, by simp, by simp, by simp, by simp, by simp, Nat.zero_le _⟩
  · exact (Estimate.tally_sound (fun _ hseed => hseed) ⟨.nil, .nil, Nat.zero_le _⟩).report _

/-- The findings of an estimate are true of the pattern, they are few, distinct, and made from seeds of
the matches, and as many tests were made as are reported, within the budget. -/
theorem estimate_sound {source flagText : String} {p : ParsedPattern}
    (h : parsePattern source flagText = .ok p) (sample : Subject) (found : List MatchRecord)
    (settings : EstimatorSettings) :
    (∃ r, Regex.build p.source p.flags.withoutGlobal = .ok r ∧
      (p.estimate sample found settings).Sound { r with stepLimit := settings.testStepLimit } p.traits
        (Estimate.seedsOf settings sample found).seeds settings.maxTotalWork) ∧
      Estimate.Notes
        (p.estimateWith (fun r => Estimate.noting (Estimate.test r)) sample found settings)
        (p.estimate sample found settings) (p.estimate sample found settings).attempts ∧
      (found = [] → (p.estimate sample found settings).falsePositives = [] ∧
        (p.estimate sample found settings).falseNegatives = [] ∧
        (p.estimate sample found settings).attempts = 0 ∧
        (p.estimate sample found settings).notes.length = 1) := by
  obtain ⟨r, hbuild, hr, -⟩ := (ParsedPattern.accepted h).builds p.flags.withoutGlobal rfl
  refine ⟨⟨r, hbuild, ParsedPattern.estimate_ok hr sample found settings⟩,
    p.estimate_notes sample found settings, ?_⟩
  rintro rfl
  unfold ParsedPattern.estimate ParsedPattern.estimateWith
  rw [hr]
  exact ⟨rfl, rfl, rfl, rfl⟩

/-- A budget of nine tests, of which eight find something. -/
theorem estimate_sound_cat :
    ∃ p, parsePattern "cat" "g" = .ok p ∧
      let found : List MatchRecord := [⟨⟨0, 3⟩, "cat", 1, []⟩]
      let settings : EstimatorSettings := ⟨10, 100, 9, 1000⟩
      let e := p.estimate (.ofString "cat") found settings
      (e.falsePositives.length, e.falseNegatives.length, e.attempts) = (5, 3, 9) ∧
        (∃ r, Regex.build p.source p.flags.withoutGlobal = .ok r ∧
          e.Sound { r with stepLimit := 1000 } p.traits
            (Estimate.seedsOf settings (.ofString "cat") found).seeds 9) ∧
          Estimate.Notes (p.estimateWith (fun r => Estimate.noting (Estimate.test r)) (.ofString "cat")
            found settings) e 9 := by
  have h : (parsePattern "cat" "g").toOption.map (fun p =>
      let e := p.estimate (.ofString "cat") [⟨⟨0, 3⟩, "cat", 1, []⟩] ⟨10, 100, 9, 1000⟩
      (e.falsePositives.length, e.falseNegatives.length, e.attempts)) = some (5, 3, 9) := by
    decide +kernel
  obtain ⟨p, hp, hcounts⟩ := ok_of_toOption_map h
  obtain ⟨hsound, hnotes, -⟩ := estimate_sound hp (.ofString "cat") [⟨⟨0, 3⟩, "cat", 1, []⟩]
    ⟨10, 100, 9, 1000⟩
  have hattempts : (p.estimate (.ofString "cat") [⟨⟨0, 3⟩, "cat", 1, []⟩]
      ⟨10, 100, 9, 1000⟩).attempts = 9 := congrArg (·.2.2) hcounts
  rw [hattempts] at hnotes
  exact ⟨p, hp, hcounts, hsound, hnotes⟩

end RegexInsight
