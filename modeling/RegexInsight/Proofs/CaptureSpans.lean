import RegexInsight.Proofs.OrderedRuns
import RegexInsight.Proofs.SearchAnswers

/-! The captures of a match are closed and go forward, and so do the spans that references read on the
way to it. So what is done about spans that go backward, where a reference is read and where captures
are made of slots, is never done. -/
namespace RegexInsight
namespace Machine

variable {m : Machine} {start : Nat}

theorem leads_of_run {budget : Nat} {c : Config} {stop : Nat} {slots : Slots}
    (h : m.run budget c = .ok (some (stop, slots))) :
    m.Leads (.running c) (.matched stop slots) := by
  induction budget generalizing c with
  | zero => cases h
  | succ budget ih =>
    rw [run] at h
    refine .step ?_
    cases hs : c.step m.program m.mode m.text with
    | running next =>
      rw [hs] at h
      exact ih h
    | matched stop slots =>
      rw [hs] at h
      cases h
      exact .refl _
    | failed | stuck =>
      rw [hs] at h
      cases h

/-- The whole of an attempt is fine, since the piece of the whole tree is. -/
theorem initial_orderly {unicode multiline : Bool} {tree : PatternTree} (hw : tree.WellFormed unicode)
    (hc : compile multiline tree = .ok m.program) (hstart : start ≤ m.text.size) :
    m.Orderly start (.running (m.initial start)) := by
  obtain ⟨hcount, hhas, hcarries⟩ := compile_carries hw hc
  have hfits := hcarries.fits
  have hkeeps : m.Keeps start (Code.region tree.pattern.captures tree.blank tree.code)
      (tree.pattern.captures.map Capture.index) 0 tree.code.pc := compile_does (m.keeps start) hw hc
  refine hkeeps (.start start) (m.initial start).slots (m.initial_shows hstart)
    (m.initial_settled fun t ht => (hfits.groups t ht).1) (fun _ _ => rfl) [] none []
    (.of_fine trivial fun _ => Outcome.noConfusion) fun q slots trail hm _ => ?_
  refine .step hhas.inst trivial hm.shows.ordered ?_
  rw [Config.step_accept hhas.inst]
  -- the first slot is in no region
  have hkept := (hfits.not_holds (Nat.zero_le _) fun h₀ => absurd (hfits.groups 0 h₀).1 (by decide)).1
  have hsize : (m.program.groupCount + 1) * 2 ≤ m.program.slotCount :=
    Nat.le_trans hcarries.low (Nat.le_trans hfits.order hfits.high)
  have hfirst : slots[0]? = some (some start) := by
    rw [hm.kept _ hkept, initial, Array.getElem?_setIfInBounds_self_of_lt (by simp; omega)]
  have hall : tree.pattern.captures.map Capture.index = List.range' 1 m.program.groupCount := by
    rw [hw.captures, numbered_index, hcount]
  exact .of_fine ⟨q, rfl, hm.le, hm.shows, hfirst, hall ▸ hm.settled⟩ fun _ => Outcome.noConfusion

theorem Orderly.matchAt (h : m.Orderly start (.running (m.initial start))) (hsize :
    (m.program.groupCount + 1) * 2 ≤ m.program.slotCount) {slots : Slots}
    (hm : m.matchAt start = .ok (some slots)) :
    ∃ p : Point, slots = p.slots start m.program.groupCount ∧ start ≤ p.pos ∧ p.pos ≤ m.text.size ∧
      ∀ i ≤ m.program.groupCount, ∀ first stop, p.groups i = some (first, stop) →
        first ≤ stop ∧ stop ≤ m.text.size := by
  rw [matchAt_eq] at hm
  cases hrun : m.run m.limit (m.initial start) with
  | error e =>
    rw [hrun] at hm
    cases hm
  | ok found =>
    rw [hrun] at hm
    obtain ⟨⟨stop, found⟩, rfl, rfl⟩ := Option.map_eq_some_iff.mp (Except.ok.inj hm)
    obtain ⟨p, rfl, hle, hp, hfirst, hset⟩ := h _ (leads_of_run hrun)
    have hslots : (m.program.groupCount + 1) * 2 ≤ found.size := hp.size.symm ▸ hsize
    exact ⟨p, hp.slots_eq hslots hfirst hset, hle, hp.pos, hp.spans⟩

end Machine

theorem spanAt_slots (start count : Nat) (p : Point) :
    (List.range (count + 1)).map (spanAt (p.slots start count)) =
      some (start, p.pos) :: (List.range count).map fun i => p.groups (i + 1) := by
  obtain ⟨hfirst, hstop⟩ := p.slots_whole start count
  rw [List.range_succ_eq_map, List.map_cons, List.map_map]
  refine congrArg₂ List.cons ?_ (List.map_congr_left fun i hi => ?_)
  · rw [spanAt, Nat.zero_mul, hfirst, hstop]
  · obtain ⟨hfirst, hstop⟩ := p.slots_group start count (Nat.succ_pos i) (List.mem_range.mp hi)
    rw [Function.comp, spanAt, hfirst, hstop]
    cases p.groups (i + 1) <;> rfl

/-- The captures of a match are closed and go forward, none of them is dropped, and during the run no group
has a span that goes backward. -/
theorem captures_ordered {unicode multiline : Bool} {source : List Char} {tree : PatternTree}
    {m : Machine} (hp : parse unicode source = .ok tree) (hc : compile multiline tree = .ok m.program)
    {start : Nat} (hstart : start ≤ m.text.size) :
    (∀ slots, m.matchAt start = .ok (some slots) →
      slots.size = 2 * (m.program.groupCount + 1) ∧ slots[0]? = some (some start) ∧
      (∀ i ≤ m.program.groupCount, (slots[i * 2]? = some none ∧ slots[i * 2 + 1]? = some none) ∨
        ∃ first stop, slots[i * 2]? = some (some first) ∧ slots[i * 2 + 1]? = some (some stop) ∧
          first ≤ stop ∧ stop ≤ m.text.size) ∧
      Captures.ofSlots slots.toList =
        (List.range (m.program.groupCount + 1)).map (spanAt slots)) ∧
    ∀ c, m.Leads (.running (m.initial start)) (.running c) →
      (∀ i ≤ m.program.groupCount, ∀ first stop, c.slots[i * 2]? = some (some first) →
        c.slots[i * 2 + 1]? = some (some stop) → first ≤ stop ∧ stop ≤ m.text.size) ∧
      ∀ group, m.program.insts[c.pc]? = some (.backreference group) →
        group ≤ m.program.groupCount := by
  have hw := PatternTree.WellFormed.of_parse hp
  have horderly := Machine.initial_orderly hw hc hstart
  obtain ⟨-, hhas, hcarries⟩ := compile_carries hw hc
  constructor
  · intro slots hm
    obtain ⟨p, rfl, hle, hpos, hspans⟩ := horderly.matchAt (Nat.le_trans hcarries.low
      (Nat.le_trans hcarries.fits.order hcarries.fits.high)) hm
    obtain ⟨hfirst, hstop⟩ := p.slots_whole start m.program.groupCount
    refine ⟨by rw [Point.slots_size, Nat.mul_comm], hfirst, fun i hi => ?_, ?_⟩
    · rcases Nat.eq_zero_or_pos i with rfl | hpositive
      · exact .inr ⟨start, p.pos, hfirst, hstop, hle, hpos⟩
      · obtain ⟨hopen, hclose⟩ := p.slots_group start m.program.groupCount hpositive hi
        rw [hopen, hclose]
        cases hspan : p.groups i with
        | none => exact .inl ⟨rfl, rfl⟩
        | some span => exact .inr ⟨span.1, span.2, rfl, rfl, hspans i hi span.1 span.2 hspan⟩
    · rw [Regex.captures_of_point hle fun i hi first stop h => (hspans i hi first stop h).1,
        spanAt_slots]
  · intro c hl
    obtain ⟨hordered, hgroups⟩ := horderly _ hl
    refine ⟨fun i hi first stop hfirst hstop => hordered i hi first stop ?_, hgroups⟩
    rw [spanAt, hfirst, hstop]

/-- A group in a loop, which a lookbehind refers to. -/
theorem captures_ordered_lookbehind :
    ∃ tree program, parse true "(?:(a)(?<=\\1))*b".toList = .ok tree ∧
      compile false tree = .ok program ∧
      let m : Machine := ⟨program, ⟨false, false, false⟩, "aab".toList.toArray, 100⟩
      (∃ slots, m.matchAt 1 = .ok (some slots) ∧ slots = #[some 1, some 3, some 1, some 2] ∧
        Captures.ofSlots slots.toList = (List.range 2).map (spanAt slots)) ∧
      ∀ c, m.Leads (.running (m.initial 1)) (.running c) →
        ∀ i ≤ 1, ∀ first stop, c.slots[i * 2]? = some (some first) →
          c.slots[i * 2 + 1]? = some (some stop) → first ≤ stop ∧ stop ≤ 3 := by
  have h : ((parse true "(?:(a)(?<=\\1))*b".toList).toOption.bind fun tree =>
      (compile false tree).toOption.map fun program => (program.groupCount, (⟨program,
        ⟨false, false, false⟩, "aab".toList.toArray, 100⟩ : Machine).matchAt 1)) =
      some (1, .ok (some #[some 1, some 3, some 1, some 2])) := by decide +kernel
  obtain ⟨tree, program, hp, hc, heq⟩ := ok_of_parse_compile h
  obtain ⟨hcount, hm⟩ := Prod.mk.inj heq
  have hstart : 1 ≤ "aab".toList.toArray.size := by decide
  obtain ⟨hslots, hrun⟩ := captures_ordered
    (m := ⟨program, ⟨false, false, false⟩, "aab".toList.toArray, 100⟩) hp hc hstart
  dsimp only at hslots hrun
  rw [hcount] at hslots hrun
  exact ⟨tree, program, hp, hc, ⟨_, hm, rfl, (hslots _ hm).2.2.2⟩, fun c hl => (hrun c hl).1⟩

end RegexInsight
