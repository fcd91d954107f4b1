import Mathlib.Data.List.Range
import RegexInsight.Proofs.Refinement

/-! An attempt at a position. It begins with all slots empty but the first, and its answer is the first
outcome of the tree, in as many steps as it takes. -/
namespace RegexInsight

theorem numbered_index (names : List (Option String)) :
    (numbered names).map Capture.index = List.range' 1 names.length := by
  apply List.ext_getElem
  · simp [numbered]
  · intro i h₁ h₂
    simp [numbered, Nat.add_comm]

theorem compile_has {multiline : Bool} {tree : PatternTree} {m : Machine}
    (hc : compile multiline tree = .ok m.program) : m.Has (tree.code.push .accept) := by
  obtain ⟨_, _, _, hprogram⟩ := compile_cases hc
  exact ⟨⟨[], by rw [hprogram, List.append_nil]⟩, Nat.le_of_eq (by rw [hprogram])⟩

/-- What is compiled from a tree is carried as a piece that captures all of its groups. -/
theorem compile_carries {unicode multiline : Bool} {tree : PatternTree} {m : Machine}
    (hw : tree.WellFormed unicode) (hc : compile multiline tree = .ok m.program) :
    m.program.groupCount = tree.names.length ∧ m.Has (tree.code.push .accept) ∧
      m.Carries tree.pattern.captures tree.blank tree.code := by
  obtain ⟨_, _, _, hprogram⟩ := compile_cases hc
  have hcount : m.program.groupCount = tree.names.length := by rw [hprogram]
  have hhas := compile_has hc
  refine ⟨hcount, hhas, hhas.of_grows (Code.push_grows _ _), tree.code_grows, ?_, ?_, ?_⟩
  · rw [hcount]
    exact Nat.le_refl _
  · rw [hcount]
    exact fun c hcap => hw.index_le hcap
  · rw [hw.captures, numbered_index]
    exact List.nodup_range'

theorem compile_does {unicode multiline : Bool} {tree : PatternTree} {m : Machine} (L : m.Law)
    (hw : tree.WellFormed unicode) (hc : compile multiline tree = .ok m.program) :
    L.Does tree.pattern.captures tree.blank tree.code
      (branchesOutcomes (m.attempt tree.names) tree.pattern.branches) := by
  obtain ⟨hcount, _, hcarries⟩ := compile_carries hw hc
  rw [Pattern.captures_eq] at hcarries ⊢
  exact branchesEmit_does L hcount _ hw.branches _ _ (Nat.zero_add _).symm (hw.resolved hc) hcarries

theorem getElem?_spans (spans : List (Option (Nat × Nat))) (i : Nat) :
    let slots := spans.flatMap fun span => [span.map Prod.fst, span.map Prod.snd]
    slots[i * 2]? = spans[i]?.map (·.map Prod.fst) ∧
      slots[i * 2 + 1]? = spans[i]?.map (·.map Prod.snd) := by
  induction spans generalizing i with
  | nil => simp
  | cons span spans ih =>
    cases i with
    | zero => simp
    | succ i => simpa [Nat.succ_mul, List.getElem?_cons] using ih i

namespace Point

variable (start count : Nat) (p : Point)

theorem slots_size : (p.slots start count).size = (count + 1) * 2 := by
  simp [slots, Nat.succ_mul, Function.comp_def]

theorem slots_whole : (p.slots start count)[0]? = some (some start) ∧
    (p.slots start count)[1]? = some (some p.pos) := by
  simp [slots]

theorem slots_group {i : Nat} (h₁ : 1 ≤ i) (hi : i ≤ count) :
    (p.slots start count)[i * 2]? = some ((p.groups i).map Prod.fst) ∧
      (p.slots start count)[i * 2 + 1]? = some ((p.groups i).map Prod.snd) := by
  obtain ⟨i, rfl⟩ : ∃ k, i = k + 1 := ⟨i - 1, by omega⟩
  have hspans := (getElem?_spans (some (start, p.pos) ::
    (List.range count).map fun i => p.groups (i + 1)) (i + 1))
  have hspan : (some (start, p.pos) :: (List.range count).map fun i => p.groups (i + 1))[i + 1]? =
      some (p.groups (i + 1)) := by
    rw [List.getElem?_cons_succ, List.getElem?_map, List.getElem?_range (by omega)]
    rfl
  rw [hspan] at hspans
  simpa only [slots, List.getElem?_toArray, Option.map_some] using hspans

end Point

theorem slots_of_spanAt {slots : Slots} {i : Nat} (hi : i * 2 + 1 < slots.size)
    (hs : slots[i * 2]?.join.isSome = slots[i * 2 + 1]?.join.isSome) :
    slots[i * 2]? = some ((spanAt slots i).map Prod.fst) ∧
      slots[i * 2 + 1]? = some ((spanAt slots i).map Prod.snd) := by
  have h₁ : slots[i * 2]? = some slots[i * 2] := Array.getElem?_eq_getElem _
  have h₂ : slots[i * 2 + 1]? = some slots[i * 2 + 1] := Array.getElem?_eq_getElem _
  rw [h₁, h₂] at hs
  rw [spanAt, h₁, h₂]
  cases hfirst : slots[i * 2] <;> cases hstop : slots[i * 2 + 1] <;> simp_all

namespace Machine

variable {m : Machine}

theorem Shows.slots_eq {p : Point} {slots : Slots} {start : Nat} (h : m.Shows p slots)
    (hsize : (m.program.groupCount + 1) * 2 ≤ slots.size) (h₀ : slots[0]? = some (some start))
    (hset : Settled (List.range' 1 m.program.groupCount) slots) :
    (slots.setIfInBounds 1 (some p.pos)).extract 0 ((m.program.groupCount + 1) * 2) =
      p.slots start m.program.groupCount := by
  have hlength : ((slots.setIfInBounds 1 (some p.pos)).extract 0
      ((m.program.groupCount + 1) * 2)).size = (m.program.groupCount + 1) * 2 := by
    rw [Array.size_extract, Array.size_setIfInBounds]
    omega
  have hkept : ∀ j < (m.program.groupCount + 1) * 2, ((slots.setIfInBounds 1 (some p.pos)).extract 0
      ((m.program.groupCount + 1) * 2))[j]? = (slots.setIfInBounds 1 (some p.pos))[j]? := by
    intro j hj
    rw [Array.getElem?_extract, Array.size_setIfInBounds, if_pos (by omega), Nat.zero_add]
  apply Array.ext_getElem?
  intro j
  by_cases hj : j < (m.program.groupCount + 1) * 2
  · rw [hkept j hj]
    obtain ⟨hstart, hend⟩ := Point.slots_whole start m.program.groupCount p
    by_cases hgroup : j < 2
    · obtain rfl | rfl : j = 0 ∨ j = 1 := by omega
      · rw [Array.getElem?_setIfInBounds_ne (by decide), h₀, hstart]
      · rw [Array.getElem?_setIfInBounds_self_of_lt (by omega), hend]
    · obtain ⟨i, hi⟩ : ∃ i, j = i * 2 ∨ j = i * 2 + 1 := ⟨j / 2, by omega⟩
      have hle : 1 ≤ i ∧ i ≤ m.program.groupCount := by omega
      obtain ⟨hfirst, hstop⟩ := Point.slots_group start m.program.groupCount p hle.1 hle.2
      have hlt : i * 2 + 1 < slots.size := by omega
      obtain ⟨hfirst', hstop'⟩ := slots_of_spanAt hlt (hset i (List.mem_range'_1.mpr (by omega)))
      rw [← h.groups i hle.2] at hfirst' hstop'
      rw [Array.getElem?_setIfInBounds_ne (by omega)]
      rcases hi with rfl | rfl
      · rw [hfirst, hfirst']
      · rw [hstop, hstop']
  · rw [Array.getElem?_eq_none (by omega), Array.getElem?_eq_none]
    rw [Point.slots_size]
    omega

section
variable {start : Nat}

theorem initial_join {j : Nat} (hj : j ≠ 0) : (m.initial start).slots[j]?.join = none := by
  rw [initial, Array.getElem?_setIfInBounds_ne (Ne.symm hj), Array.getElem?_replicate]
  split <;> rfl

theorem initial_shows (hs : start ≤ m.text.size) : m.Shows (.start start) (m.initial start).slots := by
  refine ⟨by simp [initial], hs, fun i _ => ?_, by simp [Point.start]⟩
  rw [spanAt_of_stop (initial_join (Nat.succ_ne_zero _))]
  rfl

theorem initial_settled {groups : List Nat} (hg : ∀ t ∈ groups, 1 ≤ t) :
    Settled groups (m.initial start).slots := by
  intro t ht
  have := hg t ht
  rw [initial_join (by omega), initial_join (by omega)]

end

theorem run_limit (program : Program) (mode : Mode) (text : Array Char) (limit limit' : Nat)
    (budget : Nat) (c : Config) :
    (⟨program, mode, text, limit⟩ : Machine).run budget c =
      (⟨program, mode, text, limit'⟩ : Machine).run budget c := by
  induction budget generalizing c with
  | zero => rfl
  | succ budget ih =>
    rw [run, run]
    dsimp only
    split <;> first | exact ih _ | rfl

/-- What an attempt gives back of a run. -/
def answer (m : Machine) (found : Option (Nat × Slots)) : Option Slots :=
  found.map fun (stop, slots) =>
    (slots.setIfInBounds 1 (some stop)).extract 0 ((m.program.groupCount + 1) * 2)

theorem Carries.settles {captures : List Capture} {before after : Code} {f : Point → List Point}
    {start : Nat} (h : m.Carries captures before after) (hb : before.pc = 0)
    (ha : m.program.insts[after.pc]? = some .accept) (hd : m.performs.Does captures before after f)
    (hs : start ≤ m.text.size)
    (hall : captures.map Capture.index = List.range' 1 m.program.groupCount) :
    (∃ found, Settles (fun limit => m.run limit (m.initial start)) found ∧
        m.answer found = (f (.start start)).head?.map (·.slots start m.program.groupCount)) ∧
      ∀ p ∈ (f (.start start)).head?, start ≤ p.pos ∧ ∃ slots, m.Shows p slots := by
  have hyields := hd (.start start) (m.initial start).slots [] none [] (initial_shows hs)
    (initial_settled fun t ht => (h.fits.groups t ht).1) fun _ _ => rfl
  rw [hb] at hyields
  cases hf : f (.start start) with
  | nil =>
    rw [hf] at hyields
    cases hyields with
    | done hl => exact ⟨⟨none, hl.settles (.failed _), rfl⟩, by simp⟩
  | cons q ps =>
    rw [hf] at hyields
    cases hyields with
    | @next _ _ _ slots _ hl hm _ =>
      have hrun := (hl.trans (.single (Config.step_accept ha))).settles (.matched _ _)
      have hlow := h.low
      have hgrows := h.grows.slots
      have hslots := h.has.slots
      have hsize := hm.shows.size
      have hkept := (h.fits.not_holds (Nat.zero_le _)
        fun h₀ => absurd (h.fits.groups 0 h₀).1 (by decide)).1
      have hfirst : slots[0]? = some (some start) := by
        rw [hm.kept _ hkept, initial, Array.getElem?_setIfInBounds_self_of_lt (by simp; omega)]
      have hanswer := hm.shows.slots_eq (by omega) hfirst (hall ▸ hm.settled)
      refine ⟨⟨some (q.pos, slots), hrun, congrArg some hanswer⟩, ?_⟩
      rintro p ⟨⟩
      exact ⟨hm.le, slots, hm.shows⟩

theorem matchAt_eq (m : Machine) (start : Nat) :
    m.matchAt start = (m.run m.limit (m.initial start)).bind fun found => .ok (m.answer found) := by
  rw [matchAt]
  split <;> simp_all [Except.bind, answer]

end Machine

section
variable {unicode multiline : Bool} {source : List Char} {tree : PatternTree} {program : Program}

namespace PatternTree.WellFormed

theorem attempts {m : Machine} (hw : tree.WellFormed unicode)
    (hc : compile multiline tree = .ok m.program) {start : Nat} (hs : start ≤ m.text.size) :
    (∃ found, Machine.Settles (fun limit => m.run limit (m.initial start)) found ∧
        m.answer found = tree.firstMatch m.mode m.text start) ∧
      ∀ slots ∈ tree.firstMatch m.mode m.text start, ∃ p : Point,
        slots = p.slots start m.program.groupCount ∧ start ≤ p.pos ∧ p.pos ≤ m.text.size ∧
          ∀ i ≤ m.program.groupCount, ∀ first stop, p.groups i = some (first, stop) →
            first ≤ stop ∧ stop ≤ m.text.size := by
  obtain ⟨hcount, hhas, hcarries⟩ := compile_carries hw hc
  obtain ⟨hsettles, hshows⟩ := hcarries.settles rfl hhas.inst (compile_does m.performs hw hc) hs
    (by rw [hw.captures, numbered_index, hcount])
  refine ⟨by rwa [hcount] at hsettles, fun slots hslots => ?_⟩
  obtain ⟨p, hp, rfl⟩ := Option.map_eq_some_iff.mp hslots
  obtain ⟨hle, slots, hshows⟩ := hshows p hp
  exact ⟨p, by rw [hcount], hle, hshows.pos, hshows.spans⟩

/-- An attempt comes to the first outcome of the tree as soon as the limit allows for it. -/
theorem settles (hw : tree.WellFormed unicode)
    (hc : compile multiline tree = .ok program) (mode : Mode) (text : Array Char) {start : Nat}
    (hs : start ≤ text.size) :
    Machine.Settles (fun limit => (⟨program, mode, text, limit⟩ : Machine).matchAt start)
      (tree.firstMatch mode text start) := by
  let m : Machine := ⟨program, mode, text, 0⟩
  obtain ⟨found, hrun, hanswer⟩ := (hw.attempts (m := m) hc hs).1
  rw [← hanswer]
  simp only [Machine.matchAt_eq]
  refine .bind ?_ (.pure (m.answer found))
  simp only [Machine.run_limit program mode text _ 0]
  exact hrun

theorem matchAt_ok {m : Machine} (hw : tree.WellFormed unicode)
    (hc : compile multiline tree = .ok m.program) {start : Nat} (hs : start ≤ m.text.size)
    {found : Option Slots} (h : m.matchAt start = .ok found) :
    found = tree.firstMatch m.mode m.text start := by
  obtain ⟨least, hlow, hhigh⟩ := hw.settles hc m.mode m.text hs
  by_cases hl : m.limit < least
  · cases h.symm.trans (hlow m.limit hl)
  · exact Except.ok.inj (h.symm.trans (hhigh m.limit (by omega)))

end PatternTree.WellFormed

theorem matchAt_settles (hp : parse unicode source = .ok tree)
    (hc : compile multiline tree = .ok program) (mode : Mode) (text : Array Char) {start : Nat}
    (hs : start ≤ text.size) :
    Machine.Settles (fun limit => (⟨program, mode, text, limit⟩ : Machine).matchAt start)
      (tree.firstMatch mode text start) :=
  (PatternTree.WellFormed.of_parse hp).settles hc mode text hs

/-- What an attempt finds within its limit is the first outcome of the tree, and there is none if it
finds nothing. -/
theorem matchAt_eq_firstMatch (hp : parse unicode source = .ok tree)
    (hc : compile multiline tree = .ok program) (mode : Mode) (text : Array Char) (limit : Nat)
    {start : Nat} (hs : start ≤ text.size)
    (hl : (⟨program, mode, text, limit⟩ : Machine).matchAt start ≠ .error .stepLimit) :
    (⟨program, mode, text, limit⟩ : Machine).matchAt start =
      .ok (tree.firstMatch mode text start) := by
  obtain ⟨least, hlow, hhigh⟩ := matchAt_settles hp hc mode text hs
  by_cases h : limit < least
  · exact absurd (hlow limit h) hl
  · exact hhigh limit (by omega)

end

/-- A lazy loop over a group with two alternatives, up to where a lookahead holds. -/
theorem matchAt_eq_firstMatch_lazy :
    ∃ tree program, parse false "(a|ab)+?(?=c)".toList = .ok tree ∧
      compile false tree = .ok program ∧ 0 ≤ "aabc".toList.toArray.size ∧
      (⟨program, ⟨false, false, false⟩, "aabc".toList.toArray, 100⟩ : Machine).matchAt 0 =
        .ok (some #[some 0, some 3, some 1, some 3]) ∧
      (⟨program, ⟨false, false, false⟩, "aabc".toList.toArray, 100⟩ : Machine).matchAt 0 =
        .ok (tree.firstMatch ⟨false, false, false⟩ "aabc".toList.toArray 0) := by
  have h : ((parse false "(a|ab)+?(?=c)".toList).toOption.bind fun tree =>
      (compile false tree).toOption.map fun program =>
        (⟨program, ⟨false, false, false⟩, "aabc".toList.toArray, 100⟩ : Machine).matchAt 0) =
      some (.ok (some #[some 0, some 3, some 1, some 3])) := by decide +kernel
  cases hp : parse false "(a|ab)+?(?=c)".toList with
  | error e =>
    rw [hp] at h
    cases h
  | ok tree =>
    rw [hp] at h
    cases hc : compile false tree with
    | error e => simp [Except.toOption, hc] at h
    | ok program =>
      have hm : (⟨program, ⟨false, false, false⟩, "aabc".toList.toArray, 100⟩ : Machine).matchAt 0 =
          .ok (some #[some 0, some 3, some 1, some 3]) := by
        simpa only [Except.toOption, Option.bind_some, hc, Option.map_some, Option.some.injEq] using h
      exact ⟨tree, program, rfl, hc, Nat.zero_le _, hm,
        matchAt_eq_firstMatch hp hc _ _ 100 (Nat.zero_le _) (by rw [hm]; simp)⟩

end RegexInsight
