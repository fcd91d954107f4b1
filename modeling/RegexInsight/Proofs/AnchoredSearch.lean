import RegexInsight.Proofs.SearchAnswers

/-! The search of an anchored program against an attempt at every position. The program is tried at the
start of the text alone. Behind the start an attempt fails at the anchors of its alternatives, which
costs it the splits between them and the anchors; the attempt at the start has executed the same
instructions by the time it has failed, so where its limit was enough for it, the limit is enough
everywhere. -/
namespace RegexInsight
namespace Machine

variable {m : Machine}

/-- Attempts at every position from `start` on, up to the first match or the first error. -/
def searchEach (m : Machine) (start : Nat) : Except RunError (Option Slots) :=
  (List.range' start (m.text.size + 1 - start)).findSomeM? m.matchAt

theorem scan_eq_findSomeM? (m : Machine) (count start : Nat) :
    m.scan count start = (List.range' start count).findSomeM? m.matchAt := by
  induction count generalizing start with
  | zero => rfl
  | succ count ih =>
    rw [scan_succ, List.range'_succ, List.findSomeM?]
    cases m.matchAt start with
    | error e => rfl
    | ok found =>
      cases found with
      | none => exact ih (start + 1)
      | some slots => rfl

theorem search_eq_of_not_anchored (ha : m.program.anchored = false) (start : Nat) :
    m.search start false = m.searchEach start := by
  rw [search, searchEach, ha, ← scan_eq_findSomeM?]
  rfl

section
variable {budget more : Nat} {c c' : Config} {a : Option (Nat × Slots)}

theorem run_ok_pos (h : m.run budget c = .ok a) : ∃ less, budget = less + 1 := by
  cases budget with
  | zero => cases h
  | succ less => exact ⟨less, rfl⟩

theorem run_ok_mono (h : m.run budget c = .ok a) (hle : budget ≤ more) : m.run more c = .ok a := by
  induction budget generalizing c more with
  | zero => cases h
  | succ budget ih =>
    obtain ⟨more, rfl⟩ := Nat.exists_eq_add_of_le' (Nat.zero_lt_of_lt hle)
    rw [run] at h ⊢
    cases hs : c.step m.program m.mode m.text with
    | running next =>
      rw [hs] at h
      exact ih h (Nat.le_of_succ_le_succ hle)
    | matched | failed | stuck =>
      rw [hs] at h
      exact h

theorem Leads.run_ok (h : m.Leads (.running c) (.running c')) (hr : m.run budget c = .ok a) :
    m.run budget c' = .ok a := by
  generalize hc : Outcome.running c = first at h
  generalize hc' : Outcome.running c' = last at h
  induction h generalizing c budget with
  | refl =>
    subst hc'
    cases hc
    exact hr
  | @step c₁ o hl ih =>
    obtain rfl : c = c₁ := Outcome.running.inj hc
    obtain ⟨budget, rfl⟩ := run_ok_pos hr
    rw [run] at hr
    cases hs : c.step m.program m.mode m.text with
    | running next =>
      rw [hs] at hr
      exact run_ok_mono (ih hr hs.symm hc') (Nat.le_succ budget)
    | matched | failed | stuck =>
      rw [hs] at hl
      cases hl
      cases hc'

theorem Leads.run_ok_of_ne (h : m.Leads (.running c) (.running c')) (hne : c ≠ c')
    (hr : m.run budget c = .ok a) : ∃ less, less < budget ∧ m.run less c' = .ok a := by
  obtain ⟨budget, rfl⟩ := run_ok_pos hr
  cases h with
  | refl => exact absurd rfl hne
  | step hl =>
    rw [run] at hr
    cases hs : c.step m.program m.mode m.text with
    | running next =>
      rw [hs] at hr hl
      exact ⟨budget, Nat.lt_succ_self _, hl.run_ok hr⟩
    | matched | failed | stuck =>
      rw [hs] at hl
      cases hl

theorem Yields.leads {exit : Nat} {target : Option Nat} {waiting : List Waiting}
    {Good : Point → Slots → Prop} {fail o : Outcome}
    (h : m.Yields exit target waiting Good fail o []) : m.Leads o fail := by
  cases h with
  | done hl => exact hl

end

section
variable {names : List (Option String)} {start : Nat}

theorem inst_of_startsAnchored {b : Branch} {code : Code} (hb : b.startsAnchored)
    (h : m.Has (b.emit names code)) : m.program.insts[code.pc]? = some .assertStart := by
  obtain ⟨span, es⟩ := b
  obtain ⟨e, hfirst, he⟩ := (Option.any_eq_true _ _).mp hb
  obtain ⟨rest, rfl⟩ := List.head?_eq_some_iff.mp hfirst
  unfold Element.isStartAnchor at he
  split at he
  · exact (h.of_grows (elementsEmit_grows names rest _)).inst
  · cases he

theorem step_assertStart {pc : Nat} (hm : m.mode.multiline = false) (hs : 0 < start)
    (hi : m.program.insts[pc]? = some .assertStart) (slots : Slots) (trail : List TrailEntry)
    (target : Option Nat) (waiting : List Waiting) :
    Config.step m.program m.mode m.text ⟨pc, start, slots, trail, target, waiting⟩ =
      Config.backtrack slots trail target waiting := by
  have htest : Config.atLineStart? m.mode m.text start = some false := by
    rw [Config.atLineStart?, if_neg (Nat.ne_of_gt hs), hm]
    rfl
  rw [Config.step_continue hi (.inl ⟨rfl, rfl⟩), htest]
  rfl

/-- Where all alternatives fail at the start of the text, they fail behind it within the same number of
steps. By induction on the alternatives: each of them fails at its anchor, while the attempt at the
start comes to the next alternative only after it has passed the anchor. -/
theorem run_fails_behind (hn : m.program.groupCount = names.length) (hm : m.mode.multiline = false)
    (hs : 0 < start) (slots' : Slots) (bs : List Branch) (hne : bs ≠ [])
    (ha : ∀ b ∈ bs, b.startsAnchored) (stop : Nat) (code : Code)
    (hstop : stop = code.pc + branchesSize bs) (hr : branchesResolved names bs)
    (h : m.Carries (branchesCaptures bs) code (branchesEmit names stop bs code)) {slots : Slots}
    (hshows : m.Shows (.start 0) slots)
    (hset : Settled ((branchesCaptures bs).map Capture.index) slots)
    (hnone : ∀ b ∈ bs, b.outcomes (m.attempt names) (.start 0) = []) {budget : Nat}
    (hrun : m.run budget ⟨code.pc, 0, slots, [], none, []⟩ = .ok none) :
    m.run budget ⟨code.pc, start, slots', [], none, []⟩ = .ok none := by
  obtain ⟨budget, rfl⟩ := run_ok_pos hrun
  match bs with
  | [] => exact absurd rfl hne
  | [b] =>
    have hi := inst_of_startsAnchored (ha b List.mem_cons_self) h.has
    rw [run, step_assertStart hm hs hi]
    rfl
  | b :: b' :: bs =>
    let next := code.pc + b.size + 2
    have hb := ha b List.mem_cons_self
    have hsplit := Code.pushSplit_grows true next code
    have hfirst := Branch.emit_grows names b (code.pushSplit true next)
    have hjump := Code.push_grows (.jump stop) (b.emit names (code.pushSplit true next))
    have hrest := branchesEmit_grows names stop (b' :: bs) (b.emitChoice names stop code)
    have hnext : (b.emitChoice names stop code).pc = next := by
      rw [Branch.emitChoice, Code.push_pc, Branch.emit_pc, Code.pushSplit_pc]
      omega
    have hlast : stop = (b.emitChoice names stop code).pc + branchesSize (b' :: bs) := by
      rw [branchesSize_cons_cons] at hstop
      omega
    rw [branchesCaptures, List.flatMap_cons] at h hset
    rw [branchesEmit_cons_cons] at h
    have hhas := h.has.of_grows (hjump.trans hrest)
    have hopened := (hhas.of_grows hfirst).inst
    have hanchor := inst_of_startsAnchored hb hhas
    rw [Code.pushSplit_pc] at hanchor
    -- at the start the first alternative leads back to the choice that was left before it
    have hdoes := Branch.emit_does m.performs hn b (code.pushSplit true next) hr.1
      (h.part (List.sublist_append_left _ _) hsplit hfirst (hjump.trans hrest))
    have hyields := hdoes (.start 0) slots [.resume next 0] none [] hshows
      (hset.subset (List.map_subset _ (List.subset_append_left _ _))) fun _ _ => rfl
    rw [hnone b List.mem_cons_self, Config.backtrack_resume, Code.pushSplit_pc] at hyields
    rw [run, Config.step_split hopened] at hrun
    obtain ⟨less, hless, hrun⟩ := hyields.leads.run_ok_of_ne (by simp) hrun
    rw [← hnext] at hrun
    have hlater := run_fails_behind hn hm hs slots' (b' :: bs) (List.cons_ne_nil _ _)
      (fun x hx => ha x (List.mem_cons_of_mem _ hx)) stop _ hlast hr.2
      (h.part (List.sublist_append_right _ _) (hsplit.trans (hfirst.trans hjump)) hrest (.refl _))
      hshows (hset.subset (List.map_subset _ (List.subset_append_right _ _)))
      (fun x hx => hnone x (List.mem_cons_of_mem _ hx)) hrun
    -- behind it the anchor does
    obtain ⟨budget, rfl⟩ := Nat.exists_eq_add_of_le' (Nat.zero_lt_of_lt hless)
    rw [run, Config.step_split hopened]
    dsimp only
    rw [run, step_assertStart hm hs hanchor, Config.backtrack_resume]
    dsimp only
    rw [← hnext]
    exact run_ok_mono hlater (Nat.le_of_lt_succ hless)

end

theorem run_of_matchAt {start : Nat} (h : m.matchAt start = .ok none) :
    m.run m.limit (m.initial start) = .ok none := by
  rw [matchAt_eq] at h
  cases hrun : m.run m.limit (m.initial start) with
  | error e =>
    rw [hrun] at h
    cases h
  | ok found =>
    cases found with
    | none => rfl
    | some found =>
      rw [hrun] at h
      cases h

end Machine

theorem branchesOutcomes_eq_nil {a : Attempt} {bs : List Branch} {p : Point} :
    branchesOutcomes a bs p = [] ↔ ∀ b ∈ bs, b.outcomes a p = [] := by
  induction bs with
  | nil => simp [branchesOutcomes]
  | cons b bs ih => rw [branchesOutcomes, List.append_eq_nil_iff, ih, List.forall_mem_cons]

section
variable {unicode : Bool} {tree : PatternTree} {m : Machine}

/-- An anchored program that fails at the start of the text fails behind it within the same limit. -/
theorem PatternTree.WellFormed.fails_behind (hw : tree.WellFormed unicode)
    (hc : compile m.mode.multiline tree = .ok m.program) (ha : m.program.anchored)
    (h : m.matchAt 0 = .ok none) {start : Nat} (hs : 0 < start) : m.matchAt start = .ok none := by
  obtain ⟨hcount, hhas, hcarries⟩ := compile_carries hw hc
  have hfirst := hw.matchAt_ok hc (Nat.zero_le _) h
  have hnone : branchesOutcomes (m.attempt tree.names) tree.pattern.branches (.start 0) = [] :=
    List.head?_eq_none_iff.mp (Option.map_eq_none_iff.mp hfirst.symm)
  obtain ⟨_, _, _, hprogram⟩ := compile_cases hc
  rw [hprogram, Bool.and_eq_true, Bool.not_eq_true', List.all_eq_true] at ha
  rw [Pattern.captures_eq] at hcarries
  have hrun := Machine.run_fails_behind hcount ha.1 hs (m.initial start).slots _ hw.branches ha.2 _
    tree.blank (Nat.zero_add _).symm (hw.resolved hc) hcarries (Machine.initial_shows (Nat.zero_le _))
    (Machine.initial_settled fun t ht => (hcarries.fits.groups t ht).1)
    (branchesOutcomes_eq_nil.mp hnone) (Machine.run_of_matchAt h)
  rw [Machine.matchAt_eq, show m.run m.limit (m.initial start) = .ok none from hrun]
  rfl

theorem PatternTree.WellFormed.searchEach_cases (hw : tree.WellFormed unicode)
    (hc : compile m.mode.multiline tree = .ok m.program) {start : Nat} (hs : start ≤ m.text.size) :
    m.searchEach start = .error .stepLimit ∨ m.searchEach start =
      .ok ((List.range' start (m.text.size + 1 - start)).findSome? (tree.firstMatch m.mode m.text)) := by
  obtain ⟨found, hfound⟩ := Machine.scan_settles
    (fun start hs => ⟨_, hw.settles hc m.mode m.text hs⟩) (m.text.size + 1 - start) start (by omega)
  rw [Machine.searchEach, ← Machine.scan_eq_findSomeM?]
  refine (hfound.cases m.limit).imp id fun hok => ?_
  rw [← scan_ok hw hc (by omega) hok]
  exact hok

theorem findSomeM?_eq_none {ε α β : Type} {f : α → Except ε (Option β)} {xs : List α}
    (h : ∀ x ∈ xs, f x = .ok none) : xs.findSomeM? f = .ok none := by
  induction xs with
  | nil => rfl
  | cons x xs ih =>
    rw [List.findSomeM?, h x List.mem_cons_self]
    exact ih fun y hy => h y (List.mem_cons_of_mem _ hy)

/-- At the start of the text the search of an anchored program is one attempt, and if it fails so do all
others. -/
theorem PatternTree.WellFormed.search_start_eq_searchEach (hw : tree.WellFormed unicode)
    (hc : compile m.mode.multiline tree = .ok m.program) (ha : m.program.anchored) :
    m.search 0 false = m.searchEach 0 := by
  rw [Machine.search, if_pos ha, if_neg (Nat.lt_irrefl 0), Machine.searchEach, Nat.sub_zero,
    List.range'_succ, List.findSomeM?]
  cases h : m.matchAt 0 with
  | error e => rfl
  | ok found =>
    cases found with
    | some slots => rfl
    | none =>
      have hrest : (List.range' 1 m.text.size).findSomeM? m.matchAt = .ok none :=
        findSomeM?_eq_none fun p hp => hw.fails_behind hc ha h (List.mem_range'_1.mp hp).1
      exact hrest.symm

end

/-- Searching gives what attempts at every position give, up to the first match or error: at the start
of the text whatever the limit, and further on if the attempts are within it. -/
theorem search_eq_searchEach {unicode : Bool} {source : List Char} {tree : PatternTree} {m : Machine}
    (hp : parse unicode source = .ok tree) (hc : compile m.mode.multiline tree = .ok m.program) :
    m.search 0 false = m.searchEach 0 ∧
      ∀ start ≤ m.text.size, m.searchEach start ≠ .error .stepLimit →
        m.search start false = m.searchEach start := by
  have hw := PatternTree.WellFormed.of_parse hp
  cases ha : m.program.anchored with
  | false =>
    have hscan := Machine.search_eq_of_not_anchored ha
    exact ⟨hscan 0, fun start _ _ => hscan start⟩
  | true =>
    have hstart := hw.search_start_eq_searchEach hc ha
    refine ⟨hstart, fun start hs hl => ?_⟩
    by_cases hpos : 0 < start
    · rw [(hw.searchEach_cases hc hs).resolve_left hl, Machine.search, if_pos ha, if_pos hpos]
      refine congrArg Except.ok (List.findSome?_eq_none_iff.mpr fun p hp => ?_).symm
      have hle := (List.mem_range'_1.mp hp).1
      exact compile_anchored hc ha rfl _ (Nat.lt_of_lt_of_le hpos hle)
    · obtain rfl : start = 0 := Nat.eq_zero_of_not_pos hpos
      exact hstart

/-- Two anchored alternatives that fail at the start of a text under a limit that leaves no step over. -/
theorem search_eq_searchEach_anchored :
    ∃ tree program, parse false "^ab|^(a)c".toList = .ok tree ∧ compile false tree = .ok program ∧
      program.anchored ∧
      let m : Machine := ⟨program, ⟨false, false, false⟩, "aab".toList.toArray, 9⟩
      m.search 0 false = m.searchEach 0 ∧ 1 ≤ m.text.size ∧ m.searchEach 1 ≠ .error .stepLimit ∧
        m.search 1 false = m.searchEach 1 := by
  have h : ((parse false "^ab|^(a)c".toList).toOption.bind fun tree =>
      (compile false tree).toOption.map fun program => (program.anchored,
        (⟨program, ⟨false, false, false⟩, "aab".toList.toArray, 9⟩ : Machine).searchEach 1)) =
      some (true, .ok none) := by decide +kernel
  obtain ⟨tree, program, hp, hc, heq⟩ := ok_of_parse_compile h
  obtain ⟨ha, heach⟩ := Prod.mk.inj heq
  let m : Machine := ⟨program, ⟨false, false, false⟩, "aab".toList.toArray, 9⟩
  have hsize : 1 ≤ m.text.size := Nat.le_add_left 1 2
  have hlimit : m.searchEach 1 ≠ .error .stepLimit := fun hl => by cases heach.symm.trans hl
  obtain ⟨hstart, hlater⟩ := search_eq_searchEach (m := m) hp hc
  exact ⟨tree, program, hp, hc, ha, hstart, hsize, hlimit, hlater 1 hsize hlimit⟩

end RegexInsight
