import RegexInsight.Proofs.Pieces

/-! Pieces that write slots: capture groups, iterations that begin with their groups unset, and loops.
A loop keeps the position at which an iteration began in a slot that nothing inside may write, and
since an iteration that counts moves on, there are at most as many as there are characters left. -/
namespace RegexInsight

theorem spanAt_of_stop {slots : Slots} {i : Nat} (h : slots[i * 2 + 1]?.join = none) :
    spanAt slots i = none := by
  unfold spanAt
  split <;> simp_all

theorem spanAt_set_ne {slots : Slots} {i j : Nat} {value : Option Nat} (h₁ : j ≠ i * 2)
    (h₂ : j ≠ i * 2 + 1) : spanAt (slots.setIfInBounds j value) i = spanAt slots i :=
  spanAt_congr (Array.getElem?_setIfInBounds_ne h₁) (Array.getElem?_setIfInBounds_ne h₂)

theorem Settled.set {groups : List Nat} {slots : Slots} {j : Nat} {value : Option Nat}
    (h : Settled groups slots) (hj : ∀ t ∈ groups, j ≠ t * 2 ∧ j ≠ t * 2 + 1) :
    Settled groups (slots.setIfInBounds j value) := by
  intro t ht
  obtain ⟨h₁, h₂⟩ := hj t ht
  rw [Array.getElem?_setIfInBounds_ne h₁, Array.getElem?_setIfInBounds_ne h₂]
  exact h t ht

theorem Unset.opened {groups : List Nat} {i : Nat} {p : Point} (h : Unset (i :: groups) p)
    (hn : i ∉ groups) : Unset groups (p.setGroup i none) := by
  intro t ht
  have hti : t ≠ i := fun he => hn (he ▸ ht)
  simpa [Point.setGroup, Function.update_of_ne hti] using h t (List.mem_cons_of_mem _ ht)

namespace Machine

variable {m : Machine}

theorem Shows.setGroup {p : Point} {slots slots' : Slots} {i : Nat} {span : Option (Nat × Nat)}
    (h : m.Shows p slots) (hsize : slots'.size = slots.size)
    (hsame : ∀ j, j ≠ i → spanAt slots' j = spanAt slots j) (hi : spanAt slots' i = span)
    (hspan : ∀ first stop, span = some (first, stop) → first ≤ stop ∧ stop ≤ m.text.size) :
    m.Shows (p.setGroup i span) slots' := by
  refine ⟨hsize.trans h.size, h.pos, fun j hj => ?_, fun j hj => ?_⟩
  all_goals
    by_cases hij : j = i
    · subst hij
      simp [Point.setGroup, hi]
      try exact hspan
    · simp only [Point.setGroup, Function.update_of_ne hij, hsame j hij]
      first | exact h.groups j hj | exact h.spans j hj

section
variable {groups : List Nat} {low high i : Nat} {p : Point} {slots : Slots}

theorem Shows.opened (h : m.Shows p slots) (hi : i ≤ m.program.groupCount) (hn : i ∉ groups)
    (hs : Settled (i :: groups) slots) (hu : p.groups i = none) :
    m.Shows (p.setGroup i none) (slots.setIfInBounds (i * 2) (some p.pos)) ∧
      Settled groups (slots.setIfInBounds (i * 2) (some p.pos)) := by
  have hempty := (h.empty hs List.mem_cons_self hi hu).2
  constructor
  · refine h.setGroup (by simp) (fun j hj => spanAt_set_ne (by omega) (by omega))
      (spanAt_of_stop ?_) (by simp)
    rwa [Array.getElem?_setIfInBounds_ne (by omega)]
  · refine (hs.subset (List.subset_cons_self i groups)).set fun t ht => ?_
    have hti : t ≠ i := fun he => hn (he ▸ ht)
    omega

theorem Moves.closed {q : Point} {slots' : Slots}
    (hr : (⟨i :: groups, low, high⟩ : Region).Fits m.program) (hn : i ∉ groups)
    (hp : m.Shows p slots) (h : m.Moves ⟨groups, low, high⟩ (p.setGroup i none)
      (slots.setIfInBounds (i * 2) (some p.pos)) q slots') :
    m.Moves ⟨i :: groups, low, high⟩ p slots (q.setGroup i (some (p.pos, q.pos)))
      (slots'.setIfInBounds (i * 2 + 1) (some q.pos)) := by
  have hi := (hr.groups i List.mem_cons_self).2
  have hinner : (⟨groups, low, high⟩ : Region).Fits m.program :=
    ⟨fun t ht => hr.groups t (List.mem_cons_of_mem _ ht), hr.low, hr.high, hr.order⟩
  have hsize := hp.slot_lt hr hi
  have hsize' := h.shows.slot_lt hr hi
  -- what the body has left in the two slots of the group
  have hfirst : (slots'.setIfInBounds (i * 2 + 1) (some q.pos))[i * 2]? = some (some p.pos) := by
    rw [Array.getElem?_setIfInBounds_ne (by omega), h.kept _ (hinner.not_holds hi hn).1,
      Array.getElem?_setIfInBounds_self_of_lt (by omega)]
  have hstop : (slots'.setIfInBounds (i * 2 + 1) (some q.pos))[i * 2 + 1]? = some (some q.pos) :=
    Array.getElem?_setIfInBounds_self_of_lt hsize'
  refine ⟨?_, h.le, fun j hj => ?_, fun t ht => ?_⟩
  · refine h.shows.setGroup (by simp) (fun j hj => spanAt_set_ne (by omega) (by omega)) ?_ ?_
    · rw [spanAt, hfirst, hstop]
    · rintro first stop ⟨⟩
      exact ⟨h.le, h.shows.pos⟩
  · have hne₁ : i * 2 + 1 ≠ j := fun he => hj (.inl ⟨i, List.mem_cons_self, .inr he.symm⟩)
    have hne₀ : i * 2 ≠ j := fun he => hj (.inl ⟨i, List.mem_cons_self, .inl he.symm⟩)
    rw [Array.getElem?_setIfInBounds_ne hne₁, h.kept j, Array.getElem?_setIfInBounds_ne hne₀]
    rintro (⟨t, ht, he⟩ | hloop)
    · exact hj (.inl ⟨t, List.mem_cons_of_mem _ ht, he⟩)
    · exact hj (.inr hloop)
  · rcases List.mem_cons.mp ht with rfl | ht
    · rw [hfirst, hstop]
      rfl
    · have hti : t ≠ i := fun he => hn (he ▸ ht)
      rw [Array.getElem?_setIfInBounds_ne (by omega), Array.getElem?_setIfInBounds_ne (by omega)]
      exact h.settled t ht

theorem Performs.group {entry middle : Nat} {f : Point → List Point}
    (hr : (⟨i :: groups, low, high⟩ : Region).Fits m.program) (hn : i ∉ groups)
    (hopen : m.program.insts[entry]? = some (.save (i * 2)))
    (hclose : m.program.insts[middle]? = some (.save (i * 2 + 1)))
    (hb : m.Performs ⟨groups, low, high⟩ groups (entry + 1) middle f) :
    m.Performs ⟨i :: groups, low, high⟩ (i :: groups) entry (middle + 1) fun p =>
      (f (p.setGroup i none)).map fun q => q.setGroup i (some (p.pos, q.pos)) := by
  intro p slots trail target waiting hp hset hun
  have hi := (hr.groups i List.mem_cons_self).2
  have hsize := hp.slot_lt hr hi
  have hold : slots[i * 2]? = some slots[i * 2] := Array.getElem?_eq_getElem _
  obtain ⟨hshows, hsettled⟩ := hp.opened hi hn hset (hun i List.mem_cons_self)
  refine .after (.single (Config.step_save hopen hold)) ?_
  rw [← Config.backtrack_write hold]
  dsimp only
  rw [List.map_eq_flatMap]
  refine (hb (p.setGroup i none) _ _ target waiting hshows hsettled (hun.opened hn)).bind
    fun q slots' trail' hm => ?_
  have hsize' := hm.shows.slot_lt hr hi
  have hold' : slots'[i * 2 + 1]? = some slots'[i * 2 + 1] := Array.getElem?_eq_getElem _
  exact .once (.single (Config.step_save hclose hold')) (hm.closed hr hn hp)
    (Config.backtrack_write hold' _ _ _)

end

/-- The slots of some groups, in the order in which they are cleared. -/
def slotsOf (groups : List Nat) : List Nat := groups.flatMap fun t => [t * 2, t * 2 + 1]

theorem mem_slotsOf {groups : List Nat} {i : Nat} :
    i ∈ slotsOf groups ↔ ∃ t ∈ groups, i = t * 2 ∨ i = t * 2 + 1 := by
  simp [slotsOf]

def clearAll (cleared : List Nat) (slots : Slots) : Slots :=
  cleared.foldl (fun slots i => slots.setIfInBounds i none) slots

@[simp] theorem clearAll_size (cleared : List Nat) (slots : Slots) :
    (clearAll cleared slots).size = slots.size := by
  induction cleared generalizing slots with
  | nil => rfl
  | cons i cleared ih => exact (ih _).trans (by simp)

theorem clearAll_of_not_mem {cleared : List Nat} {i : Nat} (h : i ∉ cleared) (slots : Slots) :
    (clearAll cleared slots)[i]? = slots[i]? := by
  induction cleared generalizing slots with
  | nil => rfl
  | cons j cleared ih =>
    simp only [List.mem_cons, not_or] at h
    exact (ih h.2 _).trans (Array.getElem?_setIfInBounds_ne (Ne.symm h.1))

theorem clearAll_of_mem {cleared : List Nat} {i : Nat} (h : i ∈ cleared) (slots : Slots) :
    (clearAll cleared slots)[i]?.join = none := by
  induction cleared generalizing slots with
  | nil => simp at h
  | cons j cleared ih =>
    by_cases hi : i ∈ cleared
    · exact ih hi _
    · obtain rfl : i = j := (List.mem_cons.mp h).resolve_right hi
      rw [clearAll, List.foldl_cons]
      refine (congrArg Option.join (clearAll_of_not_mem hi _)).trans ?_
      by_cases hs : i < slots.size
      · rw [Array.getElem?_setIfInBounds_self_of_lt hs]
        rfl
      · rw [Array.getElem?_eq_none (by simpa using hs)]
        rfl

theorem leads_clears {cleared : List Nat} (pc pos : Nat) (slots : Slots) (trail : List TrailEntry)
    (target : Option Nat) (waiting : List Waiting) (hs : ∀ i ∈ cleared, i < slots.size)
    (hi : ∀ k slot, cleared[k]? = some slot → m.program.insts[pc + k]? = some (.clear slot)) :
    ∃ trail', m.Leads (.running ⟨pc, pos, slots, trail, target, waiting⟩)
        (.running ⟨pc + cleared.length, pos, clearAll cleared slots, trail', target, waiting⟩) ∧
      Config.backtrack (clearAll cleared slots) trail' target waiting =
        Config.backtrack slots trail target waiting := by
  induction cleared generalizing pc slots trail with
  | nil => exact ⟨trail, .refl _, rfl⟩
  | cons i cleared ih =>
    obtain ⟨trail₁, hstep, hback⟩ := Config.step_clear m.mode m.text pos trail target waiting
      (hi 0 i rfl) (hs i List.mem_cons_self)
    obtain ⟨trail', hl, hb⟩ := ih (pc + 1) (slots.setIfInBounds i none) trail₁
      (fun j hj => by simpa using hs j (List.mem_cons_of_mem _ hj)) fun k slot hk => by
        rw [Nat.add_assoc, Nat.add_comm 1 k]
        exact hi (k + 1) slot hk
    refine ⟨trail', (Leads.single hstep).trans ?_, hb.trans hback⟩
    rwa [List.length_cons, Nat.add_comm cleared.length 1, ← Nat.add_assoc]

theorem clearAll_slotsOf {groups : List Nat} {t : Nat} (ht : t ∈ groups) (slots : Slots) :
    (clearAll (slotsOf groups) slots)[t * 2]?.join = none ∧
      (clearAll (slotsOf groups) slots)[t * 2 + 1]?.join = none :=
  ⟨clearAll_of_mem (mem_slotsOf.mpr ⟨t, ht, .inl rfl⟩) _,
    clearAll_of_mem (mem_slotsOf.mpr ⟨t, ht, .inr rfl⟩) _⟩

theorem settled_clearAll (groups : List Nat) (slots : Slots) :
    Settled groups (clearAll (slotsOf groups) slots) := by
  intro t ht
  obtain ⟨hfirst, hstop⟩ := clearAll_slotsOf ht slots
  rw [hfirst, hstop]

/-- With the slots of some groups cleared, the point is shown that has forgotten them. -/
theorem Shows.cleared {p : Point} {slots : Slots} (h : m.Shows p slots) (captures : List Capture) :
    m.Shows (p.forget captures) (clearAll (slotsOf (captures.map Capture.index)) slots) := by
  refine ⟨(clearAll_size _ _).trans h.size, h.pos, fun j hj => ?_, fun j hj => ?_⟩
  all_goals
    by_cases hmem : j ∈ captures.map Capture.index
    all_goals simp only [Point.forget, hmem, if_true, if_false]
  · rw [spanAt_of_stop (clearAll_slotsOf hmem slots).2]
  · have hnot : ∀ i, i = j * 2 ∨ i = j * 2 + 1 → i ∉ slotsOf (captures.map Capture.index) := by
      intro i hi hin
      obtain ⟨t, ht, he⟩ := mem_slotsOf.mp hin
      have htj : t = j := by omega
      exact hmem (htj ▸ ht)
    rw [h.groups j hj]
    exact (spanAt_congr (clearAll_of_not_mem (hnot _ (.inl rfl)) slots)
      (clearAll_of_not_mem (hnot _ (.inr rfl)) slots)).symm
  · simp
  · exact h.spans j hj

theorem unset_forget (captures : List Capture) (p : Point) :
    Unset (captures.map Capture.index) (p.forget captures) := fun t ht => by
  simp only [Point.forget, ht, if_true]

theorem Shows.slotsOf_lt {r : Region} {p : Point} {slots : Slots} (h : m.Shows p slots)
    (hr : r.Fits m.program) : ∀ i ∈ slotsOf r.groups, i < slots.size := by
  intro i hi
  obtain ⟨t, ht, he⟩ := mem_slotsOf.mp hi
  have hlt := h.slot_lt hr (hr.groups t ht).2
  omega

theorem Moves.of_cleared {captures : List Capture} {low high : Nat} {p q : Point} {slots slots' : Slots}
    (h : m.Moves ⟨captures.map Capture.index, low, high⟩ (p.forget captures)
      (clearAll (slotsOf (captures.map Capture.index)) slots) q slots') :
    m.Moves ⟨captures.map Capture.index, low, high⟩ p slots q slots' := by
  refine ⟨h.shows, h.le, fun i hi => ?_, h.settled⟩
  rw [h.kept i hi, clearAll_of_not_mem]
  exact fun hin => hi (.inl (mem_slotsOf.mp hin))

theorem Performs.copy {captures : List Capture} {low high entry exit : Nat}
    {f : Point → List Point}
    (hr : (⟨captures.map Capture.index, low, high⟩ : Region).Fits m.program)
    (hi : ∀ k slot, (slotsOf (captures.map Capture.index))[k]? = some slot →
      m.program.insts[entry + k]? = some (.clear slot))
    (hb : m.Performs ⟨captures.map Capture.index, low, high⟩ (captures.map Capture.index)
      (entry + (slotsOf (captures.map Capture.index)).length) exit f) :
    m.Performs ⟨captures.map Capture.index, low, high⟩ [] entry exit fun p =>
      f (p.forget captures) := by
  intro p slots trail target waiting hp hset _
  obtain ⟨trail', hl, hback⟩ := leads_clears entry p.pos slots trail target waiting (hp.slotsOf_lt hr) hi
  refine .after hl ?_
  rw [← hback]
  refine (hb (p.forget captures) _ trail' target waiting (hp.cleared captures)
    (settled_clearAll _ slots) (unset_forget captures p)).mono fun _ _ hm => hm.of_cleared

/-- The split before something optional: one side goes into it, the other one to its end. -/
def choice (greedy : Bool) (inside exit : Nat) : Inst :=
  if greedy then .split inside exit else .split exit inside

theorem Yields.prefer {r : Region} {entry exit : Nat} {greedy : Bool} {p : Point}
    {taken : List Point} {slots : Slots} {target : Option Nat} {waiting : List Waiting}
    (hi : m.program.insts[entry]? = some (choice greedy (entry + 1) exit)) (hp : m.Shows p slots)
    (hset : Settled r.groups slots)
    (ht : ∀ trail, m.Yields exit target waiting (m.Moves r p slots)
      (Config.backtrack slots trail target waiting)
      (.running ⟨entry + 1, p.pos, slots, trail, target, waiting⟩) taken)
    (trail : List TrailEntry) :
    m.Yields exit target waiting (m.Moves r p slots) (Config.backtrack slots trail target waiting)
      (.running ⟨entry, p.pos, slots, trail, target, waiting⟩)
      (RegexInsight.prefer greedy taken p) := by
  cases greedy with
  | true =>
    refine .after (.single (Config.step_split hi)) ((ht (.resume exit p.pos :: trail)).append ?_)
    rw [Config.backtrack_resume]
    exact .once (.refl _) (hp.moves hset) rfl
  | false =>
    refine .after (.single (Config.step_split hi)) (.next (.refl _) (hp.moves hset) ?_)
    rw [Config.backtrack_resume]
    exact ht trail

theorem Performs.option {r : Region} {unset : List Nat} {entry exit : Nat} {greedy : Bool}
    {f : Point → List Point}
    (hi : m.program.insts[entry]? = some (choice greedy (entry + 1) exit))
    (hb : m.Performs r unset (entry + 1) exit f) :
    m.Performs r unset entry exit fun p => prefer greedy (f p) p :=
  fun p slots trail target waiting hp hset hun =>
    .prefer hi hp hset (fun trail => hb p slots trail target waiting hp hset hun) trail

/-- The code of a loop around the copy between `head + 2` and `check`: the split at `head`, the slot
that keeps where the iteration began, the question whether it moved on, and the way back. -/
structure Loop (m : Machine) (greedy : Bool) (groups : List Nat) (slot high head check exit : Nat) :
    Prop where
  fits : (⟨groups, slot, high⟩ : Region).Fits m.program
  inner : slot + 1 ≤ high
  splits : m.program.insts[head]? = some (choice greedy (head + 1) exit)
  saves : m.program.insts[head + 1]? = some (.save slot)
  checks : m.program.insts[check]? = some (.checkProgress slot)
  jumps : m.program.insts[check + 1]? = some (.jump head)

variable {greedy : Bool} {groups : List Nat} {slot high head check exit : Nat}
  {f : Point → List Point}

theorem flatMap_filter_eq (c : Point → Bool) (g : Point → List Point) (ps : List Point) :
    (ps.filter c).flatMap g = ps.flatMap fun q => if c q then g q else [] := by
  induction ps with
  | nil => rfl
  | cons p ps ih => by_cases h : c p <;> simp [h, ih]

section
variable {p q : Point} {slots slots' : Slots}

theorem Loop.slot_lt (h : m.Loop greedy groups slot high head check exit) (hp : m.Shows p slots) :
    slot < slots.size := by
  have hhigh := h.fits.high
  have hinner := h.inner
  have hsize := hp.size
  dsimp only at hhigh
  omega

theorem Loop.slot_gt (h : m.Loop greedy groups slot high head check exit) {t : Nat}
    (ht : t ≤ m.program.groupCount) : t * 2 + 1 < slot := by
  have hlow := h.fits.low
  dsimp only at hlow
  omega

theorem Loop.shows_kept (h : m.Loop greedy groups slot high head check exit) (hp : m.Shows p slots)
    (value : Option Nat) : m.Shows p (slots.setIfInBounds slot value) := by
  refine ⟨by simpa using hp.size, hp.pos, fun j hj => ?_, hp.spans⟩
  have hlt := h.slot_gt hj
  rw [hp.groups j hj, spanAt_set_ne (by omega) (by omega)]

theorem Loop.settled_kept (h : m.Loop greedy groups slot high head check exit)
    (hset : Settled groups slots) (value : Option Nat) :
    Settled groups (slots.setIfInBounds slot value) := by
  refine hset.set fun t ht => ?_
  have hlt := h.slot_gt (h.fits.groups t ht).2
  omega

/-- The copy leaves the slot of the loop as it is. -/
theorem Loop.slot_kept (h : m.Loop greedy groups slot high head check exit) {value : Option Nat}
    (hp : m.Shows p slots) (hm : m.Moves ⟨groups, slot + 1, high⟩ p
      (slots.setIfInBounds slot value) q slots') : slots'[slot]? = some value := by
  rw [hm.kept, Array.getElem?_setIfInBounds_self_of_lt (h.slot_lt hp)]
  rintro (⟨t, ht, he⟩ | ⟨hl, _⟩)
  · have hlt := h.slot_gt (h.fits.groups t ht).2
    omega
  · exact Nat.not_succ_le_self _ hl

theorem Loop.moves (h : m.Loop greedy groups slot high head check exit) {value : Option Nat}
    (hm : m.Moves ⟨groups, slot + 1, high⟩ p (slots.setIfInBounds slot value) q slots') :
    m.Moves ⟨groups, slot, high⟩ p slots q slots' := by
  have hinner := h.inner
  refine ⟨hm.shows, hm.le, fun i hi => ?_, hm.settled⟩
  have hne : slot ≠ i := fun he => hi (.inr ⟨Nat.le_of_eq he, by dsimp only; omega⟩)
  rw [hm.kept i, Array.getElem?_setIfInBounds_ne hne]
  rintro (hgroups | ⟨hl, hh⟩)
  · exact hi (.inl hgroups)
  · exact hi (.inr ⟨Nat.le_of_succ_le hl, hh⟩)

end

/-- One iteration from the head of a loop. Where it has moved on it is back at the head. -/
theorem Loop.iterate (h : m.Loop greedy groups slot high head check exit)
    (hcopies : m.Performs ⟨groups, slot + 1, high⟩ [] (head + 2) check f) {p : Point}
    {slots : Slots} {target : Option Nat} {waiting : List Waiting} {g : Point → List Point}
    (hp : m.Shows p slots) (hset : Settled groups slots)
    (hg : ∀ q slots' trail', m.Moves ⟨groups, slot, high⟩ p slots q slots' → p.pos < q.pos →
      m.Yields exit target waiting (m.Moves ⟨groups, slot, high⟩ p slots)
        (Config.backtrack slots' trail' target waiting)
        (.running ⟨head, q.pos, slots', trail', target, waiting⟩) (g q))
    (trail : List TrailEntry) :
    m.Yields exit target waiting (m.Moves ⟨groups, slot, high⟩ p slots)
      (Config.backtrack slots trail target waiting)
      (.running ⟨head + 1, p.pos, slots, trail, target, waiting⟩)
      (((f p).filter fun q => q.pos != p.pos).flatMap g) := by
  have hslot := h.slot_lt hp
  have hold : slots[slot]? = some slots[slot] := Array.getElem?_eq_getElem hslot
  refine .after (.single (Config.step_save h.saves hold)) ?_
  rw [← Config.backtrack_write hold, flatMap_filter_eq]
  refine (hcopies p _ _ target waiting (h.shows_kept hp _) (h.settled_kept hset _)
    (by simp [Unset])).bind fun q slots' trail' hm => ?_
  have hstep : Config.step m.program m.mode m.text
      ⟨check, q.pos, slots', trail', target, waiting⟩ = _ :=
    Config.step_continue h.checks (.inr (.inr (.inr ⟨slot, rfl, rfl⟩)))
  -- the slot of the loop still holds where the iteration began
  rw [h.slot_kept hp hm, Option.map_some] at hstep
  by_cases hpos : q.pos = p.pos
  · rw [hpos] at hstep ⊢
    simp only [bne_self_eq_false] at hstep ⊢
    exact .done (.single hstep)
  · have hne : (some p.pos != some q.pos) = true := by simpa using Ne.symm hpos
    have hne' : (q.pos != p.pos) = true := by simpa using hpos
    rw [hne] at hstep
    rw [if_pos hne']
    refine .after ((Leads.single hstep).trans (.single (Config.step_jump h.jumps))) ?_
    exact hg q slots' trail' (h.moves hm) (Nat.lt_of_le_of_ne hm.le (Ne.symm hpos))

theorem Loop.yields (h : m.Loop greedy groups slot high head check exit)
    (hcopies : m.Performs ⟨groups, slot + 1, high⟩ [] (head + 2) check f) (count : Nat) {p : Point}
    {slots : Slots} {trail : List TrailEntry} {target : Option Nat} {waiting : List Waiting}
    (hp : m.Shows p slots) (hset : Settled groups slots) (hc : m.text.size - p.pos ≤ count) :
    m.Yields exit target waiting (m.Moves ⟨groups, slot, high⟩ p slots)
      (Config.backtrack slots trail target waiting)
      (.running ⟨head, p.pos, slots, trail, target, waiting⟩) (star greedy f count p) := by
  induction count generalizing p slots trail with
  | zero =>
    -- at the end of the text no iteration can move on
    have htaken := fun trail => h.iterate hcopies hp hset (fun q slots' _ hm hlt => by
      have hq := hm.shows.pos
      omega : ∀ q slots' trail', _ → _ → m.Yields _ target waiting _ _ _ ((fun _ => []) q)) trail
    simp only [List.flatMap_eq_nil_iff.mpr fun _ _ => rfl] at htaken
    have hstar : star greedy f 0 p = RegexInsight.prefer greedy [] p := by
      cases greedy <;> rfl
    rw [hstar]
    exact .prefer h.splits hp hset htaken trail
  | succ count ih =>
    refine .prefer h.splits hp hset (fun trail => ?_) trail
    refine h.iterate hcopies hp hset (fun q slots' trail' hm hlt => ?_) trail
    have hq := hm.shows.pos
    exact (ih hm.shows hm.settled (by omega)).mono fun _ _ hm' => hm.trans hm'

theorem Performs.loop (h : m.Loop greedy groups slot high head check exit)
    (hcopies : m.Performs ⟨groups, slot + 1, high⟩ [] (head + 2) check f) :
    m.Performs ⟨groups, slot, high⟩ [] head exit fun p =>
      star greedy f (m.text.size - p.pos) p :=
  fun _ _ _ _ _ hp hset _ => h.yields hcopies _ hp hset (Nat.le_refl _)

end Machine
end RegexInsight
