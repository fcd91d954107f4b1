import RegexInsight.Proofs.Runs

/-! Pieces of code and the outcomes that they carry out. A piece may write the slots of some groups and
some loop slots, and no others. Pieces are put together as elements are: one behind the other, as
alternatives, in a group, as iterations, and as the body of a lookaround. -/
namespace RegexInsight

/-- The slots that a piece may write: those of some groups, and the loop slots from `low` up to
`high`. -/
structure Region where
  groups : List Nat
  low : Nat
  high : Nat

namespace Region

def Holds (r : Region) (i : Nat) : Prop :=
  (∃ t ∈ r.groups, i = t * 2 ∨ i = t * 2 + 1) ∨ (r.low ≤ i ∧ i < r.high)

/-- The groups are groups of the program, and the loop slots stand behind all slots of groups. -/
structure Fits (r : Region) (program : Program) : Prop where
  groups : ∀ t ∈ r.groups, 1 ≤ t ∧ t ≤ program.groupCount
  low : (program.groupCount + 1) * 2 ≤ r.low
  high : r.high ≤ program.slotCount
  order : r.low ≤ r.high

/-- One region is a part of another. -/
structure Within (r s : Region) : Prop where
  groups : r.groups ⊆ s.groups
  low : s.low ≤ r.low
  high : r.high ≤ s.high

theorem Within.refl (r : Region) : r.Within r := ⟨List.Subset.refl _, Nat.le_refl _, Nat.le_refl _⟩

theorem Within.holds {r s : Region} (h : r.Within s) {i : Nat} (hi : r.Holds i) : s.Holds i := by
  rcases hi with ⟨t, ht, hi⟩ | ⟨hl, hh⟩
  · exact .inl ⟨t, h.groups ht, hi⟩
  · exact .inr ⟨Nat.le_trans h.low hl, Nat.lt_of_lt_of_le hh h.high⟩

/-- The slots of a group that is none of the region's are not in the region. -/
theorem Fits.not_holds {r : Region} {program : Program} (h : r.Fits program) {i : Nat}
    (hi : i ≤ program.groupCount) (hr : i ∉ r.groups) : ¬ r.Holds (i * 2) ∧ ¬ r.Holds (i * 2 + 1) := by
  have hlow := h.low
  constructor
  all_goals
    rintro (⟨t, ht, he⟩ | ⟨hl, _⟩)
    · have : t = i := by omega
      exact hr (this ▸ ht)
    · omega

end Region

/-- The span of a group as a reference reads it: unset unless both of its slots are set. -/
def spanAt (slots : Slots) (i : Nat) : Option (Nat × Nat) :=
  match slots[i * 2]?, slots[i * 2 + 1]? with
  | some (some first), some (some stop) => some (first, stop)
  | _, _ => none

theorem spanAt_congr {slots slots' : Slots} {i : Nat} (h₁ : slots'[i * 2]? = slots[i * 2]?)
    (h₂ : slots'[i * 2 + 1]? = slots[i * 2 + 1]?) : spanAt slots' i = spanAt slots i := by
  rw [spanAt, spanAt, h₁, h₂]

/-- Both slots of each of these groups are set, or none. -/
def Settled (groups : List Nat) (slots : Slots) : Prop :=
  ∀ t ∈ groups, slots[t * 2]?.join.isSome = slots[t * 2 + 1]?.join.isSome

theorem Settled.subset {groups groups' : List Nat} {slots : Slots} (h : Settled groups slots)
    (hs : groups' ⊆ groups) : Settled groups' slots := fun t ht => h t (hs ht)

def Unset (groups : List Nat) (p : Point) : Prop := ∀ t ∈ groups, p.groups t = none

namespace Machine

variable {m : Machine}

/-- The slots show the point, which lies within the text. -/
structure Shows (m : Machine) (p : Point) (slots : Slots) : Prop where
  size : slots.size = m.program.slotCount
  pos : p.pos ≤ m.text.size
  groups : ∀ i ≤ m.program.groupCount, p.groups i = spanAt slots i
  spans : ∀ i ≤ m.program.groupCount, ∀ first stop, p.groups i = some (first, stop) →
    first ≤ stop ∧ stop ≤ m.text.size

theorem Shows.at {p : Point} {slots : Slots} (h : m.Shows p slots) {pos : Nat}
    (hp : pos ≤ m.text.size) : m.Shows { p with pos := pos } slots :=
  ⟨h.size, hp, h.groups, h.spans⟩

theorem Shows.slot_lt {p : Point} {slots : Slots} (h : m.Shows p slots) {r : Region}
    (hr : r.Fits m.program) {i : Nat} (hi : i ≤ m.program.groupCount) : i * 2 + 1 < slots.size := by
  have hlow := hr.low
  have horder := hr.order
  have hhigh := hr.high
  have hsize := h.size
  omega

theorem Shows.empty {p : Point} {slots : Slots} (h : m.Shows p slots) {groups : List Nat}
    (hs : Settled groups slots) {t : Nat} (ht : t ∈ groups) (hn : t ≤ m.program.groupCount)
    (hu : p.groups t = none) : slots[t * 2]?.join = none ∧ slots[t * 2 + 1]?.join = none := by
  have hspan := (h.groups t hn).symm.trans hu
  have hset := hs t ht
  unfold spanAt at hspan
  rcases h₁ : slots[t * 2]? with _ | _ | first <;> rcases h₂ : slots[t * 2 + 1]? with _ | _ | stop <;>
    simp_all

/-- What a piece may have done between the point `p` and the point `q`. -/
structure Moves (m : Machine) (r : Region) (p : Point) (slots : Slots) (q : Point)
    (slots' : Slots) : Prop where
  shows : m.Shows q slots'
  le : p.pos ≤ q.pos
  kept : ∀ i, ¬ r.Holds i → slots'[i]? = slots[i]?
  settled : Settled r.groups slots'

theorem Shows.moves {r : Region} {p : Point} {slots : Slots} (h : m.Shows p slots)
    (hs : Settled r.groups slots) : m.Moves r p slots p slots :=
  ⟨h, Nat.le_refl _, fun _ _ => rfl, hs⟩

theorem Moves.trans {r : Region} {p q u : Point} {slots slots' slots'' : Slots}
    (h₁ : m.Moves r p slots q slots') (h₂ : m.Moves r q slots' u slots'') :
    m.Moves r p slots u slots'' :=
  ⟨h₂.shows, Nat.le_trans h₁.le h₂.le, fun i hi => (h₂.kept i hi).trans (h₁.kept i hi), h₂.settled⟩

theorem Moves.groups_eq {r : Region} (hr : r.Fits m.program) {p q : Point} {slots slots' : Slots}
    (hp : m.Shows p slots) (h : m.Moves r p slots q slots') {i : Nat}
    (hi : i ≤ m.program.groupCount) (hn : i ∉ r.groups) : q.groups i = p.groups i := by
  obtain ⟨h₁, h₂⟩ := hr.not_holds hi hn
  rw [h.shows.groups i hi, hp.groups i hi, spanAt_congr (h.kept _ h₁) (h.kept _ h₂)]

/-- A region may be taken for a larger one if the groups that are added were settled before. -/
theorem Moves.widen {r s : Region} (hr : r.Fits m.program) (hs : s.Fits m.program)
    (hw : r.Within s) {p q : Point} {slots slots' : Slots} (hset : Settled s.groups slots)
    (h : m.Moves r p slots q slots') : m.Moves s p slots q slots' := by
  refine ⟨h.shows, h.le, fun i hi => h.kept i fun hh => hi (hw.holds hh), fun t ht => ?_⟩
  by_cases hin : t ∈ r.groups
  · exact h.settled t hin
  · obtain ⟨h₁, h₂⟩ := hr.not_holds (hs.groups t ht).2 hin
    rw [h.kept _ h₁, h.kept _ h₂]
    exact hset t ht

/-- The code from `entry` on carries out the outcomes `f` and goes on at `exit`, provided the groups
`unset` are unset when it is entered. -/
def Performs (m : Machine) (r : Region) (unset : List Nat) (entry exit : Nat)
    (f : Point → List Point) : Prop :=
  ∀ p slots trail target waiting, m.Shows p slots → Settled r.groups slots → Unset unset p →
    m.Yields exit target waiting (m.Moves r p slots) (Config.backtrack slots trail target waiting)
      (.running ⟨entry, p.pos, slots, trail, target, waiting⟩) (f p)

theorem Performs.nothing (r : Region) (unset : List Nat) (pc : Nat) :
    m.Performs r unset pc pc fun p => [p] :=
  fun _ _ _ _ _ hp hs _ => .once (.refl _) (hp.moves hs) rfl

theorem Performs.widen {r s : Region} {unset unset' : List Nat} {entry exit : Nat}
    {f : Point → List Point} (hr : r.Fits m.program) (hs : s.Fits m.program) (hw : r.Within s)
    (hu : unset ⊆ unset') (h : m.Performs r unset entry exit f) :
    m.Performs s unset' entry exit f :=
  fun p slots trail target waiting hp hset hun =>
    (h p slots trail target waiting hp (hset.subset hw.groups) fun t ht => hun t (hu ht)).mono
      fun _ _ hm => hm.widen hr hs hw hset

/-- Two pieces one behind the other. The first one leaves unset what the second one needs unset. -/
theorem Performs.seq {r₁ r₂ r : Region} {unset₁ unset₂ unset : List Nat} {entry middle exit : Nat}
    {f g : Point → List Point} (h₁ : m.Performs r₁ unset₁ entry middle f)
    (h₂ : m.Performs r₂ unset₂ middle exit g) (hr₁ : r₁.Fits m.program) (hr₂ : r₂.Fits m.program)
    (hr : r.Fits m.program) (hw₁ : r₁.Within r) (hw₂ : r₂.Within r) (hu₁ : unset₁ ⊆ unset)
    (hu₂ : unset₂ ⊆ unset) (hd : ∀ t ∈ unset₂, t ≤ m.program.groupCount ∧ t ∉ r₁.groups) :
    m.Performs r unset entry exit fun p => (f p).flatMap g := by
  intro p slots trail target waiting hp hset hun
  refine (h₁ p slots trail target waiting hp (hset.subset hw₁.groups)
    fun t ht => hun t (hu₁ ht)).bind fun q slots' trail' hm => ?_
  have hm' := hm.widen hr₁ hr hw₁ hset
  refine (h₂ q slots' trail' target waiting hm.shows (hm'.settled.subset hw₂.groups)
    fun t ht => ?_).mono fun u slots'' hm₂ => hm'.trans (hm₂.widen hr₂ hr hw₂ hm'.settled)
  rw [hm.groups_eq hr₁ hp (hd t ht).1 (hd t ht).2]
  exact hun t (hu₂ ht)

theorem Performs.split {r : Region} {unset : List Nat} {entry first second exit : Nat}
    {f g : Point → List Point} (hi : m.program.insts[entry]? = some (.split first second))
    (h₁ : m.Performs r unset first exit f) (h₂ : m.Performs r unset second exit g) :
    m.Performs r unset entry exit fun p => f p ++ g p := by
  intro p slots trail target waiting hp hset hun
  refine .after (.single (Config.step_split hi)) ?_
  refine (h₁ p slots (.resume second p.pos :: trail) target waiting hp hset hun).append ?_
  rw [Config.backtrack_resume]
  exact h₂ p slots trail target waiting hp hset hun

theorem Performs.jump {r : Region} {unset : List Nat} {entry exit : Nat}
    (hi : m.program.insts[entry]? = some (.jump exit)) :
    m.Performs r unset entry exit fun p => [p] :=
  fun _ _ _ _ _ hp hs _ => .once (.single (Config.step_jump hi)) (hp.moves hs) rfl

end Machine
end RegexInsight
