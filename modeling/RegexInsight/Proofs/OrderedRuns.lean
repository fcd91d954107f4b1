import RegexInsight.Proofs.PieceLaws

/-! What the slots hold during an attempt. Whatever state an attempt comes to, a group whose two slots are
set has a span that goes forward. That is a law of pieces: while a piece runs it holds of every state,
provided it holds of what the machine goes on with when the piece is left or fails. -/
namespace RegexInsight

/-- The spans in the slots go forward and end within `bound`. -/
def Ordered (count bound : Nat) (slots : Slots) : Prop :=
  ∀ i ≤ count, ∀ first stop, spanAt slots i = some (first, stop) → first ≤ stop ∧ stop ≤ bound

theorem spanAt_of_clear {slots : Slots} {i j : Nat} {span : Nat × Nat}
    (h : spanAt (slots.setIfInBounds j none) i = some span) : spanAt slots i = some span := by
  have hget : ∀ k : Nat, (slots.setIfInBounds j none)[k]?.join.isSome →
      (slots.setIfInBounds j none)[k]? = slots[k]? := by
    intro k hk
    by_cases hjk : j = k
    · subst hjk
      rw [Array.getElem?_setIfInBounds_self] at hk
      split at hk <;> cases hk
    · exact Array.getElem?_setIfInBounds_ne hjk
  have hset : (slots.setIfInBounds j none)[i * 2]?.join.isSome ∧
      (slots.setIfInBounds j none)[i * 2 + 1]?.join.isSome := by
    unfold spanAt at h
    split at h <;> simp_all
  rwa [spanAt_congr (hget _ hset.1) (hget _ hset.2)] at h

theorem Ordered.clear {count bound : Nat} {slots : Slots} (h : Ordered count bound slots) (j : Nat) :
    Ordered count bound (slots.setIfInBounds j none) :=
  fun i hi first stop hspan => h i hi first stop (spanAt_of_clear hspan)

theorem Config.referenceLength?_le {mode : Mode} {text : Array Char} {slots : Slots}
    {group pos length : Nat} (hpos : pos ≤ text.size)
    (h : referenceLength? mode text slots group pos = some (some length)) :
    pos + length ≤ text.size := by
  unfold referenceLength? at h
  split at h
  · split at h
    · cases h
      exact hpos
    · split at h
      · cases h
      · rename_i hfits
        obtain ⟨same, -, hsame⟩ := Option.map_eq_some_iff.mp h
        split at hsame
        · cases hsame
          exact Nat.le_of_not_lt hfits
        · cases hsame
  · cases h
    exact hpos
  · cases h

/-- A reference is to one of so many groups. -/
def Inst.RefersWithin (count : Nat) : Inst → Prop
  | .backreference group => group ≤ count
  | _ => True

namespace Machine

variable {m : Machine} {start : Nat}

theorem Shows.ordered {p : Point} {slots : Slots} (h : m.Shows p slots) :
    Ordered m.program.groupCount m.text.size slots :=
  fun i hi first stop hspan => h.spans i hi first stop ((h.groups i hi).trans hspan)

/-- What an attempt at `start` may come to: states with ordered spans, in which a reference reads the span
of a group, and matches whose slots show a point at or behind the start. -/
def Fine (m : Machine) (start : Nat) : Outcome → Prop
  | .running c => Ordered m.program.groupCount m.text.size c.slots ∧
      ∀ group, m.program.insts[c.pc]? = some (.backreference group) → group ≤ m.program.groupCount
  | .matched stop slots => ∃ p, p.pos = stop ∧ start ≤ stop ∧ m.Shows p slots ∧
      slots[0]? = some (some start) ∧ Settled (List.range' 1 m.program.groupCount) slots
  | .failed _ | .stuck => True

/-- Whatever the machine comes to from `o` on is fine. -/
def Orderly (m : Machine) (start : Nat) (o : Outcome) : Prop := ∀ o', m.Leads o o' → m.Fine start o'

theorem Orderly.step {c : Config} {inst : Inst} (hi : m.program.insts[c.pc]? = some inst)
    (hg : inst.RefersWithin m.program.groupCount)
    (hc : Ordered m.program.groupCount m.text.size c.slots)
    (h : m.Orderly start (c.step m.program m.mode m.text)) : m.Orderly start (.running c) := by
  intro o hl
  cases hl with
  | refl =>
    refine ⟨hc, fun group hgroup => ?_⟩
    obtain rfl : inst = .backreference group := Option.some.inj (hi.symm.trans hgroup)
    exact hg
  | step hl => exact h o hl

theorem Orderly.of_fine {o : Outcome} (h : m.Fine start o) (ho : ∀ c, o ≠ .running c) :
    m.Orderly start o := by
  intro o' hl
  cases hl with
  | refl => exact h
  | step => exact absurd rfl (ho _)

theorem Orderly.stuck : m.Orderly start .stuck := .of_fine trivial fun _ => Outcome.noConfusion

/-- The code from `entry` on, entered at the point `p`, keeps what the machine comes to fine up to where
it is left at `exit` or fails, provided what comes then is fine. -/
def KeepsAt (m : Machine) (start : Nat) (r : Region) (entry exit : Nat) (p : Point) (slots : Slots) :
    Prop :=
  ∀ trail target waiting, m.Orderly start (Config.backtrack slots trail target waiting) →
    (∀ q slots' trail', m.Moves r p slots q slots' →
      m.Orderly start (Config.backtrack slots' trail' target waiting) →
      m.Orderly start (.running ⟨exit, q.pos, slots', trail', target, waiting⟩)) →
    m.Orderly start (.running ⟨entry, p.pos, slots, trail, target, waiting⟩)

def Keeps (m : Machine) (start : Nat) (r : Region) (unset : List Nat) (entry exit : Nat) : Prop :=
  ∀ p slots, m.Shows p slots → Settled r.groups slots → Unset unset p →
    m.KeepsAt start r entry exit p slots

section
variable {r : Region} {entry exit : Nat} {p : Point} {slots : Slots}

theorem KeepsAt.nothing (hp : m.Shows p slots) (hset : Settled r.groups slots)
    (pc : Nat) : m.KeepsAt start r pc pc p slots :=
  fun trail _ _ hback hexit => hexit p slots trail (hp.moves hset) hback

theorem KeepsAt.split {first second : Nat} (hi : m.program.insts[entry]? = some (.split first second))
    (hp : m.Shows p slots) (h₁ : m.KeepsAt start r first exit p slots)
    (h₂ : m.KeepsAt start r second exit p slots) : m.KeepsAt start r entry exit p slots := by
  intro trail target waiting hback hexit
  refine .step hi trivial hp.ordered ?_
  rw [Config.step_split hi]
  refine h₁ _ target waiting ?_ hexit
  rw [Config.backtrack_resume]
  exact h₂ trail target waiting hback hexit

theorem KeepsAt.choice {greedy : Bool}
    (hi : m.program.insts[entry]? = some (choice greedy (entry + 1) exit))
    (hp : m.Shows p slots) (hset : Settled r.groups slots)
    (h : m.KeepsAt start r (entry + 1) exit p slots) : m.KeepsAt start r entry exit p slots := by
  cases greedy with
  | true => exact .split hi hp h (.nothing hp hset exit)
  | false => exact .split hi hp (.nothing hp hset exit) h

end

section
variable {r s : Region} {unset unset' : List Nat} {pc entry exit : Nat}

theorem Keeps.nothing (r : Region) (unset : List Nat) (pc : Nat) : m.Keeps start r unset pc pc :=
  fun _ _ hp hset _ => .nothing hp hset pc

theorem Keeps.widen (hr : r.Fits m.program) (hs : s.Fits m.program) (hw : r.Within s)
    (hu : unset ⊆ unset') (h : m.Keeps start r unset entry exit) :
    m.Keeps start s unset' entry exit :=
  fun p slots hp hset hun trail target waiting hback hexit =>
    h p slots hp (hset.subset hw.groups) (fun t ht => hun t (hu ht)) trail target waiting hback
      fun q slots' trail' hm => hexit q slots' trail' (hm.widen hr hs hw hset)

theorem Keeps.seq {r₁ r₂ : Region} {unset₁ unset₂ : List Nat} {middle : Nat}
    (h₁ : m.Keeps start r₁ unset₁ entry middle) (h₂ : m.Keeps start r₂ unset₂ middle exit)
    (hr₁ : r₁.Fits m.program) (hr₂ : r₂.Fits m.program) (hr : r.Fits m.program) (hw₁ : r₁.Within r)
    (hw₂ : r₂.Within r) (hu₁ : unset₁ ⊆ unset) (hu₂ : unset₂ ⊆ unset)
    (hd : ∀ t ∈ unset₂, t ≤ m.program.groupCount ∧ t ∉ r₁.groups) :
    m.Keeps start r unset entry exit := by
  intro p slots hp hset hun trail target waiting hback hexit
  refine h₁ p slots hp (hset.subset hw₁.groups) (fun t ht => hun t (hu₁ ht)) trail target waiting hback
    fun q slots' trail' hm hback' => ?_
  have hm' := hm.widen hr₁ hr hw₁ hset
  refine h₂ q slots' hm.shows (hm'.settled.subset hw₂.groups) (fun t ht => ?_) trail' target waiting
    hback' fun u slots'' trail'' hm₂ =>
      hexit u slots'' trail''
        (hm'.trans (hm₂.widen hr₂ hr hw₂ hm'.settled))
  rw [hm.groups_eq hr₁ hp (hd t ht).1 (hd t ht).2]
  exact hun t (hu₂ ht)

theorem Keeps.split {first second : Nat} (hi : m.program.insts[entry]? = some (.split first second))
    (h₁ : m.Keeps start r unset first exit) (h₂ : m.Keeps start r unset second exit) :
    m.Keeps start r unset entry exit :=
  fun p slots hp hset hun => .split hi hp (h₁ p slots hp hset hun) (h₂ p slots hp hset hun)

theorem Keeps.jump (hi : m.program.insts[entry]? = some (.jump exit)) :
    m.Keeps start r unset entry exit := by
  intro p slots hp hset _ trail target waiting hback hexit
  refine .step hi trivial hp.ordered ?_
  rw [Config.step_jump hi]
  exact hexit p slots trail (hp.moves hset) hback

theorem Keeps.consume {inst : Inst} {test : Char → Bool} (hi : m.program.insts[pc]? = some inst)
    (ht : (∃ value, inst = .char value ∧ test = (m.mode.sameChar · value)) ∨
      (∃ set negate, inst = .set set negate ∧ test = fun x => set.holds m.mode x != negate) ∨
      ∃ items negate, inst = .bracket items negate ∧
        test = fun x => m.mode.anyItem items x != negate) :
    m.Keeps start r unset pc (pc + 1) := by
  intro p slots hp hset _ trail target waiting hback hexit
  have hg : inst.RefersWithin m.program.groupCount := by
    rcases ht with ⟨_, rfl, _⟩ | ⟨_, _, rfl, _⟩ | ⟨_, _, rfl, _⟩ <;> trivial
  refine .step hi hg hp.ordered ?_
  rw [Config.step_consume hi ht]
  split
  · rename_i htest
    have hlt : p.pos < m.text.size := by
      by_contra hge
      simp [Array.getElem?_eq_none (Nat.le_of_not_lt hge)] at htest
    exact hexit { p with pos := p.pos + 1 } slots trail
      ⟨hp.at hlt, Nat.le_succ _, fun _ _ => rfl, hset⟩ hback
  · exact hback

theorem Keeps.continue {inst : Inst} (hi : m.program.insts[pc]? = some inst)
    (hg : inst.RefersWithin m.program.groupCount) (h : ∀ pos slots trail target waiting,
      ∃ test, Config.step m.program m.mode m.text ⟨pc, pos, slots, trail, target, waiting⟩ =
        Config.continueIf test ⟨pc, pos, slots, trail, target, waiting⟩) :
    m.Keeps start r unset pc (pc + 1) := by
  intro p slots hp hset _ trail target waiting hback hexit
  refine .step hi hg hp.ordered ?_
  obtain ⟨test, htest⟩ := h p.pos slots trail target waiting
  rw [htest]
  match test with
  | some true => exact hexit p slots trail (hp.moves hset) hback
  | some false => exact hback
  | none => exact .stuck

theorem Keeps.refer {group : Nat} (hg : group ≤ m.program.groupCount)
    (hi : m.program.insts[pc]? = some (.backreference group)) :
    m.Keeps start r unset pc (pc + 1) := by
  intro p slots hp hset _ trail target waiting hback hexit
  refine .step hi hg hp.ordered ?_
  match hl : Config.referenceLength? m.mode m.text slots group p.pos with
  | some (some length) =>
    rw [Config.step_refer hi hl]
    have hend := Config.referenceLength?_le hp.pos hl
    exact hexit { p with pos := p.pos + length } slots trail
      ⟨hp.at hend, Nat.le_add_right _ _, fun _ _ => rfl, hset⟩ hback
  | some none =>
    rw [Config.step_refer_fails hi hl]
    exact hback
  | none =>
    simp only [Config.step, hi, hl]
    exact .stuck

end

section
variable {groups : List Nat} {low high i entry exit : Nat}

theorem Keeps.group {middle : Nat} (hr : (⟨i :: groups, low, high⟩ : Region).Fits m.program)
    (hn : i ∉ groups) (hopen : m.program.insts[entry]? = some (.save (i * 2)))
    (hclose : m.program.insts[middle]? = some (.save (i * 2 + 1)))
    (hb : m.Keeps start ⟨groups, low, high⟩ groups (entry + 1) middle) :
    m.Keeps start ⟨i :: groups, low, high⟩ (i :: groups) entry (middle + 1) := by
  intro p slots hp hset hun trail target waiting hback hexit
  have hi := (hr.groups i List.mem_cons_self).2
  have hsize := hp.slot_lt hr hi
  have hold : slots[i * 2]? = some slots[i * 2] := Array.getElem?_eq_getElem _
  obtain ⟨hshows, hsettled⟩ := hp.opened hi hn hset (hun i List.mem_cons_self)
  refine .step hopen trivial hp.ordered ?_
  rw [Config.step_save hopen hold]
  refine hb (p.setGroup i none) _ hshows hsettled (hun.opened hn) _ target waiting ?_
    fun q slots' trail' hm hback' => ?_
  · rwa [Config.backtrack_write hold]
  · have hsize' := hm.shows.slot_lt hr hi
    have hold' : slots'[i * 2 + 1]? = some slots'[i * 2 + 1] := Array.getElem?_eq_getElem _
    refine .step hclose trivial hm.shows.ordered ?_
    rw [Config.step_save hclose hold']
    refine hexit (q.setGroup i (some (p.pos, q.pos))) _ _ (hm.closed hr hn hp) ?_
    rwa [Config.backtrack_write hold']

theorem Orderly.clears {cleared : List Nat} (pc pos : Nat) (slots : Slots) (trail : List TrailEntry)
    (target : Option Nat) (waiting : List Waiting) (hs : ∀ i ∈ cleared, i < slots.size)
    (hi : ∀ k slot, cleared[k]? = some slot → m.program.insts[pc + k]? = some (.clear slot))
    (ho : Ordered m.program.groupCount m.text.size slots)
    (h : ∀ trail', Config.backtrack (clearAll cleared slots) trail' target waiting =
      Config.backtrack slots trail target waiting → m.Orderly start
        (.running ⟨pc + cleared.length, pos, clearAll cleared slots, trail', target, waiting⟩)) :
    m.Orderly start (.running ⟨pc, pos, slots, trail, target, waiting⟩) := by
  induction cleared generalizing pc slots trail with
  | nil => exact h trail rfl
  | cons i cleared ih =>
    have hinst : m.program.insts[pc]? = some (.clear i) := hi 0 i rfl
    obtain ⟨trail₁, hstep, hback⟩ := Config.step_clear m.mode m.text pos trail target waiting
      hinst (hs i List.mem_cons_self)
    refine .step hinst trivial ho ?_
    rw [hstep]
    refine ih (pc + 1) (slots.setIfInBounds i none) trail₁
      (fun j hj => by simpa using hs j (List.mem_cons_of_mem _ hj)) (fun k slot hk => ?_) (ho.clear i)
      fun trail' hback' => ?_
    · rw [Nat.add_assoc, Nat.add_comm 1 k]
      exact hi (k + 1) slot hk
    · have hrest := h trail' (hback'.trans hback)
      rwa [List.length_cons, Nat.add_comm cleared.length 1, ← Nat.add_assoc] at hrest

theorem Keeps.copy {captures : List Capture}
    (hr : (⟨captures.map Capture.index, low, high⟩ : Region).Fits m.program)
    (hi : ∀ k slot, (slotsOf (captures.map Capture.index))[k]? = some slot →
      m.program.insts[entry + k]? = some (.clear slot))
    (hb : m.Keeps start ⟨captures.map Capture.index, low, high⟩ (captures.map Capture.index)
      (entry + (slotsOf (captures.map Capture.index)).length) exit) :
    m.Keeps start ⟨captures.map Capture.index, low, high⟩ [] entry exit := by
  intro p slots hp hset _ trail target waiting hback hexit
  refine .clears entry p.pos slots trail target waiting (hp.slotsOf_lt hr) hi hp.ordered
    fun trail' hback' => ?_
  refine hb (p.forget captures) _ (hp.cleared captures) (settled_clearAll _ slots)
    (unset_forget captures p) trail' target waiting (hback' ▸ hback)
    fun q slots' trail'' hm => hexit q slots' trail'' hm.of_cleared

theorem Keeps.option {r : Region} {unset : List Nat} {greedy : Bool}
    (hi : m.program.insts[entry]? = some (choice greedy (entry + 1) exit))
    (hb : m.Keeps start r unset (entry + 1) exit) : m.Keeps start r unset entry exit :=
  fun p slots hp hset hun => .choice hi hp hset (hb p slots hp hset hun)

section
variable {greedy : Bool} {slot head check : Nat}

/-- One iteration of a loop. Where it has moved on it is back at the head. -/
theorem Loop.keepsAt (h : m.Loop greedy groups slot high head check exit)
    (hcopies : m.Keeps start ⟨groups, slot + 1, high⟩ [] (head + 2) check) {p : Point} {slots : Slots}
    (hp : m.Shows p slots) (hset : Settled groups slots)
    (hnext : ∀ q slots', m.Moves ⟨groups, slot, high⟩ p slots q slots' →
      p.pos < q.pos → m.KeepsAt start ⟨groups, slot, high⟩ head exit q slots') :
    m.KeepsAt start ⟨groups, slot, high⟩ (head + 1) exit p slots := by
  intro trail target waiting hback hexit
  have hslot := h.slot_lt hp
  have hold : slots[slot]? = some slots[slot] := Array.getElem?_eq_getElem hslot
  refine .step h.saves trivial hp.ordered ?_
  rw [Config.step_save h.saves hold]
  refine hcopies p _ (h.shows_kept hp _) (h.settled_kept hset _) (by simp [Unset]) _ target waiting ?_
    fun q slots' trail' hm hback' => .step h.checks trivial hm.shows.ordered ?_
  · rwa [Config.backtrack_write hold]
  · rw [Config.step_continue h.checks (.inr (.inr (.inr ⟨slot, rfl, rfl⟩))), h.slot_kept hp hm,
      Option.map_some]
    by_cases hpos : q.pos = p.pos
    · rw [hpos, bne_self_eq_false]
      exact hback'
    · have hne : (some p.pos != some q.pos) = true := by simpa using Ne.symm hpos
      rw [hne]
      refine .step h.jumps trivial hm.shows.ordered ?_
      rw [Config.step_jump h.jumps]
      exact hnext q slots' (h.moves hm) (Nat.lt_of_le_of_ne hm.le (Ne.symm hpos)) trail' target waiting
        hback' fun u slots'' trail'' hm' => hexit u slots'' trail'' ((h.moves hm).trans hm')

/-- By induction on how far the loop may still move on. -/
theorem Keeps.loop (h : m.Loop greedy groups slot high head check exit)
    (hcopies : m.Keeps start ⟨groups, slot + 1, high⟩ [] (head + 2) check) :
    m.Keeps start ⟨groups, slot, high⟩ [] head exit := by
  intro p slots hp hset _
  induction hleft : m.text.size - p.pos using Nat.strongRecOn
    generalizing p slots with
  | ind left ih =>
    refine .choice h.splits hp hset (h.keepsAt hcopies hp hset fun q slots' hm hlt => ?_)
    have hpos := hm.shows.pos
    exact ih (m.text.size - q.pos) (by omega) q slots' hm.shows hm.settled
      (by simp [Unset]) rfl

end
end

section
variable {r : Region} {groups : List Nat} {entry stop : Nat} {negate : Bool} {p : Point} {slots : Slots}
  {trail : List TrailEntry} {target : Option Nat} {waiting : List Waiting}

/-- The body of a lookaround: where it is left it is accepted, or sent back. -/
theorem Keeps.body (ha : m.program.insts[stop]? = some .accept)
    (hb : m.Keeps start r groups (entry + 1) stop) (hp : m.Shows p slots)
    (hset : Settled r.groups slots) (hun : Unset groups p)
    (hmissed : m.Orderly start (Config.backtrack slots [] target waiting))
    (hfound : ∀ q slots', m.Moves r p slots q slots' →
      m.Orderly start (Config.succeed q.pos slots' waiting)) :
    m.Orderly start (.running ⟨entry + 1, p.pos, slots, [], target, waiting⟩) := by
  refine hb p slots hp hset hun [] target waiting hmissed fun q slots' trail' hm hback => ?_
  refine .step ha trivial hm.shows.ordered ?_
  rw [Config.step_accept ha]
  split
  · exact hfound q slots' hm
  · exact hback

variable (hp : m.Shows p slots) (hset : Settled r.groups slots)
  (hback : m.Orderly start (Config.backtrack slots trail target waiting))
  (hexit : ∀ q slots' trail', m.Moves r p slots q slots' →
    m.Orderly start (Config.backtrack slots' trail' target waiting) →
    m.Orderly start (.running ⟨stop, q.pos, slots', trail', target, waiting⟩))
include hp hback hexit

/-- The run that has waited goes on, or fails, with what the body has found. -/
theorem Orderly.succeed (hr : r.Fits m.program) (behind : Bool) (first : Nat) {q : Point}
    {slots' : Slots} (hm : m.Moves r { p with pos := first } slots q slots') :
    m.Orderly start (Config.succeed q.pos slots'
      (⟨entry, behind, negate, stop, p.pos, first, slots, trail, target⟩ :: waiting)) := by
  cases negate with
  | true => exact hback
  | false =>
    obtain ⟨trail', hnext, hback'⟩ := hp.merged hr hm.shows hm.kept entry stop
      p.pos first behind trail target waiting
    rw [hnext]
    refine hexit { p with groups := q.groups } slots' trail'
      ⟨hm.shows.at hp.pos, Nat.le_refl _, hm.kept, hm.settled⟩ ?_
    rwa [hback']

include hset

/-- And so it does if the body is not found. -/
theorem Orderly.missed (behind : Bool) (first : Nat) : m.Orderly start (Config.missed
    ⟨entry, behind, negate, stop, p.pos, first, slots, trail, target⟩ waiting) := by
  cases negate with
  | true => exact hexit p slots trail (hp.moves hset) hback
  | false => exact hback

end

section
variable {r : Region} {groups : List Nat} {entry stop : Nat} {negate : Bool}

theorem Keeps.ahead (hr : r.Fits m.program)
    (hi : m.program.insts[entry]? = some (.look false negate (stop + 1)))
    (ha : m.program.insts[stop]? = some .accept) (hb : m.Keeps start r groups (entry + 1) stop) :
    m.Keeps start r groups entry (stop + 1) := by
  intro p slots hp hset hun trail target waiting hback hexit
  refine .step hi trivial hp.ordered ?_
  rw [Config.step_look hi]
  exact hb.body ha hp hset hun (.missed hp hset hback hexit false p.pos) fun q slots' hm =>
    .succeed hp hback hexit hr false p.pos hm

/-- The body of a lookbehind is tried from one start after the other, downwards. -/
theorem Keeps.behind (hr : r.Fits m.program)
    (hi : m.program.insts[entry]? = some (.look true negate (stop + 1)))
    (ha : m.program.insts[stop]? = some .accept) (hb : m.Keeps start r groups (entry + 1) stop) :
    m.Keeps start r groups entry (stop + 1) := by
  intro p slots hp hset hun trail target waiting hback hexit
  have hfrom : ∀ first ≤ p.pos, m.Orderly start (.running ⟨entry + 1, first, slots, [], some p.pos,
      ⟨entry + 1, true, negate, stop + 1, p.pos, first, slots, trail, target⟩ :: waiting⟩) := by
    intro first hfirst
    have hstart := hp.at (Nat.le_trans hfirst hp.pos)
    induction first with
    | zero =>
      exact hb.body ha hstart hset hun (.missed hp hset hback hexit true 0) fun q slots' hm =>
        .succeed hp hback hexit hr true 0 hm
    | succ first ih =>
      have hearlier := Nat.le_of_succ_le hfirst
      exact hb.body ha hstart hset hun (ih hearlier (hp.at (Nat.le_trans hearlier hp.pos)))
        fun q slots' hm => .succeed hp hback hexit hr true (first + 1) hm
  refine .step hi trivial hp.ordered ?_
  rw [Config.step_look hi]
  exact hfrom p.pos (Nat.le_refl _)

end

/-- The law that a piece keeps what the machine comes to fine, whatever its outcomes are. -/
def keeps (m : Machine) (start : Nat) : m.Law where
  Holds r unset entry exit _ := m.Keeps start r unset entry exit
  nothing := .nothing
  widen := .widen
  seq := .seq
  split := .split
  jump := .jump
  consume := .consume
  assertStart hi := .continue hi trivial fun _ _ _ _ _ => ⟨_, Config.step_continue hi (.inl ⟨rfl, rfl⟩)⟩
  assertEnd hi := .continue hi trivial fun _ _ _ _ _ => ⟨_, Config.step_continue hi (.inr (.inl ⟨rfl, rfl⟩))⟩
  wordBoundary hi := .continue hi trivial fun _ _ _ _ _ =>
    ⟨_, Config.step_continue hi (.inr (.inr (.inl ⟨_, rfl, rfl⟩)))⟩
  refer _ hg _ hi := .refer hg hi
  group := .group
  copy := .copy
  option := .option
  loop := .loop
  ahead := .ahead
  behind := .behind

end Machine
end RegexInsight
