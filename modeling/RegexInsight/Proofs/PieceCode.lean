import RegexInsight.Proofs.Layout
import RegexInsight.Proofs.PieceLaws

/-! Pieces as they are written. A program that holds some code carries what was written between two
points of its writing, and the region of that piece is read off from those points. -/
namespace RegexInsight
namespace Machine

variable {m : Machine}

/-- The program begins with the code, and has all of its slots. -/
structure Has (m : Machine) (code : Code) : Prop where
  insts : code.insts.toList <+: m.program.insts.toList
  slots : code.slots ≤ m.program.slotCount

theorem Has.of_grows {before after : Code} (h : m.Has after) (hg : before.Grows after) :
    m.Has before := ⟨hg.insts.trans h.insts, Nat.le_trans hg.slots h.slots⟩

theorem Has.inst {inst : Inst} {code : Code} (h : m.Has (code.push inst)) :
    m.program.insts[code.pc]? = some inst := by
  obtain ⟨rest, hrest⟩ := h.insts
  rw [← Array.getElem?_toList, ← hrest]
  simp [Code.push, Code.pc]

theorem Has.of_enterLoop {greedy : Bool} {size : Nat} {code : Code}
    (h : m.Has (code.enterLoop greedy size)) :
    m.Has ((code.pushSplit greedy (code.pc + size + 4)).push (.save code.slots)) :=
  ⟨h.insts, Nat.le_of_succ_le h.slots⟩

theorem Has.clears {slots : List Nat} {code : Code} (h : m.Has (code.pushClears slots)) (k slot : Nat)
    (hk : slots[k]? = some slot) : m.program.insts[code.pc + k]? = some (.clear slot) := by
  induction slots generalizing code k with
  | nil => simp at hk
  | cons first slots ih =>
    rw [Code.pushClears_cons] at h
    cases k with
    | zero =>
      cases hk
      exact (h.of_grows (Code.pushClears_grows _ _)).inst
    | succ k =>
      have hnext := ih h k hk
      rwa [Code.push_pc, Nat.add_assoc, Nat.add_comm 1 k] at hnext

end Machine

/-- The slots that a piece may write that captures these groups. -/
def Code.region (captures : List Capture) (before after : Code) : Region :=
  ⟨captures.map Capture.index, before.slots, after.slots⟩

namespace Machine

variable {m : Machine}

/-- The machine carries the code of a piece that captures these groups: they are different groups of
the program, and the loop slots of the piece stand behind the slots of all groups. -/
structure Carries (m : Machine) (captures : List Capture) (before after : Code) : Prop where
  has : m.Has after
  grows : before.Grows after
  low : (m.program.groupCount + 1) * 2 ≤ before.slots
  groups : ∀ c ∈ captures, 1 ≤ c.index ∧ c.index ≤ m.program.groupCount
  distinct : (captures.map Capture.index).Nodup

/-- The law holds of the piece that is written between `before` and `after`. -/
def Law.Does (L : m.Law) (captures : List Capture) (before after : Code) (f : Point → List Point) :
    Prop :=
  L.Holds (Code.region captures before after) (captures.map Capture.index) before.pc after.pc f

section
variable {L : m.Law} {captures captures' : List Capture} {before before' middle after after' : Code}
  {f g : Point → List Point}

theorem Carries.fits (h : m.Carries captures before after) :
    (Code.region captures before after).Fits m.program := by
  refine ⟨fun t ht => ?_, h.low, h.has.slots, h.grows.slots⟩
  obtain ⟨c, hc, rfl⟩ := List.mem_map.mp ht
  exact h.groups c hc

theorem Carries.part (h : m.Carries captures before after) (hc : captures'.Sublist captures)
    (h₁ : before.Grows before') (h₂ : before'.Grows after') (h₃ : after'.Grows after) :
    m.Carries captures' before' after' :=
  ⟨h.has.of_grows h₃, h₂, Nat.le_trans h.low h₁.slots, fun c hm => h.groups c (hc.subset hm),
    h.distinct.sublist (hc.map _)⟩

theorem region_within (hc : captures' ⊆ captures) (h₁ : before.Grows before')
    (h₃ : after'.Grows after) :
    (Code.region captures' before' after').Within (Code.region captures before after) :=
  ⟨List.map_subset _ hc, h₁.slots, h₃.slots⟩

theorem Law.Does.nothing (captures : List Capture) (code : Code) :
    L.Does captures code code fun p => [p] := L.nothing _ _ _

theorem Law.Does.seq (h : m.Carries (captures ++ captures') before after) (h₁ : before.Grows middle)
    (h₂ : middle.Grows after) (hf : L.Does captures before middle f)
    (hg : L.Does captures' middle after g) :
    L.Does (captures ++ captures') before after fun p => (f p).flatMap g := by
  have hleft := List.sublist_append_left captures captures'
  have hright := List.sublist_append_right captures captures'
  have hdistinct := h.distinct
  rw [List.map_append, List.nodup_append] at hdistinct
  refine L.seq hf hg (h.part hleft (.refl _) h₁ h₂).fits (h.part hright h₁ h₂ (.refl _)).fits
    h.fits (region_within hleft.subset (.refl _) h₂) (region_within hright.subset h₁ (.refl _))
    (List.map_subset _ hleft.subset) (List.map_subset _ hright.subset) fun t ht => ?_
  obtain ⟨c, hc, rfl⟩ := List.mem_map.mp ht
  exact ⟨(h.groups c (hright.subset hc)).2, fun hin => hdistinct.2.2 _ hin _ ht rfl⟩

theorem Law.Does.between {first last : Inst} (h : m.Has (middle.push last))
    (h₁ : (before.push first).Grows middle) (hf : L.Does captures (before.push first) middle f) :
    m.program.insts[before.pc]? = some first ∧ m.program.insts[middle.pc]? = some last ∧
      L.Holds (Code.region captures before (middle.push last)) (captures.map Capture.index)
        (before.pc + 1) middle.pc f := by
  have hfirst : m.Has (before.push first) := h.of_grows (h₁.trans (Code.push_grows _ _))
  rw [Law.Does, Code.push_pc] at hf
  exact ⟨hfirst.inst, h.inst, hf⟩

/-- An alternative that others follow: the split before it leads to them, and the jump behind it to
the end of all. -/
theorem Law.Does.choice {next stop : Nat} (h : m.Carries (captures ++ captures') before after)
    (hnext : middle.pc + 1 = next) (hstop : after.pc = stop)
    (h₁ : (before.pushSplit true next).Grows middle) (h₂ : (middle.push (.jump stop)).Grows after)
    (hf : L.Does captures (before.pushSplit true next) middle f)
    (hg : L.Does captures' (middle.push (.jump stop)) after g) :
    L.Does (captures ++ captures') before after fun p => f p ++ g p := by
  have hleft := List.sublist_append_left captures captures'
  have hright := List.sublist_append_right captures captures'
  have hopened := Code.pushSplit_grows true next before
  have hjumped := Code.push_grows (.jump stop) middle
  obtain ⟨hsplit, hjump, hfirst⟩ := Law.Does.between (h.has.of_grows h₂) h₁ hf
  have hin := h.part hleft hopened h₁ (hjumped.trans h₂)
  have hout := h.part hright (hopened.trans (h₁.trans hjumped)) h₂ (.refl _)
  have hwithin := region_within hleft.subset hopened (hjumped.trans h₂)
  have hfirst : L.Holds (Code.region (captures ++ captures') before after)
      ((captures ++ captures').map Capture.index) (before.pc + 1) after.pc f := by
    have hend : L.Holds (Code.region (captures ++ captures') before after) [] middle.pc after.pc
        fun p => [p] := L.jump (hstop ▸ hjump)
    have hseq := L.seq hf hend hin.fits h.fits h.fits hwithin (.refl _)
      (List.map_subset _ hleft.subset) (List.nil_subset _) (by simp)
    rw [Code.pushSplit_pc] at hseq
    simpa using hseq
  have hsecond := L.widen hout.fits h.fits
    (region_within hright.subset (hopened.trans (h₁.trans hjumped)) (.refl _))
    (List.map_subset _ hright.subset) hg
  rw [Code.push_pc, hnext] at hsecond
  exact L.split hsplit hfirst hsecond

theorem Law.Does.group {c : Capture}
    (h : m.Carries (c :: captures) before (middle.push (.save (c.index * 2 + 1))))
    (h₁ : (before.push (.save (c.index * 2))).Grows middle)
    (hf : L.Does captures (before.push (.save (c.index * 2))) middle f) :
    L.Does (c :: captures) before (middle.push (.save (c.index * 2 + 1))) fun p =>
      (f (p.setGroup c.index none)).map fun q => q.setGroup c.index (some (p.pos, q.pos)) := by
  obtain ⟨hopen, hclose, hbody⟩ := hf.between h.has h₁
  rw [Law.Does, Code.push_pc]
  exact L.group h.fits (List.nodup_cons.mp h.distinct).1 hopen hclose hbody

theorem Law.Does.ahead {negate : Bool} {stop : Nat} (hs : middle.pc = stop)
    (h : m.Carries captures before (middle.push .accept))
    (h₁ : (before.push (.look false negate (stop + 1))).Grows middle)
    (hf : L.Does captures (before.push (.look false negate (stop + 1))) middle f) :
    L.Does captures before (middle.push .accept) fun p => look negate (f p).head? p := by
  obtain ⟨hlook, haccept, hbody⟩ := hf.between h.has h₁
  rw [← hs] at hlook
  rw [Law.Does, Code.push_pc]
  exact L.ahead h.fits hlook haccept hbody

theorem Law.Does.behind {negate : Bool} {stop : Nat} (hs : middle.pc = stop)
    (h : m.Carries captures before (middle.push .accept))
    (h₁ : (before.push (.look true negate (stop + 1))).Grows middle)
    (hf : L.Does captures (before.push (.look true negate (stop + 1))) middle f) :
    L.Does captures before (middle.push .accept) fun p =>
      look negate (RegexInsight.behind (fun start =>
        (f { p with pos := start }).find? fun q => q.pos == p.pos) p.pos) p := by
  obtain ⟨hlook, haccept, hbody⟩ := hf.between h.has h₁
  rw [← hs] at hlook
  rw [Law.Does, Code.push_pc]
  exact L.behind h.fits hlook haccept hbody

end

/-- What writes code that may be met again and again: nothing has to be unset before it. -/
def Law.Iterates (L : m.Law) (captures : List Capture) (copy : Code → Code) (f : Point → List Point) :
    Prop :=
  ∀ code, m.Carries captures code (copy code) →
    L.Holds (Code.region captures code (copy code)) [] code.pc (copy code).pc f

section
variable {L : m.Law} {captures : List Capture} {copy copy' : Code → Code} {f g : Point → List Point}

theorem Law.Iterates.seq (hg₁ : ∀ code, Code.Grows code (copy code))
    (hg₂ : ∀ code, Code.Grows code (copy' code)) (h₁ : L.Iterates captures copy f)
    (h₂ : L.Iterates captures copy' g) :
    L.Iterates captures (fun code => copy' (copy code)) fun p => (f p).flatMap g := by
  intro code h
  have hfirst := h.part (.refl _) (.refl _) (hg₁ code) (hg₂ _)
  have hsecond := h.part (.refl _) (hg₁ code) (hg₂ _) (.refl _)
  exact L.seq (h₁ code hfirst) (h₂ _ hsecond) hfirst.fits hsecond.fits h.fits
    (region_within (List.Subset.refl _) (.refl _) (hg₂ _))
    (region_within (List.Subset.refl _) (hg₁ code) (.refl _)) (List.Subset.refl _)
    (List.Subset.refl _) (by simp)

theorem Law.Iterates.times (hg : ∀ code, Code.Grows code (copy code)) (h : L.Iterates captures copy f)
    (count : Nat) : L.Iterates captures (Nat.repeat copy count) (times f count) := by
  induction count with
  | zero => exact fun code _ => L.nothing _ _ _
  | succ count ih =>
    have hseq := Iterates.seq (Code.repeat_grows hg count) hg ih h
    rwa [← funext (times_succ f count)] at hseq

theorem Law.Iterates.option {greedy : Bool} {size : Nat} (hpc : ∀ code, (copy code).pc = code.pc + size)
    (hg : ∀ code, Code.Grows code (copy code)) (h : L.Iterates captures copy f) :
    L.Iterates captures (Code.option greedy size copy) fun p => prefer greedy (f p) p := by
  intro code hc
  have hbody := h _ (hc.part (.refl _) (Code.pushSplit_grows _ _ _) (hg _) (.refl _))
  have hsplit := (hc.has.of_grows (hg (code.pushSplit greedy (code.pc + 1 + size)))).inst
  have hexit : (Code.option greedy size copy code).pc = code.pc + 1 + size := by
    rw [Code.option, hpc, Code.pushSplit_pc]
  rw [Code.pushSplit_pc] at hbody
  rw [← hexit] at hsplit
  exact L.option hsplit hbody

theorem Law.Iterates.loop {greedy : Bool} {size : Nat} (hpc : ∀ code, (copy code).pc = code.pc + size)
    (hg : ∀ code, Code.Grows code (copy code)) (h : L.Iterates captures copy f) :
    L.Iterates captures (Code.loop greedy size copy) fun p =>
      star greedy f (m.text.size - p.pos) p := by
  intro code hc
  have hentered := Code.enterLoop_grows greedy size code
  have hgrows := hg (code.enterLoop greedy size)
  have hclosed := Code.closeLoop_grows code.slots code.pc (copy (code.enterLoop greedy size))
  have hbody := h _ (hc.part (.refl _) hentered hgrows hclosed)
  have hsave := (hc.has.of_grows (hgrows.trans hclosed)).of_enterLoop
  have hsplit := (hsave.of_grows (Code.push_grows _ _)).inst
  have hjump : m.Has ((copy (code.enterLoop greedy size)).closeLoop code.slots code.pc) := hc.has
  have hcheck := (hjump.of_grows (Code.push_grows _ _)).inst
  have hend : (copy (code.enterLoop greedy size)).pc = code.pc + 2 + size := by
    rw [hpc, Code.enterLoop_pc]
  have hexit : (Code.loop greedy size copy code).pc = code.pc + size + 4 := by
    rw [Code.loop, Code.closeLoop_pc, hend]
    omega
  have hloop : m.Loop greedy (captures.map Capture.index) code.slots
      (copy (code.enterLoop greedy size)).slots code.pc (copy (code.enterLoop greedy size)).pc
      (Code.loop greedy size copy code).pc := by
    refine ⟨hc.fits, hgrows.slots, hexit ▸ hsplit, ?_, hcheck, ?_⟩
    · have hinst := hsave.inst
      rwa [Code.pushSplit_pc] at hinst
    · have hinst := hjump.inst
      rwa [Code.push_pc] at hinst
  rw [Code.enterLoop_pc] at hbody
  exact L.loop hloop hbody

/-- A repetition is written as the copies that have to be, and a loop or the copies that may be. -/
theorem Law.Iterates.repeated {size : Nat} (greedy : Bool) (min : Nat) (max : Option Nat)
    (hpc : ∀ code, (copy code).pc = code.pc + size) (hg : ∀ code, Code.Grows code (copy code))
    (hid : ∀ code, Nat.repeat copy (if size = 0 then 0 else min) code = Nat.repeat copy min code)
    (h : L.Iterates captures copy f) :
    L.Iterates captures (fun code => code.repeated greedy min max size copy)
      (iterations m.text.size min max greedy f) := by
  have hcopies := h.times hg min
  have hgrows := Code.repeat_grows hg min
  cases max with
  | none =>
    have hall := Law.Iterates.seq hgrows (Code.loop_grows hg greedy) hcopies (h.loop hpc hg)
    have hcode : ∀ code, code.repeated greedy min none size copy =
        Code.loop greedy size copy (Nat.repeat copy min code) := fun code => by
      rw [Code.repeated_eq, hid]
    simp only [hcode]
    exact hall
  | some max =>
    have hoption : L.Iterates captures (Code.option greedy size copy) _ := h.option hpc hg
    have hoptions : ∀ code, Code.Grows code (Code.option greedy size copy code) :=
      Code.option_grows hg greedy
    have hall := Law.Iterates.seq hgrows (Code.repeat_grows hoptions (max - min)) hcopies
      (hoption.times hoptions (max - min))
    have hcode : ∀ code, code.repeated greedy min (some max) size copy =
        Nat.repeat (Code.option greedy size copy) (max - min) (Nat.repeat copy min code) :=
      fun code => by rw [Code.repeated_eq, hid]
    simp only [hcode]
    exact hall

end
end Machine
end RegexInsight
