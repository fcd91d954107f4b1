import RegexInsight.Proofs.PieceCode
import RegexInsight.Proofs.PieceTests
import RegexInsight.Proofs.WellFormed

/-! A law of pieces holds of the code of every element with the outcomes of the element, by induction on
the tree. So the machine finds the first outcome of the tree that its program was compiled from: the
piece of the whole tree is entered with no group set, and left by the last instruction. -/
namespace RegexInsight

mutual

/-- What an element needs for its outcomes to be those of its code: the sets that are written are known,
references are to groups, alternatives there is at least one of, and no iteration has to be where
none may be. -/
def Element.Resolved (names : List (Option String)) : Element → Prop
  | .set _ s => (CharTest.ofKind? s.kind).isSome
  | .backreference _ target => ∃ group ≤ names.length, target.group? names = some group
  | .group _ _ branches | .look _ _ _ branches => branches ≠ [] ∧ branchesResolved names branches
  | .quantifier _ min max _ inner => if max = some 0 then min = 0 else inner.Resolved names
  | .char .. | .bracket .. | .anchor .. => True

def Branch.Resolved (names : List (Option String)) : Branch → Prop
  | .mk _ elements => elementsResolved names elements

def elementsResolved (names : List (Option String)) : List Element → Prop
  | [] => True
  | e :: es => e.Resolved names ∧ elementsResolved names es

def branchesResolved (names : List (Option String)) : List Branch → Prop
  | [] => True
  | b :: bs => b.Resolved names ∧ branchesResolved names bs

end

section
variable {unicode : Bool} {names : List (Option String)}

theorem Element.Formed.group {span : Span} {target : Reference}
    (h : (backreference span target).Formed unicode names.length fun name => some name ∈ names) :
    ∃ group ≤ names.length, target.group? names = some group := by
  cases target with
  | index n => exact ⟨n, h.2, rfl⟩
  | name name =>
    obtain ⟨i, hi⟩ : ∃ i, names.idxOf? (some name) = some i :=
      Option.isSome_iff_exists.mp (by simpa [List.idxOf?, Element.Formed] using h)
    refine ⟨i + 1, ?_, by rw [Reference.group?, hi]; rfl⟩
    have := List.findIdx?_eq_some_iff_getElem.mp hi
    exact this.1

/-- Every element at and below an element is well formed. -/
def Element.Sound (unicode : Bool) (names : List (Option String)) (e : Element) : Prop :=
  ∀ x ∈ e.parts, x.Formed unicode names.length fun name => some name ∈ names

theorem Element.Sound.self {e : Element} (h : e.Sound unicode names) :
    e.Formed unicode names.length fun name => some name ∈ names :=
  Throughout.self h

theorem Element.Sound.held {e : Element} (h : e.Sound unicode names) :
    ∀ x ∈ e.held, x.Sound unicode names :=
  Throughout.held h

mutual

/-- A tree whose elements are well formed and that can be compiled has all that is needed. -/
theorem Element.resolved_of_check (e : Element) {n k : Nat} (hs : e.Sound unicode names)
    (h : e.check names n = .ok k) : e.Resolved names := by
  have hself := hs.self
  have hheld := hs.held
  cases e with
  | char | bracket | anchor => trivial
  | set span s =>
    rw [Element.check] at h
    split at h
    · cases h
    · rename_i hset
      simpa [Element.Resolved, Option.isSome_iff_ne_none] using hset
  | backreference span target => exact hself.group
  | group span capture branches =>
    refine ⟨hself, ?_⟩
    cases capture with
    | none => exact branchesResolved_of_check branches hheld h
    | some capture =>
      rw [Element.check] at h
      split at h
      · cases h
      · split at h
        · cases h
        · rename_i hbranches
          exact branchesResolved_of_check branches hheld hbranches
  | look span direction negate branches =>
    refine ⟨hself, ?_⟩
    rw [Element.check] at h
    split at h
    · cases h
    · split at h
      · cases h
      · rename_i hbranches
        exact branchesResolved_of_check branches hheld hbranches
  | quantifier span min max greedy inner =>
    rw [Element.check] at h
    rw [Element.Resolved]
    split
    · rename_i hmax
      exact Nat.le_zero.mp (hself.1 0 (by simp [hmax]))
    · rename_i hmax
      rw [if_neg hmax] at h
      dsimp only at h
      split at h
      · cases h
      · split at h
        · cases h
        · rename_i hinner
          exact Element.resolved_of_check inner (hheld inner List.mem_cons_self) hinner

theorem Branch.resolved_of_check (b : Branch) {n k : Nat}
    (hs : ∀ e ∈ b.elements, e.Sound unicode names) (h : b.check names n = .ok k) :
    b.Resolved names := by
  cases b with
  | mk span elements => exact elementsResolved_of_check elements hs h

theorem elementsResolved_of_check (es : List Element) {n k : Nat}
    (hs : ∀ e ∈ es, e.Sound unicode names) (h : elementsCheck names es n = .ok k) :
    elementsResolved names es := by
  cases es with
  | nil => trivial
  | cons e es =>
    rw [elementsCheck] at h
    split at h
    · cases h
    · rename_i he
      exact ⟨Element.resolved_of_check e (hs e List.mem_cons_self) he,
        elementsResolved_of_check es (fun x hx => hs x (List.mem_cons_of_mem _ hx)) h⟩

theorem branchesResolved_of_check (bs : List Branch) {n k : Nat}
    (hs : ∀ e ∈ bs.flatMap Branch.elements, e.Sound unicode names)
    (h : branchesCheck names bs n = .ok k) : branchesResolved names bs := by
  match bs with
  | [] => trivial
  | [b] => exact ⟨Branch.resolved_of_check b (fun e he => hs e (by simpa using he)) h, trivial⟩
  | b :: b' :: bs =>
    rw [List.flatMap_cons] at hs
    rw [branchesCheck] at h
    · split at h
      · cases h
      · split at h
        · cases h
        · rename_i hb
          split at h
          · cases h
          · exact ⟨Branch.resolved_of_check b (fun e he => hs e (List.mem_append_left _ he)) hb,
              branchesResolved_of_check (b' :: bs) (fun e he => hs e (List.mem_append_right _ he)) h⟩
    · simp

end
end

section
variable {unicode multiline : Bool} {tree : PatternTree} {program : Program}

theorem PatternTree.WellFormed.resolved (h : tree.WellFormed unicode)
    (hc : compile multiline tree = .ok program) :
    branchesResolved tree.names tree.pattern.branches := by
  obtain ⟨_, hcheck, _, _⟩ := compile_cases hc
  have hsound : ∀ e ∈ tree.pattern.branches.flatMap Branch.elements,
      e.Sound unicode tree.names := by
    intro e he x hx
    refine h.elements x ?_
    rw [Pattern.elements_eq]
    exact List.mem_flatMap.mpr ⟨e, he, hx⟩
  exact branchesResolved_of_check _ hsound hcheck

theorem PatternTree.WellFormed.index_le (h : tree.WellFormed unicode) {c : Capture}
    (hc : c ∈ tree.pattern.captures) : 1 ≤ c.index ∧ c.index ≤ tree.names.length := by
  rw [h.captures, numbered] at hc
  obtain ⟨i, hi, rfl⟩ := List.mem_mapIdx.mp hc
  exact ⟨Nat.succ_pos i, hi⟩

end

namespace Machine

variable {m : Machine} {L : m.Law} {names : List (Option String)}

/-- An element that can be met can be met again, once its groups are cleared. -/
theorem iterates_emitCopy {e : Element} {f : Point → List Point}
    (h : ∀ code, m.Carries e.captures code (e.emit names code) →
      L.Does e.captures code (e.emit names code) f) :
    L.Iterates e.captures (e.emitCopy names) fun p => f (p.forget e.captures) := by
  intro code hc
  have hslots : captureSlots e = slotsOf (e.captures.map Capture.index) := by
    rw [captureSlots_eq, slotsOf, List.flatMap_map]
  have hcleared := Code.pushClears_grows (captureSlots e) code
  have hgrows := e.emit_grows names (code.pushClears (captureSlots e))
  have hbody := h _ (hc.part (.refl _) hcleared hgrows (.refl _))
  rw [Law.Does, Code.region, Code.pushClears_pc, Code.pushClears_slots] at hbody
  have hclears := (hc.has.of_grows hgrows).clears
  rw [hslots] at hbody hclears
  rw [Element.emitCopy, hslots] at hc ⊢
  exact L.copy hc.fits hclears hbody

theorem Law.Does.single {captures : List Capture} {inst : Inst} {code : Code}
    {f : Point → List Point} (h : m.Carries captures code (code.push inst))
    (hf : ∀ r unset, m.program.insts[code.pc]? = some inst →
      L.Holds r unset code.pc (code.pc + 1) f) :
    L.Does captures code (code.push inst) f := by
  rw [Law.Does, Code.push_pc]
  exact hf _ _ h.has.inst

theorem does_anchor {captures : List Capture} {span : Span} {anchor : Anchor} {code : Code}
    (h : m.Carries captures code ((Element.anchor span anchor).emit names code)) :
    L.Does captures code ((Element.anchor span anchor).emit names code)
      ((Element.anchor span anchor).outcomes (m.attempt names)) := by
  have houtcomes : (Element.anchor span anchor).outcomes (m.attempt names) = fun p =>
      if (m.attempt names).holdsAt p.pos anchor then [p] else [] := by
    funext p
    rw [Element.outcomes]
  rw [houtcomes]
  cases anchor with
  | start => exact .single h fun _ _ hi => L.assertStart hi
  | stop => exact .single h fun _ _ hi => L.assertEnd hi
  | wordBoundary => exact .single h fun _ _ hi => L.wordBoundary hi
  | nonWordBoundary => exact .single h fun _ _ hi => L.wordBoundary hi

end Machine

theorem Element.outcomes_never (a : Attempt) (span : Span) (greedy : Bool) (inner : Element) :
    (quantifier span 0 (some 0) greedy inner).outcomes a = fun p => [p] := by
  funext p
  rw [outcomes]
  simp [iterations, times]

section
variable {m : Machine} (L : m.Law) {names : List (Option String)}

open Machine

mutual

theorem Element.emit_does (hn : m.program.groupCount = names.length) (e : Element) (code : Code)
    (hr : e.Resolved names) (h : m.Carries e.captures code (e.emit names code)) :
    L.Does e.captures code (e.emit names code) (e.outcomes (m.attempt names)) := by
  cases e with
  | char span value =>
    exact .single h fun _ _ hi => L.consume hi (.inl ⟨value, rfl, rfl⟩)
  | set span s =>
    obtain ⟨test, htest⟩ := Option.isSome_iff_exists.mp hr
    refine .single h fun _ _ hi => L.consume hi (.inr (.inl ⟨_, _, rfl, ?_⟩))
    funext c
    simp [Attempt.inSet, htest, Machine.attempt]
  | bracket span negate members =>
    exact .single h fun _ _ hi => L.consume hi (.inr (.inr ⟨_, _, rfl, rfl⟩))
  | anchor span anchor => exact does_anchor h
  | backreference span target =>
    obtain ⟨group, hle, hgroup⟩ := hr
    have hslots := Nat.le_trans h.low (Nat.le_trans h.grows.slots h.has.slots)
    rw [Element.emit, hgroup] at h ⊢
    exact .single h fun _ _ hi => L.refer hgroup (hn ▸ hle) hslots hi
  | group span capture branches =>
    cases capture with
    | none =>
      rw [Element.captures_group, Option.toList_none, List.nil_append] at h ⊢
      exact branchesEmit_does hn branches hr.1 _ code rfl hr.2 h
    | some capture =>
      rw [Element.captures_group, Option.toList_some, List.singleton_append] at h ⊢
      have hgrows := branchesEmit_grows names
        ((code.push (.save (capture.index * 2))).pc + branchesSize branches) branches
        (code.push (.save (capture.index * 2)))
      have hbody := branchesEmit_does hn branches hr.1 _ _ rfl hr.2
        (h.part (List.sublist_cons_self _ _) (Code.push_grows _ _) hgrows (Code.push_grows _ _))
      exact .group h hgrows hbody
  | look span direction negate branches =>
    rw [Element.captures_look] at h ⊢
    have hgrows := branchesEmit_grows names (code.pc + 1 + branchesSize branches) branches
      (code.push (.look (direction == .behind) negate (code.pc + 1 + branchesSize branches + 1)))
    have hstop := branchesEmit_pc names (code.pc + 1 + branchesSize branches) branches
      (code.push (.look (direction == .behind) negate (code.pc + 1 + branchesSize branches + 1)))
    have hbody := branchesEmit_does hn branches hr.1 _ _ (by rw [Code.push_pc]) hr.2
      (h.part (.refl _) (Code.push_grows _ _) hgrows (Code.push_grows _ _))
    rw [Code.push_pc] at hstop
    cases direction with
    | ahead => exact .ahead hstop h hgrows hbody
    | behind => exact .behind hstop h hgrows hbody
  | quantifier span min max greedy inner =>
    rw [Element.captures_quantifier, Element.emit_quantifier] at h ⊢
    rw [Element.Resolved] at hr
    split
    · rename_i hmax
      rw [if_pos hmax] at hr
      subst hr hmax
      rw [Element.outcomes_never]
      exact .nothing _ code
    · rename_i hmax
      rw [if_neg hmax] at hr h
      have hcopy := iterates_emitCopy fun code => Element.emit_does hn inner code hr
      have hrepeated := hcopy.repeated greedy min max (inner.emitCopy_pc names)
        (inner.emitCopy_grows names) (inner.repeat_emitCopy names min)
      exact L.widen h.fits h.fits (.refl _) (List.nil_subset _) (hrepeated code h)

theorem Branch.emit_does (hn : m.program.groupCount = names.length) (b : Branch) (code : Code)
    (hr : b.Resolved names)
    (h : m.Carries (b.elements.flatMap Element.captures) code (b.emit names code)) :
    L.Does (b.elements.flatMap Element.captures) code (b.emit names code)
      (b.outcomes (m.attempt names)) := by
  cases b with
  | mk span elements => exact elementsEmit_does hn elements code hr h

theorem elementsEmit_does (hn : m.program.groupCount = names.length) (es : List Element)
    (code : Code) (hr : elementsResolved names es)
    (h : m.Carries (es.flatMap Element.captures) code (elementsEmit names es code)) :
    L.Does (es.flatMap Element.captures) code (elementsEmit names es code)
      (elementsOutcomes (m.attempt names) es) := by
  cases es with
  | nil => exact .nothing _ code
  | cons e es =>
    have hfirst := Element.emit_grows names e code
    have hrest := elementsEmit_grows names es (e.emit names code)
    rw [List.flatMap_cons] at h ⊢
    exact .seq h hfirst hrest
      (Element.emit_does hn e code hr.1
        (h.part (List.sublist_append_left _ _) (.refl _) hfirst hrest))
      (elementsEmit_does hn es _ hr.2
        (h.part (List.sublist_append_right _ _) hfirst hrest (.refl _)))

theorem branchesEmit_does (hn : m.program.groupCount = names.length) (bs : List Branch)
    (hne : bs ≠ []) (stop : Nat) (code : Code) (hs : stop = code.pc + branchesSize bs)
    (hr : branchesResolved names bs)
    (h : m.Carries (branchesCaptures bs) code (branchesEmit names stop bs code)) :
    L.Does (branchesCaptures bs) code (branchesEmit names stop bs code)
      (branchesOutcomes (m.attempt names) bs) := by
  match bs with
  | [] => exact absurd rfl hne
  | [b] =>
    have hone : branchesOutcomes (m.attempt names) [b] = b.outcomes (m.attempt names) := by
      funext p
      rw [branchesOutcomes, branchesOutcomes, List.append_nil]
    rw [branchesCaptures, List.flatMap_singleton] at h ⊢
    rw [hone]
    exact Branch.emit_does hn b code hr.1 h
  | b :: b' :: bs =>
    have hfirst := Branch.emit_grows names b (code.pushSplit true (code.pc + b.size + 2))
    have hrest := branchesEmit_grows names stop (b' :: bs) (b.emitChoice names stop code)
    have hnext : (b.emit names (code.pushSplit true (code.pc + b.size + 2))).pc + 1 =
        code.pc + b.size + 2 := by
      rw [Branch.emit_pc, Code.pushSplit_pc]
      omega
    have hstop : stop = (b.emitChoice names stop code).pc + branchesSize (b' :: bs) := by
      rw [branchesSize_cons_cons] at hs
      rw [Branch.emitChoice, Code.push_pc, hnext]
      omega
    have hend := branchesEmit_pc names stop (b' :: bs) (b.emitChoice names stop code)
    rw [branchesCaptures, List.flatMap_cons] at h ⊢
    rw [branchesEmit_cons_cons] at h ⊢
    have hjump := Code.push_grows (.jump stop) (b.emit names
      (code.pushSplit true (code.pc + b.size + 2)))
    refine .choice h hnext (hend.trans hstop.symm) hfirst hrest
      (Branch.emit_does hn b _ hr.1 ?_) (branchesEmit_does hn (b' :: bs) (by simp) stop _ hstop hr.2 ?_)
    · exact h.part (List.sublist_append_left _ _) (Code.pushSplit_grows _ _ _) hfirst
        (hjump.trans hrest)
    · exact h.part (List.sublist_append_right _ _)
        ((Code.pushSplit_grows _ _ _).trans (hfirst.trans hjump)) hrest (.refl _)

end
end

end RegexInsight
