import RegexInsight.Proofs.Outcomes

/-! Where outcomes can lie. An outcome is not before the point at which its element was met, and inside
the text if that point is. The groups that it sets are groups of the element, and their spans are in
order; all other groups are left as they were. -/
namespace RegexInsight

/-- What holds of an outcome `q` at the point `p` of something that may set the groups `groups`. -/
structure Attempt.Reach (a : Attempt) (groups : List Nat) (p q : Point) : Prop where
  le : p.pos ≤ q.pos
  inside : p.pos ≤ a.text.size → q.pos ≤ a.text.size
  groups : ∀ i, q.groups i = p.groups i ∨ i ∈ groups ∧ ∀ span ∈ q.groups i, span.1 ≤ span.2

/-- All outcomes are such. -/
def Attempt.Bounds (a : Attempt) (groups : List Nat) (f : Point → List Point) : Prop :=
  ∀ p, ∀ q ∈ f p, a.Reach groups p q

namespace Attempt

variable {a : Attempt} {groups more : List Nat} {p q r : Point} {f g : Point → List Point}

namespace Reach

theorem refl (p : Point) : a.Reach groups p p := ⟨Nat.le_refl _, id, fun _ => .inl rfl⟩

theorem stay (hq : q ∈ [p]) : a.Reach groups p q := by
  rw [List.mem_singleton.mp hq]
  exact refl p

theorem trans (h₁ : a.Reach groups p q) (h₂ : a.Reach groups q r) : a.Reach groups p r := by
  refine ⟨Nat.le_trans h₁.le h₂.le, fun hp => h₂.inside (h₁.inside hp), fun i => ?_⟩
  rcases h₂.groups i with heq | hset
  · rw [heq]
    exact h₁.groups i
  · exact .inr hset

theorem mono (hs : groups ⊆ more) (h : a.Reach groups p q) : a.Reach more p q :=
  ⟨h.le, h.inside, fun i => (h.groups i).imp_right fun ⟨hi, hspan⟩ => ⟨hs hi, hspan⟩⟩

theorem moved {pos : Nat} (hle : p.pos ≤ pos) (hin : p.pos ≤ a.text.size → pos ≤ a.text.size) :
    a.Reach groups p { p with pos := pos } := ⟨hle, hin, fun _ => .inl rfl⟩

theorem forget (captures : List Capture) (p : Point) :
    a.Reach (captures.map Capture.index) p (p.forget captures) := by
  refine ⟨Nat.le_refl _, id, fun i => ?_⟩
  by_cases hi : i ∈ captures.map Capture.index
  · refine .inr ⟨hi, ?_⟩
    simp only [Point.forget, if_pos hi]
    rintro _ ⟨⟩
  · exact .inl (if_neg hi)

theorem setGroup {i : Nat} (hi : i ∈ groups) (p : Point) {span : Option (Nat × Nat)}
    (hspan : ∀ s ∈ span, s.1 ≤ s.2) : a.Reach groups p (p.setGroup i span) := by
  refine ⟨Nat.le_refl _, id, fun j => ?_⟩
  by_cases hj : j = i
  · subst hj
    exact .inr ⟨hi, by simpa [Point.setGroup] using hspan⟩
  · exact .inl (Function.update_of_ne hj _ _)

theorem looked {pos : Nat} (h : a.Reach groups { p with pos := pos } q) :
    a.Reach groups p { p with groups := q.groups } := ⟨Nat.le_refl _, id, h.groups⟩

end Reach

theorem mem_consume {test : Char → Bool} :
    q ∈ a.consume test p ↔ a.text[p.pos]?.any test = true ∧ q = { p with pos := p.pos + 1 } := by
  unfold consume
  split <;> simp [*]

namespace Bounds

theorem nothing : a.Bounds groups fun p => [p] := fun _ _ hq => .stay hq

theorem seq (hf : a.Bounds groups f) (hg : a.Bounds groups g) :
    a.Bounds groups fun p => (f p).flatMap g := by
  intro p q hq
  obtain ⟨r, hr, hq⟩ := List.mem_flatMap.mp hq
  exact (hf p r hr).trans (hg r q hq)

theorem choice (hf : a.Bounds groups f) (hg : a.Bounds groups g) :
    a.Bounds groups fun p => f p ++ g p :=
  fun p q hq => (List.mem_append.mp hq).elim (hf p q) (hg p q)

theorem mono (hs : groups ⊆ more) (hf : a.Bounds groups f) : a.Bounds more f :=
  fun p q hq => (hf p q hq).mono hs

theorem prefer (greedy : Bool) {taken : List Point} (hp : ∀ q ∈ taken, a.Reach groups p q) :
    ∀ q ∈ RegexInsight.prefer greedy taken p, a.Reach groups p q := by
  intro q hq
  rcases mem_prefer.mp hq with hq | rfl
  · exact hp q hq
  · exact .refl q

theorem times (hf : a.Bounds groups f) (count : Nat) : a.Bounds groups (times f count) := by
  induction count with
  | zero => exact nothing
  | succ count ih => exact hf.seq ih

theorem star (hf : a.Bounds groups f) (greedy : Bool) (count : Nat) :
    a.Bounds groups (star greedy f count) := by
  induction count with
  | zero => exact nothing
  | succ count ih =>
    intro p
    refine prefer greedy fun q hq => ?_
    obtain ⟨r, hr, hq⟩ := List.mem_flatMap.mp hq
    exact (hf p r (List.mem_filter.mp hr).1).trans (ih r q hq)

theorem iterations (hf : a.Bounds groups f) (size min : Nat) (max : Option Nat) (greedy : Bool) :
    a.Bounds groups (iterations size min max greedy f) := by
  cases max with
  | none => exact (hf.times min).seq fun p => hf.star greedy (size - p.pos) p
  | some max =>
    exact (hf.times min).seq (times (fun p => prefer greedy (hf p)) (max - min))

theorem iteration {captures : List Capture} (hf : a.Bounds (captures.map Capture.index) f) :
    a.Bounds (captures.map Capture.index) fun p => f (p.forget captures) :=
  fun p q hq => (Reach.forget captures p).trans (hf _ q hq)

/-- What holds of bodies of lookarounds holds of the lookaround, whether it looks for them or not. -/
theorem look {negate : Bool} {found : Option Point}
    (hf : ∀ q ∈ found, ∃ pos, a.Reach groups { p with pos := pos } q) :
    ∀ q ∈ look negate found p, a.Reach groups p q := by
  intro q hq
  cases found with
  | none =>
    cases negate
    · cases hq
    · exact .stay hq
  | some u =>
    obtain ⟨pos, hu⟩ := hf u rfl
    cases negate
    · exact List.mem_singleton.mp hq ▸ hu.looked
    · cases hq

theorem consume (test : Char → Bool) : a.Bounds groups (a.consume test) := by
  intro p q hq
  obtain ⟨htest, rfl⟩ := mem_consume.mp hq
  have hlt : p.pos < a.text.size := by
    by_contra hout
    rw [Array.getElem?_eq_none (Nat.le_of_not_lt hout)] at htest
    cases htest
  exact .moved (Nat.le_succ _) fun _ => hlt

theorem refer (target : Reference) : a.Bounds groups (a.refer target) := by
  intro p q hq
  unfold Attempt.refer at hq
  split at hq
  · exact .stay hq
  · rename_i first stop _
    split at hq
    · rename_i hsame
      rw [List.mem_singleton.mp hq]
      refine .moved (Nat.le_add_right _ _) fun hp => ?_
      -- the last character of the text that is compared is in the text
      by_contra hout
      have hlast := List.all_eq_true.mp hsame (stop - first - 1) (List.mem_range.mpr (by omega))
      rw [Array.getElem?_eq_none (i := p.pos + (stop - first - 1)) (by omega)] at hlast
      split at hlast
      · simp_all
      · cases hlast
    · cases hq

end Bounds

theorem behind_eq_some {body : Nat → Option Point} {start : Nat} {q : Point}
    (h : behind body start = some q) : ∃ i ≤ start, body i = some q := by
  induction start with
  | zero => exact ⟨0, Nat.le_refl _, h⟩
  | succ start ih =>
    rw [behind] at h
    rcases Option.or_eq_some_iff.mp h with h | ⟨-, h⟩
    · exact ⟨start + 1, Nat.le_refl _, h⟩
    · obtain ⟨i, hi, h⟩ := ih h
      exact ⟨i, Nat.le_succ_of_le hi, h⟩

end Attempt

section
variable (a : Attempt)

mutual

theorem Element.outcomes_bounds (e : Element) :
    a.Bounds (e.captures.map Capture.index) (e.outcomes a) := by
  cases e with
  | char span value => exact .consume _
  | set span s => exact .consume _
  | bracket span negate members => exact .consume _
  | anchor span anchor =>
    intro p q hq
    rw [Element.outcomes] at hq
    split at hq
    · exact .stay hq
    · cases hq
  | backreference span target => exact .refer target
  | group span capture branches =>
    have hbranches := branchesOutcomes_bounds branches
    cases capture with
    | none =>
      rw [Element.captures_group, Option.toList_none, List.nil_append]
      exact hbranches
    | some capture =>
      intro p q hq
      rw [Element.captures_group, Option.toList_some, List.singleton_append, List.map_cons]
      have hmem : capture.index ∈ capture.index :: (branchesCaptures branches).map Capture.index :=
        List.mem_cons_self
      rw [Element.outcomes] at hq
      obtain ⟨r, hr, rfl⟩ := List.mem_map.mp hq
      have hopened : a.Reach _ p (p.setGroup capture.index none) := .setGroup hmem p (by simp)
      have hbody := (hbranches _ r hr).mono (List.subset_cons_self capture.index _)
      refine (hopened.trans hbody).trans (.setGroup hmem r ?_)
      rintro _ ⟨⟩
      exact hbody.le
  | look span direction negate branches =>
    have hbranches := branchesOutcomes_bounds branches
    rw [Element.captures_look]
    intro p q hq
    cases direction with
    | ahead =>
      refine Attempt.Bounds.look (fun r hr => ⟨p.pos, hbranches p r ?_⟩) q hq
      exact List.mem_of_mem_head? hr
    | behind =>
      refine Attempt.Bounds.look (fun r hr => ?_) q hq
      obtain ⟨pos, -, hr⟩ := Attempt.behind_eq_some hr
      exact ⟨pos, hbranches _ r (List.mem_of_find?_eq_some hr)⟩
  | quantifier span min max greedy inner =>
    rw [Element.captures_quantifier]
    exact (Element.outcomes_bounds inner).iteration.iterations a.text.size min max greedy

theorem Branch.outcomes_bounds (b : Branch) :
    a.Bounds ((b.elements.flatMap Element.captures).map Capture.index) (b.outcomes a) := by
  cases b with
  | mk span elements => exact elementsOutcomes_bounds elements

theorem elementsOutcomes_bounds (es : List Element) :
    a.Bounds ((es.flatMap Element.captures).map Capture.index) (elementsOutcomes a es) := by
  cases es with
  | nil => exact .nothing
  | cons e es =>
    rw [List.flatMap_cons, List.map_append]
    exact ((Element.outcomes_bounds e).mono (List.subset_append_left _ _)).seq
      ((elementsOutcomes_bounds es).mono (List.subset_append_right _ _))

theorem branchesOutcomes_bounds (bs : List Branch) :
    a.Bounds ((branchesCaptures bs).map Capture.index) (branchesOutcomes a bs) := by
  cases bs with
  | nil => exact fun _ _ hq => absurd hq List.not_mem_nil
  | cons b bs =>
    rw [branchesCaptures, List.flatMap_cons, List.map_append]
    exact ((Branch.outcomes_bounds b).mono (List.subset_append_left _ _)).choice
      ((branchesOutcomes_bounds bs).mono (List.subset_append_right _ _))

end
end

end RegexInsight
