import Mathlib.Logic.Function.Iterate
import RegexInsight.Proofs.OutcomeBounds

/-! Optional iterations. The iterations that a quantifier allows beyond its minimum are tried one behind
the other, and each of them is taken or left on its own. So an iteration may be taken behind one that was
left, and one may be taken that consumes nothing. If iterations are preferred, the first of this does not
show: what it adds was tried before. Otherwise it shows, unless there is one way only to go on. -/
namespace RegexInsight

/-- Whatever is looked for, the first point that gives it gives the same in both lists. -/
def Alike (ps qs : List Point) : Prop :=
  ∀ (β : Type) (find : Point → Option β), ps.findSome? find = qs.findSome? find

theorem findSome?_flatMap {β : Type} (f : Point → List Point) (find : Point → Option β)
    (ps : List Point) :
    (ps.flatMap f).findSome? find = ps.findSome? fun p => (f p).findSome? find := by
  rw [← List.head?_filterMap, List.filterMap_flatMap, List.head?_flatMap]
  simp only [List.head?_filterMap]

/-- If one point alone can give what is looked for, it is given by the list if it is given at all. -/
theorem findSome?_of_only {β : Type} {find : Point → Option β} {p : Point} {ps : List Point}
    (hp : p ∈ ps) (honly : ∀ q ∈ ps, q = p ∨ find q = none) : ps.findSome? find = find p := by
  cases hfind : find p with
  | none =>
    refine List.findSome?_eq_none_iff.mpr fun q hq => ?_
    rcases honly q hq with rfl | hnone
    · exact hfind
    · exact hnone
  | some b =>
    have hsome : (ps.findSome? find).isSome :=
      List.findSome?_isSome_iff.mpr ⟨p, hp, by rw [hfind]; rfl⟩
    obtain ⟨c, hc⟩ := Option.isSome_iff_exists.mp hsome
    obtain ⟨q, hq, hqc⟩ := List.exists_of_findSome?_eq_some hc
    rcases honly q hq with rfl | hnone
    · exact hc.trans (hqc.symm.trans hfind)
    · cases hnone.symm.trans hqc

namespace Alike

variable {p : Point} {ps ps' qs qs' rs : List Point} {f g : Point → List Point}

theorem refl (ps : List Point) : Alike ps ps := fun _ _ => rfl

theorem symm (h : Alike ps qs) : Alike qs ps := fun β find => (h β find).symm

theorem trans (h₁ : Alike ps qs) (h₂ : Alike qs rs) : Alike ps rs :=
  fun β find => (h₁ β find).trans (h₂ β find)

theorem append (h₁ : Alike ps qs) (h₂ : Alike ps' qs') : Alike (ps ++ ps') (qs ++ qs') := by
  intro β find
  rw [List.findSome?_append, List.findSome?_append, h₁ β find, h₂ β find]

theorem flatMap (h : Alike ps qs) (hf : ∀ p, Alike (f p) (g p)) :
    Alike (ps.flatMap f) (qs.flatMap g) := by
  intro β find
  have hfind : (fun p => (f p).findSome? find) = fun p => (g p).findSome? find := by
    funext p
    exact hf p β find
  rw [findSome?_flatMap, findSome?_flatMap, hfind, h]

theorem absorb (h : qs ⊆ ps) : Alike (ps ++ qs) ps := by
  intro β find
  rw [List.findSome?_append]
  cases hps : ps.findSome? find with
  | some b => rfl
  | none =>
    have hnone := List.findSome?_eq_none_iff.mp hps
    exact List.findSome?_eq_none_iff.mpr fun q hq => hnone q (h hq)

/-- A point that is the only new one can stand for all that is behind. -/
theorem only (hp : p ∈ qs) (honly : ∀ q ∈ qs, q = p ∨ q ∈ ps) : Alike (ps ++ qs) (ps ++ [p]) := by
  intro β find
  rw [List.findSome?_append, List.findSome?_append]
  cases hps : ps.findSome? find with
  | some b => rfl
  | none =>
    have hnone := List.findSome?_eq_none_iff.mp hps
    have hqs : qs.findSome? find = find p := findSome?_of_only hp fun q hq =>
      (honly q hq).imp_right fun hin => hnone q hin
    rw [hqs, List.findSome?_singleton]

theorem constant (hp : p ∈ ps) (hall : ∀ q ∈ ps, q = p) : Alike ps [p] :=
  show Alike ([] ++ ps) ([] ++ [p]) from only hp fun q hq => .inl (hall q hq)

theorem head?_flatMap (h : Alike ps qs) {β : Type} (f : Point → List β) :
    (ps.flatMap f).head? = (qs.flatMap f).head? := by
  rw [List.head?_flatMap, List.head?_flatMap]
  exact h _ _

end Alike

/-- At most `count` iterations, each of them taken or left on its own. -/
def optional (greedy : Bool) (body : Point → List Point) : Nat → Point → List Point :=
  times fun q => prefer greedy (body q) q

section
variable {greedy : Bool} {body : Point → List Point} {count : Nat} {p q : Point}

theorem optional_succ : optional greedy body (count + 1) p =
    (prefer greedy (body p) p).flatMap (optional greedy body count) := rfl

theorem self_mem_optional : p ∈ optional greedy body count p := by
  induction count with
  | zero => exact List.mem_singleton.mpr rfl
  | succ count ih => exact List.mem_flatMap.mpr ⟨p, mem_prefer.mpr (.inr rfl), ih⟩

theorem optional_subset_succ :
    optional greedy body count p ⊆ optional greedy body (count + 1) p :=
  fun _ hq => List.mem_flatMap.mpr ⟨p, mem_prefer.mpr (.inr rfl), hq⟩

theorem mem_optional (h : q ∈ optional greedy body count p) :
    q = p ∨ q ∈ (body p).flatMap (optional greedy body count) := by
  induction count with
  | zero => exact .inl (List.mem_singleton.mp h)
  | succ count ih =>
    obtain ⟨r, hr, hq⟩ := List.mem_flatMap.mp h
    rcases mem_prefer.mp hr with hr | hrp
    · exact .inr (List.mem_flatMap.mpr ⟨r, hr, optional_subset_succ hq⟩)
    · refine (ih (hrp ▸ hq)).imp_right fun hq => ?_
      obtain ⟨r, hr, hq⟩ := List.mem_flatMap.mp hq
      exact List.mem_flatMap.mpr ⟨r, hr, optional_subset_succ hq⟩

/-- The points that can be reached are those with a first iteration and up to `count` further ones, and
the point itself. -/
theorem mem_optional_succ : q ∈ optional greedy body (count + 1) p ↔
    q ∈ prefer greedy ((body p).flatMap (optional greedy body count)) p := by
  rw [mem_prefer]
  constructor
  · intro hq
    obtain ⟨r, hr, hq⟩ := List.mem_flatMap.mp hq
    rcases mem_prefer.mp hr with hr | hrp
    · exact .inl (List.mem_flatMap.mpr ⟨r, hr, hq⟩)
    · exact (mem_optional (hrp ▸ hq)).symm
  · rintro (hq | rfl)
    · obtain ⟨r, hr, hq⟩ := List.mem_flatMap.mp hq
      exact List.mem_flatMap.mpr ⟨r, mem_prefer.mpr (.inl hr), hq⟩
    · exact self_mem_optional

/-- Greedy iterations may as well be nested: a further one is tried only where the one before it was
taken. -/
theorem optional_unfolds_greedy : Alike (optional true body (count + 1) p)
    (prefer true ((body p).flatMap (optional true body count)) p) := by
  rw [optional_succ, prefer, if_pos rfl, List.flatMap_append, List.flatMap_singleton, prefer,
    if_pos rfl]
  exact .only self_mem_optional fun _ => mem_optional

/-- So may lazy ones if there is never more than one point to which an iteration leads. -/
theorem optional_unfolds_lazy (hone : ∀ p, ∀ q ∈ body p, ∀ r ∈ body p, q = r) :
    Alike (optional false body (count + 1) p)
      (prefer false ((body p).flatMap (optional false body count)) p) := by
  induction count generalizing p with
  | zero =>
    rw [optional_succ, prefer, if_neg Bool.false_ne_true, List.flatMap_cons]
    exact .refl _
  | succ count ih =>
    have hlazy : ∀ n q, optional false body (n + 1) q =
        optional false body n q ++ (body q).flatMap (optional false body n) := fun n q => by
      rw [optional_succ, prefer, if_neg Bool.false_ne_true, List.flatMap_cons]
    rw [hlazy, prefer, if_neg Bool.false_ne_true]
    refine ((ih (p := p)).append (.refl _)).trans ?_
    rw [prefer, if_neg Bool.false_ne_true, List.cons_append]
    refine (Alike.refl [p]).append ?_
    cases hbody : body p with
    | nil => exact .refl _
    | cons q qs =>
      have hq : Alike (body p) [q] := .constant (hbody ▸ List.mem_cons_self)
        fun r hr => hone p r hr q (hbody ▸ List.mem_cons_self)
      have hgo : ∀ n, Alike ((body p).flatMap (optional false body n)) (optional false body n q) :=
        fun n => by
          have h := hq.flatMap fun r => Alike.refl (optional false body n r)
          rwa [List.flatMap_singleton] at h
      -- all that fewer iterations lead to comes first with one more iteration
      have hfewer : Alike (optional false body count q ++ optional false body (count + 1) q)
          (optional false body (count + 1) q) := by
        rw [hlazy, ← List.append_assoc]
        exact (Alike.absorb (List.Subset.refl _)).append (.refl _)
      rw [← hbody]
      exact (((hgo count).append (hgo (count + 1))).trans hfewer).trans (hgo (count + 1)).symm

theorem optional_unfolds
    (h : greedy = true ∨ count = 0 ∨ ∀ p, ∀ q ∈ body p, ∀ r ∈ body p, q = r) :
    Alike (optional greedy body (count + 1) p)
      (prefer greedy ((body p).flatMap (optional greedy body count)) p) := by
  rcases h with rfl | rfl | hone
  · exact optional_unfolds_greedy
  · rw [optional_succ]
    change Alike ((prefer greedy (body p) p).flatMap fun q => [q])
      (prefer greedy ((body p).flatMap fun q => [q]) p)
    rw [List.flatMap_singleton', List.flatMap_singleton']
    exact .refl _
  · cases greedy
    · exact optional_unfolds_lazy hone
    · exact optional_unfolds_greedy

end

/-- Where an iteration leads that is preferred to leaving off: to its first outcome if it has one. -/
def firstChoice (body : Point → List Point) (p : Point) : Point := (body p).head?.getD p

def firstAdvance (body : Point → List Point) (p : Point) : Point :=
  ((body p).find? fun q => q.pos != p.pos).getD p

/-- However many iterations are made, the next one may as well have to consume something. -/
def KeepsOn (body : Point → List Point) (p : Point) : Prop :=
  ∀ i, firstChoice body ((firstChoice body)^[i] p) = firstAdvance body ((firstChoice body)^[i] p)

section
variable {body : Point → List Point} {p : Point}

theorem KeepsOn.of_consumes (h : ∀ p, ∀ q ∈ body p, q.pos ≠ p.pos) (p : Point) :
    KeepsOn body p := by
  intro i
  generalize (firstChoice body)^[i] p = q
  unfold firstChoice firstAdvance
  cases hbody : body q with
  | nil => rfl
  | cons r rs =>
    have hr : r.pos ≠ q.pos := h q r (hbody ▸ List.mem_cons_self)
    rw [List.find?_cons_of_pos (by simpa using hr)]
    rfl

theorem head?_flatMap_of_head? {f : Point → List Point} {h : Point → Point}
    (hf : ∀ q, (f q).head? = some (h q)) {ps : List Point} :
    (ps.flatMap f).head? = ps.head?.map h := by
  cases ps with
  | nil => rfl
  | cons q ps => rw [List.flatMap_cons, List.head?_append, hf, List.head?_cons]; rfl

theorem head?_optional (count : Nat) (p : Point) :
    (optional true body count p).head? = some ((firstChoice body)^[count] p) := by
  induction count generalizing p with
  | zero => rfl
  | succ count ih =>
    rw [optional_succ, head?_flatMap_of_head? ih, prefer, if_pos rfl, List.head?_append,
      Function.iterate_succ_apply, firstChoice]
    cases (body p).head? <;> rfl

/-- The first outcome of a greedy star is that of going on as long as something is consumed. -/
theorem head?_star (count : Nat) (p : Point) :
    (star true body count p).head? = some ((firstAdvance body)^[count] p) := by
  induction count generalizing p with
  | zero => rfl
  | succ count ih =>
    rw [star, prefer, if_pos rfl, List.head?_append, head?_flatMap_of_head? ih, List.head?_filter,
      Function.iterate_succ_apply, firstAdvance]
    cases hfind : (body p).find? fun q => q.pos != p.pos with
    | some q => rfl
    | none =>
      have hstay : firstAdvance body p = p := by
        rw [firstAdvance, hfind]
        rfl
      exact congrArg some (Function.iterate_fixed hstay count).symm

end

section
variable {a : Attempt} {groups : List Nat} {body : Point → List Point} {p : Point} {count : Nat}

theorem firstChoice_reach (hb : a.Bounds groups body) (p : Point) :
    a.Reach groups p (firstChoice body p) := by
  unfold firstChoice
  cases hhead : (body p).head? with
  | none => exact .refl p
  | some q => exact hb p q (List.mem_of_mem_head? hhead)

theorem firstAdvance_reach (hb : a.Bounds groups body) (p : Point) :
    a.Reach groups p (firstAdvance body p) := by
  unfold firstAdvance
  cases hfind : (body p).find? fun q => q.pos != p.pos with
  | none => exact .refl p
  | some q => exact hb p q (List.mem_of_find?_eq_some hfind)

theorem iterate_reach {f : Point → Point} (hf : ∀ p, a.Reach groups p (f p)) (count : Nat)
    (p : Point) : a.Reach groups p (f^[count] p) := by
  induction count generalizing p with
  | zero => exact .refl p
  | succ count ih => exact (hf p).trans (ih (f p))

theorem firstAdvance_cases (hb : a.Bounds groups body) (p : Point) :
    firstAdvance body p = p ∨ p.pos < (firstAdvance body p).pos := by
  have hle := (firstAdvance_reach hb p).le
  unfold firstAdvance at hle ⊢
  cases hfind : (body p).find? fun q => q.pos != p.pos with
  | none => exact .inl rfl
  | some q =>
    have hne : q.pos ≠ p.pos := by simpa using List.find?_some hfind
    rw [hfind] at hle
    exact .inr (Nat.lt_of_le_of_ne hle (Ne.symm hne))

/-- As many advances as the text has characters left come to where there is none. -/
theorem firstAdvance_iterate_fixed (hb : a.Bounds groups body) (hp : p.pos ≤ a.text.size)
    (hc : a.text.size - p.pos ≤ count) :
    firstAdvance body ((firstAdvance body)^[count] p) = (firstAdvance body)^[count] p := by
  induction count generalizing p with
  | zero =>
    have hin := (firstAdvance_reach hb p).inside hp
    refine (firstAdvance_cases hb p).resolve_right fun hlt => ?_
    omega
  | succ count ih =>
    rcases firstAdvance_cases hb p with hfixed | hlt
    · rw [Function.iterate_fixed hfixed]
      exact hfixed
    · have hin := (firstAdvance_reach hb p).inside hp
      exact ih hin (by omega)

theorem firstAdvance_iterate_eq (hb : a.Bounds groups body) (hp : p.pos ≤ a.text.size)
    {more : Nat} (hc : a.text.size - p.pos ≤ count) (hm : count ≤ more) :
    (firstAdvance body)^[more] p = (firstAdvance body)^[count] p := by
  obtain ⟨k, rfl⟩ := Nat.exists_eq_add_of_le' hm
  rw [Function.iterate_add_apply]
  exact Function.iterate_fixed (firstAdvance_iterate_fixed hb hp hc) k

/-- A preferred iteration is an advance, or one that consumes nothing and leads to a point at which it
can be repeated without end. -/
theorem firstChoice_cases (hstill : ∀ p, ∀ q ∈ body p, q.pos = p.pos → body q = body p) (p : Point) :
    firstChoice body p = firstAdvance body p ∨ (firstChoice body p).pos = p.pos ∧
      firstChoice body (firstChoice body p) = firstChoice body p := by
  unfold firstChoice firstAdvance
  cases hbody : body p with
  | nil => exact .inl rfl
  | cons q qs =>
    by_cases hq : q.pos = p.pos
    · have hagain : body q = body p := hstill p q (hbody ▸ List.mem_cons_self) hq
      refine .inr ⟨hq, ?_⟩
      rw [List.head?_cons, Option.getD_some, hagain, hbody]
      rfl
    · rw [List.find?_cons_of_pos (by simpa using hq)]
      exact .inl rfl

/-- If preferring one iteration and more leads to where advancing does, the first one is an advance. -/
theorem firstChoice_of_iterate_eq (hb : a.Bounds groups body)
    (hstill : ∀ p, ∀ q ∈ body p, q.pos = p.pos → body q = body p)
    (h : (firstChoice body)^[count + 1] p = (firstAdvance body)^[count + 1] p) :
    firstChoice body p = firstAdvance body p := by
  rcases firstChoice_cases hstill p with hadvance | ⟨hpos, hagain⟩
  · exact hadvance
  rw [Function.iterate_succ_apply, Function.iterate_succ_apply,
    Function.iterate_fixed hagain] at h
  rcases firstAdvance_cases hb p with hfixed | hlt
  · rw [h, hfixed, Function.iterate_fixed hfixed]
  · -- what has been consumed is not given back
    have hle := (iterate_reach (firstAdvance_reach hb) count (firstAdvance body p)).le
    rw [← h, hpos] at hle
    omega

theorem KeepsOn.iterate_eq (h : KeepsOn body p) (count : Nat) :
    (firstChoice body)^[count] p = (firstAdvance body)^[count] p := by
  induction count with
  | zero => rfl
  | succ count ih =>
    rw [Function.iterate_succ_apply', h count, ih, Function.iterate_succ_apply']

/-- If there are more iterations than there is text to be consumed, preferring them leads to where
advancing does only if each of them is an advance. -/
theorem iterate_eq_iff_keepsOn (hb : a.Bounds groups body)
    (hstill : ∀ p, ∀ q ∈ body p, q.pos = p.pos → body q = body p) (hp : p.pos ≤ a.text.size)
    (hc : a.text.size - p.pos < count) :
    (firstChoice body)^[count] p = (firstAdvance body)^[count] p ↔ KeepsOn body p := by
  refine ⟨fun h => ?_, fun h => h.iterate_eq count⟩
  have hnext : ∀ i < count, (firstChoice body)^[i] p = (firstAdvance body)^[i] p →
      firstChoice body ((firstChoice body)^[i] p) =
        firstAdvance body ((firstChoice body)^[i] p) := by
    intro i hi hsame
    obtain ⟨k, rfl⟩ := Nat.exists_eq_add_of_lt hi
    have hrest : (firstChoice body)^[k + 1] ((firstChoice body)^[i] p) =
        (firstAdvance body)^[k + 1] ((firstChoice body)^[i] p) := by
      rw [← Function.iterate_add_apply, hsame, ← Function.iterate_add_apply,
        show k + 1 + i = i + k + 1 by omega, h]
    exact firstChoice_of_iterate_eq hb hstill hrest
  have hsame : ∀ i ≤ count, (firstChoice body)^[i] p = (firstAdvance body)^[i] p := by
    intro i
    induction i with
    | zero => exact fun _ => rfl
    | succ i ih =>
      intro hi
      have hprev := ih (Nat.le_of_succ_le hi)
      rw [Function.iterate_succ_apply', hnext i hi hprev, hprev, Function.iterate_succ_apply']
  -- before the last of them the text is used up
  obtain ⟨last, rfl⟩ := Nat.exists_eq_add_of_lt (Nat.zero_lt_of_lt hc)
  rw [Nat.zero_add] at *
  have hfixed : firstAdvance body ((firstChoice body)^[last] p) = (firstChoice body)^[last] p := by
    rw [hsame last (Nat.le_succ last)]
    exact firstAdvance_iterate_fixed hb hp (Nat.le_of_lt_succ hc)
  have hrest : firstChoice body ((firstChoice body)^[last] p) = (firstChoice body)^[last] p :=
    (hnext last (Nat.lt_succ_self last) (hsame last (Nat.le_succ last))).trans hfixed
  intro i
  by_cases hi : i ≤ last
  · exact hnext i (Nat.lt_succ_of_le hi) (hsame i (Nat.le_succ_of_le hi))
  · obtain ⟨k, rfl⟩ := Nat.exists_eq_add_of_le' (Nat.le_of_not_le hi)
    rw [Function.iterate_add_apply, Function.iterate_fixed hrest, hrest, hfixed]

end
end RegexInsight
