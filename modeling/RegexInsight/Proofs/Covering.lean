import RegexInsight.Proofs.OutcomeBounds

/-! Outcomes compared without regard to their order. One part of a pattern is covered by another if,
wherever both are met, each of its outcomes is an outcome of the other: at the same position and, if
groups matter, with the same groups. They matter where something refers to them. They may not matter
where a lookaround is, which keeps the groups of the outcome that was tried first. -/
namespace RegexInsight

/-- Whether `q` can stand for `p`: at the same position and, if groups matter, with the same groups. -/
structure Point.Like (grouped : Bool) (p q : Point) : Prop where
  pos : q.pos = p.pos
  groups : grouped → q.groups = p.groups

namespace Point.Like

variable {grouped : Bool} {p q : Point}

@[refl] theorem refl (p : Point) : p.Like grouped p := ⟨rfl, fun _ => rfl⟩

theorem symm (h : p.Like grouped q) : q.Like grouped p := ⟨h.pos.symm, fun hg => (h.groups hg).symm⟩

theorem eq (h : p.Like true q) : q = p := by
  cases p
  cases q
  cases h.pos
  cases h.groups rfl
  rfl

theorem at_pos (h : p.Like grouped q) (pos : Nat) :
    ({ p with pos := pos } : Point).Like grouped { q with pos := pos } := ⟨rfl, h.groups⟩

theorem forget (captures : List Capture) (h : p.Like grouped q) :
    (p.forget captures).Like grouped (q.forget captures) := by
  refine ⟨h.pos, fun hg => ?_⟩
  funext i
  simp only [Point.forget, h.groups hg]

theorem setGroup (i : Nat) (span : Option (Nat × Nat)) (h : p.Like grouped q) :
    (p.setGroup i span).Like grouped (q.setGroup i span) := by
  refine ⟨h.pos, fun hg => ?_⟩
  simp only [Point.setGroup, h.groups hg]

end Point.Like

/-- Each outcome of `f` has one of `g` that can stand for it. -/
def Covered (grouped : Bool) (f g : Point → List Point) : Prop :=
  ∀ p p', p.Like grouped p' → ∀ q ∈ f p, ∃ q' ∈ g p', q.Like grouped q'

theorem Attempt.sameText_mono {a a' : Attempt} (htext : a'.text = a.text)
    (hsame : ∀ x y, a.mode.sameChar x y → a'.mode.sameChar x y) {length i j : Nat}
    (h : a.sameText length i j) : a'.sameText length i j := by
  refine List.all_eq_true.mpr fun n hn => ?_
  have hchars := List.all_eq_true.mp h n hn
  rw [htext]
  split at hchars
  · exact hsame _ _ hchars
  · cases hchars

namespace Covered

variable {grouped : Bool} {f f' g g' : Point → List Point} {p p' : Point}

theorem nothing : Covered grouped (fun p => [p]) fun p => [p] := by
  intro p p' hp q hq
  rw [List.mem_singleton.mp hq]
  exact ⟨p', List.mem_singleton_self p', hp⟩

theorem seq (hf : Covered grouped f f') (hg : Covered grouped g g') :
    Covered grouped (fun p => (f p).flatMap g) fun p => (f' p).flatMap g' := by
  intro p p' hp q hq
  obtain ⟨r, hr, hq⟩ := List.mem_flatMap.mp hq
  obtain ⟨r', hr', hlike⟩ := hf p p' hp r hr
  obtain ⟨q', hq', hlike⟩ := hg r r' hlike q hq
  exact ⟨q', List.mem_flatMap.mpr ⟨r', hr', hq'⟩, hlike⟩

theorem choice (hf : Covered grouped f f') (hg : Covered grouped g g') :
    Covered grouped (fun p => f p ++ g p) fun p => f' p ++ g' p := by
  intro p p' hp q hq
  rcases List.mem_append.mp hq with hq | hq
  · obtain ⟨q', hq', hlike⟩ := hf p p' hp q hq
    exact ⟨q', List.mem_append_left _ hq', hlike⟩
  · obtain ⟨q', hq', hlike⟩ := hg p p' hp q hq
    exact ⟨q', List.mem_append_right _ hq', hlike⟩

theorem prefer (greedy greedy' : Bool) (hf : Covered grouped f f') :
    Covered grouped (fun p => RegexInsight.prefer greedy (f p) p)
      fun p => RegexInsight.prefer greedy' (f' p) p := by
  intro p p' hp q hq
  rcases mem_prefer.mp hq with hq | rfl
  · obtain ⟨q', hq', hlike⟩ := hf p p' hp q hq
    exact ⟨q', mem_prefer.mpr (.inl hq'), hlike⟩
  · exact ⟨p', mem_prefer.mpr (.inr rfl), hp⟩

theorem times (hf : Covered grouped f f') (count : Nat) :
    Covered grouped (times f count) (RegexInsight.times f' count) := by
  induction count with
  | zero => exact nothing
  | succ count ih => exact hf.seq ih

theorem advancing (hf : Covered grouped f f') :
    Covered grouped (fun p => (f p).filter fun q => q.pos != p.pos)
      fun p => (f' p).filter fun q => q.pos != p.pos := by
  intro p p' hp q hq
  obtain ⟨hq, hpos⟩ := List.mem_filter.mp hq
  obtain ⟨q', hq', hlike⟩ := hf p p' hp q hq
  refine ⟨q', List.mem_filter.mpr ⟨hq', ?_⟩, hlike⟩
  rw [hlike.pos, hp.pos]
  exact hpos

theorem star (greedy greedy' : Bool) (hf : Covered grouped f f') (count : Nat) :
    Covered grouped (star greedy f count) (RegexInsight.star greedy' f' count) := by
  induction count with
  | zero => exact nothing
  | succ count ih => exact (hf.advancing.seq ih).prefer greedy greedy'

theorem iterations (greedy greedy' : Bool) (hf : Covered grouped f f') (size min : Nat)
    (max : Option Nat) :
    Covered grouped (iterations size min max greedy f)
      (RegexInsight.iterations size min max greedy' f') := by
  cases max with
  | none =>
    refine (hf.times min).seq fun p p' hp q hq => ?_
    rw [hp.pos]
    exact hf.star greedy greedy' _ p p' hp q hq
  | some max => exact (hf.times min).seq ((hf.prefer greedy greedy').times (max - min))

/-- Of two quantifiers with the same bounds the one is covered if what it repeats is, and both forget
the same groups. -/
theorem quantifier {a a' : Attempt} {span span' : Span} {min : Nat} {max : Option Nat}
    {greedy greedy' : Bool} {inner inner' : Element} (htext : a'.text = a.text)
    (hcaptures : inner'.captures = inner.captures)
    (hf : Covered grouped (inner.outcomes a) (inner'.outcomes a')) :
    Covered grouped ((Element.quantifier span min max greedy inner).outcomes a)
      ((Element.quantifier span' min max greedy' inner').outcomes a') := by
  have hbody : Covered grouped (fun p => inner.outcomes a (p.forget inner.captures))
      fun p => inner'.outcomes a' (p.forget inner'.captures) := by
    rw [hcaptures]
    exact fun _ _ hp => hf _ _ (hp.forget inner.captures)
  intro p p' hp q hq
  rw [Element.outcomes] at hq ⊢
  rw [htext]
  exact hbody.iterations greedy greedy' a.text.size min max p p' hp q hq

/-- What a group has matched is known from where it was met and where it was left. -/
theorem group (i : Nat) (hf : Covered grouped f f') :
    Covered grouped (fun p => (f (p.setGroup i none)).map fun q => q.setGroup i (some (p.pos, q.pos)))
      fun p => (f' (p.setGroup i none)).map fun q => q.setGroup i (some (p.pos, q.pos)) := by
  intro p p' hp q hq
  obtain ⟨r, hr, rfl⟩ := List.mem_map.mp hq
  obtain ⟨r', hr', hlike⟩ := hf _ _ (hp.setGroup i none) r hr
  refine ⟨_, List.mem_map.mpr ⟨r', hr', rfl⟩, ?_⟩
  rw [hp.pos, hlike.pos]
  exact hlike.setGroup i _

theorem consume {a a' : Attempt} (htext : a'.text = a.text) {test test' : Char → Bool}
    (htest : ∀ c, test c → test' c) : Covered grouped (a.consume test) (a'.consume test') := by
  intro p p' hp q hq
  obtain ⟨hany, rfl⟩ := Attempt.mem_consume.mp hq
  obtain ⟨c, hc, hholds⟩ := (Option.any_eq_true _ _).mp hany
  refine ⟨{ p' with pos := p'.pos + 1 }, Attempt.mem_consume.mpr ⟨?_, rfl⟩, ?_⟩
  · rw [htext, hp.pos, hc]
    exact htest c hholds
  · rw [hp.pos]
    exact hp.at_pos _

theorem anchor {a a' : Attempt} {span : Span} {anchor : Anchor}
    (hholds : ∀ pos, a.holdsAt pos anchor → a'.holdsAt pos anchor) :
    Covered grouped ((Element.anchor span anchor).outcomes a)
      ((Element.anchor span anchor).outcomes a') := by
  intro p p' hp q hq
  rw [Element.outcomes] at hq ⊢
  split at hq
  · rename_i hat
    rw [hp.pos, if_pos (hholds p.pos hat)]
    exact nothing p p' hp q hq
  · cases hq

/-- A lookaround is covered if the body is found in the one case just if it is in the other. -/
theorem look (negate : Bool) (found found' : Point → Option Point)
    (hfound : ∀ p p', p.Like false p' → ((found p).isSome ↔ (found' p').isSome)) :
    Covered false (fun p => look negate (found p) p) fun p => RegexInsight.look negate (found' p) p := by
  intro p p' hp q hq
  have hsome := hfound p p' hp
  dsimp only at hq ⊢
  cases hfind : found p with
  | none =>
    have hnone : found' p' = none := by simpa [hfind] using hsome
    rw [hfind] at hq
    rw [hnone]
    cases negate
    · cases hq
    · exact nothing p p' hp q hq
  | some r =>
    obtain ⟨r', hr'⟩ : ∃ r', found' p' = some r' :=
      Option.isSome_iff_exists.mp (hsome.mp (by rw [hfind]; rfl))
    rw [hfind] at hq
    rw [hr']
    cases negate
    · obtain rfl : q = _ := List.mem_singleton.mp hq
      exact ⟨_, List.mem_singleton_self _, hp.pos, Bool.noConfusion⟩
    · cases hq

/-- A reference is covered if the characters that are the same in the one case are so in the other. -/
theorem refer (hg : grouped = true) {a a' : Attempt} {span : Span} {target : Reference}
    (htext : a'.text = a.text) (hnames : a'.names = a.names)
    (hsame : ∀ x y, a.mode.sameChar x y → a'.mode.sameChar x y) :
    Covered grouped ((Element.backreference span target).outcomes a)
      ((Element.backreference span target).outcomes a') := by
  subst hg
  intro p p' hp q hq
  obtain rfl := hp.eq
  refine ⟨q, ?_, .refl q⟩
  rw [Element.outcomes, Attempt.refer] at hq ⊢
  rw [hnames]
  split at hq
  · exact hq
  · rename_i first stop _
    split at hq
    · rename_i htexts
      rwa [if_pos (Attempt.sameText_mono htext hsame htexts)]
    · cases hq

theorem head?_isSome (hf : Covered grouped f f') (hp : p.Like grouped p')
    (h : (f p).head?.isSome) : (f' p').head?.isSome := by
  obtain ⟨q, hq⟩ := Option.isSome_iff_exists.mp h
  obtain ⟨q', hq', -⟩ := hf p p' hp q (List.mem_of_mem_head? hq)
  exact List.isSome_head?.mpr (List.ne_nil_of_mem hq')

theorem endingAt (hf : Covered grouped f f') (pos : Nat) :
    Covered grouped (fun p => (f p).filter fun q => q.pos == pos)
      fun p => (f' p).filter fun q => q.pos == pos := by
  intro p p' hp q hq
  obtain ⟨hq, hpos⟩ := List.mem_filter.mp hq
  obtain ⟨q', hq', hlike⟩ := hf p p' hp q hq
  exact ⟨q', List.mem_filter.mpr ⟨hq', by rwa [hlike.pos]⟩, hlike⟩

end Covered

theorem behind_isSome {body : Nat → Option Point} {start : Nat} :
    (behind body start).isSome ↔ ∃ i ≤ start, (body i).isSome := by
  constructor
  · intro h
    obtain ⟨q, hq⟩ := Option.isSome_iff_exists.mp h
    obtain ⟨i, hi, hbody⟩ := Attempt.behind_eq_some hq
    exact ⟨i, hi, by rw [hbody]; rfl⟩
  · rintro ⟨i, hi, hbody⟩
    induction start with
    | zero =>
      obtain rfl := Nat.le_zero.mp hi
      exact hbody
    | succ start ih =>
      rw [behind, Option.isSome_or, Bool.or_eq_true]
      rcases Nat.le_succ_iff.mp hi with hi | rfl
      · exact .inr (ih hi)
      · exact .inl hbody

/-- Each covers the other. -/
def SameOutcomes (grouped : Bool) (f g : Point → List Point) : Prop :=
  Covered grouped f g ∧ Covered grouped g f

namespace SameOutcomes

variable {grouped : Bool} {f f' g g' : Point → List Point}

theorem unchanged (h : Covered grouped f f) : SameOutcomes grouped f f := ⟨h, h⟩

theorem nothing : SameOutcomes grouped (fun p => [p]) fun p => [p] := .unchanged .nothing

theorem seq (hf : SameOutcomes grouped f f') (hg : SameOutcomes grouped g g') :
    SameOutcomes grouped (fun p => (f p).flatMap g) fun p => (f' p).flatMap g' :=
  ⟨hf.1.seq hg.1, hf.2.seq hg.2⟩

theorem choice (hf : SameOutcomes grouped f f') (hg : SameOutcomes grouped g g') :
    SameOutcomes grouped (fun p => f p ++ g p) fun p => f' p ++ g' p :=
  ⟨hf.1.choice hg.1, hf.2.choice hg.2⟩

/-- There is an outcome in the one case just if there is one in the other. -/
theorem head?_isSome (h : SameOutcomes grouped f f') {p p' : Point} (hp : p.Like grouped p') :
    (f p).head?.isSome ↔ (f' p').head?.isSome :=
  ⟨h.1.head?_isSome hp, h.2.head?_isSome hp.symm⟩

theorem ahead (hg : grouped = false) (negate : Bool) (h : SameOutcomes grouped f f') :
    SameOutcomes grouped (fun p => look negate (f p).head? p)
      fun p => look negate (f' p).head? p := by
  subst hg
  exact ⟨.look negate _ _ fun _ _ hp => h.head?_isSome hp,
    .look negate _ _ fun _ _ hp => (h.head?_isSome hp.symm).symm⟩

/-- Whether a body is found by looking back depends on the positions of its outcomes alone. -/
theorem behind_isSome (h : SameOutcomes false f f') {p p' : Point} (hp : p.Like false p') :
    (behind (fun start => (f { p with pos := start }).find? fun q => q.pos == p.pos) p.pos).isSome ↔
      (behind (fun start => (f' { p' with pos := start }).find? fun q => q.pos == p'.pos)
        p'.pos).isSome := by
  rw [RegexInsight.behind_isSome, RegexInsight.behind_isSome, hp.pos]
  refine exists_congr fun start => and_congr_right fun _ => ?_
  rw [← List.head?_filter, ← List.head?_filter]
  exact ⟨(h.1.endingAt p.pos).head?_isSome (hp.at_pos start),
    (h.2.endingAt p.pos).head?_isSome (hp.at_pos start).symm⟩

theorem behind (hg : grouped = false) (negate : Bool) (h : SameOutcomes grouped f f') :
    SameOutcomes grouped
      (fun p => look negate (behind (fun start =>
        (f { p with pos := start }).find? fun q => q.pos == p.pos) p.pos) p)
      fun p => look negate (RegexInsight.behind (fun start =>
        (f' { p with pos := start }).find? fun q => q.pos == p.pos) p.pos) p := by
  subst hg
  let found (f : Point → List Point) (p : Point) := RegexInsight.behind (fun start =>
    (f { p with pos := start }).find? fun q => q.pos == p.pos) p.pos
  exact ⟨.look negate (found f) (found f') fun _ _ hp => h.behind_isSome hp,
    .look negate (found f') (found f) fun _ _ hp => (h.behind_isSome hp.symm).symm⟩

end SameOutcomes
end RegexInsight
