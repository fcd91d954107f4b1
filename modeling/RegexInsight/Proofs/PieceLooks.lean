import RegexInsight.Proofs.Pieces

/-! The body of a lookaround, which ends with an instruction that accepts. The run that waits for it
goes on with the slots that the body has left, or with its own, and never with anything in between. -/
namespace RegexInsight
namespace Config

/-- Taking over all slots but the first two, which are the same, takes over all, and going back still
leads to the slots from before. -/
theorem merge_eq {inner : Slots} (count i : Nat) (slots : Slots) (trail : List TrailEntry)
    (hi : i + count = inner.size) (hsize : slots.size = inner.size)
    (hsame : ∀ j < i, slots[j]? = inner[j]?) :
    ∃ trail', merge inner count i slots trail = (inner, trail') ∧
      unwind inner trail' = unwind slots trail := by
  induction count generalizing i slots trail with
  | zero =>
    have heq : slots = inner := by
      apply Array.ext_getElem?
      intro j
      by_cases hj : j < i
      · exact hsame j hj
      · rw [Array.getElem?_eq_none (by omega), Array.getElem?_eq_none (by omega)]
    exact ⟨trail, by rw [merge, heq], by rw [heq]⟩
  | succ count ih =>
    have hslot : slots[i]? = some slots[i] := Array.getElem?_eq_getElem (by omega)
    have hinner : inner[i]? = some inner[i] := Array.getElem?_eq_getElem (by omega)
    rw [merge]
    split
    · rename_i heq
      refine ih (i + 1) slots trail (by omega) hsize fun j hj => ?_
      by_cases hji : j = i
      · subst hji
        rw [hslot, hinner] at heq ⊢
        simpa using heq
      · exact hsame j (by omega)
    · rw [hslot, hinner, Option.join_some, Option.join_some]
      obtain ⟨trail', hm, hu⟩ := ih (i + 1) (slots.setIfInBounds i inner[i])
        (.restore i slots[i] :: trail) (by omega) (by simpa using hsize) fun j hj => by
          by_cases hji : j = i
          · subst hji
            rw [Array.getElem?_setIfInBounds_self_of_lt (by omega), hinner]
          · rw [Array.getElem?_setIfInBounds_ne (Ne.symm hji)]
            exact hsame j (by omega)
      exact ⟨trail', hm, hu.trans (unwind_write hslot trail)⟩

/-- How the run that waits goes on when the body is nowhere found. -/
def missed (w : Waiting) (waiting : List Waiting) : Outcome :=
  if w.negate then .running ⟨w.resume, w.pos, w.slots, w.trail, w.target, waiting⟩
  else backtrack w.slots w.trail w.target waiting

end Config

namespace Machine

variable {m : Machine} {r : Region} {slots : Slots} {w : Waiting} {waiting : List Waiting}

/-- What comes of the body of a lookaround from `o` on. -/
inductive Looks (m : Machine) (r : Region) (slots : Slots) (w : Waiting) (waiting : List Waiting)
    (o : Outcome) : Option Point → Prop
  | found {q : Point} {slots' : Slots} : m.Shows q slots' →
    (∀ i, ¬ r.Holds i → slots'[i]? = slots[i]?) → Settled r.groups slots' →
    m.Leads o (Config.succeed q.pos slots' (w :: waiting)) → Looks m r slots w waiting o (some q)
  | missed : m.Leads o (Config.missed w waiting) → Looks m r slots w waiting o none

theorem Looks.after {o o' : Outcome} {found : Option Point} (hl : m.Leads o o')
    (h : m.Looks r slots w waiting o' found) : m.Looks r slots w waiting o found := by
  cases h with
  | found hs hk hset hl' => exact .found hs hk hset (hl.trans hl')
  | missed hl' => exact .missed (hl.trans hl')

/-- The first outcome that the body may end with is the one that is accepted. -/
theorem Yields.accept {exit : Nat} {target : Option Nat} {fail o : Outcome} {p : Point}
    {ps : List Point} (hi : m.program.insts[exit]? = some .accept)
    (hy : m.Yields exit target (w :: waiting) (m.Moves r p slots) fail o ps) :
    (∃ q, ps.find? (fun q => target.all (· == q.pos)) = some q ∧
        m.Looks r slots w waiting o (some q)) ∨
      ps.find? (fun q => target.all (· == q.pos)) = none ∧ m.Leads o fail := by
  induction hy with
  | done hl => exact .inr ⟨rfl, hl⟩
  | @next o q ps slots' trail hl hm _ ih =>
    have hstep : Config.step m.program m.mode m.text
        ⟨exit, q.pos, slots', trail, target, w :: waiting⟩ = _ := Config.step_accept hi
    rw [List.find?_cons]
    cases hq : target.all (· == q.pos) with
    | true =>
      rw [hq] at hstep
      exact .inl ⟨q, rfl, .found hm.shows hm.kept hm.settled (hl.trans (.single hstep))⟩
    | false =>
      rw [hq] at hstep
      have hback := hl.trans (.single hstep)
      rcases ih with ⟨u, hu, hlooks⟩ | ⟨hnone, hfail⟩
      · exact .inl ⟨u, hu, hlooks.after hback⟩
      · exact .inr ⟨hnone, hback.trans hfail⟩

/-- A run that has waited for a body takes over the slots that the body has left, and going back still
leads to those that it had. -/
theorem Shows.merged {p q : Point} {slots' : Slots} (hp : m.Shows p slots) (hr : r.Fits m.program)
    (hq : m.Shows q slots') (hkept : ∀ i, ¬ r.Holds i → slots'[i]? = slots[i]?)
    (entry stop pos start : Nat) (behind : Bool) (trail : List TrailEntry) (target : Option Nat)
    (waiting : List Waiting) :
    ∃ trail', Config.succeed q.pos slots'
        (⟨entry, behind, false, stop, pos, start, slots, trail, target⟩ :: waiting) =
          .running ⟨stop, pos, slots', trail', target, waiting⟩ ∧
      Config.backtrack slots' trail' target waiting = Config.backtrack slots trail target waiting := by
  obtain ⟨h₀, h₁⟩ := hr.not_holds (Nat.zero_le _) fun h => absurd (hr.groups 0 h).1 (by decide)
  have hlow := hr.low
  have horder := hr.order
  have hhigh := hr.high
  have hsize := hq.size
  obtain ⟨trail', hm, hu⟩ := Config.merge_eq (slots'.size - 2) 2 slots trail (by omega)
    (hp.size.trans hq.size.symm) fun j hj => by
      obtain rfl | rfl : j = 0 ∨ j = 1 := by omega
      · exact (hkept 0 h₀).symm
      · exact (hkept 1 h₁).symm
  exact ⟨trail', by simp [Config.succeed, hm], Config.backtrack_of_unwind hu _ _⟩

/-- How the run that waited goes on. What the body has captured is kept if it was looked for. -/
theorem Looks.yields {entry stop : Nat} {behind negate : Bool} {p : Point} {found : Option Point}
    {trail : List TrailEntry} {target : Option Nat} {o : Outcome} (hr : r.Fits m.program)
    (hp : m.Shows p slots) (hset : Settled r.groups slots)
    (h : m.Looks r slots ⟨entry, behind, negate, stop, p.pos, p.pos, slots, trail, target⟩ waiting o
      found) :
    m.Yields stop target waiting (m.Moves r p slots) (Config.backtrack slots trail target waiting) o
      (look negate found p) := by
  cases h with
  | missed hl =>
    cases negate with
    | true => exact .once hl (hp.moves hset) rfl
    | false => exact .done hl
  | @found q slots' hs hk hset' hl =>
    cases negate with
    | true => exact .done hl
    | false =>
      obtain ⟨trail', hnext, hback⟩ := hp.merged hr hs hk entry stop p.pos p.pos behind trail target
        waiting
      have hmove : m.Moves r p slots { p with groups := q.groups } slots' :=
        ⟨hs.at hp.pos, Nat.le_refl _, hk, hset'⟩
      exact .once (hnext ▸ hl) hmove hback

section
variable {groups : List Nat} {entry stop : Nat} {negate : Bool} {f : Point → List Point}

theorem Performs.ahead (hr : r.Fits m.program)
    (hi : m.program.insts[entry]? = some (.look false negate (stop + 1)))
    (ha : m.program.insts[stop]? = some .accept)
    (hb : m.Performs r groups (entry + 1) stop f) :
    m.Performs r groups entry (stop + 1) fun p => look negate (f p).head? p := by
  intro p slots trail target waiting hp hset hun
  have hfind : (f p).find? (fun q => (none : Option Nat).all (· == q.pos)) = (f p).head? := by
    cases f p <;> rfl
  have hlooks : m.Looks r slots
      ⟨entry + 1, false, negate, stop + 1, p.pos, p.pos, slots, trail, target⟩ waiting
      (.running ⟨entry, p.pos, slots, trail, target, waiting⟩) (f p).head? := by
    refine .after (.single (Config.step_look hi)) ?_
    rcases (hb p slots [] none _ hp hset hun).accept ha with ⟨q, hq, hlooks⟩ | ⟨hnone, hfail⟩
    · rw [← hfind, hq]
      exact hlooks
    · rw [← hfind, hnone]
      exact .missed hfail
  exact hlooks.yields hr hp hset

/-- The body of a lookbehind from one start. It is found if it may end where the run waits. -/
theorem Performs.behindAt (ha : m.program.insts[stop]? = some .accept)
    (hb : m.Performs r groups (entry + 1) stop f) {p : Point} (hp : m.Shows p slots)
    (hset : Settled r.groups slots) (hun : Unset groups p) (negate : Bool) (trail : List TrailEntry)
    (target : Option Nat) (waiting : List Waiting) {start : Nat} (hs : start ≤ p.pos) :
    let w : Waiting := ⟨entry + 1, true, negate, stop + 1, p.pos, start, slots, trail, target⟩
    let o : Outcome := .running ⟨entry + 1, start, slots, [], some p.pos, w :: waiting⟩
    let found := (f { p with pos := start }).find? fun q => q.pos == p.pos
    (∃ q, found = some q ∧
        m.Looks r slots ⟨entry + 1, true, negate, stop + 1, p.pos, p.pos, slots, trail, target⟩
          waiting o (some q)) ∨
      found = none ∧ m.Leads o (Config.backtrack slots [] (some p.pos) (w :: waiting)) := by
  intro w o found
  have hfind : (f { p with pos := start }).find? (fun q => (some p.pos).all (· == q.pos)) =
      found := by
    refine congrArg (fun stops => List.find? stops _) (funext fun q => ?_)
    exact Bool.beq_comm
  have hyields := (hb { p with pos := start } slots [] (some p.pos) (w :: waiting)
    (hp.at (Nat.le_trans hs hp.pos)) hset hun).accept ha
  rw [hfind] at hyields
  rcases hyields with ⟨q, hq, hlooks⟩ | hnone
  · refine .inl ⟨q, hq, ?_⟩
    cases hlooks with
    | found hshows hk hset' hl => exact .found hshows hk hset' hl
  · exact .inr hnone

/-- The starts are tried from `start` downwards. -/
theorem Performs.behindFrom (ha : m.program.insts[stop]? = some .accept)
    (hb : m.Performs r groups (entry + 1) stop f) {p : Point} (hp : m.Shows p slots)
    (hset : Settled r.groups slots) (hun : Unset groups p) (negate : Bool) (trail : List TrailEntry)
    (target : Option Nat) (waiting : List Waiting) (start : Nat) (hs : start ≤ p.pos) :
    m.Looks r slots ⟨entry + 1, true, negate, stop + 1, p.pos, p.pos, slots, trail, target⟩ waiting
      (.running ⟨entry + 1, start, slots, [], some p.pos,
        ⟨entry + 1, true, negate, stop + 1, p.pos, start, slots, trail, target⟩ :: waiting⟩)
      (RegexInsight.behind (fun start =>
        (f { p with pos := start }).find? fun q => q.pos == p.pos) start) := by
  induction start with
  | zero =>
    rw [RegexInsight.behind]
    rcases hb.behindAt ha hp hset hun negate trail target waiting hs with
      ⟨q, hq, hlooks⟩ | ⟨hnone, hfail⟩
    · rw [hq]
      exact hlooks
    · rw [hnone]
      exact .missed hfail
  | succ start ih =>
    rw [RegexInsight.behind]
    rcases hb.behindAt ha hp hset hun negate trail target waiting hs with
      ⟨q, hq, hlooks⟩ | ⟨hnone, hfail⟩
    · rw [hq, Option.some_or]
      exact hlooks
    · rw [hnone, Option.none_or]
      exact .after hfail (ih (Nat.le_of_succ_le hs))

theorem Performs.behind (hr : r.Fits m.program)
    (hi : m.program.insts[entry]? = some (.look true negate (stop + 1)))
    (ha : m.program.insts[stop]? = some .accept)
    (hb : m.Performs r groups (entry + 1) stop f) :
    m.Performs r groups entry (stop + 1) fun p => look negate (RegexInsight.behind (fun start =>
      (f { p with pos := start }).find? fun q => q.pos == p.pos) p.pos) p := by
  intro p slots trail target waiting hp hset hun
  have hlooks := hb.behindFrom ha hp hset hun negate trail target waiting p.pos (Nat.le_refl _)
  exact .after (.single (Config.step_look hi)) (hlooks.yields hr hp hset)

end
end Machine
end RegexInsight
