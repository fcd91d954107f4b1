import Mathlib.Data.List.Basic
import RegexInsight.Machine
import RegexInsight.Proofs.Outcomes

/-! How the machine goes through the outcomes of a piece of code. It comes to the end of the piece
once for each outcome, in their order, where each time but the first it was sent back from there;
after the last outcome it goes back to what was left before the piece. The slots are then what they
were, since the trail restores them. -/
namespace RegexInsight
namespace Config

@[simp] theorem backtrack_resume (slots : Slots) (pc pos : Nat) (trail : List TrailEntry)
    (target : Option Nat) (waiting : List Waiting) :
    backtrack slots (.resume pc pos :: trail) target waiting =
      .running ⟨pc, pos, slots, trail, target, waiting⟩ := by
  cases waiting <;> rfl

theorem backtrack_of_unwind {slots slots' : Slots} {trail trail' : List TrailEntry}
    (h : unwind slots trail = unwind slots' trail') (target : Option Nat)
    (waiting : List Waiting) :
    backtrack slots trail target waiting = backtrack slots' trail' target waiting := by
  unfold backtrack
  rw [h]

theorem setIfInBounds_same {slots : Slots} {i : Nat} {old : Option Nat} (h : slots[i]? = some old) :
    slots.setIfInBounds i old = slots := by
  apply Array.ext_getElem?
  intro j
  by_cases hij : i = j
  · subst hij
    rw [h, Array.getElem?_setIfInBounds_self_of_lt (Array.getElem?_eq_some_iff.mp h).1]
  · rw [Array.getElem?_setIfInBounds_ne hij]

theorem setIfInBounds_back {slots : Slots} {i : Nat} {old new : Option Nat}
    (h : slots[i]? = some old) : (slots.setIfInBounds i new).setIfInBounds i old = slots := by
  rw [Array.setIfInBounds_setIfInBounds, setIfInBounds_same h]

theorem unwind_write {slots : Slots} {i : Nat} {old new : Option Nat} (h : slots[i]? = some old)
    (trail : List TrailEntry) :
    unwind (slots.setIfInBounds i new) (.restore i old :: trail) = unwind slots trail := by
  rw [unwind, setIfInBounds_back h]

theorem backtrack_write {slots : Slots} {i : Nat} {old new : Option Nat} (h : slots[i]? = some old)
    (trail : List TrailEntry) (target : Option Nat) (waiting : List Waiting) :
    backtrack (slots.setIfInBounds i new) (.restore i old :: trail) target waiting =
      backtrack slots trail target waiting := backtrack_of_unwind (unwind_write h trail) _ _

section
variable {program : Program} {mode : Mode} {text : Array Char} {pc pos : Nat} {slots : Slots}
  {trail : List TrailEntry} {target : Option Nat} {waiting : List Waiting}

theorem step_consume {inst : Inst} {test : Char → Bool} (hi : program.insts[pc]? = some inst)
    (ht : (∃ value, inst = .char value ∧ test = (mode.sameChar · value)) ∨
      (∃ set negate, inst = .set set negate ∧ test = fun x => set.holds mode x != negate) ∨
      ∃ items negate, inst = .bracket items negate ∧ test = fun x => mode.anyItem items x != negate) :
    step program mode text ⟨pc, pos, slots, trail, target, waiting⟩ =
      if text[pos]?.any test then .running ⟨pc + 1, pos + 1, slots, trail, target, waiting⟩
      else backtrack slots trail target waiting := by
  rcases ht with ⟨_, rfl, rfl⟩ | ⟨_, _, rfl, rfl⟩ | ⟨_, _, rfl, rfl⟩ <;>
    simp only [step, hi, consumeIf]

theorem step_continue {inst : Inst} {test : Option Bool} (hi : program.insts[pc]? = some inst)
    (ht : (inst = .assertStart ∧ test = atLineStart? mode text pos) ∨
      (inst = .assertEnd ∧ test = atLineEnd? mode text pos) ∨
      (∃ negate, inst = .wordBoundary negate ∧
        test = (atWordBoundary? text pos).map (· != negate)) ∨
      ∃ slot, inst = .checkProgress slot ∧ test = slots[slot]?.map (· != some pos)) :
    step program mode text ⟨pc, pos, slots, trail, target, waiting⟩ =
      continueIf test ⟨pc, pos, slots, trail, target, waiting⟩ := by
  rcases ht with ⟨rfl, rfl⟩ | ⟨rfl, rfl⟩ | ⟨_, rfl, rfl⟩ | ⟨_, rfl, rfl⟩ <;> simp only [step, hi]

theorem step_accept (hi : program.insts[pc]? = some .accept) :
    step program mode text ⟨pc, pos, slots, trail, target, waiting⟩ =
      if target.all (· == pos) then succeed pos slots waiting
      else backtrack slots trail target waiting := by
  simp only [step, hi]

theorem step_jump {next : Nat} (hi : program.insts[pc]? = some (.jump next)) :
    step program mode text ⟨pc, pos, slots, trail, target, waiting⟩ =
      .running ⟨next, pos, slots, trail, target, waiting⟩ := by
  simp only [step, hi]

theorem step_split {first second : Nat} (hi : program.insts[pc]? = some (.split first second)) :
    step program mode text ⟨pc, pos, slots, trail, target, waiting⟩ =
      .running ⟨first, pos, slots, .resume second pos :: trail, target, waiting⟩ := by
  simp only [step, hi]

theorem step_save {slot : Nat} {old : Option Nat} (hi : program.insts[pc]? = some (.save slot))
    (hs : slots[slot]? = some old) :
    step program mode text ⟨pc, pos, slots, trail, target, waiting⟩ =
      .running ⟨pc + 1, pos, slots.setIfInBounds slot (some pos), .restore slot old :: trail,
        target, waiting⟩ := by
  simp only [step, hi, hs]

/-- A slot that is cleared is restored by going back, whether it was set or not. -/
theorem step_clear {pc slot : Nat} {slots : Slots} (mode : Mode) (text : Array Char) (pos : Nat)
    (trail : List TrailEntry) (target : Option Nat) (waiting : List Waiting) (hi : program.insts[pc]? = some (.clear slot))
    (hs : slot < slots.size) :
    ∃ trail', step program mode text ⟨pc, pos, slots, trail, target, waiting⟩ =
        .running ⟨pc + 1, pos, slots.setIfInBounds slot none, trail', target, waiting⟩ ∧
      backtrack (slots.setIfInBounds slot none) trail' target waiting =
        backtrack slots trail target waiting := by
  have hget : slots[slot]? = some slots[slot] := Array.getElem?_eq_getElem hs
  cases hold : slots[slot] with
  | none =>
    rw [hold] at hget
    refine ⟨trail, ?_, by rw [setIfInBounds_same hget]⟩
    simp only [step, hi, hget, setIfInBounds_same hget]
  | some old =>
    rw [hold] at hget
    refine ⟨.restore slot (some old) :: trail, ?_, backtrack_write hget _ _ _⟩
    simp only [step, hi, hget]

theorem step_refer {group length : Nat} (hi : program.insts[pc]? = some (.backreference group))
    (hl : referenceLength? mode text slots group pos = some (some length)) :
    step program mode text ⟨pc, pos, slots, trail, target, waiting⟩ =
      .running ⟨pc + 1, pos + length, slots, trail, target, waiting⟩ := by
  simp only [step, hi, hl]

theorem step_refer_fails {group : Nat} (hi : program.insts[pc]? = some (.backreference group))
    (hl : referenceLength? mode text slots group pos = some none) :
    step program mode text ⟨pc, pos, slots, trail, target, waiting⟩ =
      backtrack slots trail target waiting := by
  simp only [step, hi, hl]

theorem step_look {behind negate : Bool} {resume : Nat}
    (hi : program.insts[pc]? = some (.look behind negate resume)) :
    step program mode text ⟨pc, pos, slots, trail, target, waiting⟩ =
      .running ⟨pc + 1, pos, slots, [], if behind then some pos else none,
        ⟨pc + 1, behind, negate, resume, pos, pos, slots, trail, target⟩ :: waiting⟩ := by
  simp only [step, hi]

end
end Config

namespace Machine

/-- The machine goes from one state to the other in some number of steps. -/
inductive Leads (m : Machine) : Outcome → Outcome → Prop
  | refl (o : Outcome) : Leads m o o
  | step {c : Config} {o : Outcome} :
    Leads m (c.step m.program m.mode m.text) o → Leads m (.running c) o

variable {m : Machine}

theorem Leads.trans {a b c : Outcome} (h₁ : m.Leads a b) (h₂ : m.Leads b c) : m.Leads a c := by
  induction h₁ with
  | refl => exact h₂
  | step _ ih => exact .step (ih h₂)

theorem Leads.single {c : Config} {o : Outcome} (h : c.step m.program m.mode m.text = o) :
    m.Leads (.running c) o := .step (h ▸ .refl _)

/-- What a function of a limit comes to: an error below some limit, and `a` from there on. -/
def Settles {α : Type} (f : Nat → Except RunError α) (a : α) : Prop :=
  ∃ least, (∀ limit < least, f limit = .error .stepLimit) ∧ ∀ limit ≥ least, f limit = .ok a

theorem Settles.pure {α : Type} (a : α) : Settles (fun _ => .ok a) a :=
  ⟨0, fun _ h => absurd h (Nat.not_lt_zero _), fun _ _ => rfl⟩

theorem Settles.cases {α : Type} {f : Nat → Except RunError α} {a : α} (h : Settles f a)
    (limit : Nat) : f limit = .error .stepLimit ∨ f limit = .ok a := by
  obtain ⟨least, hlow, hhigh⟩ := h
  exact (Nat.lt_or_ge limit least).imp (hlow limit) (hhigh limit)

/-- Two limits next to each other show where the answer begins. -/
theorem Settles.begins {α : Type} {f : Nat → Except RunError α} {a b : α} {last : Nat} (h : Settles f a)
    (hlast : (f last).toOption = none) (hfirst : (f (last + 1)).toOption = some b) :
    (∀ limit < last + 1, f limit = .error .stepLimit) ∧ ∀ limit ≥ last + 1, f limit = .ok b := by
  obtain ⟨least, hlow, hhigh⟩ := h
  have hlt : last < least := by
    by_contra hle
    rw [hhigh last (Nat.le_of_not_lt hle)] at hlast
    cases hlast
  have hle : least ≤ last + 1 := by
    by_contra hlt
    rw [hlow _ (Nat.lt_of_not_le hlt)] at hfirst
    cases hfirst
  obtain rfl : a = b := by
    rw [hhigh _ hle] at hfirst
    exact Option.some.inj hfirst
  exact ⟨fun limit hl => hlow limit (Nat.lt_of_lt_of_le hl hlt),
    fun limit hl => hhigh limit (Nat.le_trans hle hl)⟩

/-- Of two parts the one that needs more decides. -/
theorem Settles.bind {α β : Type} {f : Nat → Except RunError α} {g : Nat → α → Except RunError β}
    {a : α} {b : β} (hf : Settles f a) (hg : Settles (fun limit => g limit a) b) :
    Settles (fun limit => (f limit).bind (g limit)) b := by
  obtain ⟨least₁, hlow₁, hhigh₁⟩ := hf
  obtain ⟨least₂, hlow₂, hhigh₂⟩ := hg
  refine ⟨max least₁ least₂, fun limit hl => ?_, fun limit hl => ?_⟩
  · dsimp only
    by_cases h : limit < least₁
    · rw [hlow₁ limit h]
      rfl
    · rw [hhigh₁ limit (by omega)]
      exact hlow₂ limit (by omega)
  · dsimp only
    rw [hhigh₁ limit (by omega)]
    exact hhigh₂ limit (by omega)

/-- The answer that a last state gives. -/
inductive Gives : Outcome → Option (Nat × Slots) → Prop
  | matched (stop : Nat) (slots : Slots) : Gives (.matched stop slots) (some (stop, slots))
  | failed (slots : Slots) : Gives (.failed slots) none

/-- A run that comes to a last state takes a certain number of steps to it. -/
theorem Leads.settles {c : Config} {o : Outcome} {a : Option (Nat × Slots)}
    (h : m.Leads (.running c) o) (ha : Gives o a) : Settles (fun limit => m.run limit c) a := by
  generalize hc : Outcome.running c = first at h
  induction h generalizing c with
  | refl => subst hc; cases ha
  | @step c' o hl ih =>
    cases hc
    cases hs : c'.step m.program m.mode m.text with
    | running next =>
      obtain ⟨least, hlow, hhigh⟩ := ih ha hs.symm
      refine ⟨least + 1, fun limit hl => ?_, fun limit hl => ?_⟩
      · cases limit with
        | zero => rfl
        | succ limit =>
          simp only [run, hs]
          exact hlow limit (by omega)
      · obtain ⟨limit, rfl⟩ : ∃ n, limit = n + 1 := ⟨limit - 1, by omega⟩
        simp only [run, hs]
        exact hhigh limit (by omega)
    | stuck =>
      rw [hs] at hl
      cases hl
      cases ha
    | matched | failed =>
      rw [hs] at hl
      cases hl
      cases ha
      refine ⟨1, fun limit hl => ?_, fun limit hl => ?_⟩
      · obtain rfl : limit = 0 := by omega
        rfl
      · obtain ⟨limit, rfl⟩ : ∃ n, limit = n + 1 := ⟨limit - 1, by omega⟩
        simp only [run, hs]

/-- From `o` on the machine comes to `exit` once for each point of the list, with slots that are
`Good` for it, and goes on at `fail` when it is sent back from the last. -/
inductive Yields (m : Machine) (exit : Nat) (target : Option Nat) (waiting : List Waiting)
    (Good : Point → Slots → Prop) (fail : Outcome) : Outcome → List Point → Prop
  | done {o : Outcome} : m.Leads o fail → Yields m exit target waiting Good fail o []
  | next {o : Outcome} {p : Point} {ps : List Point} {slots : Slots} {trail : List TrailEntry} :
    m.Leads o (.running ⟨exit, p.pos, slots, trail, target, waiting⟩) → Good p slots →
    Yields m exit target waiting Good fail (Config.backtrack slots trail target waiting) ps →
    Yields m exit target waiting Good fail o (p :: ps)

section
variable {exit : Nat} {target : Option Nat} {waiting : List Waiting} {Good : Point → Slots → Prop}
  {fail o o' : Outcome} {ps qs : List Point}

theorem Yields.after (h : m.Leads o o') (hy : m.Yields exit target waiting Good fail o' ps) :
    m.Yields exit target waiting Good fail o ps := by
  cases hy with
  | done hl => exact .done (h.trans hl)
  | next hl hg hy => exact .next (h.trans hl) hg hy

theorem Yields.mono {Better : Point → Slots → Prop} (hg : ∀ p slots, Good p slots → Better p slots)
    (hy : m.Yields exit target waiting Good fail o ps) :
    m.Yields exit target waiting Better fail o ps := by
  induction hy with
  | done hl => exact .done hl
  | next hl h _ ih => exact .next hl (hg _ _ h) ih

/-- Where one piece fails the next one is tried. -/
theorem Yields.append {middle : Outcome} (h₁ : m.Yields exit target waiting Good middle o ps)
    (h₂ : m.Yields exit target waiting Good fail middle qs) :
    m.Yields exit target waiting Good fail o (ps ++ qs) := by
  induction h₁ with
  | done hl => exact h₂.after hl
  | next hl hg _ ih => exact .next hl hg ih

theorem Yields.bind {Next : Point → Slots → Prop} {exit' : Nat} {f : Point → List Point}
    (hy : m.Yields exit target waiting Good fail o ps)
    (hf : ∀ p slots trail, Good p slots → m.Yields exit' target waiting Next
      (Config.backtrack slots trail target waiting)
      (.running ⟨exit, p.pos, slots, trail, target, waiting⟩) (f p)) :
    m.Yields exit' target waiting Next fail o (ps.flatMap f) := by
  induction hy with
  | done hl => exact .done hl
  | next hl hg _ ih => exact ((hf _ _ _ hg).after hl).append ih

theorem Yields.once {p : Point} {slots : Slots} {trail : List TrailEntry}
    (hl : m.Leads o (.running ⟨exit, p.pos, slots, trail, target, waiting⟩)) (hg : Good p slots)
    (hb : Config.backtrack slots trail target waiting = fail) :
    m.Yields exit target waiting Good fail o [p] := .next hl hg (.done (hb ▸ .refl _))

end
end Machine
end RegexInsight
