import RegexInsight.Proofs.TreeChecks

/-! Checks that only measure. Where an element passes its check at one place there is nothing in it but
its size that could fail at another, so what is repeated need not be checked again. -/
namespace RegexInsight

theorem fitting_of_le {length : Nat} (h : length ≤ maxProgramLength) : fitting length = .ok length :=
  if_pos h

theorem fitting_of_lt {length : Nat} (h : maxProgramLength < length) :
    fitting length = .error .tooLarge := if_neg (Nat.not_le_of_lt h)

/-- What is asked on the way to a length that is asked for anyway tells nothing more. -/
theorem fitting_bind {length total : Nat} {next : Nat → Except CompileError Nat} (hle : length ≤ total)
    (h : length ≤ maxProgramLength → next length = fitting total) :
    fitting length >>= next = fitting total := by
  rcases Nat.lt_or_ge maxProgramLength length with hlt | hfit
  · rw [fitting_of_lt hlt]
    exact (fitting_of_lt (Nat.lt_of_lt_of_le hlt hle)).symm
  · rw [fitting_of_le hfit]
    exact h hfit

/-- A check that finds nothing wrong but the length. -/
def Measures (check : Nat → Except CompileError Nat) (size : Nat) : Prop :=
  ∀ n ≤ maxProgramLength, check n = fitting (n + size)

namespace Measures

variable {check next : Nat → Except CompileError Nat} {size more : Nat}

theorem room (size : Nat) : Measures (fun n => fitting (n + size)) size := fun _ _ => rfl

theorem ok : Measures .ok 0 := fun _ hn => (fitting_of_le hn).symm

theorem bind (h : Measures check size) (hnext : Measures next more) :
    Measures (fun n => check n >>= next) (size + more) := fun n hn => by
  dsimp only
  rw [h n hn, ← Nat.add_assoc]
  exact fitting_bind (Nat.le_add_right _ _) (hnext _)

end Measures

theorem bind_eq_ok {α β ε : Type} {r : Except ε α} {f : α → Except ε β} {b : β}
    (h : (r >>= f) = .ok b) : ∃ a, r = .ok a ∧ f a = .ok b := by
  cases r with
  | error e => cases h
  | ok a => exact ⟨a, rfl, h⟩

theorem match_eq_bind (r : Except CompileError Nat) (f : Nat → Except CompileError Nat) :
    (match r with
      | .error e => .error e
      | .ok n => f n) = r >>= f := by
  cases r <;> rfl

section
variable (names : List (Option String))

/-- The length behind alternatives that stand between two instructions. -/
def enclosedCheck (branches : List Branch) (n : Nat) : Except CompileError Nat :=
  fitting (n + 1) >>= fun n => branchesCheck names branches n >>= fun n => fitting (n + 1)

/-- The length behind one iteration. -/
def Element.checkCopy (e : Element) (n : Nat) : Except CompileError Nat :=
  fitting (n + (captureSlots e).length) >>= e.check names

theorem Element.check_capture (span : Span) (capture : Capture) (branches : List Branch) :
    (group span (some capture) branches).check names = enclosedCheck names branches :=
  funext fun _ => (match_eq_bind _ _).trans (congrArg _ (funext fun _ => match_eq_bind _ _))

theorem Element.check_look (span : Span) (direction : Direction) (negate : Bool)
    (branches : List Branch) :
    (look span direction negate branches).check names = enclosedCheck names branches :=
  funext fun _ => (match_eq_bind _ _).trans (congrArg _ (funext fun _ => match_eq_bind _ _))

/-- What leads to the first copy is asked for on its own. -/
theorem Element.check_quantifier (span : Span) (min : Nat) {max : Option Nat} (hmax : max ≠ some 0)
    (greedy : Bool) (inner : Element) :
    (quantifier span min max greedy inner).check names = fun n =>
      fitting (n + (if min = 0 then (if max.isNone then 2 else 1) else 0) +
          (captureSlots inner).length) >>= fun start =>
        inner.check names start >>= fun stop =>
          fitting (n + repeatedSize min max (captureSlots inner).length (stop - start)) := by
  funext n
  rw [Element.check, if_neg hmax]
  exact (match_eq_bind _ _).trans (congrArg _ (funext fun _ => match_eq_bind _ _))

theorem elementsCheck_cons (e : Element) (es : List Element) :
    elementsCheck names (e :: es) = fun n => e.check names n >>= elementsCheck names es :=
  funext fun _ => match_eq_bind _ _

theorem branchesCheck_cons_cons (b b' : Branch) (bs : List Branch) :
    branchesCheck names (b :: b' :: bs) = fun n =>
      fitting (n + 1) >>= fun n => b.check names n >>= fun n =>
        fitting (n + 1) >>= branchesCheck names (b' :: bs) :=
  funext fun _ => (match_eq_bind _ _).trans (congrArg _ (funext fun _ =>
    (match_eq_bind _ _).trans (congrArg _ (funext fun _ => match_eq_bind _ _))))

end

namespace Measures

variable {names : List (Option String)} {branches : List Branch} {inner : Element}

theorem enclosed (h : Measures (branchesCheck names branches) (branchesSize branches)) :
    Measures (enclosedCheck names branches) (branchesSize branches + 2) := by
  have hall := (room 1).bind (h.bind (room 1))
  rwa [show 1 + (branchesSize branches + 1) = branchesSize branches + 2 by omega] at hall

theorem quantifier (h : Measures (inner.check names) inner.size) (span : Span) (min : Nat)
    (max : Option Nat) (greedy : Bool) :
    Measures ((Element.quantifier span min max greedy inner).check names)
      (Element.quantifier span min max greedy inner).size := by
  rw [Element.size]
  split
  · subst max
    exact ok
  · rename_i hmax
    rw [Element.check_quantifier names span min hmax]
    intro n hn
    have hle := lead_le_repeatedSize min hmax (captureSlots inner).length inner.size
    refine fitting_bind (by omega) fun hstart => ?_
    rw [h _ hstart]
    refine fitting_bind (by omega) fun _ => ?_
    rw [Nat.add_sub_cancel_left]

end Measures

mutual

/-- An element in which nothing is wrong at one place has nothing wrong with it at any other. -/
theorem Element.measures_of_check (names : List (Option String)) (e : Element) {n stop : Nat}
    (h : e.check names n = .ok stop) : Measures (e.check names) e.size := by
  cases e with
  | char | anchor => exact .room 1
  | set span s =>
    rw [Element.check] at h
    split at h
    · cases h
    · intro n _
      rw [Element.check, if_neg ‹_›, Element.size]
  | bracket span negate members =>
    rw [Element.check] at h
    split at h
    · cases h
    · rename_i hfound
      intro n _
      rw [Element.check, hfound, Element.size]
  | backreference span target =>
    rw [Element.check] at h
    split at h
    · cases h
    · intro n _
      rw [Element.check, if_neg ‹_›, Element.size]
  | group span capture branches =>
    cases capture with
    | none => exact branchesMeasure_of_check names branches h
    | some capture =>
      rw [Element.check_capture] at h ⊢
      obtain ⟨opened, -, h⟩ := bind_eq_ok h
      obtain ⟨after, hbranches, -⟩ := bind_eq_ok h
      exact (branchesMeasure_of_check names branches hbranches).enclosed
  | look span direction negate branches =>
    rw [Element.check_look] at h ⊢
    obtain ⟨opened, -, h⟩ := bind_eq_ok h
    obtain ⟨after, hbranches, -⟩ := bind_eq_ok h
    exact (branchesMeasure_of_check names branches hbranches).enclosed
  | quantifier span min max greedy inner =>
    by_cases hmax : max = some 0
    · subst hmax
      exact .ok
    · rw [Element.check_quantifier names span min hmax] at h
      obtain ⟨start, -, h⟩ := bind_eq_ok h
      obtain ⟨after, hinner, -⟩ := bind_eq_ok h
      exact (Element.measures_of_check names inner hinner).quantifier span min max greedy

theorem Branch.measures_of_check (names : List (Option String)) (b : Branch) {n stop : Nat}
    (h : b.check names n = .ok stop) : Measures (b.check names) b.size := by
  cases b with
  | mk span elements => exact elementsMeasure_of_check names elements h

theorem elementsMeasure_of_check (names : List (Option String)) (es : List Element) {n stop : Nat}
    (h : elementsCheck names es n = .ok stop) : Measures (elementsCheck names es) (elementsSize es) := by
  cases es with
  | nil => exact .ok
  | cons e es =>
    rw [elementsCheck_cons] at h ⊢
    obtain ⟨after, he, hes⟩ := bind_eq_ok h
    exact (Element.measures_of_check names e he).bind (elementsMeasure_of_check names es hes)

theorem branchesMeasure_of_check (names : List (Option String)) (bs : List Branch) {n stop : Nat}
    (h : branchesCheck names bs n = .ok stop) : Measures (branchesCheck names bs) (branchesSize bs) := by
  match bs with
  | [] => exact .ok
  | [b] => exact Branch.measures_of_check names b h
  | b :: b' :: bs =>
    rw [branchesCheck_cons_cons] at h ⊢
    obtain ⟨opened, -, h⟩ := bind_eq_ok h
    obtain ⟨after, hb, h⟩ := bind_eq_ok h
    obtain ⟨closed, -, hbs⟩ := bind_eq_ok h
    have hall := (Measures.room 1).bind ((Branch.measures_of_check names b hb).bind
      ((Measures.room 1).bind (branchesMeasure_of_check names (b' :: bs) hbs)))
    rwa [branchesSize_cons_cons, show b.size + 2 + branchesSize (b' :: bs) =
      1 + (b.size + (1 + branchesSize (b' :: bs))) by omega]

end

/-- A check that finds something wrong wherever it is made. -/
def Rejects (check : Nat → Except CompileError Nat) : Prop := ∀ n stop, check n ≠ .ok stop

theorem bind_of_rejected {r : Except CompileError Nat} (h : ∀ n, r ≠ .ok n)
    (f : Nat → Except CompileError Nat) : r >>= f = r := by
  cases r with
  | error e => rfl
  | ok n => exact absurd rfl (h n)

theorem Rejects.bind {check : Nat → Except CompileError Nat} (h : Rejects check)
    (r : Except CompileError Nat) (stop : Nat) : r >>= check ≠ .ok stop := fun hok => by
  obtain ⟨n, -, hn⟩ := bind_eq_ok hok
  exact h n stop hn

/-- Where the element is rejected, so is its repetition, with what is found in the first copy. -/
theorem Element.check_quantifier_of_rejects (names : List (Option String)) (span : Span) (min : Nat)
    {max : Option Nat} (hmax : max ≠ some 0) (greedy : Bool) {inner : Element}
    (h : Rejects (inner.check names)) (n : Nat) :
    (quantifier span min max greedy inner).check names n =
      fitting (n + if min = 0 then (if max.isNone then 2 else 1) else 0) >>=
        inner.checkCopy names := by
  have hrest : ∀ (rest : Nat → Nat → Except CompileError Nat) (start : Nat),
      inner.check names start >>= rest start = inner.check names start := fun rest start =>
    bind_of_rejected (h start) (rest start)
  rw [check_quantifier names span min hmax]
  dsimp only
  generalize n + (if min = 0 then (if max.isNone then 2 else 1) else 0) = lead
  simp only [hrest fun start stop =>
    fitting (n + repeatedSize min max (captureSlots inner).length (stop - start))]
  unfold checkCopy
  rw [← bind_assoc, fitting_bind (Nat.le_add_right lead (captureSlots inner).length) fun _ => rfl]

end RegexInsight
