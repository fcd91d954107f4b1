import RegexInsight.Parser

/-! Reading in steps. A class is read item by item and a pattern step by step; the rest of the reading
starts where a step has ended. -/
namespace RegexInsight
namespace Cursor

variable {c : Cursor} {x : Char}

theorem classMembers_close {unicode : Bool} (found : List ClassMember) (h : c.peek? = some ']') :
    c.classMembers unicode found = .ok (found.reverse, c.next) := by
  rw [classMembers]
  split
  · simp_all
  · rfl
  · rename_i y hne hy
    exact (hne (Option.some.inj (hy.symm.trans h))).elim

theorem classMembers_item {unicode : Bool} {item : List ClassMember} {after : Cursor}
    (found : List ClassMember) (hx : c.peek? = some x) (hne : x ≠ ']')
    (hi : c.classItem unicode = .ok (item, after)) :
    c.classMembers unicode found = after.classMembers unicode (item.reverse ++ found) := by
  rw [classMembers]
  split
  · simp_all
  · rename_i hclose
    exact absurd (Option.some.inj (hx.symm.trans hclose)) hne
  · split <;> simp_all

end Cursor

namespace Reading

/-- Reading comes from one state to another in some steps. -/
inductive Steps (d : Dialect) : Reading → Reading → Prop
  | refl (r : Reading) : Steps d r r
  | step {r s t : Reading} {x : Char} : r.cursor.peek? = some x → r.step d x = .ok s →
    Steps d s t → Steps d r t

variable {d : Dialect} {r s t : Reading}

theorem Steps.single {x : Char} (hx : r.cursor.peek? = some x) (h : r.step d x = .ok s) :
    Steps d r s := .step hx h (.refl s)

theorem Steps.trans (h₁ : Steps d r s) (h₂ : Steps d s t) : Steps d r t := by
  induction h₁ with
  | refl => exact h₂
  | step hx h _ ih => exact .step hx h (ih h₂)

theorem step_atom {x : Char} (hbar : x ≠ '|') (hclose : x ≠ ')') (hopen : x ≠ '(') :
    r.step d x = match r.cursor.atom d x with
      | .error e => .error e
      | .ok (atom, after) =>
        addTerm d atom after r.level (r.noteReference r.cursor.offset atom) := by
  unfold step
  split
  · exact absurd rfl hbar
  · exact absurd rfl hclose
  · exact absurd rfl hopen
  · rfl

theorem Steps.keeps {P : Reading → Prop} (hP : ∀ {r s : Reading} {x : Char}, P r →
    r.cursor.peek? = some x → r.step d x = .ok s → P s) (h : Steps d r s) (hr : P r) : P s := by
  induction h with
  | refl => exact hr
  | step hx hs _ ih => exact ih (hP hr hx hs)

theorem Steps.run_eq (h : Steps d r s) : r.run d = s.run d := by
  induction h with
  | refl => rfl
  | step hx h _ ih =>
    rw [run, ← ih]
    split
    · simp_all
    · rename_i y hy
      obtain rfl := Option.some.inj (hy.symm.trans hx)
      split
      · rename_i he
        simp [h] at he
      · rename_i s' hs
        rw [h] at hs
        cases hs
        rfl

theorem run_of_end (hend : r.cursor.peek? = none) : r.run d = r.finish := by
  rw [run]
  split
  · rfl
  · simp_all

theorem run_eq_ok {tree : PatternTree} :
    r.run d = .ok tree ↔ ∃ s, Steps d r s ∧ s.cursor.peek? = none ∧ s.finish = .ok tree := by
  constructor
  · intro h
    fun_induction run d r with
    | case1 r hx => exact ⟨r, .refl r, hx, h⟩
    | case2 => cases h
    | case3 r x hx s hs ih =>
      obtain ⟨t, ht, hend⟩ := ih h
      exact ⟨t, .step hx hs ht, hend⟩
  · rintro ⟨s, hs, hend, hfinish⟩
    rw [hs.run_eq, run_of_end hend, hfinish]

theorem run_eq_error {e : ParseError} : r.run d = .error e ↔ ∃ s, Steps d r s ∧
    ((∃ x, s.cursor.peek? = some x ∧ s.step d x = .error e) ∨
      s.cursor.peek? = none ∧ s.finish = .error e) := by
  constructor
  · intro h
    fun_induction run d r with
    | case1 r hx => exact ⟨r, .refl r, .inr ⟨hx, h⟩⟩
    | case2 r x hx e' he =>
      cases h
      exact ⟨r, .refl r, .inl ⟨x, hx, he⟩⟩
    | case3 r x hx s hs ih =>
      obtain ⟨t, ht, hend⟩ := ih h
      exact ⟨t, .step hx hs ht, hend⟩
  · rintro ⟨s, hs, ⟨x, hx, he⟩ | ⟨hend, hfinish⟩⟩
    · rw [hs.run_eq, run]
      split
      · simp_all
      · rename_i y hy
        obtain rfl := Option.some.inj (hy.symm.trans hx)
        split <;> simp_all
    · rw [hs.run_eq, run_of_end hend, hfinish]

end Reading
end RegexInsight
