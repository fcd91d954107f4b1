import RegexInsight.Proofs.GroupScan
import RegexInsight.Proofs.Steps

/-! Reading by recursive descent. Read with calls in place of the stack of open groups, a pattern has two
more ways to be refused: an atom may be asked for where the text ends, and the list of alternatives may
stop in front of a character that is no bracket. Neither happens, and both ways of reading come to the
same answer. -/
namespace RegexInsight

structure Descent where
  cursor : Cursor
  names : Array (Option String)
  references : List (String × Nat)

/-- Why a descent ends early. The last case is a depth that did not suffice. -/
inductive DescentError where
  | fault (error : ParseError)
  | unexpectedChar (x : Char) (offset : Nat)
  | unexpectedEnd (offset : Nat)
  | tooDeep

def DescentError.message : DescentError → String
  | fault error => error.fault.message
  | unexpectedChar x _ => "Unexpected character '" ++ x.toString ++ "'"
  | unexpectedEnd _ => "Unexpected end of pattern"
  | tooDeep => ""

namespace DescentError

theorem unexpectedEnd_message (offset : Nat) :
    (unexpectedEnd offset).message.toList.take 3 = ['U', 'n', 'e'] := by
  change "Unexpected end of pattern".toList.take 3 = _
  decide

theorem unexpectedChar_message (x : Char) (offset : Nat) :
    (unexpectedChar x offset).message.toList.take 3 = ['U', 'n', 'e'] := by
  have hstart : "Unexpected character '".toList.take 3 = ['U', 'n', 'e'] := by decide
  have hlength : 3 ≤ "Unexpected character '".toList.length := by decide
  change ("Unexpected character '" ++ x.toString ++ "'").toList.take 3 = _
  simp only [String.toList_append, List.append_assoc, List.take_append_of_le_length hlength, hstart]

end DescentError

namespace Descent

def ofText (cs : List Char) : Descent := ⟨.ofText cs, #[], []⟩

def left (s : Descent) : Nat := s.cursor.rest.length

/-- Keeps the name that `e`, read at character `offset`, refers to. -/
def noteReference (offset : Nat) (e : Element) (s : Descent) : Descent :=
  match e with
  | .backreference _ (.name name) => { s with references := (name, offset) :: s.references }
  | _ => s

def opened (s : Descent) : Except ParseError (Shell × Descent) :=
  match s.cursor.opening s.names.size with
  | .error e => .error e
  | .ok (shell, inside) =>
    match shell with
    | .group (some capture) =>
      if capture.name.isSome && s.names.contains capture.name then
        .error ⟨.duplicateName, s.cursor.offset⟩
      else .ok (shell, ⟨inside, s.names.push capture.name, s.references⟩)
    | _ => .ok (shell, ⟨inside, s.names, s.references⟩)

mutual

def alternatives (d : Dialect) : Nat → Descent → Except DescentError (List Branch × Descent)
  | 0, _ => .error .tooDeep
  | depth + 1, s =>
    match terms d depth s with
    | .error e => .error e
    | .ok (elements, t) =>
      let branch : Branch := .mk ⟨s.cursor.byte, t.cursor.byte⟩ elements
      match t.cursor.eat? '|' with
      | none => .ok ([branch], t)
      | some after =>
        match alternatives d depth { t with cursor := after } with
        | .error e => .error e
        | .ok (branches, u) => .ok (branch :: branches, u)

def terms (d : Dialect) : Nat → Descent → Except DescentError (List Element × Descent)
  | 0, _ => .error .tooDeep
  | depth + 1, s =>
    if s.cursor.peek? ∈ [none, some '|', some ')'] then .ok ([], s)
    else match term d depth s with
      | .error e => .error e
      | .ok (element, t) =>
        match terms d depth t with
        | .error e => .error e
        | .ok (elements, u) => .ok (element :: elements, u)

def term (d : Dialect) : Nat → Descent → Except DescentError (Element × Descent)
  | 0, _ => .error .tooDeep
  | depth + 1, s =>
    match atom d depth s with
    | .error e => .error e
    | .ok (atom, t) =>
      match atom.withQuantifier d.unicode t.cursor with
      | .error e => .error (.fault e)
      | .ok (element, after) => .ok (element, { t with cursor := after })

def atom (d : Dialect) : Nat → Descent → Except DescentError (Element × Descent)
  | 0, _ => .error .tooDeep
  | depth + 1, s =>
    match s.cursor.peek? with
    | none => .error (.unexpectedEnd s.cursor.offset)
    | some '(' => group d depth s
    | some x =>
      match s.cursor.atom d x with
      | .error e => .error (.fault e)
      | .ok (atom, after) =>
        .ok (atom, { s.noteReference s.cursor.offset atom with cursor := after })

def group (d : Dialect) : Nat → Descent → Except DescentError (Element × Descent)
  | 0, _ => .error .tooDeep
  | depth + 1, s =>
    match s.opened with
    | .error e => .error (.fault e)
    | .ok (shell, inside) =>
      match alternatives d depth inside with
      | .error e => .error e
      | .ok (branches, t) =>
        match t.cursor.eat? ')' with
        | none => .error (.fault ⟨.unterminatedGroup, t.cursor.offset⟩)
        | some after =>
          .ok (shell.element ⟨s.cursor.byte, after.byte⟩ branches, { t with cursor := after })

end

/-- Each character that is read takes five calls at most, and so does the end. -/
def depthOf (s : Descent) : Nat := 5 * s.left + 5

def pattern (unicode : Bool) (source : List Char) : Except DescentError PatternTree :=
  match alternatives ⟨unicode, .ofText source⟩ (ofText source).depthOf (ofText source) with
  | .error e => .error e
  | .ok (branches, s) =>
    match s.cursor.peek? with
    | some ')' => .error (.fault ⟨.unmatchedParen, s.cursor.offset⟩)
    | some x => .error (.unexpectedChar x s.cursor.offset)
    | none =>
      match s.references.reverse.find? fun (name, _) => !s.names.contains (some name) with
      | some (_, offset) => .error (.fault ⟨.unknownName, offset⟩)
      | none => .ok ⟨⟨⟨0, s.cursor.byte⟩, branches⟩, s.names.toList⟩

variable {d : Dialect} {s t : Descent} {level : Level}
  {groups : List OpenGroup} {after : Cursor}

theorem peek?_ne {c : Cursor} {x : Char} (h : c.eat? x = none) : c.peek? ≠ some x := by
  intro hx
  simp [Cursor.eat?, hx] at h

/-- The state of reading that the descent stands for inside the open groups. -/
def reading (s : Descent) (level : Level) (groups : List OpenGroup) : Reading :=
  ⟨s.cursor, s.names, s.references, level, groups⟩

theorem noteReference_reading (offset : Nat) (e : Element) (s : Descent) :
    (s.reading level groups).noteReference offset e =
      (s.noteReference offset e).reading level groups := by
  cases e with
  | backreference span target => cases target <;> rfl
  | _ => rfl

theorem openGroup_reading (s : Descent) : (s.reading level groups).openGroup =
    s.opened.map fun (shell, inside) =>
      inside.reading (.empty inside.cursor.byte) (⟨s.cursor.byte, shell, level⟩ :: groups) := by
  simp only [Reading.openGroup, opened, reading]
  cases s.cursor.opening s.names.size with
  | error e => rfl
  | ok found =>
    obtain ⟨shell | _, inside⟩ := found
    · cases shell with
      | none => rfl
      | some capture =>
        dsimp only
        split
        · exact if_pos ‹_›
        · exact if_neg ‹_›
    · rfl

/-- The descent fails as reading does. -/
def Fails (d : Dialect) (s : Descent) (e : ParseError) : Prop :=
  ∀ level groups, (s.reading level groups).run d = .error e

theorem Fails.of_steps {e : ParseError} (h : t.Fails d e)
    (hs : ∀ level groups, ∃ level' groups',
      Reading.Steps d (s.reading level groups) (t.reading level' groups')) : s.Fails d e := by
  intro level groups
  obtain ⟨level', groups', hs⟩ := hs level groups
  rw [hs.run_eq]
  exact h level' groups'

theorem opened_fails {e : ParseError} (hx : s.cursor.peek? = some '(') (h : s.opened = .error e) :
    s.Fails d e := by
  intro level groups
  refine Reading.run_eq_error.mpr ⟨_, .refl _, .inl ⟨'(', hx, ?_⟩⟩
  exact (openGroup_reading s).trans (by rw [h]; rfl)

theorem opened_steps {shell : Shell} (hx : s.cursor.peek? = some '(')
    (h : s.opened = .ok (shell, t)) : Reading.Steps d (s.reading level groups)
      (t.reading (.empty t.cursor.byte) (⟨s.cursor.byte, shell, level⟩ :: groups)) :=
  .single hx ((openGroup_reading s).trans (by rw [h]; rfl))

theorem opened_left_lt {shell : Shell} (hx : s.cursor.peek? = some '(')
    (h : s.opened = .ok (shell, t)) : t.left < s.left := by
  unfold opened at h
  split at h
  · cases h
  · have hlt := Cursor.opening_length_lt hx ‹_›
    repeat' split at h
    all_goals
      cases h
      try exact hlt

/-- What one call answers is what reading comes to: reading arrives where the call ends, or it fails
as the call does. -/
inductive Agrees {α : Type} (d : Dialect) (s : Descent) (arrives : α → Descent → Prop) :
    Except DescentError (α × Descent) → Prop
  | ok {a : α} {t : Descent} (h : arrives a t) : Agrees d s arrives (.ok (a, t))
  | fault {e : ParseError} (h : s.Fails d e) : Agrees d s arrives (.error (.fault e))

/-- Reading has the atom and is about to look for its quantifier. -/
structure ReadsAtom (d : Dialect) (s : Descent) (atom : Element) (t : Descent) : Prop where
  left_lt : t.left < s.left
  steps : ∀ level groups, ∃ r x, Reading.Steps d (s.reading level groups) r ∧
    r.cursor.peek? = some x ∧
      r.step d x = Reading.addTerm d atom t.cursor level (t.reading level groups)

structure ReadsTerm (d : Dialect) (s : Descent) (element : Element) (t : Descent) : Prop where
  left_lt : t.left < s.left
  steps : ∀ level groups,
    Reading.Steps d (s.reading level groups) (t.reading (level.add element) groups)

structure ReadsTerms (d : Dialect) (s : Descent) (elements : List Element) (t : Descent) : Prop where
  left_le : t.left ≤ s.left
  stops : t.cursor.peek? ∈ [none, some '|', some ')']
  steps : ∀ level groups, Reading.Steps d (s.reading level groups)
    (t.reading ⟨level.branches, level.start, elements.reverse ++ level.elements⟩ groups)

structure ReadsAlternatives (d : Dialect) (s : Descent) (branches : List Branch) (t : Descent) :
    Prop where
  left_le : t.left ≤ s.left
  stops : t.cursor.peek? ∈ [none, some ')']
  steps : ∀ before groups, ∃ level,
    Reading.Steps d (s.reading ⟨before, s.cursor.byte, []⟩ groups) (t.reading level groups) ∧
      level.close t.cursor.byte = branches.reverse ++ before

theorem ReadsTerm.cons {element : Element} {elements : List Element} {u : Descent}
    (h : ReadsTerm d s element t) (hrest : ReadsTerms d t elements u) :
    ReadsTerms d s (element :: elements) u := by
  refine ⟨Nat.le_trans hrest.left_le (Nat.le_of_lt h.left_lt), hrest.stops, fun level groups => ?_⟩
  rw [List.reverse_cons, List.append_assoc]
  exact (h.steps level groups).trans (hrest.steps _ groups)

section
variable {elements : List Element}

theorem ReadsTerms.last (h : ReadsTerms d s elements t) (hbar : t.cursor.eat? '|' = none) :
    ReadsAlternatives d s [.mk ⟨s.cursor.byte, t.cursor.byte⟩ elements] t := by
  refine ⟨h.left_le, ?_, fun before groups => ⟨_, h.steps _ groups, ?_⟩⟩
  · simpa [peek?_ne hbar] using h.stops
  · simp [Level.close]

theorem ReadsTerms.steps_bar (h : ReadsTerms d s elements t) (hbar : t.cursor.eat? '|' = some after)
    (level : Level) (groups : List OpenGroup) :
    Reading.Steps d (s.reading level groups) ({ t with cursor := after }.reading
      ⟨.mk ⟨level.start, t.cursor.byte⟩ (elements.reverse ++ level.elements).reverse :: level.branches,
        after.byte, []⟩ groups) := by
  obtain ⟨hx, rfl⟩ := Cursor.peek?_of_eat? hbar
  exact (h.steps level groups).trans (.single hx rfl)

theorem ReadsTerms.cons {branches : List Branch} {u : Descent} (h : ReadsTerms d s elements t)
    (hbar : t.cursor.eat? '|' = some after)
    (hrest : ReadsAlternatives d { t with cursor := after } branches u) :
    ReadsAlternatives d s (.mk ⟨s.cursor.byte, t.cursor.byte⟩ elements :: branches) u := by
  refine ⟨?_, hrest.stops, fun before groups => ?_⟩
  · have hle : u.left ≤ after.rest.length := hrest.left_le
    have hlt : after.rest.length < t.left := Cursor.eat?_length_lt hbar
    have := h.left_le
    omega
  · obtain ⟨level, hs, hclose⟩ := hrest.steps _ groups
    refine ⟨level, (h.steps_bar hbar ⟨before, s.cursor.byte, []⟩ groups).trans hs, ?_⟩
    simp [hclose]

end

theorem ReadsAtom.term {atom : Element} (h : ReadsAtom d s atom t) :
    Agrees d s (ReadsTerm d s) (match atom.withQuantifier d.unicode t.cursor with
      | .error e => .error (.fault e)
      | .ok (element, after) => .ok (element, { t with cursor := after })) := by
  cases hq : atom.withQuantifier d.unicode t.cursor with
  | error e =>
    refine .fault fun level groups => ?_
    obtain ⟨r, x, hs, hx, hstep⟩ := h.steps level groups
    refine Reading.run_eq_error.mpr ⟨r, hs, .inl ⟨x, hx, ?_⟩⟩
    rw [hstep, Reading.addTerm, hq]
  | ok found =>
    obtain ⟨element, after⟩ := found
    refine .ok ⟨?_, fun level groups => ?_⟩
    · exact Nat.lt_of_le_of_lt (Element.withQuantifier_length_le hq) h.left_lt
    · obtain ⟨r, x, hs, hx, hstep⟩ := h.steps level groups
      refine hs.trans (.single hx ?_)
      rw [hstep, Reading.addTerm, hq]
      rfl

theorem plainAtom_agrees {x : Char} (hx : s.cursor.peek? = some x) (hbar : x ≠ '|')
    (hclose : x ≠ ')') (hopen : x ≠ '(') :
    Agrees d s (ReadsAtom d s) (match s.cursor.atom d x with
      | .error e => .error (.fault e)
      | .ok (atom, after) =>
        .ok (atom, { s.noteReference s.cursor.offset atom with cursor := after })) := by
  have hread : ∀ level groups, (s.reading level groups).cursor.atom d x = s.cursor.atom d x :=
    fun _ _ => rfl
  cases ha : s.cursor.atom d x with
  | error e =>
    refine .fault fun level groups => ?_
    refine Reading.run_eq_error.mpr ⟨_, .refl _, .inl ⟨x, hx, ?_⟩⟩
    rw [Reading.step_atom hbar hclose hopen, hread, ha]
  | ok found =>
    obtain ⟨atom, after⟩ := found
    refine .ok ⟨Cursor.atom_length_lt hx ha, fun level groups => ⟨_, x, .refl _, hx, ?_⟩⟩
    rw [Reading.step_atom hbar hclose hopen, hread, ha]
    dsimp only
    rw [noteReference_reading]
    rfl

theorem closed_agrees {inside : Descent} {shell : Shell} {branches : List Branch}
    (hx : s.cursor.peek? = some '(') (ho : s.opened = .ok (shell, inside))
    (h : ReadsAlternatives d inside branches t) :
    Agrees d s (ReadsAtom d s) (match t.cursor.eat? ')' with
      | none => .error (.fault ⟨.unterminatedGroup, t.cursor.offset⟩)
      | some after =>
        .ok (shell.element ⟨s.cursor.byte, after.byte⟩ branches, { t with cursor := after })) := by
  have hleft := h.left_le
  have hinside : inside.left < s.left := opened_left_lt hx ho
  have hsteps : ∀ level groups, ∃ last, Reading.Steps d (s.reading level groups)
      (t.reading last (⟨s.cursor.byte, shell, level⟩ :: groups)) ∧
        last.close t.cursor.byte = branches.reverse := by
    intro level groups
    obtain ⟨last, hs, hclose⟩ := h.steps [] (⟨s.cursor.byte, shell, level⟩ :: groups)
    exact ⟨last, (opened_steps hx ho).trans hs, by rw [hclose, List.append_nil]⟩
  cases hend : t.cursor.eat? ')' with
  | none =>
    have hnone : t.cursor.peek? = none := by
      simpa [peek?_ne hend] using h.stops
    refine .fault fun level groups => ?_
    obtain ⟨last, hs, -⟩ := hsteps level groups
    exact Reading.run_eq_error.mpr ⟨_, hs, .inr ⟨hnone, rfl⟩⟩
  | some after =>
    obtain ⟨hparen, rfl⟩ := Cursor.peek?_of_eat? hend
    refine .ok ⟨?_, fun level groups => ?_⟩
    · exact Nat.lt_trans (Cursor.next_length_lt hparen) (Nat.lt_of_le_of_lt hleft hinside)
    · obtain ⟨last, hs, hclose⟩ := hsteps level groups
      refine ⟨_, ')', hs, hparen, ?_⟩
      rw [← branches.reverse_reverse, ← hclose]
      rfl

mutual

theorem alternatives_agrees (d : Dialect) (depth : Nat) (s : Descent)
    (hdepth : 5 * s.left + 5 ≤ depth) :
    Agrees d s (ReadsAlternatives d s) (alternatives d depth s) := by
  match depth with
  | 0 => omega
  | depth + 1 =>
    rw [alternatives]
    have hterms := terms_agrees d depth s (by omega)
    generalize terms d depth s = answer at hterms ⊢
    cases hterms with
    | fault hf => exact .fault hf
    | @ok elements t hread =>
      dsimp only
      cases hbar : t.cursor.eat? '|' with
      | none => exact .ok (hread.last hbar)
      | some after =>
        have hlt : after.rest.length < t.left := Cursor.eat?_length_lt hbar
        have hleft := hread.left_le
        have hmore := alternatives_agrees d depth { t with cursor := after }
          (by simp only [left] at hlt hleft hdepth ⊢; omega)
        dsimp only
        generalize alternatives d depth { t with cursor := after } = answer at hmore ⊢
        cases hmore with
        | fault hf =>
          exact .fault (hf.of_steps fun level groups => ⟨_, _, hread.steps_bar hbar level groups⟩)
        | ok hrest => exact .ok (hread.cons hbar hrest)

theorem terms_agrees (d : Dialect) (depth : Nat) (s : Descent) (hdepth : 5 * s.left + 4 ≤ depth) :
    Agrees d s (ReadsTerms d s) (terms d depth s) := by
  match depth with
  | 0 => omega
  | depth + 1 =>
    rw [terms]
    split
    · rename_i hstops
      exact .ok ⟨Nat.le_refl _, hstops, fun level groups => .refl _⟩
    · rename_i hgoes
      have hterm := term_agrees d depth s hgoes (by omega)
      generalize term d depth s = answer at hterm ⊢
      cases hterm with
      | fault hf => exact .fault hf
      | @ok element t hread =>
        have hlt := hread.left_lt
        have hmore := terms_agrees d depth t (by omega)
        dsimp only
        generalize terms d depth t = answer at hmore ⊢
        cases hmore with
        | fault hf => exact .fault (hf.of_steps fun level groups => ⟨_, _, hread.steps level groups⟩)
        | ok hrest => exact .ok (hread.cons hrest)

theorem term_agrees (d : Dialect) (depth : Nat) (s : Descent)
    (hgoes : s.cursor.peek? ∉ [none, some '|', some ')']) (hdepth : 5 * s.left + 3 ≤ depth) :
    Agrees d s (ReadsTerm d s) (term d depth s) := by
  match depth with
  | 0 => omega
  | depth + 1 =>
    rw [term]
    have hatom := atom_agrees d depth s hgoes (by omega)
    generalize atom d depth s = answer at hatom ⊢
    cases hatom with
    | fault hf => exact .fault hf
    | ok hread => exact hread.term

theorem atom_agrees (d : Dialect) (depth : Nat) (s : Descent)
    (hgoes : s.cursor.peek? ∉ [none, some '|', some ')']) (hdepth : 5 * s.left + 2 ≤ depth) :
    Agrees d s (ReadsAtom d s) (atom d depth s) := by
  match depth with
  | 0 => omega
  | depth + 1 =>
    rw [atom]
    split
    · simp_all
    · exact group_agrees d depth s ‹_› (by omega)
    · rename_i x hopen hx
      exact plainAtom_agrees hx (by rintro rfl; simp_all) (by rintro rfl; simp_all) hopen

theorem group_agrees (d : Dialect) (depth : Nat) (s : Descent) (hx : s.cursor.peek? = some '(')
    (hdepth : 5 * s.left + 1 ≤ depth) : Agrees d s (ReadsAtom d s) (group d depth s) := by
  match depth with
  | 0 => omega
  | depth + 1 =>
    rw [group]
    cases ho : s.opened with
    | error e => exact .fault (opened_fails hx ho)
    | ok found =>
      obtain ⟨shell, inside⟩ := found
      have hinside := opened_left_lt hx ho
      have hmore := alternatives_agrees d depth inside (by omega)
      dsimp only
      generalize alternatives d depth inside = answer at hmore ⊢
      cases hmore with
      | fault hf => exact .fault (hf.of_steps fun level groups => ⟨_, _, opened_steps hx ho⟩)
      | ok hread => exact closed_agrees hx ho hread

end

/-- Reading by calls comes to the same tree as reading with a stack, and to the same error. -/
theorem pattern_eq (unicode : Bool) (source : List Char) :
    pattern unicode source = (parse unicode source).mapError .fault := by
  have hread := alternatives_agrees ⟨unicode, .ofText source⟩ _ (ofText source) (Nat.le_refl _)
  have hstart : parse unicode source =
      ((ofText source).reading ⟨[], 0, []⟩ []).run ⟨unicode, .ofText source⟩ := rfl
  unfold pattern depthOf
  generalize alternatives ⟨unicode, .ofText source⟩ _ (ofText source) = answer at hread ⊢
  cases hread with
  | fault hf =>
    rw [hstart, hf]
    rfl
  | @ok branches s hread =>
    obtain ⟨level, hs, hclose⟩ := hread.steps [] []
    have hrun : parse unicode source = (s.reading level []).run ⟨unicode, .ofText source⟩ :=
      hstart.trans hs.run_eq
    have hstops := hread.stops
    rw [hrun]
    dsimp only
    split
    · rename_i hx
      have hfails : (s.reading level []).run ⟨unicode, .ofText source⟩ =
          .error ⟨.unmatchedParen, s.cursor.offset⟩ :=
        Reading.run_eq_error.mpr ⟨_, .refl _, .inl ⟨')', hx, rfl⟩⟩
      rw [hfails]
      rfl
    · simp_all
    · rename_i hend
      rw [Reading.run_of_end hend]
      simp only [Reading.finish, reading]
      cases s.references.reverse.find? fun (name, _) => !s.names.contains (some name) with
      | some found => rfl
      | none =>
        dsimp only
        rw [hclose, List.append_nil, List.reverse_reverse]
        rfl

end Descent
end RegexInsight
