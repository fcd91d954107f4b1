import RegexInsight.Proofs.ReadElements
import RegexInsight.Proofs.RewrittenAtoms

/-! Reading a whole pattern whose counted quantifiers are written shorter. Step by step both texts are
read to the same elements, as long as all that is edited within a step are the bounds behind its atom.
Edits stand where repeated elements of the tree end, and the element that a step repeats ends with the
atom of that step, while those of other steps end before or behind. -/
namespace RegexInsight

def Level.bare (l : Level) : Level := ⟨l.branches.map Branch.bare, 0, l.elements.map Element.bare⟩

def OpenGroup.bare (g : OpenGroup) : OpenGroup := ⟨0, g.shell, g.outer.bare⟩

theorem Level.add_bare {l l' : Level} {e e' : Element} (hl : l'.bare = l.bare)
    (he : e'.bare = e.bare) : (l'.add e').bare = (l.add e).bare := by
  obtain ⟨hbranches, -, helements⟩ := Level.mk.inj hl
  simp [bare, add, hbranches, helements, he]

theorem Level.close_bare {l l' : Level} (h : l'.bare = l.bare) (stop stop' : Nat) :
    (l'.close stop').map Branch.bare = (l.close stop).map Branch.bare := by
  obtain ⟨hbranches, -, helements⟩ := Level.mk.inj h
  have hlast : (Branch.mk ⟨l'.start, stop'⟩ l'.elements.reverse).bare =
      (Branch.mk ⟨l.start, stop⟩ l.elements.reverse).bare := by
    rw [Branch.bare, Branch.bare, Branch.mapSpans_mk, Branch.mapSpans_mk, List.map_reverse,
      List.map_reverse]
    exact congrArg (fun es : List Element => Branch.mk ⟨0, 0⟩ es.reverse) helements
  rw [close, close, List.map_cons, List.map_cons, hlast, hbranches]

theorem Shell.element_bare (shell : Shell) {span span' : Span} {bs bs' : List Branch}
    (h : bs'.map Branch.bare = bs.map Branch.bare) :
    (shell.element span' bs').bare = (shell.element span bs).bare := by
  rw [Element.bare, Element.bare, Shell.mapSpans_element, Shell.mapSpans_element]
  exact congrArg (shell.element ⟨0, 0⟩) h

/-- The name that an element refers to. -/
def Element.referredName? : Element → Option String
  | .backreference _ (.name name) => some name
  | _ => none

theorem Element.bare_referredName? (e : Element) : e.bare.referredName? = e.referredName? := by
  cases e with
  | backreference span target => cases target <;> rfl
  | _ => rfl

theorem Reading.noteReference_names (offset : Nat) (e : Element) (r : Reading) :
    (r.noteReference offset e).references.map Prod.fst =
      e.referredName?.toList ++ r.references.map Prod.fst := by
  cases e with
  | backreference span target => cases target <;> rfl
  | _ => rfl

def Reading.repetitions (r : Reading) : List Element.Repetition :=
  (r.items.flatMap Element.parts).filterMap Element.repetition?

namespace Shortening

variable {w : Shortening} {d : Dialect} {x : Char} {r r' s : Reading}

/-- The two texts have been read to the same point and to the same elements. -/
structure Mirrors (w : Shortening) (r r' : Reading) : Prop where
  cursor : w.Follows r.cursor r'.cursor
  names : r'.names = r.names
  references : r'.references.map Prod.fst = r.references.map Prod.fst
  level : r'.level.bare = r.level.bare
  groups : r'.groups.map OpenGroup.bare = r.groups.map OpenGroup.bare

namespace Mirrors

theorem noteReference (h : w.Mirrors r r') {e e' : Element} (he : e'.bare = e.bare)
    (offset offset' : Nat) :
    w.Mirrors (r.noteReference offset e) (r'.noteReference offset' e') := by
  have hnames : (r'.noteReference offset' e').references.map Prod.fst =
      (r.noteReference offset e).references.map Prod.fst := by
    rw [Reading.noteReference_names, Reading.noteReference_names, h.references,
      ← e'.bare_referredName?, he, e.bare_referredName?]
  obtain ⟨references, hr, -⟩ := Reading.noteReference_eq offset e r
  obtain ⟨references', hr', -⟩ := Reading.noteReference_eq offset' e' r'
  rw [hr, hr'] at hnames ⊢
  exact ⟨h.cursor, h.names, hnames, h.level, h.groups⟩

/-- A term is added alike if nothing is edited behind the beginning of its bounds. -/
theorem addTerm (h : w.Mirrors r r') {atom atom' : Element} {c c' : Cursor} {outer outer' : Level}
    (hatom : atom'.bare = atom.bare) (hc : w.Follows c c') (houter : outer'.bare = outer.bare)
    (hclear : w.Clear (c.byte + 1) (s.cursor.byte + 1))
    (hs : Reading.addTerm d atom c outer r = .ok s) :
    ∃ s', Reading.addTerm d atom' c' outer' r' = .ok s' ∧ w.Mirrors s s' := by
  unfold Reading.addTerm at hs ⊢
  split at hs
  · cases hs
  · rename_i term after ht
    cases hs
    obtain ⟨term', after', ht', hterm, hafter⟩ := withQuantifier hc hatom hclear ht
    rw [ht']
    exact ⟨_, rfl, hafter, h.names, h.references, Level.add_bare houter hterm, h.groups⟩

theorem bar (h : w.Mirrors r r') (hx : r.cursor.peek? = some '|') (hs : r.step d '|' = .ok s) :
    ∃ s', r'.step d '|' = .ok s' ∧ w.Mirrors s s' := by
  obtain ⟨-, hn⟩ := h.cursor.next hx (by decide)
  cases hs
  refine ⟨_, rfl, hn, h.names, h.references, ?_, h.groups⟩
  rw [Level.bare, Level.bare]
  dsimp only
  rw [Level.close_bare h.level]

theorem openGroup (h : w.Mirrors r r') (hx : r.cursor.peek? = some '(')
    (hclear : w.Clear r.cursor.byte (s.cursor.byte + 1)) (hs : r.openGroup = .ok s) :
    ∃ s', r'.openGroup = .ok s' ∧ w.Mirrors s s' := by
  unfold Reading.openGroup at hs ⊢
  split at hs
  · cases hs
  · rename_i shell inside ho
    have hinside : inside = s.cursor := by
      dsimp only at hs
      repeat' split at hs
      all_goals
        cases hs
        try rfl
    obtain ⟨inside', ho', hi⟩ := h.cursor.opening hx (hinside ▸ hclear) ho
    have hgroups : (⟨r'.cursor.byte, shell, r'.level⟩ :: r'.groups).map OpenGroup.bare =
        (⟨r.cursor.byte, shell, r.level⟩ :: r.groups).map OpenGroup.bare := by
      simp [OpenGroup.bare, h.level, h.groups]
    rw [h.names, ho']
    dsimp only at hs ⊢
    split at hs
    · split at hs <;> cases hs
      rename_i hn
      rw [if_neg hn]
      exact ⟨_, rfl, hi, rfl, h.references, rfl, hgroups⟩
    · cases hs
      exact ⟨_, rfl, hi, rfl, h.references, rfl, hgroups⟩

theorem closeGroup (h : w.Mirrors r r') (hx : r.cursor.peek? = some ')')
    (hclear : w.Clear (r.cursor.next.byte + 1) (s.cursor.byte + 1)) (hs : r.closeGroup d = .ok s) :
    ∃ s', r'.closeGroup d = .ok s' ∧ w.Mirrors s s' := by
  obtain ⟨-, hn⟩ := h.cursor.next hx (by decide)
  unfold Reading.closeGroup at hs ⊢
  split at hs
  · cases hs
  · rename_i g groups hg
    have hgroups := h.groups
    rw [hg, List.map_cons] at hgroups
    obtain ⟨g', groups', hg', hbare, hrest⟩ := List.map_eq_cons_iff.mp hgroups
    obtain ⟨-, hshell, houter⟩ := OpenGroup.mk.inj hbare
    rw [hg']
    dsimp only
    rw [hshell]
    have hmirrors : w.Mirrors { r with groups := groups } { r' with groups := groups' } :=
      ⟨h.cursor, h.names, h.references, h.level, hrest⟩
    refine hmirrors.addTerm ?_ hn houter hclear hs
    refine Shell.element_bare _ ?_
    rw [List.map_reverse, List.map_reverse, Level.close_bare h.level]

/-- A step is taken in both texts if all that is edited in it are the bounds behind its atom. -/
theorem step (h : w.Mirrors r r') (hx : r.cursor.peek? = some x) (hs : r.step d x = .ok s)
    (hedits : ∀ byte, r.cursor.byte ≤ byte → byte ≤ s.cursor.byte → w.at? byte ≠ none →
      ∃ atom c, r.StepAtom d x atom c ∧ c.byte = byte) :
    r'.cursor.peek? = some x ∧ ∃ s', r'.step d x = .ok s' ∧ w.Mirrors s s' := by
  have hnext := r.cursor.next_reaches.byte_le
  unfold Reading.step at hs
  split at hs
  · exact ⟨(h.cursor.next hx (by decide)).1, h.bar hx hs⟩
  · refine ⟨(h.cursor.next hx (by decide)).1, h.closeGroup hx (fun byte h₁ h₂ => ?_) hs⟩
    by_contra hne
    obtain ⟨_, _, _ | _, rfl⟩ := hedits byte (by omega) (by omega) hne
    · contradiction
    · omega
  · refine ⟨(h.cursor.next hx (by decide)).1, h.openGroup hx (fun byte h₁ h₂ => ?_) hs⟩
    by_contra hne
    obtain ⟨_, _, _ | _, -⟩ := hedits byte h₁ (by omega) hne <;> contradiction
  · rename_i hbar hclose hopen
    split at hs
    · cases hs
    · rename_i atom after ha
      have hreach := (Cursor.atom_sits h.cursor.within hx ha).1.byte_le
      have hreach' := (Reading.addTerm_reaches hs).byte_le
      have hend : ∀ byte, r.cursor.byte ≤ byte → byte ≤ s.cursor.byte → byte ≠ after.byte →
          w.at? byte = none := by
        intro byte h₁ h₂ hbyte
        by_contra hne
        obtain ⟨_, _, hread | hx', rfl⟩ := hedits byte h₁ h₂ hne
        · rename_i ha'
          rw [ha] at ha'
          cases ha'
          exact hbyte rfl
        · exact hclose hx'
      obtain ⟨hx', atom', after', ha', hatom, hafter⟩ := h.cursor.atom hx
        (fun byte h₁ h₂ => hend byte h₁ (by omega) (by omega)) ha
      obtain ⟨s', hs', hm⟩ := (h.noteReference hatom r.cursor.offset r'.cursor.offset).addTerm hatom
        hafter h.level (fun byte h₁ h₂ => hend byte (by omega) (by omega) (by omega)) hs
      refine ⟨hx', s', ?_, hm⟩
      rw [Reading.step_atom hbar hclose hopen, ha']
      exact hs'

/-- At the end of both texts the trees are the same but for the places. -/
theorem finish (h : w.Mirrors r r') {tree : PatternTree} (hf : r.finish = .ok tree) :
    ∃ tree', r'.finish = .ok tree' ∧ tree'.bare = tree.bare := by
  unfold Reading.finish at hf
  split at hf
  · cases hf
  · cases hf
  · rename_i hgroups hknown
    cases hf
    have hgroups' : r'.groups = [] := by simpa [hgroups] using h.groups
    have hknown' : r'.references.reverse.find? (fun y => !r'.names.contains (some y.1)) = none := by
      rw [List.find?_eq_none] at hknown ⊢
      rintro ⟨name, offset'⟩ hmem
      have hname : name ∈ r.references.map Prod.fst :=
        h.references ▸ List.mem_map_of_mem (List.mem_reverse.mp hmem)
      obtain ⟨⟨name', offset⟩, hread, hname'⟩ := List.mem_map.mp hname
      obtain rfl : name' = name := hname'
      rw [h.names]
      exact hknown (name', offset) (List.mem_reverse.mpr hread)
    refine ⟨⟨⟨⟨0, r'.cursor.byte⟩, (r'.level.close r'.cursor.byte).reverse⟩, r'.names.toList⟩, ?_, ?_⟩
    · rw [Reading.finish, hgroups', hknown']
    · rw [PatternTree.bare, PatternTree.bare, h.names, List.map_reverse, List.map_reverse,
        Level.close_bare h.level]

end Mirrors
end Shortening

namespace Reading

variable {source : List Char} {d : Dialect} {x : Char} {r s : Reading} {q : Element.Repetition}

theorem forall_repetitions {P : Element.Repetition → Prop} : (∀ q ∈ r.repetitions, P q) ↔
    r.Throughout fun e => ∀ q, e.repetition? = some q → P q := by
  rw [repetitions, List.forall_mem_filterMap, Throughout]
  exact List.forall_mem_flatMap

theorem step_reaches (hw : r.cursor.Within source) (hx : r.cursor.peek? = some x)
    (hs : r.step d x = .ok s) : r.cursor.Reaches s.cursor := by
  unfold step at hs
  split at hs
  · cases hs
    exact r.cursor.next_reaches
  · unfold closeGroup at hs
    split at hs
    · cases hs
    · exact r.cursor.next_reaches.trans (addTerm_reaches hs)
  · unfold openGroup at hs
    split at hs
    · cases hs
    · rename_i ho
      have hreads := Cursor.opening_reads hx ho
      dsimp only at hs
      split at hs
      · split at hs <;> cases hs
        exact ⟨_, hreads⟩
      · cases hs
        exact ⟨_, hreads⟩
  · split at hs
    · cases hs
    · rename_i ha
      exact (Cursor.atom_sits hw hx ha).1.trans (addTerm_reaches hs)

theorem Steps.keeps_within {P : Reading → Prop} (hP : ∀ {r s : Reading} {x : Char},
    r.cursor.Within source → r.cursor.peek? = some x → r.step d x = .ok s → P r → P s)
    (h : Steps d r s) (hw : r.cursor.Within source) (hr : P r) :
    s.cursor.Within source ∧ P s := by
  refine h.keeps (P := fun r => r.cursor.Within source ∧ P r) ?_ ⟨hw, hr⟩
  rintro r s x ⟨hw, hr⟩ hx hs
  exact ⟨hw.reaches (step_reaches hw hx hs), hP hw hx hs hr⟩

/-- The atom of a step is no repetition, and ends behind the beginning of the step. -/
theorem StepAtom.placed {atom : Element} {c : Cursor} (h : r.StepAtom d x atom c)
    (hw : r.cursor.Within source) (hx : r.cursor.peek? = some x) :
    atom.repetition? = none ∧ atom.span.stop = c.byte ∧ r.cursor.Reaches c ∧
      r.cursor.byte < c.byte := by
  cases h with
  | read _ _ _ ha =>
    obtain ⟨hreach, hspan, -⟩ := Cursor.atom_sits hw hx ha
    refine ⟨?_, by rw [hspan], hreach, hreach.byte_lt (Cursor.atom_length_lt hx ha)⟩
    cases atom with
    | quantifier => exact absurd (Cursor.atom_isAtom ha).held (List.cons_ne_nil _ _)
    | _ => rfl
  | close _ shell start branches =>
    refine ⟨?_, by rw [shell.element_span], Cursor.next_reaches _, Cursor.byte_lt_next hx⟩
    cases shell <;> rfl

/-- A step reads at most one new repetition, of the atom of that step. -/
theorem step_repetitions (hw : r.cursor.Within source) (hx : r.cursor.peek? = some x)
    (hs : r.step d x = .ok s) : ∀ q ∈ s.repetitions, q ∈ r.repetitions ∨
      ∃ c, r.StepAtom d x q.inner c ∧ q.inner.span.stop = c.byte ∧ r.cursor.byte < c.byte ∧
        c.byte < s.cursor.byte := by
  rw [forall_repetitions]
  refine step_throughout (forall_repetitions.mp fun _ => .inl) hs (fun hatom q hq => ?_) ?_
  · rw [(hatom.placed hw hx).1] at hq
    cases hq
  · rintro atom c hatom min max greedy text ht hreads q ⟨⟩
    obtain ⟨-, hstop, -, hbyte⟩ := hatom.placed hw hx
    exact .inr ⟨c, hatom, hstop, hbyte,
      hreads.byte_lt (List.append_ne_nil_of_left_ne_nil ht.ne_nil _)⟩

/-- What is read later is repeated behind what has been read. -/
theorem steps_repetitions {tree : PatternTree} (h : Steps d r s) (hf : s.finish = .ok tree)
    (hw : r.cursor.Within source) (e : Element) (he : e ∈ tree.pattern.elements)
    (hq : e.repetition? = some q) : q ∈ r.repetitions ∨ r.cursor.byte < q.inner.span.stop := by
  induction h with
  | refl r =>
    have hread : r.Throughout fun e => ∀ q, e.repetition? = some q → q ∈ r.repetitions :=
      forall_repetitions.mp fun _ => id
    exact .inl (finish_throughout hread hf e he q hq)
  | step hx hs _ ih =>
    have hreach := step_reaches hw hx hs
    rcases ih hf (hw.reaches hreach) with hmem | hlt
    · rcases step_repetitions hw hx hs q hmem with hold | ⟨c, -, hstop, hlt, -⟩
      · exact .inl hold
      · exact .inr (hstop ▸ hlt)
    · exact .inr (Nat.lt_of_le_of_lt hreach.byte_le hlt)

end Reading

/-- The edits of a shortening stand where repeated elements of a tree end. -/
def Shortening.Repeats (w : Shortening) (tree : PatternTree) : Prop :=
  ∀ byte, w.at? byte ≠ none → ∃ e ∈ tree.pattern.elements, ∃ q, e.repetition? = some q ∧
    q.inner.span.stop = byte

theorem Shortening.Mirrors.run {w : Shortening} {d : Dialect} {r r' s : Reading} {tree : PatternTree}
    (hw : w.Repeats tree) (h : w.Mirrors r r') (hsteps : Reading.Steps d r s)
    (hend : s.cursor.peek? = none) (hf : s.finish = .ok tree)
    (hread : ∀ q ∈ r.repetitions, q.inner.span.stop < r.cursor.byte) :
    ∃ tree', r'.run d = .ok tree' ∧ tree'.bare = tree.bare := by
  induction hsteps generalizing r' with
  | refl r =>
    obtain ⟨tree', hf', hbare⟩ := h.finish hf
    exact ⟨tree', Reading.run_eq_ok.mpr ⟨r', .refl r', h.cursor.stop hend, hf'⟩, hbare⟩
  | @step r₁ r₂ r₃ x hx hs hrest ih =>
    have hreach := Reading.step_reaches h.cursor.within hx hs
    have hplaces := Reading.step_repetitions h.cursor.within hx hs
    obtain ⟨hx', r₂', hs', hm⟩ := h.step hx hs fun byte hlow hhigh hne => by
      obtain ⟨e, he, q, hq, rfl⟩ := hw byte hne
      rcases Reading.steps_repetitions hrest hf (h.cursor.within.reaches hreach) e he hq with hmem | hlt
      · rcases hplaces q hmem with hold | ⟨c, hatom, hstop, -⟩
        · exact absurd (hread q hold) (Nat.not_lt.mpr hlow)
        · exact ⟨_, c, hatom, hstop.symm⟩
      · exact absurd hlt (Nat.not_lt.mpr hhigh)
    obtain ⟨tree', hrun, hbare⟩ := ih hm hend hf fun q hq => by
      rcases hplaces q hq with hold | ⟨c, -, hstop, -, hlt⟩
      · exact Nat.lt_of_lt_of_le (hread q hold) hreach.byte_le
      · exact hstop ▸ hlt
    exact ⟨tree', ((Reading.Steps.single hx' hs').run_eq).trans hrun, hbare⟩

end RegexInsight
