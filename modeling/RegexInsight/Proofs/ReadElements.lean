import RegexInsight.Proofs.Passages
import RegexInsight.Proofs.Printing
import RegexInsight.Proofs.Steps
import RegexInsight.Proofs.WellFormed

/-! What is known of every element that is read. Elements are read as atoms, and a bracket or a
quantifier makes one element more of those that are there. So a property of which nothing but the atoms
has to be asked holds of all elements of a tree. -/
namespace RegexInsight

/-- A property of atoms that whatever is built from other elements has as well. -/
structure Dialect.Grants (d : Dialect) (P : Element → Prop) : Prop where
  atom : ∀ {c after : Cursor} {x : Char} {e : Element}, c.atom d x = .ok (e, after) → P e
  shell : ∀ (s : Shell) (span : Span) (branches : List Branch), P (s.element span branches)
  quantifier : ∀ {inner : Element} (span : Span) (min : Nat) (max : Option Nat) (greedy : Bool),
    P (.quantifier span min max greedy inner)

namespace Reading

variable {d : Dialect} {P : Element → Prop} {r s : Reading}

/-- The property holds of all that stands on the open levels. -/
def Throughout (P : Element → Prop) (r : Reading) : Prop := ∀ e ∈ r.items, e.Throughout P

theorem ofText_throughout (cs : List Char) : (ofText cs).Throughout P := by
  simp [Throughout, items, ofText, Level.items, Level.empty]

/-- The atom of a step, and where it ends: an atom that is read, or the group that is closed. -/
inductive StepAtom (d : Dialect) (x : Char) (r : Reading) : Element → Cursor → Prop
  | read {atom : Element} {after : Cursor} (hbar : x ≠ '|') (hclose : x ≠ ')') (hopen : x ≠ '(')
    (h : r.cursor.atom d x = .ok (atom, after)) : StepAtom d x r atom after
  | close (hx : x = ')') (shell : Shell) (start : Nat) (branches : List Branch) :
    StepAtom d x r (shell.element ⟨start, r.cursor.next.byte⟩ branches) r.cursor.next

theorem addTerm_throughout {atom : Element} {c : Cursor} {outer : Level}
    (h : addTerm d atom c outer r = .ok s)
    (hitems : ∀ e ∈ outer.items ++ r.groups.flatMap (·.outer.items), e.Throughout P)
    (hatom : atom.Throughout P)
    (hterm : ∀ min max greedy text, BoundsText text min max →
      c.Reads (text ++ if greedy then [] else ['?']) s.cursor →
        P (.quantifier ⟨atom.span.start, s.cursor.byte⟩ min max greedy atom)) :
    s.Throughout P := by
  unfold addTerm at h
  split at h
  · cases h
  · rename_i term after ht
    cases h
    have hterm : term.Throughout P := by
      obtain ⟨rfl, -⟩ | ⟨min, max, greedy, text, rfl, htext, hreads⟩ :=
        Element.withQuantifier_reads ht
      · exact hatom
      · rw [Element.Throughout, Element.parts_eq, Element.held, List.flatMap_singleton]
        exact List.forall_mem_cons.mpr ⟨hterm min max greedy text htext hreads, hatom⟩
    intro e he
    simp only [Reading.items, Level.items_add, List.mem_append, List.mem_singleton] at he
    rcases he with (he | rfl) | he
    · exact hitems e (List.mem_append_left _ he)
    · exact hterm
    · exact hitems e (List.mem_append_right _ he)

/-- All that a step adds to what stands on the open levels are its atom and a repetition of it. -/
theorem step_throughout (hr : r.Throughout P) {x : Char} (h : r.step d x = .ok s)
    (hatom : ∀ {atom : Element} {c : Cursor}, r.StepAtom d x atom c → P atom)
    (hterm : ∀ {atom : Element} {c : Cursor}, r.StepAtom d x atom c → ∀ min max greedy text,
      BoundsText text min max → c.Reads (text ++ if greedy then [] else ['?']) s.cursor →
        P (.quantifier ⟨atom.span.start, s.cursor.byte⟩ min max greedy atom)) :
    s.Throughout P := by
  unfold step at h
  split at h
  · cases h
    have hitems : (⟨r.level.close r.cursor.byte, r.cursor.next.byte, []⟩ : Level).items =
        r.level.items := by
      rw [Level.items, Level.items_close, List.reverse_nil, List.append_nil]
    rw [Throughout, Reading.items, hitems]
    exact hr
  · unfold closeGroup at h
    split at h
    · cases h
    · rename_i g groups hg
      simp only [Throughout, Reading.items, hg, List.flatMap_cons] at hr
      have hclosed : r.StepAtom d ')' _ _ :=
        .close rfl g.shell g.start (r.level.close r.cursor.byte).reverse
      refine addTerm_throughout h (fun e he => hr e (List.mem_append_right _ he)) ?_ (hterm hclosed)
      rw [Element.Throughout, Shell.parts_element]
      refine List.forall_mem_cons.mpr ⟨hatom hclosed, List.forall_mem_flatMap.mpr fun e he => ?_⟩
      exact hr e (List.mem_append_left _ he)
  · have hopened : ∀ names start shell inside,
        (⟨inside, names, r.references, .empty start, ⟨r.cursor.byte, shell, r.level⟩ :: r.groups⟩ :
          Reading).Throughout P := fun _ _ _ _ => hr
    unfold openGroup at h
    split at h
    · cases h
    · dsimp only at h
      split at h
      · split at h <;> cases h
        exact hopened _ _ _ _
      · cases h
        exact hopened _ _ _ _
  · rename_i hbar hclose hopen
    split at h
    · cases h
    · rename_i atom after ha
      have hread : r.StepAtom d x atom after := .read hbar hclose hopen ha
      obtain ⟨references, hn, -⟩ := noteReference_eq r.cursor.offset atom r
      rw [hn] at h
      refine addTerm_throughout h hr ?_ (hterm hread)
      rw [Element.Throughout, Element.parts_eq, (Cursor.atom_isAtom ha).held, List.flatMap_nil]
      exact List.forall_mem_singleton.mpr (hatom hread)

theorem steps_throughout (hP : d.Grants P) (h : Steps d r s) (hr : r.Throughout P) :
    s.Throughout P := by
  refine h.keeps (fun hr _ hstep => ?_) hr
  refine step_throughout hr hstep (fun hatom => ?_) fun _ _ _ _ _ _ _ => hP.quantifier ..
  cases hatom with
  | read _ _ _ h => exact hP.atom h
  | close _ shell => exact hP.shell ..

theorem finish_throughout {tree : PatternTree} (hr : r.Throughout P) (h : r.finish = .ok tree) :
    ∀ e ∈ tree.pattern.elements, P e := by
  unfold finish at h
  split at h
  · cases h
  · cases h
  · rename_i hg _
    cases h
    rw [Pattern.forall_elements, Level.items_close]
    exact fun e he => hr e (List.mem_append_left _ he)

end Reading

theorem parse_elements {unicode : Bool} {source : List Char} {tree : PatternTree}
    {P : Element → Prop} (hP : (⟨unicode, .ofText source⟩ : Dialect).Grants P)
    (h : parse unicode source = .ok tree) : ∀ e ∈ tree.pattern.elements, P e := by
  obtain ⟨s, hs, -, hfinish⟩ := Reading.run_eq_ok.mp h
  exact Reading.finish_throughout
    (Reading.steps_throughout hP hs (Reading.ofText_throughout source)) hfinish

/-- A dot stands for all but the line terminators, never for them alone. -/
def Element.DotPositive (e : Element) : Prop := ∀ s ∈ e.asSet?, s.isDot → s.negate = false

namespace Cursor

theorem property_isDot {negate : Bool} {start : Nat} {c after : Cursor} {s : CharSet}
    (h : c.property negate start = .ok (s, after)) : s.isDot = false := by
  unfold property at h
  dsimp only at h
  repeat' split at h
  all_goals
    cases h
    try rfl

theorem shorthandSet?_isDot {x : Char} {s : CharSet} (h : shorthandSet? x = some s) :
    s.isDot = false := by
  unfold shorthandSet? at h
  split at h <;> cases h <;> rfl

theorem classAtom_isDot {unicode : Bool} {c after : Cursor} {m : ClassMember}
    (h : c.classAtom unicode = .ok (m, after)) : m.kind.isDot = false := by
  obtain ⟨x, _, hread⟩ := classAtom_read h
  cases hread with
  | shorthand _ _ hs => exact shorthandSet?_isDot hs
  | property _ _ hp => exact property_isDot hp
  | literal | backspace | octal | char => rfl

theorem bracket_dots {unicode : Bool} {c after : Cursor} {e : Element}
    (h : c.bracket unicode = .ok (e, after)) : e.DotFree ∧ e.DotPositive := by
  unfold bracket at h
  dsimp only at h
  split at h
  · cases h
  · rename_i hm
    cases h
    have hdots : ClassGrants unicode (fun _ => True) (fun m => m.kind.isDot = false) :=
      ⟨fun _ => trivial, fun _ h => ⟨trivial, classAtom_isDot h⟩, fun _ => fun _ => rfl, fun _ => rfl⟩
    exact ⟨hdots.members trivial (by simp) hm, nofun⟩

theorem escapeAtom_dots {d : Dialect} {c after : Cursor} {e : Element}
    (h : c.escapeAtom d = .ok (e, after)) : e.DotFree ∧ e.DotPositive := by
  obtain ⟨x, hx, hread⟩ := escapeAtom_read h
  have hset : ∀ {span s}, s.isDot = false → (Element.set span s).DotPositive := by
    rintro span s hs _ ⟨⟩ hdot
    rw [hs] at hdot
    cases hdot
  cases hread with
  | shorthand hs => exact ⟨trivial, hset (shorthandSet?_isDot hs)⟩
  | property _ _ hp => exact ⟨trivial, hset (property_isDot hp)⟩
  | wordBoundary | nonWordBoundary | name | index | octal | char => exact ⟨trivial, nofun⟩

end Cursor

theorem Dialect.grants_dots (d : Dialect) : d.Grants fun e => e.DotFree ∧ e.DotPositive where
  atom := by
    intro c after x e h
    unfold Cursor.atom at h
    dsimp only at h
    split at h
    · exact Cursor.bracket_dots h
    · exact Cursor.escapeAtom_dots h
    · cases h
      refine ⟨trivial, ?_⟩
      rintro _ ⟨⟩ _
      rfl
    all_goals
      repeat' split at h
      all_goals
        cases h
        try exact ⟨trivial, nofun⟩
  shell s span branches := by cases s <;> exact ⟨trivial, nofun⟩
  quantifier _ _ _ _ := ⟨trivial, nofun⟩

end RegexInsight
