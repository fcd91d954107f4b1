import Mathlib.Data.List.TakeWhile
import RegexInsight.Proofs.ControlFree
import RegexInsight.Proofs.EnclosedPattern
import RegexInsight.Proofs.ReadElements

/-! The names in a tree that is read. Only letters, digits and a few marks are read into the name of a group or
of a property, so no name has a control in it, whatever the source text has. -/
namespace RegexInsight

/-- What the set is called by, if it is a property. -/
def CharSet.ControlFree (s : CharSet) : Prop :=
  match s.kind with
  | .property name value => RegexInsight.ControlFree name ∧ ∀ v ∈ value, RegexInsight.ControlFree v
  | .dot | .digit | .word | .space => True

def MemberKind.ControlFree : MemberKind → Prop
  | .set s => s.ControlFree
  | .char _ | .range .. => True

namespace Element

def SetsControlFree : Element → Prop
  | .set _ s => s.ControlFree
  | .bracket _ _ members => ∀ m ∈ members, m.kind.ControlFree
  | _ => True

/-- The names that are written in the element itself: of sets, of the group it is and of the one it refers
to. -/
def NamesControlFree : Element → Prop
  | .group _ (some ⟨_, some name⟩) _ | .backreference _ (.name name) => ControlFree name
  | e => e.SetsControlFree

end Element

theorem isNamePart_no_control {c : Char} (h : isNamePart c) : isControl c = false := by
  have hcontrols : ∀ c, isControl c → isNamePart c = false := forall_control (by decide +kernel)
  by_contra hc
  simp [hcontrols c (by simpa using hc)] at h

namespace Cursor

theorem groupName_controlFree {c after : Cursor} {name : String}
    (h : c.groupName = .ok (name, after)) : ControlFree name := by
  unfold groupName spanWhile at h
  dsimp only at h
  split at h
  · split at h <;> cases h
    intro x hx
    rw [String.toList_ofList] at hx
    exact isNamePart_no_control (List.mem_takeWhile_imp hx)
  · cases h

theorem propertyChar_no_control {c : Char} (h : (c.isAlphanum || c == '_' || c == '=') = true) :
    isControl c = false := by
  have hcontrols : ∀ c, isControl c → (c.isAlphanum || c == '_' || c == '=') = false :=
    forall_control (by decide +kernel)
  by_contra hc
  simp [hcontrols c (by simpa using hc)] at h

theorem property_controlFree {negate : Bool} {start : Nat} {c after : Cursor} {s : CharSet}
    (h : c.property negate start = .ok (s, after)) : s.ControlFree := by
  unfold property spanWhile at h
  dsimp only at h
  split at h
  · cases h
  · rename_i inside _
    have hbody : ∀ x ∈ inside.rest.takeWhile (fun x => x.isAlphanum || x == '_' || x == '='),
        isControl x = false := by
      intro x hx
      have hpart := List.mem_takeWhile_imp hx
      exact propertyChar_no_control hpart
    have hname : ∀ p : Char → Bool, ControlFree (String.ofList
        ((inside.rest.takeWhile (fun x => x.isAlphanum || x == '_' || x == '=')).takeWhile p)) :=
      fun p => controlFree_ofList.mpr fun x hx => hbody x ((List.takeWhile_sublist p).subset hx)
    split at h
    · cases h
    · split at h <;> cases h
      exact ⟨hname _, by simp⟩
    · rename_i mark value _ hvalue
      split at h <;> cases h
      refine ⟨hname _, ?_⟩
      rintro _ ⟨⟩
      refine controlFree_ofList.mpr fun x hx => hbody x ?_
      exact (List.dropWhile_sublist _).subset (hvalue ▸ List.mem_cons_of_mem mark hx)

theorem shorthandSet?_controlFree {x : Char} {s : CharSet} (h : shorthandSet? x = some s) :
    s.ControlFree := by
  unfold shorthandSet? at h
  split at h <;> cases h <;> trivial

theorem classAtom_controlFree {unicode : Bool} {c after : Cursor} {m : ClassMember}
    (h : c.classAtom unicode = .ok (m, after)) : m.kind.ControlFree := by
  obtain ⟨x, _, hread⟩ := classAtom_read h
  cases hread with
  | shorthand _ _ hs => exact shorthandSet?_controlFree hs
  | property _ _ hp => exact property_controlFree hp
  | literal | backspace | octal | char => trivial

theorem bracket_controlFree {unicode : Bool} {c after : Cursor} {e : Element}
    (h : c.bracket unicode = .ok (e, after)) : e.SetsControlFree := by
  unfold bracket at h
  dsimp only at h
  split at h
  · cases h
  · rename_i hm
    cases h
    have hgrants : ClassGrants unicode (fun _ => True) (fun m => m.kind.ControlFree) :=
      ⟨fun _ => trivial, fun _ h => ⟨trivial, classAtom_controlFree h⟩, fun _ => fun _ => trivial,
        fun _ => trivial⟩
    exact hgrants.members trivial (by simp) hm

theorem escapeAtom_controlFree {d : Dialect} {c after : Cursor} {e : Element}
    (h : c.escapeAtom d = .ok (e, after)) : e.SetsControlFree := by
  obtain ⟨x, hx, hread⟩ := escapeAtom_read h
  cases hread with
  | shorthand hs => exact shorthandSet?_controlFree hs
  | property _ _ hp => exact property_controlFree hp
  | wordBoundary | nonWordBoundary | name | index | octal | char => trivial

end Cursor

theorem Dialect.grants_setsControlFree (d : Dialect) : d.Grants Element.SetsControlFree where
  atom := by
    intro c after x e h
    unfold Cursor.atom at h
    dsimp only at h
    split at h
    · exact Cursor.bracket_controlFree h
    · exact Cursor.escapeAtom_controlFree h
    all_goals
      repeat' split at h
      all_goals
        cases h
        try trivial
  shell s span branches := by cases s <;> trivial
  quantifier _ _ _ _ := trivial

namespace Reading

variable {d : Dialect} {r s : Reading}

theorem addTerm_names {atom : Element} {c : Cursor} {outer : Level}
    (h : addTerm d atom c outer r = .ok s) : s.names = r.names := by
  unfold addTerm at h
  split at h <;> cases h
  rfl

theorem step_names {x : Char} (h : r.step d x = .ok s) : s.names = r.names ∨
    ∃ capture inside, r.cursor.opening r.names.size = .ok (.group (some capture), inside) ∧
      s.names = r.names.push capture.name := by
  unfold step at h
  split at h
  · cases h
    exact .inl rfl
  · unfold closeGroup at h
    split at h
    · cases h
    · have hterm := addTerm_names h
      exact .inl hterm
  · unfold openGroup at h
    split at h
    · cases h
    · rename_i hopening
      dsimp only at h
      split at h
      · split at h <;> cases h
        exact .inr ⟨_, _, hopening, rfl⟩
      · cases h
        exact .inl rfl
  · split at h
    · cases h
    · obtain ⟨references, hnoted, -⟩ := noteReference_eq r.cursor.offset _ r
      rw [hnoted] at h
      have hterm := addTerm_names h
      exact .inl hterm

end Reading

theorem Cursor.opening_controlFree {n : Nat} {c after : Cursor} {capture : Capture}
    (h : c.opening n = .ok (.group (some capture), after)) :
    ∀ name ∈ capture.name, ControlFree name := by
  unfold opening at h
  dsimp only at h
  repeat' split at h
  all_goals cases h
  · simp
  · rintro _ ⟨⟩
    exact groupName_controlFree ‹_›

theorem parse_names_controlFree {unicode : Bool} {source : List Char} {tree : PatternTree}
    (h : parse unicode source = .ok tree) : ∀ name, some name ∈ tree.names → ControlFree name := by
  obtain ⟨s, hsteps, -, hfinish⟩ := Reading.run_eq_ok.mp h
  have hnames : ∀ name, some name ∈ s.names → ControlFree name := by
    refine hsteps.keeps (P := fun r => ∀ name, some name ∈ r.names → ControlFree name) ?_ ?_
    · intro r s x hr _ hstep name hname
      obtain hsame | ⟨capture, inside, hopening, hpushed⟩ := Reading.step_names hstep
      · exact hr name (hsame ▸ hname)
      · rw [hpushed, Array.mem_push] at hname
        rcases hname with hname | hname
        · exact hr name hname
        · exact Cursor.opening_controlFree hopening name hname.symm
    · simp [Reading.ofText]
  unfold Reading.finish at hfinish
  split at hfinish <;> cases hfinish
  intro name hname
  exact hnames name (Array.mem_toList_iff.mp hname)

theorem parse_elements_controlFree {unicode : Bool} {source : List Char} {tree : PatternTree}
    (h : parse unicode source = .ok tree) :
    ∀ e ∈ tree.pattern.elements, e.NamesControlFree := by
  have hsets := parse_elements (Dialect.grants_setsControlFree _) h
  have hnames := parse_names_controlFree h
  have hw : tree.WellFormed unicode := .of_parse h
  intro e he
  have hset := hsets e he
  have hformed := hw.elements e he
  cases e with
  | set | bracket => exact hset
  | group span capture branches =>
    cases capture with
    | none => trivial
    | some capture =>
      have hcaptured : capture ∈ tree.pattern.captures := by
        obtain ⟨n, hn, hnode⟩ := List.mem_filterMap.mp he
        refine List.mem_filterMap.mpr ⟨n, hn, ?_⟩
        cases n <;> cases hnode
        rfl
      rw [hw.captures, numbered, List.mem_mapIdx] at hcaptured
      obtain ⟨i, hi, rfl⟩ := hcaptured
      cases hname : tree.names[i] with
      | none => trivial
      | some name => exact hnames name (hname ▸ List.getElem_mem hi)
  | backreference span target =>
    cases target with
    | index n => trivial
    | name name => exact hnames name hformed
  | _ => trivial

end RegexInsight
