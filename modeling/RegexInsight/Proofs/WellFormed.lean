import Mathlib.Data.List.ReduceOption
import RegexInsight.Proofs.GroupScan
import RegexInsight.Proofs.Preorder
import RegexInsight.Proofs.Steps

/-! Every tree that is read is well formed, and the count ahead of reading is the number of its
capture groups. What has been read so far stands on the open levels; one step keeps the groups on
them numbered by their opening brackets and every element on them formed as it has to be. -/
namespace RegexInsight

def MemberKind.Ordered : MemberKind → Prop
  | .range min max => min ≤ max
  | _ => True

namespace Element

/-- What a quantifier may repeat. -/
def Repeatable (unicode : Bool) : Element → Prop
  | quantifier .. | anchor .. | look _ .behind _ _ => False
  | look _ .ahead _ _ => unicode = false
  | _ => True

/-- What holds of one element of a tree with `total` capture groups, of which the `known` names are
names: bounds and ranges are in order, references have something to refer to, alternatives there
is at least one of, and a quantifier repeats what may be repeated. -/
def Formed (unicode : Bool) (total : Nat) (known : String → Prop) : Element → Prop
  | bracket _ _ members => ∀ m ∈ members, m.kind.Ordered
  | group _ _ branches | look _ _ _ branches => branches ≠ []
  | quantifier _ min max _ inner => (∀ m ∈ max, min ≤ m) ∧ inner.Repeatable unicode
  | backreference _ (.index n) => 1 ≤ n ∧ n ≤ total
  | backreference _ (.name name) => known name
  | _ => True

theorem Formed.mono {unicode : Bool} {total : Nat} {known more : String → Prop}
    (hk : ∀ name, known name → more name) {e : Element} (h : e.Formed unicode total known) :
    e.Formed unicode total more := by
  unfold Formed at *
  split <;> simp_all

end Element

/-- Capture groups with these names, numbered from 1. -/
def numbered (names : List (Option String)) : List Capture :=
  names.mapIdx fun i name => ⟨i + 1, name⟩

/-- What holds of every tree that is read. -/
structure PatternTree.WellFormed (unicode : Bool) (tree : PatternTree) : Prop where
  branches : tree.pattern.branches ≠ []
  captures : tree.pattern.captures = numbered tree.names
  distinct : tree.names.reduceOption.Nodup
  elements : ∀ e ∈ tree.pattern.elements,
    e.Formed unicode tree.names.length fun name => some name ∈ tree.names

namespace Cursor

theorem boundValue_pos {x : Char} {digits : List Char} (h : ('1' ≤ x && x ≤ '9') = true) :
    1 ≤ boundValue (x :: digits) := by
  have hkeep : ∀ (ds : List Char) (n : Nat), 1 ≤ n →
      1 ≤ ds.foldl (fun n d => Nat.min (n * 10 + (d.toNat - 0x30)) maxBound) n := by
    intro ds
    induction ds with
    | nil => exact fun n hn => hn
    | cons d ds ih =>
      intro n hn
      exact ih _ (Nat.le_min.mpr ⟨by omega, by decide⟩)
  refine hkeep digits _ (Nat.le_min.mpr ⟨?_, by decide⟩)
  simp only [Bool.and_eq_true, decide_eq_true_eq, Char.le_def] at h
  have h₁ : 0x31 ≤ x.toNat := h.1
  omega

theorem number?_pos {c after : Cursor} {x : Char} {n : Nat} (hc : c.peek? = some x)
    (hx : ('1' ≤ x && x ≤ '9') = true) (h : c.number? = some (n, after)) : 1 ≤ n := by
  unfold number? spanWhile at h
  dsimp only at h
  split at h <;> cases h
  rw [rest_of_peek? hc, List.takeWhile_cons_of_pos (isDigit_of_nonzero hx)]
  exact boundValue_pos hx

theorem bounds_ordered {unicode : Bool} {c after : Cursor} {min : Nat} {max : Option Nat}
    (h : c.bounds unicode = .ok (some ((min, max), after))) : ∀ m ∈ max, min ≤ m := by
  unfold bounds at h
  split at h
  iterate 3 · cases h; simp
  · split at h
    · rename_i hb
      split at h <;> cases h
      intro m hm
      obtain rfl : max = some m := hm
      simp_all
    · split at h <;> cases h
  · cases h

theorem classAtom_ordered {unicode : Bool} {c after : Cursor} {m : ClassMember}
    (h : c.classAtom unicode = .ok (m, after)) : m.kind.Ordered := by
  obtain ⟨x, _, hread⟩ := classAtom_read h
  cases hread <;> trivial

/-- A property of members that are read at the cursors in question, of ranges and of a dash. -/
structure ClassGrants (unicode : Bool) (I : Cursor → Prop) (P : ClassMember → Prop) : Prop where
  next : ∀ {c : Cursor}, I c → I c.next
  atom : ∀ {c after : Cursor} {m : ClassMember}, I c → c.classAtom unicode = .ok (m, after) →
    I after ∧ P m
  range : ∀ (span : Span) {min max : Char}, min ≤ max → P ⟨span, .range min max⟩
  dash : ∀ span : Span, P ⟨span, .char '-'⟩

namespace ClassGrants

variable {unicode : Bool} {I : Cursor → Prop} {P : ClassMember → Prop} {c after : Cursor}
  {ms : List ClassMember}

theorem item (hP : ClassGrants unicode I P) (hc : I c) (h : c.classItem unicode = .ok (ms, after)) :
    I after ∧ ∀ m ∈ ms, P m := by
  unfold classItem at h
  split at h
  · cases h
  · rename_i first dash hfirst
    obtain ⟨hd, hp₁⟩ := hP.atom hc hfirst
    split at h
    · cases h
      exact ⟨hd, List.forall_mem_singleton.mpr hp₁⟩
    · split at h
      · cases h
      · rename_i second _ hsecond
        obtain ⟨hafter, hp₂⟩ := hP.atom (hP.next hd) hsecond
        split at h <;> split at h <;> cases h
        · rename_i hle
          exact ⟨hafter, List.forall_mem_singleton.mpr (hP.range _ (by simpa using hle))⟩
        · exact ⟨hafter, by simp [hp₁, hp₂, hP.dash]⟩

/-- What holds of single members, of ranges and of a dash holds of all members of a class. -/
theorem members (hP : ClassGrants unicode I P) {found : List ClassMember} (hc : I c)
    (hf : ∀ m ∈ found, P m) (h : c.classMembers unicode found = .ok (ms, after)) :
    ∀ m ∈ ms, P m := by
  fun_induction classMembers unicode found c with
  | case1 => cases h
  | case2 =>
    cases h
    simpa using hf
  | case3 => cases h
  | case4 found c x hne hx item next hi ih =>
    obtain ⟨hafter, hitem⟩ := hP.item hc hi
    refine ih hafter (fun m hm => ?_) h
    rcases List.mem_append.mp hm with hm | hm
    · exact hitem m (List.mem_reverse.mp hm)
    · exact hf m hm

end ClassGrants

/-- What is known of an atom that is no group: it holds no elements, and but for the name that it
may refer to it is formed as it has to be. -/
structure IsAtom (d : Dialect) (e : Element) : Prop where
  held : e.held = []
  capture : (Node.element e).capture? = none
  formed : ∀ known : String → Prop, (∀ span name, e = .backreference span (.name name) → known name) →
    e.Formed d.unicode d.groups.total known

theorem bracket_isAtom {d : Dialect} {c after : Cursor} {e : Element}
    (h : c.bracket d.unicode = .ok (e, after)) : IsAtom d e := by
  unfold bracket at h
  dsimp only at h
  split at h
  · cases h
  · rename_i hm
    cases h
    have hordered : ClassGrants d.unicode (fun _ => True) (fun m => m.kind.Ordered) :=
      ⟨fun _ => trivial, fun _ h => ⟨trivial, classAtom_ordered h⟩, fun _ => id, fun _ => trivial⟩
    exact ⟨rfl, rfl, fun _ _ => hordered.members trivial (by simp) hm⟩

theorem escapeAtom_isAtom {d : Dialect} {c after : Cursor} {e : Element}
    (h : c.escapeAtom d = .ok (e, after)) : IsAtom d e := by
  obtain ⟨x, hx, hread⟩ := escapeAtom_read h
  cases hread with
  | shorthand | wordBoundary | nonWordBoundary | property | octal | char =>
    exact ⟨rfl, rfl, fun _ _ => trivial⟩
  | name => exact ⟨rfl, rfl, fun known hk => hk _ _ rfl⟩
  | index hdigit hn hle => exact ⟨rfl, rfl, fun _ _ => ⟨number?_pos hx hdigit hn, hle⟩⟩

theorem atom_isAtom {d : Dialect} {c after : Cursor} {e : Element} {x : Char}
    (h : c.atom d x = .ok (e, after)) : IsAtom d e := by
  unfold atom at h
  dsimp only at h
  split at h
  · exact bracket_isAtom h
  · exact escapeAtom_isAtom h
  all_goals
    repeat' split at h
    all_goals
      cases h
      try exact ⟨rfl, rfl, fun _ _ => trivial⟩

theorem opening_index {n : Nat} {c after : Cursor} {capture : Capture}
    (h : c.opening n = .ok (.group (some capture), after)) : capture.index = n + 1 := by
  unfold opening at h
  dsimp only at h
  repeat' split at h
  all_goals
    cases h
    try rfl

end Cursor

namespace Element

theorem repeatable_of_isQuantifiable {unicode : Bool} {e : Element}
    (h : e.isQuantifiable unicode) (hq : e.isQuantifier = false) : e.Repeatable unicode := by
  cases e with
  | look span direction negate branches =>
    cases direction <;> simp_all [isQuantifiable, Repeatable]
  | anchor | quantifier => simp_all [isQuantifiable, isQuantifier]
  | char | set | bracket | group | backreference => trivial

theorem withQuantifier_cases {unicode : Bool} {atom e : Element} {c after : Cursor}
    (h : atom.withQuantifier unicode c = .ok (e, after)) :
    e = atom ∨ ∃ span min max greedy, e = .quantifier span min max greedy atom ∧
      (∀ m ∈ max, min ≤ m) ∧ atom.isQuantifiable unicode := by
  unfold withQuantifier at h
  split at h
  · cases h
  · cases h
    exact .inl rfl
  · rename_i hb
    dsimp only at h
    split at h
    · cases h
    · rename_i hq
      split at h <;> cases h
      exact .inr ⟨_, _, _, _, rfl, Cursor.bounds_ordered hb, by simpa using hq⟩

theorem withQuantifier_captures {unicode : Bool} {atom e : Element} {c after : Cursor}
    (h : atom.withQuantifier unicode c = .ok (e, after)) : e.captures = atom.captures := by
  rcases withQuantifier_cases h with rfl | ⟨span, min, max, greedy, rfl, _⟩
  · rfl
  · exact captures_quantifier span min max greedy atom

theorem withQuantifier_parts {unicode : Bool} {atom e : Element} {c after : Cursor} {total : Nat}
    {known : String → Prop} (h : atom.withQuantifier unicode c = .ok (e, after))
    (hq : atom.isQuantifier = false) (ha : ∀ x ∈ atom.parts, x.Formed unicode total known) :
    ∀ x ∈ e.parts, x.Formed unicode total known := by
  rcases withQuantifier_cases h with rfl | ⟨span, min, max, greedy, rfl, hmin, hr⟩
  · exact ha
  · rw [parts_eq, held, List.flatMap_singleton]
    exact List.forall_mem_cons.mpr ⟨⟨hmin, repeatable_of_isQuantifiable hr hq⟩, ha⟩

end Element

def Shell.capture? : Shell → Option Capture
  | group capture => capture
  | look .. => none

/-- The elements of the finished alternatives and of the last one, in source order. -/
def Level.items (l : Level) : List Element :=
  l.branches.reverse.flatMap Branch.elements ++ l.elements.reverse

def Level.captures (l : Level) : List Capture := l.items.flatMap Element.captures

theorem Level.items_add (e : Element) (l : Level) : (l.add e).items = l.items ++ [e] := by
  simp [items, add]

theorem Level.items_close (stop : Nat) (l : Level) :
    (l.close stop).reverse.flatMap Branch.elements = l.items := by
  simp [close, items, Branch.elements]

/-- The groups around the innermost level, in source order: what stands before each open bracket,
and the group that it opens. -/
def openCaptures : List OpenGroup → List Capture
  | [] => []
  | g :: groups => openCaptures groups ++ g.outer.captures ++ g.shell.capture?.toList

theorem Shell.captures_element (s : Shell) (span : Span) (l : Level) (stop : Nat) :
    (s.element span (l.close stop).reverse).captures = s.capture?.toList ++ l.captures := by
  have hl : branchesCaptures (l.close stop).reverse = l.captures := by
    rw [branchesCaptures, ← List.flatMap_assoc, Level.items_close, Level.captures]
  cases s with
  | group capture => rw [element, Element.captures_group, hl, capture?]
  | look direction negate => rw [element, Element.captures_look, hl, capture?]; rfl

theorem Shell.parts_element (s : Shell) (span : Span) (l : Level) (stop : Nat) :
    (s.element span (l.close stop).reverse).parts =
      s.element span (l.close stop).reverse :: l.items.flatMap Element.parts := by
  cases s <;> rw [Element.parts_eq, element, Element.held, Level.items_close]

namespace Reading

/-- The capture groups that have been opened, in the order of their brackets. -/
def captures (r : Reading) : List Capture := openCaptures r.groups ++ r.level.captures

def items (r : Reading) : List Element := r.level.items ++ r.groups.flatMap (·.outer.items)

/-- The invariant of reading. -/
structure Sound (d : Dialect) (r : Reading) : Prop where
  counted : GroupCount.scan false r.counted r.cursor.rest = d.groups
  captures : r.captures = numbered r.names.toList
  distinct : r.names.toList.reduceOption.Nodup
  parts : ∀ e ∈ r.items, ∀ x ∈ e.parts,
    x.Formed d.unicode d.groups.total (· ∈ r.references.map Prod.fst)

theorem ofText_sound (unicode : Bool) (source : List Char) :
    (ofText source).Sound ⟨unicode, .ofText source⟩ where
  counted := by simp [counted, ofText, Cursor.ofText, GroupCount.ofText]
  captures := rfl
  distinct := List.nodup_nil
  parts := by simp [items, ofText, Level.items, Level.empty]

/-- Adding a term to the level `outer` of a reading keeps it sound if the atom brings no captures
that were not there before. -/
theorem addTerm_sound {d : Dialect} {atom : Element} {c : Cursor} {outer : Level} {r s : Reading}
    (h : addTerm d atom c outer r = .ok s) (hq : atom.isQuantifier = false)
    (counted : GroupCount.scan false r.counted c.rest = d.groups)
    (captures : openCaptures r.groups ++ outer.captures ++ atom.captures = numbered r.names.toList)
    (distinct : r.names.toList.reduceOption.Nodup)
    (items : ∀ e ∈ outer.items ++ r.groups.flatMap (·.outer.items), ∀ x ∈ e.parts,
      x.Formed d.unicode d.groups.total (· ∈ r.references.map Prod.fst))
    (parts : ∀ x ∈ atom.parts,
      x.Formed d.unicode d.groups.total (· ∈ r.references.map Prod.fst)) : s.Sound d := by
  obtain ⟨hp, _⟩ := addTerm_passes h
  unfold addTerm at h
  split at h
  · cases h
  · rename_i term after ht
    cases h
    refine ⟨(hp r.counted).symm.trans counted, ?_, distinct, ?_⟩
    · rw [← captures, Reading.captures, Level.captures, Level.items_add]
      simp [Level.captures, Element.withQuantifier_captures ht]
    · intro e he
      simp only [Reading.items, Level.items_add, List.mem_append, List.mem_singleton] at he
      rcases he with (he | rfl) | he
      · exact items e (List.mem_append_left _ he)
      · exact Element.withQuantifier_parts ht hq parts
      · exact items e (List.mem_append_right _ he)

theorem numbered_push (names : Array (Option String)) (name : Option String) :
    numbered (names.push name).toList = numbered names.toList ++ [⟨names.size + 1, name⟩] := by
  simp [numbered]

theorem openGroup_sound {d : Dialect} {r s : Reading} (hr : r.Sound d)
    (hc : r.cursor.peek? = some '(') (h : r.openGroup = .ok s) : s.Sound d := by
  have hcount := (openGroup_counted hc h).trans hr.counted
  unfold openGroup at h
  split at h
  · cases h
  · rename_i shell inside ho
    dsimp only at h
    split at h
    · rename_i capture
      split at h <;> cases h
      rename_i hdup
      refine ⟨hcount, ?_, ?_, hr.parts⟩
      · obtain ⟨index, name⟩ := capture
        obtain rfl : index = r.names.size + 1 := Cursor.opening_index ho
        rw [numbered_push, ← hr.captures]
        simp [captures, openCaptures, Shell.capture?, Level.captures, Level.items, Level.empty]
      · rw [Array.toList_push, List.reduceOption_append]
        cases hn : capture.name with
        | none => simpa using hr.distinct
        | some name =>
          have hnew : some name ∉ r.names := by simpa [hn] using hdup
          refine List.nodup_append.mpr ⟨hr.distinct, by simp, ?_⟩
          intro a ha b hb hab
          obtain rfl : b = name := by simpa using hb
          exact hnew (Array.mem_def.mpr (List.reduceOption_mem_iff.mp (hab ▸ ha)))
    · rename_i hshell
      cases h
      refine ⟨hcount, ?_, hr.distinct, hr.parts⟩
      rw [← hr.captures]
      match shell with
      | .group none | .look _ _ =>
        simp [captures, openCaptures, Shell.capture?, Level.captures, Level.items, Level.empty]
      | .group (some capture) => exact absurd rfl (hshell capture)

theorem closeGroup_sound {d : Dialect} {r s : Reading} (hr : r.Sound d)
    (hc : r.cursor.peek? = some ')') (h : r.closeGroup d = .ok s) : s.Sound d := by
  unfold closeGroup at h
  split at h
  · cases h
  · rename_i g groups hg
    have hcount : GroupCount.scan false r.counted r.cursor.next.rest = d.groups := by
      rw [← (Cursor.next_inert hc rfl).passes false r.counted, hr.counted]
    have hcaptures := hr.captures
    have hitems := hr.parts
    simp only [Reading.captures, Reading.items, hg, openCaptures, List.flatMap_cons] at hcaptures hitems
    refine addTerm_sound h ?_ hcount ?_ hr.distinct (fun e he => hitems e (by simp_all)) ?_
    · cases g.shell <;> rfl
    · rw [Shell.captures_element, ← List.append_assoc, hcaptures]
    · rw [Shell.parts_element]
      refine List.forall_mem_cons.mpr ⟨?_, fun x hx => ?_⟩
      · cases g.shell <;> simp [Shell.element, Element.Formed, Level.close]
      · obtain ⟨e, he, hx⟩ := List.mem_flatMap.mp hx
        exact hitems e (List.mem_append_left _ he) x hx

theorem noteReference_eq (offset : Nat) (e : Element) (r : Reading) :
    ∃ references, r.noteReference offset e = { r with references := references } ∧
      (∀ name ∈ r.references.map Prod.fst, name ∈ references.map Prod.fst) ∧
      ∀ span name, e = .backreference span (.name name) → name ∈ references.map Prod.fst := by
  unfold noteReference
  split
  · refine ⟨_, rfl, fun name hn => List.mem_cons_of_mem _ hn, fun _ _ he => ?_⟩
    cases he
    exact List.mem_cons_self
  · rename_i hne
    exact ⟨_, rfl, fun _ => id, fun span name he => absurd he (hne span name)⟩

theorem addAtom_sound {d : Dialect} {x : Char} {atom : Element} {after : Cursor} {r s : Reading}
    (hr : r.Sound d) (hx : r.cursor.peek? = some x) (hp : x ≠ '(')
    (ha : r.cursor.atom d x = .ok (atom, after))
    (h : addTerm d atom after r.level (r.noteReference r.cursor.offset atom) = .ok s) :
    s.Sound d := by
  have hatom := Cursor.atom_isAtom ha
  have hcount := (Cursor.atom_passes hx hp ha r.counted).symm.trans hr.counted
  obtain ⟨references, hn, hmore, hnew⟩ := noteReference_eq r.cursor.offset atom r
  rw [hn] at h
  refine addTerm_sound h ?_ hcount ?_ hr.distinct ?_ ?_
  · have hheld := hatom.held
    cases atom <;> first | rfl | simp [Element.held] at hheld
  · rw [Element.captures_of_held_eq_nil hatom.held hatom.capture, List.append_nil]
    exact hr.captures
  · exact fun e he x hx => (hr.parts e he x hx).mono hmore
  · rw [Element.parts_eq, hatom.held, List.flatMap_nil]
    exact List.forall_mem_singleton.mpr (hatom.formed _ hnew)

/-- One step keeps the invariant: it reads an atom, or ends an alternative, or opens or closes a
group. -/
theorem step_sound {d : Dialect} {x : Char} {r s : Reading} (hr : r.Sound d)
    (hx : r.cursor.peek? = some x) (h : r.step d x = .ok s) : s.Sound d := by
  have hcount := (step_counted hx h).trans hr.counted
  unfold step at h
  split at h
  · cases h
    have hitems : (⟨r.level.close r.cursor.byte, r.cursor.next.byte, []⟩ : Level).items =
        r.level.items := by
      rw [Level.items, Level.items_close, List.reverse_nil, List.append_nil]
    refine ⟨hcount, ?_, hr.distinct, ?_⟩
    · rw [Reading.captures, Level.captures, hitems]
      exact hr.captures
    · rw [Reading.items, hitems]
      exact hr.parts
  · exact closeGroup_sound hr hx h
  · exact openGroup_sound hr hx h
  · rename_i hp
    split at h
    · cases h
    · rename_i ha
      exact addAtom_sound hr hx hp ha h

theorem finish_wellFormed {d : Dialect} {r : Reading} {tree : PatternTree} (hr : r.Sound d)
    (hend : r.cursor.rest = []) (h : r.finish = .ok tree) :
    d.groups.total = tree.names.length ∧ tree.WellFormed d.unicode := by
  have htotal : d.groups = r.counted := by
    rw [← hr.counted, hend]
    rfl
  unfold finish at h
  split at h
  · cases h
  · cases h
  · rename_i hg hrefs
    cases h
    have hsize : d.groups.total = r.names.toList.length := by rw [htotal]; simp [counted]
    have hcaptures := hr.captures
    have hparts := hr.parts
    simp only [Reading.captures, Reading.items, hg, openCaptures, List.nil_append, List.flatMap_nil,
      List.append_nil] at hcaptures hparts
    refine ⟨hsize, by simp [Level.close], ?_, hr.distinct, ?_⟩
    · rw [Pattern.captures_eq, branchesCaptures, ← List.flatMap_assoc, Level.items_close]
      exact hcaptures
    · intro x hx
      rw [Pattern.elements_eq, Level.items_close] at hx
      obtain ⟨e, he, hx⟩ := List.mem_flatMap.mp hx
      rw [← hsize]
      refine (hparts e he x hx).mono fun name hn => ?_
      obtain ⟨⟨name, offset⟩, hmem, rfl⟩ := List.mem_map.mp hn
      have hknown := List.find?_eq_none.mp hrefs ⟨name, offset⟩ (List.mem_reverse.mpr hmem)
      simpa using hknown

theorem run_wellFormed {d : Dialect} {r : Reading} {tree : PatternTree} (hr : r.Sound d)
    (h : r.run d = .ok tree) : d.groups.total = tree.names.length ∧ tree.WellFormed d.unicode := by
  obtain ⟨s, hs, hend, hfinish⟩ := run_eq_ok.mp h
  exact finish_wellFormed (hs.keeps step_sound hr) (by simpa [Cursor.peek?] using hend) hfinish

end Reading

theorem PatternTree.WellFormed.of_parse {unicode : Bool} {source : List Char} {tree : PatternTree}
    (h : parse unicode source = .ok tree) : tree.WellFormed unicode :=
  (Reading.run_wellFormed (Reading.ofText_sound unicode source) h).2

/-- A tree that has been read is well formed, and the count ahead of reading, the number of capture
groups in the tree and the number of their names are one number. -/
theorem parse_wellFormed {unicode : Bool} {source : List Char} {tree : PatternTree}
    (h : parse unicode source = .ok tree) :
    (GroupCount.ofText source).total = tree.pattern.captures.length ∧
      tree.pattern.captures.length = tree.names.length ∧ tree.WellFormed unicode := by
  obtain ⟨htotal, hw⟩ := Reading.run_wellFormed (Reading.ofText_sound unicode source) h
  have hlength : tree.pattern.captures.length = tree.names.length := by
    simp [hw.captures, numbered]
  exact ⟨htotal.trans hlength.symm, hlength, hw⟩

/-- A reference ahead of its group, which stands behind a bar inside another group. -/
theorem parse_wellFormed_forward_reference :
    ∃ tree, parse true "\\2(a)(?:b{2,3}|(c))".toList = .ok tree ∧ tree.names = [none, none] ∧
      (GroupCount.ofText "\\2(a)(?:b{2,3}|(c))".toList).total = tree.pattern.captures.length ∧
      tree.pattern.captures.length = tree.names.length ∧ tree.WellFormed true := by
  have h : (parse true "\\2(a)(?:b{2,3}|(c))".toList).map PatternTree.names = .ok [none, none] := by
    decide +kernel
  cases hp : parse true "\\2(a)(?:b{2,3}|(c))".toList with
  | error e =>
    rw [hp] at h
    cases h
  | ok tree =>
    rw [hp] at h
    exact ⟨tree, rfl, Except.ok.inj h, parse_wellFormed hp⟩

end RegexInsight
