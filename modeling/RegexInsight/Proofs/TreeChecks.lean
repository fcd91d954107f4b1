import RegexInsight.Proofs.EnclosedPattern

/-! What is found wrong with a tree. A tree that was read has no program for one of two reasons: its
program would be too long, or a property that something is written for is unknown. Nothing is written
for what may not be repeated even once, so properties are not looked up there. -/
namespace RegexInsight

/-- A set that is no property, or a property that there is. -/
def CharSet.Known (s : CharSet) : Prop :=
  ∀ name value, s.kind = .property name value → (Property.find? name value).isSome

def ClassMember.set? (m : ClassMember) : Option CharSet :=
  match m.kind with
  | .set s => some s
  | _ => none

/-- The sets that an element asks for on its own. -/
def Element.sets : Element → List CharSet
  | .set _ s => [s]
  | .bracket _ _ members => members.filterMap ClassMember.set?
  | _ => []

mutual

/-- The elements at and below an element that are written: all but those that a quantifier allows no
iteration of. -/
def Element.written : Element → List Element
  | .group span capture branches => .group span capture branches :: branchesWritten branches
  | .look span direction negate branches =>
    .look span direction negate branches :: branchesWritten branches
  | .quantifier span min max greedy inner =>
    .quantifier span min max greedy inner :: if max = some 0 then [] else inner.written
  | e => [e]

def Branch.written : Branch → List Element
  | .mk _ elements => elementsWritten elements

def elementsWritten : List Element → List Element
  | [] => []
  | e :: es => e.written ++ elementsWritten es

def branchesWritten : List Branch → List Element
  | [] => []
  | b :: bs => b.written ++ branchesWritten bs

end

def Pattern.written (p : Pattern) : List Element := branchesWritten p.branches

/-- The sets that some elements ask for are known. -/
def SetsKnown (es : List Element) : Prop := ∀ e ∈ es, ∀ s ∈ e.sets, s.Known

@[simp] theorem setsKnown_nil : SetsKnown [] := fun _ he => absurd he List.not_mem_nil

@[simp] theorem setsKnown_append (xs ys : List Element) :
    SetsKnown (xs ++ ys) ↔ SetsKnown xs ∧ SetsKnown ys := List.forall_mem_append

theorem setsKnown_cons (e : Element) (es : List Element) :
    SetsKnown (e :: es) ↔ (∀ s ∈ e.sets, s.Known) ∧ SetsKnown es := List.forall_mem_cons

theorem setsKnown_holding {e : Element} (h : e.sets = []) (es : List Element) :
    SetsKnown (e :: es) ↔ SetsKnown es := by
  simp [setsKnown_cons, h]

theorem CharTest.ofKind?_isSome_iff (s : CharSet) : (ofKind? s.kind).isSome ↔ s.Known := by
  unfold CharSet.Known
  cases s.kind <;> simp [ofKind?]

instance CharSet.decidableKnown (s : CharSet) : Decidable s.Known :=
  decidable_of_iff _ (CharTest.ofKind?_isSome_iff s)

theorem ClassItem.ofKind?_isSome_iff (m : ClassMember) :
    (ofKind? m.kind).isSome ↔ ∀ s ∈ m.set?, s.Known := by
  unfold ClassMember.set?
  cases m.kind <;> simp [ofKind?, CharTest.ofKind?_isSome_iff]

theorem append_subset_append {α : Type} {xs xs' ys ys' : List α} (hx : xs ⊆ xs') (hy : ys ⊆ ys') :
    xs ++ ys ⊆ xs' ++ ys' :=
  List.append_subset.mpr ⟨List.subset_append_of_subset_left _ hx, List.subset_append_of_subset_right _ hy⟩

mutual

theorem Element.written_subset (e : Element) : e.written ⊆ e.parts := by
  rw [Element.parts_eq]
  cases e with
  | char | set | bracket | anchor | backreference =>
    exact List.cons_subset_cons _ (List.nil_subset _)
  | group span capture branches =>
    exact List.cons_subset_cons _ (branchesWritten_subset branches)
  | look span direction negate branches =>
    exact List.cons_subset_cons _ (branchesWritten_subset branches)
  | quantifier span min max greedy inner =>
    rw [Element.written, Element.held, List.flatMap_singleton]
    refine List.cons_subset_cons _ ?_
    split
    · exact List.nil_subset _
    · exact Element.written_subset inner

theorem Branch.written_subset (b : Branch) : b.written ⊆ b.elements.flatMap Element.parts := by
  cases b with
  | mk span elements => exact elementsWritten_subset elements

theorem elementsWritten_subset (es : List Element) :
    elementsWritten es ⊆ es.flatMap Element.parts := by
  cases es with
  | nil => exact List.nil_subset _
  | cons e es =>
    rw [elementsWritten, List.flatMap_cons]
    exact append_subset_append (Element.written_subset e) (elementsWritten_subset es)

theorem branchesWritten_subset (bs : List Branch) :
    branchesWritten bs ⊆ (bs.flatMap Branch.elements).flatMap Element.parts := by
  cases bs with
  | nil => exact List.nil_subset _
  | cons b bs =>
    rw [branchesWritten, List.flatMap_cons, List.flatMap_append]
    exact append_subset_append (Branch.written_subset b) (branchesWritten_subset bs)

end

theorem Pattern.written_subset (p : Pattern) : p.written ⊆ p.elements := by
  rw [elements_eq]
  exact branchesWritten_subset p.branches

/-- What a check says of something that makes up a program of `length` instructions and needs `known`
to hold. -/
inductive Checked (known : Prop) (length : Nat) : Except CompileError Nat → Prop
  | ok : known → length ≤ maxProgramLength → Checked known length (.ok length)
  | tooLarge : maxProgramLength < length → Checked known length (.error .tooLarge)
  | unknown (byte : Nat) : ¬ known → Checked known length (.error (.unknownProperty byte))

namespace Checked

variable {known more : Prop} {n length : Nat} {r : Except CompileError Nat}
  {f : Nat → Except CompileError Nat}

theorem congr (h : Checked known length r) (hk : known ↔ more) : Checked more length r :=
  propext hk ▸ h

theorem fitting (length : Nat) : Checked True length (RegexInsight.fitting length) := by
  unfold RegexInsight.fitting
  split
  · exact .ok trivial ‹_›
  · exact .tooLarge (Nat.lt_of_not_le ‹_›)

theorem bind : Checked known n r → n ≤ length → (n ≤ maxProgramLength → Checked more length (f n)) →
    Checked (known ∧ more) length (match r with
      | .error e => .error e
      | .ok n => f n) := by
  intro h hle hf
  cases h with
  | ok hk hn => exact (hf hn).congr (by simp [hk])
  | tooLarge hn => exact .tooLarge (Nat.lt_of_lt_of_le hn hle)
  | unknown byte hk => exact .unknown byte fun h => hk h.1

theorem around {start size : Nat} {check : Nat → Except CompileError Nat}
    {last : Nat → Nat → Except CompileError Nat} (hle : start + size ≤ length)
    (h : ∀ n ≤ maxProgramLength, Checked known (n + size) (check n))
    (hlast : last start (start + size) = RegexInsight.fitting length) :
    Checked known length (match RegexInsight.fitting start with
      | .error e => .error e
      | .ok n => match check n with
        | .error e => .error e
        | .ok stop => last n stop) := by
  have hall : Checked (True ∧ known ∧ True) length (match RegexInsight.fitting start with
      | .error e => .error e
      | .ok n => match check n with
        | .error e => .error e
        | .ok stop => last n stop) := by
    refine (fitting _).bind (Nat.le_of_add_right_le hle) fun hstart =>
      (h _ hstart).bind hle fun _ => ?_
    rw [hlast]
    exact fitting length
  exact hall.congr (by rw [true_and, and_true])

theorem enclosed {size : Nat} {check : Nat → Except CompileError Nat}
    (h : ∀ n ≤ maxProgramLength, Checked known (n + size) (check n)) (n : Nat) :
    Checked known (n + (size + 2)) (match RegexInsight.fitting (n + 1) with
      | .error e => .error e
      | .ok n => match check n with
        | .error e => .error e
        | .ok n => RegexInsight.fitting (n + 1)) :=
  .around (by omega) h (congrArg RegexInsight.fitting (by omega))

end Checked

section
variable {unicode : Bool} {names : List (Option String)}

theorem set_checked (span : Span) (s : CharSet) (n : Nat) :
    Checked s.Known (n + 1) ((Element.set span s).check names n) := by
  rw [Element.check, ← CharTest.ofKind?_isSome_iff]
  cases CharTest.ofKind? s.kind with
  | none => exact .unknown _ (by simp)
  | some test => exact (Checked.fitting _).congr (by simp)

theorem bracket_checked (span : Span) (negate : Bool) (members : List ClassMember) (n : Nat) :
    Checked (∀ s ∈ members.filterMap ClassMember.set?, s.Known) (n + 1)
      ((Element.bracket span negate members).check names n) := by
  have hknown : (∀ s ∈ members.filterMap ClassMember.set?, s.Known) ↔
      ∀ m ∈ members, (ClassItem.ofKind? m.kind).isSome := by
    simp only [List.mem_filterMap, ClassItem.ofKind?_isSome_iff]
    exact ⟨fun h m hm s hs => h s ⟨m, hm, hs⟩, fun h s ⟨m, hm, hs⟩ => h m hm s hs⟩
  rw [Element.check]
  split
  · rename_i m hfound
    refine .unknown _ fun hs => ?_
    have hsome := hknown.mp hs m (List.mem_of_find?_eq_some hfound)
    have hnone := List.find?_some hfound
    simp_all
  · rename_i hfound
    refine (Checked.fitting _).congr ?_
    rw [hknown, true_iff]
    intro m hm
    have hnone := List.find?_eq_none.mp hfound m hm
    simpa [Option.isSome_iff_ne_none] using hnone

theorem lead_le_repeatedSize (min : Nat) {max : Option Nat} (hmax : max ≠ some 0) (clears size : Nat) :
    (if min = 0 then (if max.isNone then 2 else 1) else 0) + clears + size ≤
      repeatedSize min max clears size := by
  unfold repeatedSize
  by_cases hmin : min = 0
  · rw [if_pos hmin, hmin, Nat.zero_mul, Nat.zero_add]
    cases max with
    | none =>
      rw [Option.isNone_none, if_pos rfl]
      dsimp only
      omega
    | some max =>
      have hpos : 0 < max - 0 := Nat.pos_of_ne_zero fun h => hmax (congrArg some h)
      have hcopy := Nat.le_mul_of_pos_left (clears + size + 1) hpos
      rw [Option.isNone_some, if_neg Bool.false_ne_true]
      dsimp only
      omega
  · have hcopy := Nat.le_mul_of_pos_left (clears + size) (Nat.pos_of_ne_zero hmin)
    rw [if_neg hmin, Nat.zero_add]
    exact Nat.le_trans hcopy (Nat.le_add_right _ _)

theorem quantifier_checked (span : Span) (min : Nat) {max : Option Nat} (hmax : max ≠ some 0)
    (greedy : Bool) {inner : Element} {n : Nat} {known : Prop}
    (h : ∀ n ≤ maxProgramLength, Checked known (n + inner.size) (inner.check names n)) :
    Checked known (n + (Element.quantifier span min max greedy inner).size)
      ((Element.quantifier span min max greedy inner).check names n) := by
  rw [Element.check, if_neg hmax, Element.size, if_neg hmax]
  refine .around ?_ h (by rw [Nat.add_sub_cancel_left])
  rw [Nat.add_assoc, Nat.add_assoc, ← Nat.add_assoc _ _ inner.size]
  exact Nat.add_le_add_left (lead_le_repeatedSize min hmax _ _) n

mutual

/-- What is checked of an element is that the sets that are written for it are known and that its code
fits. -/
theorem Element.checked (e : Element) {n : Nat} (hn : n ≤ maxProgramLength)
    (hs : e.Sound unicode names) : Checked (SetsKnown e.written) (n + e.size) (e.check names n) := by
  have hheld := hs.held
  cases e with
  | char | anchor =>
    exact (Checked.fitting _).congr (by simp [Element.written, setsKnown_cons, Element.sets])
  | set span s =>
    exact (set_checked span s n).congr (by simp [Element.written, setsKnown_cons, Element.sets])
  | bracket span negate members =>
    exact (bracket_checked span negate members n).congr
      (by simp [Element.written, setsKnown_cons, Element.sets])
  | backreference span target =>
    obtain ⟨group, -, hgroup⟩ := hs.self.group
    rw [Element.check, hgroup]
    exact (Checked.fitting _).congr (by simp [Element.written, setsKnown_cons, Element.sets])
  | group span capture branches =>
    rw [Element.written]
    cases capture with
    | none => exact (branchesChecked branches hn hheld).congr (setsKnown_holding rfl _).symm
    | some capture =>
      exact (Checked.enclosed (fun n hn => branchesChecked branches hn hheld) n).congr
        (setsKnown_holding rfl _).symm
  | look span direction negate branches =>
    rw [Element.written]
    exact (Checked.enclosed (fun n hn => branchesChecked branches hn hheld) n).congr
      (setsKnown_holding rfl _).symm
  | quantifier span min max greedy inner =>
    by_cases hmax : max = some 0
    · rw [Element.check, if_pos hmax, Element.size, if_pos hmax, Element.written, if_pos hmax]
      exact .ok ((setsKnown_holding rfl _).mpr setsKnown_nil) hn
    · rw [Element.written, if_neg hmax]
      exact (quantifier_checked span min hmax greedy fun n hn =>
        Element.checked inner hn (hheld inner List.mem_cons_self)).congr (setsKnown_holding rfl _).symm

theorem Branch.checked (b : Branch) {n : Nat} (hn : n ≤ maxProgramLength)
    (hs : ∀ e ∈ b.elements, e.Sound unicode names) :
    Checked (SetsKnown b.written) (n + b.size) (b.check names n) := by
  cases b with
  | mk span elements => exact elementsChecked elements hn hs

theorem elementsChecked (es : List Element) {n : Nat} (hn : n ≤ maxProgramLength)
    (hs : ∀ e ∈ es, e.Sound unicode names) :
    Checked (SetsKnown (elementsWritten es)) (n + elementsSize es) (elementsCheck names es n) := by
  cases es with
  | nil => exact .ok setsKnown_nil hn
  | cons e es =>
    rw [elementsCheck, elementsWritten, elementsSize, ← Nat.add_assoc]
    refine ((Element.checked e hn (hs e List.mem_cons_self)).bind (Nat.le_add_right _ _) fun hn =>
      elementsChecked es hn fun x hx => hs x (List.mem_cons_of_mem _ hx)).congr ?_
    rw [setsKnown_append]

theorem branchesChecked (bs : List Branch) {n : Nat} (hn : n ≤ maxProgramLength)
    (hs : ∀ e ∈ bs.flatMap Branch.elements, e.Sound unicode names) :
    Checked (SetsKnown (branchesWritten bs)) (n + branchesSize bs) (branchesCheck names bs n) := by
  match bs with
  | [] => exact .ok setsKnown_nil hn
  | [b] =>
    rw [branchesWritten, branchesWritten, List.append_nil]
    exact Branch.checked b hn fun e he => hs e (by simpa using he)
  | b :: b' :: bs =>
    rw [List.flatMap_cons] at hs
    have hall : Checked (True ∧ SetsKnown b.written ∧ True ∧ SetsKnown (branchesWritten (b' :: bs)))
        (n + 1 + b.size + 1 + branchesSize (b' :: bs)) (branchesCheck names (b :: b' :: bs) n) := by
      refine (Checked.fitting _).bind (by omega) fun hn => ?_
      refine (Branch.checked b hn fun e he => hs e (List.mem_append_left _ he)).bind (by omega) fun _ => ?_
      refine (Checked.fitting _).bind (Nat.le_add_right _ _) fun hn => ?_
      exact branchesChecked (b' :: bs) hn fun e he => hs e (List.mem_append_right _ he)
    rw [branchesSize_cons_cons, branchesWritten, setsKnown_append]
    rw [true_and, true_and] at hall
    rwa [show n + (b.size + 2 + branchesSize (b' :: bs)) =
      n + 1 + b.size + 1 + branchesSize (b' :: bs) by omega]

end

end

section
variable {unicode : Bool} {tree : PatternTree}

theorem PatternTree.WellFormed.sound (hw : tree.WellFormed unicode) :
    ∀ e ∈ tree.pattern.branches.flatMap Branch.elements, e.Sound unicode tree.names :=
  Pattern.forall_elements.mp hw.elements

/-- What comes of a tree: a program if all sets that are written are known and the program fits, and
else one of two errors. -/
theorem PatternTree.WellFormed.compile_checked (hw : tree.WellFormed unicode) (multiline : Bool) :
    (SetsKnown tree.pattern.written ∧ branchesSize tree.pattern.branches + 1 ≤ maxProgramLength ∧
      ∃ program, compile multiline tree = .ok program) ∨
    (maxProgramLength < branchesSize tree.pattern.branches + 1 ∧
      compile multiline tree = .error .tooLarge) ∨
    ∃ byte, ¬ SetsKnown tree.pattern.written ∧
      compile multiline tree = .error (.unknownProperty byte) := by
  have hbranches := branchesChecked tree.pattern.branches (Nat.zero_le _) hw.sound
  rw [Nat.zero_add] at hbranches
  unfold compile Pattern.written
  dsimp only
  generalize hcheck : branchesCheck tree.names tree.pattern.branches 0 = r at hbranches
  cases hbranches with
  | ok hk hn =>
    dsimp only [fitting]
    by_cases hle : branchesSize tree.pattern.branches + 1 ≤ maxProgramLength
    · exact .inl ⟨hk, hle, by rw [if_pos hle]; exact ⟨_, rfl⟩⟩
    · exact .inr (.inl ⟨Nat.lt_of_not_le hle, by rw [if_neg hle]⟩)
  | tooLarge hn => exact .inr (.inl ⟨Nat.lt_succ_of_lt hn, rfl⟩)
  | unknown byte hk => exact .inr (.inr ⟨byte, hk, rfl⟩)

/-- There is a program just if all sets that are written are known and the program fits. -/
theorem PatternTree.WellFormed.compile_ok_iff (hw : tree.WellFormed unicode) (multiline : Bool) :
    (∃ program, compile multiline tree = .ok program) ↔
      SetsKnown tree.pattern.written ∧ branchesSize tree.pattern.branches + 1 ≤ maxProgramLength := by
  rcases hw.compile_checked multiline with ⟨hk, hle, hc⟩ | ⟨hlt, hc⟩ | ⟨byte, hk, hc⟩
  · exact iff_of_true hc ⟨hk, hle⟩
  · exact iff_of_false (by simp [hc]) fun h => Nat.not_le_of_lt hlt h.2
  · exact iff_of_false (by simp [hc]) fun h => hk h.1

end

theorem Regex.ofTree_ok_iff (source : String) (flags : Flags) (tree : PatternTree) :
    (∃ r, ofTree source flags tree = .ok r) ↔ ∃ program, compile flags.multiline tree = .ok program := by
  unfold ofTree
  split <;> simp [*]

/-- A source is accepted just if every property is known that is asked for by a set or class member of
its tree, at any depth and under any quantifier but one that allows no iteration, and its program
fits. -/
theorem accepted_iff_written_known {source flagText : String} {flags : Flags} {tree : PatternTree}
    (hflags : Flags.ofText? flagText = some flags) (hp : parse flags.unicode source.toList = .ok tree) :
    (parsePattern source flagText = .ok ⟨source, flags, tree⟩ ↔
      (∀ e ∈ tree.pattern.written, ∀ s ∈ e.sets, s.Known) ∧
        branchesSize tree.pattern.branches + 1 ≤ maxProgramLength) ∧
    ((∃ r, Regex.build source flags = .ok r) ↔
      (∀ e ∈ tree.pattern.written, ∀ s ∈ e.sets, s.Known) ∧
        branchesSize tree.pattern.branches + 1 ≤ maxProgramLength) := by
  have hw := PatternTree.WellFormed.of_parse hp
  have hok := (Regex.ofTree_ok_iff source flags tree).trans (hw.compile_ok_iff flags.multiline)
  have hparse : parsePattern source flagText = .ok ⟨source, flags, tree⟩ ↔
      ∃ r, Regex.ofTree source flags tree = .ok r := by
    unfold parsePattern
    rw [hflags]
    dsimp only
    rw [hp]
    dsimp only
    split <;> simp [*]
  have hbuild : Regex.build source flags = Regex.ofTree source flags tree := by
    rw [Regex.build, hp]
  rw [hparse, hbuild]
  exact ⟨hok, hok⟩

/-- Properties in a class that is repeated, and an unknown one that may not be repeated at all. -/
theorem accepted_iff_written_known_nested :
    ∃ tree flags, Flags.ofText? "u" = some flags ∧
      parse flags.unicode "\\p{Lu}(?:[\\P{sc=Greek}]{2}|\\p{Nope}{0})*".toList = .ok tree ∧
      (∀ e ∈ tree.pattern.written, ∀ s ∈ e.sets, s.Known) ∧
      branchesSize tree.pattern.branches + 1 ≤ maxProgramLength ∧
      parsePattern "\\p{Lu}(?:[\\P{sc=Greek}]{2}|\\p{Nope}{0})*" "u" =
        .ok ⟨"\\p{Lu}(?:[\\P{sc=Greek}]{2}|\\p{Nope}{0})*", flags, tree⟩ := by
  let flags : Flags := ⟨false, false, false, false, true, false⟩
  let greek : Element := .bracket ⟨9, 23⟩ false
    [⟨⟨10, 22⟩, .set ⟨.property "sc" (some "Greek"), true⟩⟩]
  let nope : Element := .set ⟨27, 35⟩ ⟨.property "Nope" none, false⟩
  let choice : Element := .group ⟨6, 39⟩ none
    [.mk ⟨9, 26⟩ [.quantifier ⟨9, 26⟩ 2 (some 2) true greek],
      .mk ⟨27, 38⟩ [.quantifier ⟨27, 38⟩ 0 (some 0) true nope]]
  let tree : PatternTree := ⟨⟨⟨0, 40⟩, [.mk ⟨0, 40⟩
    [.set ⟨0, 6⟩ ⟨.property "Lu" none, false⟩, .quantifier ⟨6, 40⟩ 0 none true choice]]⟩, []⟩
  have hflags : Flags.ofText? "u" = some flags := by decide +kernel
  have hp : parse flags.unicode "\\p{Lu}(?:[\\P{sc=Greek}]{2}|\\p{Nope}{0})*".toList = .ok tree := by
    with_unfolding_all rfl
  have hknown : ∀ e ∈ tree.pattern.written, ∀ s ∈ e.sets, s.Known := by decide +kernel
  have hsize : branchesSize tree.pattern.branches + 1 ≤ maxProgramLength := by decide +kernel
  exact ⟨tree, flags, hflags, hp, hknown, hsize,
    (accepted_iff_written_known hflags hp).1.mpr ⟨hknown, hsize⟩⟩

/-- What may not be repeated at all may be a property that there is not. -/
theorem unknown_property_accepted :
    ∃ p e, parsePattern "\\p{Klingon}{0}" "u" = .ok p ∧ e ∈ p.pattern.elements ∧
      e.sets = [⟨.property "Klingon" none, false⟩] ∧ Property.find? "Klingon" none = none := by
  let klingon : Element := .set ⟨0, 11⟩ ⟨.property "Klingon" none, false⟩
  let tree : PatternTree :=
    ⟨⟨⟨0, 14⟩, [.mk ⟨0, 14⟩ [.quantifier ⟨0, 14⟩ 0 (some 0) true klingon]]⟩, []⟩
  have hparts : klingon ∈ (Element.quantifier ⟨0, 14⟩ 0 (some 0) true klingon).parts := by
    rw [Element.parts_eq, Element.held, List.flatMap_singleton, Element.parts_eq]
    exact List.mem_cons_of_mem _ List.mem_cons_self
  refine ⟨⟨"\\p{Klingon}{0}", ⟨false, false, false, false, true, false⟩, tree⟩, klingon, ?_, ?_, rfl,
    by decide +kernel⟩
  · with_unfolding_all rfl
  · rw [ParsedPattern.pattern, Pattern.elements_eq]
    exact List.mem_flatMap.mpr ⟨_, List.mem_singleton.mpr rfl, hparts⟩

end RegexInsight
