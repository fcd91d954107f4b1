import RegexInsight.Proofs.Descent
import RegexInsight.Proofs.ErrorPlaces
import RegexInsight.Proofs.ProgramSize

/-! Why a pattern is refused and where. What only the compiler finds is a property that there is none of;
it names the byte of a set, and the characters before that byte are those before the escape. -/
namespace RegexInsight

/-- The sets that an element asks for on its own, each with the byte where it is written. -/
def Element.setPlaces : Element → List (Nat × CharSet)
  | .set span s => [(span.start, s)]
  | .bracket _ _ members => members.filterMap fun m => m.set?.map fun s => (m.span.start, s)
  | _ => []

/-- One of some elements asks at the byte for a set that is not known. -/
def UnknownAt (byte : Nat) (es : List Element) : Prop :=
  ∃ e ∈ es, ∃ s, (byte, s) ∈ e.setPlaces ∧ ¬ s.Known

theorem UnknownAt.mono {byte : Nat} {es es' : List Element} (h : UnknownAt byte es) (hs : es ⊆ es') :
    UnknownAt byte es' := by
  obtain ⟨e, he, hset⟩ := h
  exact ⟨e, hs he, hset⟩

theorem CharSet.unknown_of_isNone {s : CharSet} (h : (CharTest.ofKind? s.kind).isNone) :
    ¬ s.Known := by
  rw [← CharTest.ofKind?_isSome_iff, ← Option.not_isNone, h]
  exact Bool.false_ne_true

theorem ClassMember.unknown_of_isNone {m : ClassMember} (h : (ClassItem.ofKind? m.kind).isNone) :
    ∃ s ∈ m.set?, ¬ s.Known := by
  have hunknown : ¬ ∀ s ∈ m.set?, s.Known := by
    rw [← ClassItem.ofKind?_isSome_iff, ← Option.not_isNone, h]
    exact Bool.false_ne_true
  simpa using hunknown

theorem fitting_ne_unknown {length byte : Nat} : fitting length ≠ .error (.unknownProperty byte) := by
  unfold fitting
  split <;> simp

theorem enclosed_unknown (check : Nat → Except CompileError Nat) {n byte : Nat}
    (h : (match fitting (n + 1) with
      | .error e => .error e
      | .ok n => match check n with
        | .error e => .error e
        | .ok n => fitting (n + 1) : Except CompileError Nat) = .error (.unknownProperty byte)) :
    ∃ n, check n = .error (.unknownProperty byte) := by
  split at h
  · rename_i hfit
    cases h
    exact absurd hfit fitting_ne_unknown
  · split at h
    · cases h
      exact ⟨_, ‹_›⟩
    · exact absurd h fitting_ne_unknown

section
variable {names : List (Option String)} {byte : Nat}

mutual

theorem Element.check_unknown (e : Element) {n : Nat}
    (h : e.check names n = .error (.unknownProperty byte)) : UnknownAt byte e.parts := by
  rw [Element.parts_eq]
  cases e with
  | char | anchor => exact absurd h fitting_ne_unknown
  | set span s =>
    rw [Element.check] at h
    split at h
    · rename_i hnone
      cases h
      exact ⟨_, List.mem_cons_self, s, List.mem_singleton_self _, CharSet.unknown_of_isNone hnone⟩
    · exact absurd h fitting_ne_unknown
  | bracket span negate members =>
    rw [Element.check] at h
    split at h
    · rename_i m hm
      cases h
      have hnone := List.find?_some hm
      obtain ⟨s, hs, hunknown⟩ := ClassMember.unknown_of_isNone hnone
      refine ⟨_, List.mem_cons_self, s, List.mem_filterMap.mpr ⟨m, ?_, ?_⟩, hunknown⟩
      · exact List.mem_of_find?_eq_some hm
      · exact Option.map_eq_some_iff.mpr ⟨s, hs, rfl⟩
    · exact absurd h fitting_ne_unknown
  | backreference span target =>
    rw [Element.check] at h
    split at h
    · cases h
    · exact absurd h fitting_ne_unknown
  | group span capture branches =>
    have hheld := List.subset_cons_self (Element.group span capture branches)
      ((branches.flatMap Branch.elements).flatMap Element.parts)
    cases capture with
    | none => exact (branchesCheck_unknown branches h).mono hheld
    | some capture =>
      obtain ⟨_, h⟩ := enclosed_unknown (branchesCheck names branches) h
      exact (branchesCheck_unknown branches h).mono hheld
  | look span direction negate branches =>
    obtain ⟨_, h⟩ := enclosed_unknown (branchesCheck names branches) h
    exact (branchesCheck_unknown branches h).mono (List.subset_cons_self _ _)
  | quantifier span min max greedy inner =>
    rw [Element.check] at h
    split at h
    · cases h
    · dsimp only at h
      split at h
      · rename_i hfit
        cases h
        exact absurd hfit fitting_ne_unknown
      · split at h
        · cases h
          rw [Element.held, List.flatMap_singleton]
          exact (Element.check_unknown inner ‹_›).mono (List.subset_cons_self _ _)
        · exact absurd h fitting_ne_unknown

theorem Branch.check_unknown (b : Branch) {n : Nat}
    (h : b.check names n = .error (.unknownProperty byte)) :
    UnknownAt byte (b.elements.flatMap Element.parts) := by
  cases b with
  | mk span elements => exact elementsCheck_unknown elements h

theorem elementsCheck_unknown (es : List Element) {n : Nat}
    (h : elementsCheck names es n = .error (.unknownProperty byte)) :
    UnknownAt byte (es.flatMap Element.parts) := by
  cases es with
  | nil => cases h
  | cons e es =>
    rw [List.flatMap_cons]
    rw [elementsCheck] at h
    split at h
    · cases h
      exact (Element.check_unknown e ‹_›).mono (List.subset_append_left _ _)
    · exact (elementsCheck_unknown es h).mono (List.subset_append_right _ _)

theorem branchesCheck_unknown (bs : List Branch) {n : Nat}
    (h : branchesCheck names bs n = .error (.unknownProperty byte)) :
    UnknownAt byte ((bs.flatMap Branch.elements).flatMap Element.parts) := by
  match bs with
  | [] => cases h
  | [b] =>
    rw [List.flatMap_singleton]
    exact Branch.check_unknown b h
  | b :: b' :: bs =>
    rw [List.flatMap_cons, List.flatMap_append]
    unfold branchesCheck at h
    split at h
    · rename_i hfit
      cases h
      exact absurd hfit fitting_ne_unknown
    · split at h
      · cases h
        exact (Branch.check_unknown b ‹_›).mono (List.subset_append_left _ _)
      · split at h
        · rename_i hfit
          cases h
          exact absurd hfit fitting_ne_unknown
        · exact (branchesCheck_unknown (b' :: bs) h).mono (List.subset_append_right _ _)

end

end

theorem compile_unknown {multiline : Bool} {tree : PatternTree} {byte : Nat}
    (h : compile multiline tree = .error (.unknownProperty byte)) :
    UnknownAt byte tree.pattern.elements := by
  rw [Pattern.elements_eq]
  unfold compile at h
  dsimp only at h
  split at h
  · cases h
    exact branchesCheck_unknown _ ‹_›
  · split at h
    · rename_i hfit
      cases h
      exact absurd hfit fitting_ne_unknown
    · cases h

/-- A set that is not known is a property whose escape begins at the byte. -/
def SetPlaced (source : List Char) (byte : Nat) (s : CharSet) : Prop :=
  ¬ s.Known → ∃ c : Cursor, c.Within source ∧ c.byte = byte ∧
    ParseFault.invalidProperty.PointsAt source c

/-- All sets that the element asks for are written where it says. -/
def Element.SetsPlaced (source : List Char) (e : Element) : Prop :=
  ∀ place ∈ e.setPlaces, SetPlaced source place.1 place.2

namespace Cursor

variable {source : List Char} {c after : Cursor}

theorem shorthandSet?_known {x : Char} {s : CharSet} (h : shorthandSet? x = some s) : s.Known := by
  unfold shorthandSet? at h
  split at h <;> cases h <;> nofun

theorem property_setPlaced (hc : c.Within source) (hslash : c.peek? = some '\\') {x : Char}
    (hx : c.next.peek? = some x) (hp : x ∈ ['p', 'P']) {s : CharSet}
    (h : c.next.next.property (x == 'P') c.offset = .ok (s, after)) :
    SetPlaced source c.byte s := by
  refine fun hunknown => ⟨c, hc, rfl, hslash, x, hp, hx, fun s' after' h' => ?_⟩
  rw [h] at h'
  cases h'
  exact hunknown

theorem classAtom_setPlaced (hc : c.Within source) {unicode : Bool} {m : ClassMember}
    (h : c.classAtom unicode = .ok (m, after)) : ∀ s ∈ m.set?, SetPlaced source m.span.start s := by
  obtain ⟨x, hx, hread⟩ := classAtom_read h
  cases hread with
  | shorthand _ _ hs =>
    rintro _ ⟨⟩ hunknown
    exact absurd (shorthandSet?_known hs) hunknown
  | property hslash hy hp hn =>
    rintro _ ⟨⟩
    exact property_setPlaced hc (hslash ▸ hx) hy (by simpa using hn) hp
  | literal | backspace | octal | char => nofun

theorem bracket_setsPlaced (hc : c.Within source) {unicode : Bool} {e : Element}
    (h : c.bracket unicode = .ok (e, after)) : e.SetsPlaced source := by
  unfold bracket at h
  dsimp only at h
  split at h <;> cases h
  rename_i hm
  have hplaced : ClassGrants unicode (Cursor.Within source)
      fun m => ∀ s ∈ m.set?, SetPlaced source m.span.start s :=
    ⟨fun hc => hc.next, fun hc h => ⟨hc.reaches (classAtom_reaches h).1, classAtom_setPlaced hc h⟩,
      fun _ => nofun, fun _ => nofun⟩
  intro place hplace
  obtain ⟨m, hmem, hm'⟩ := List.mem_filterMap.mp hplace
  obtain ⟨s, hs, rfl⟩ := Option.map_eq_some_iff.mp hm'
  exact hplaced.members (hc.next.reaches ⟨_, c.next.eat?_getD_reads '^'⟩) (by simp) hm m hmem s hs

theorem escapeAtom_setsPlaced {d : Dialect} {e : Element} (hc : c.Within source)
    (hslash : c.peek? = some '\\') (h : c.escapeAtom d = .ok (e, after)) : e.SetsPlaced source := by
  obtain ⟨x, hx, hread⟩ := escapeAtom_read h
  cases hread with
  | shorthand hs =>
    refine List.forall_mem_singleton.mpr fun hunknown => ?_
    exact absurd (shorthandSet?_known hs) hunknown
  | property _ hp hread =>
    exact List.forall_mem_singleton.mpr (property_setPlaced hc hslash hx (by simpa using hp) hread)
  | wordBoundary | nonWordBoundary | name | index | octal | char => nofun

theorem atom_setsPlaced {d : Dialect} {x : Char} {e : Element} (hc : c.Within source)
    (hx : c.peek? = some x) (h : c.atom d x = .ok (e, after)) : e.SetsPlaced source := by
  unfold atom at h
  dsimp only at h
  split at h
  · exact bracket_setsPlaced hc h
  · exact escapeAtom_setsPlaced hc hx h
  · cases h
    have hknown : (⟨.dot, false⟩ : CharSet).Known := nofun
    exact List.forall_mem_singleton.mpr fun hunknown => absurd hknown hunknown
  all_goals
    repeat' split at h
    all_goals
      cases h
      try nofun

end Cursor

theorem Shell.setsPlaced (shell : Shell) (source : List Char) (span : Span) (branches : List Branch) :
    (shell.element span branches).SetsPlaced source := by
  cases shell <;> nofun

theorem Reading.step_setsPlaced {source : List Char} {d : Dialect} {r s : Reading} {x : Char}
    (hw : r.cursor.Within source) (hx : r.cursor.peek? = some x) (hs : r.step d x = .ok s)
    (hr : r.Throughout (Element.SetsPlaced source)) : s.Throughout (Element.SetsPlaced source) := by
  refine step_throughout hr hs (fun hatom => ?_) fun _ _ _ _ _ _ _ => nofun
  cases hatom with
  | read _ _ _ h => exact Cursor.atom_setsPlaced hw hx h
  | close _ shell => exact shell.setsPlaced source _ _

theorem parse_setsPlaced {unicode : Bool} {source : List Char} {tree : PatternTree}
    (h : parse unicode source = .ok tree) :
    ∀ e ∈ tree.pattern.elements, e.SetsPlaced source := by
  obtain ⟨s, hs, -, hfinish⟩ := Reading.run_eq_ok.mp h
  obtain ⟨-, hread⟩ := hs.keeps_within Reading.step_setsPlaced (.refl _)
    (Reading.ofText_throughout source)
  exact Reading.finish_throughout hread hfinish

theorem charsWithin_width (before rest : List Char) :
    charsWithin (before ++ rest) (width before) = before.length := by
  induction before with
  | nil =>
    cases rest with
    | nil => rfl
    | cons x rest => simp [charsWithin, Nat.not_le.mpr x.utf8Size_pos]
  | cons x before ih => simp [charsWithin, width_cons, ih]

/-- The characters before a cursor of the source are those that end at its byte. -/
theorem Cursor.Within.charsWithin_byte {source : List Char} {c : Cursor} (h : c.Within source) :
    charsWithin source c.byte = c.offset := by
  obtain ⟨before, hrest, hoffset, hbyte⟩ := h
  simp only [ofText, Nat.zero_add] at hrest hoffset hbyte
  rw [hrest, hoffset, hbyte]
  exact charsWithin_width before c.rest

namespace BuildError

/-- What is wrong with a text that is not only too large. -/
def fault? : BuildError → Option ParseFault
  | parse e => some e.fault
  | unknownProperty _ => some .invalidProperty
  | unknownName _ => some .unknownName
  | tooLarge => none

theorem message_of_fault {e : BuildError} {fault : ParseFault} (h : e.fault? = some fault) :
    e.message = fault.message := by
  cases e <;> cases h <;> rfl

theorem offset?_eq_none {e : BuildError} : e.offset? = none ↔ e = .tooLarge := by
  cases e <;> simp [offset?]

/-- The place that the error names, if it names one, is a place of the source where its fault is. -/
def Placed (source : List Char) (e : BuildError) : Prop :=
  ∀ offset ∈ e.offset?, ∃ fault, e.fault? = some fault ∧ (⟨fault, offset⟩ : ParseError).Placed source

end BuildError

theorem Regex.ofTree_error {source : String} {flags : Flags} {tree : PatternTree} {e : BuildError}
    (hp : parse flags.unicode source.toList = .ok tree) (h : ofTree source flags tree = .error e) :
    e.Placed source.toList := by
  unfold ofTree at h
  cases hc : compile flags.multiline tree with
  | ok program =>
    rw [hc] at h
    cases h
  | error error =>
    rw [hc] at h
    obtain rfl | ⟨byte, rfl⟩ := (PatternTree.WellFormed.of_parse hp).compile_error hc
    · cases h
      nofun
    · cases h
      rintro _ ⟨⟩
      obtain ⟨e, he, s, hs, hunknown⟩ := compile_unknown hc
      obtain ⟨c, hw, rfl, hplace⟩ := parse_setsPlaced hp e he _ hs hunknown
      rw [hw.charsWithin_byte]
      exact ⟨_, rfl, hw.placed hplace⟩

theorem parsePattern_error {source flagText : String} {e : PatternError}
    (h : parsePattern source flagText = .error e) :
    (e = .flags flagText ∧ Flags.ofText? flagText = none) ∨
      ∃ flags error, e = .build source flags error ∧ Flags.ofText? flagText = some flags ∧
        error.Placed source.toList := by
  unfold parsePattern at h
  split at h
  · cases h
    exact .inl ⟨rfl, ‹_›⟩
  · rename_i flags hflags
    split at h
    · cases h
      refine .inr ⟨flags, _, rfl, hflags, ?_⟩
      rintro _ ⟨⟩
      exact ⟨_, rfl, parse_error ‹_›⟩
    · split at h <;> cases h
      exact .inr ⟨flags, _, rfl, hflags, Regex.ofTree_error ‹_› ‹_›⟩

theorem BuildError.message_expected (e : BuildError) : e.message.toList.take 3 ≠ ['U', 'n', 'e'] := by
  have hfault : ∀ fault : ParseFault, fault.message.toList.take 3 ≠ ['U', 'n', 'e'] := by
    intro fault
    cases fault <;> decide
  cases e with
  | parse error => exact hfault error.fault
  | unknownProperty | unknownName => exact hfault _
  | tooLarge => decide

/-- A pattern that is refused with its flags is refused at the place that is wrong. The column is the
offset counted from one, and only flags that are no flags and a pattern that is too large have none.
Any other error is reported within the source, in front of what its message is about, or at its end
if a group or a class is still open there. Nothing is ever reported as not expected, not even by a
reader that would do so. -/
theorem parsePattern_error_placed {source flagText : String} {e : PatternError}
    (h : parsePattern source flagText = .error e) :
    e.column? = e.offset?.map (· + 1) ∧
    (e.offset? = none ↔ (e = .flags flagText ∧ Flags.ofText? flagText = none) ∨
      ∃ flags, e = .build source flags .tooLarge) ∧
    (∀ offset ∈ e.offset?, ∃ flags error fault, e = .build source flags error ∧
      error.fault? = some fault ∧ error.message = fault.message ∧ offset ≤ source.length ∧
      fault.PointsAt source.toList (.ofOffset source.toList offset) ∧
      (fault = .unterminatedGroup ∨ fault = .unterminatedClass → offset = source.length)) ∧
    (∀ flags error, e = .build source flags error → ∀ x offset,
      error.message ≠ (DescentError.unexpectedChar x offset).message ∧
      error.message ≠ (DescentError.unexpectedEnd offset).message) ∧
    ∀ flags, Flags.ofText? flagText = some flags →
      Descent.pattern flags.unicode source.toList =
        (parse flags.unicode source.toList).mapError .fault := by
  refine ⟨rfl, ?_, ?_, fun _ error _ x _ => ⟨fun hm => ?_, fun hm => ?_⟩,
    fun flags _ => Descent.pattern_eq ..⟩
  · obtain ⟨rfl, hflags⟩ | ⟨flags, error, rfl, -, -⟩ := parsePattern_error h
    · simp [PatternError.offset?, hflags]
    · simp [PatternError.offset?, BuildError.offset?_eq_none]
  · intro offset hoffset
    obtain ⟨rfl, -⟩ | ⟨flags, error, rfl, -, hplaced⟩ := parsePattern_error h
    · cases hoffset
    · obtain ⟨fault, hfault, c, hw, rfl, hpoint⟩ := hplaced offset hoffset
      obtain ⟨hle, hc⟩ := hw.eq_ofOffset
      refine ⟨flags, error, fault, rfl, hfault, BuildError.message_of_fault hfault, ?_, ?_, ?_⟩
      · rwa [← String.length_toList]
      · rwa [← hc]
      · intro hopen
        have hend : c.peek? = none := by
          obtain rfl | rfl := hopen <;> exact hpoint
        rw [hw.offset_of_end hend, String.length_toList]
  · exact error.message_expected (hm ▸ DescentError.unexpectedChar_message x _)
  · exact error.message_expected (hm ▸ DescentError.unexpectedEnd_message _)

/-- A property that only the compiler looks up, behind characters of three and of two bytes. -/
theorem parsePattern_error_placed_property :
    ∃ e flags error, parsePattern "日é(?:\\p\x7bL\x7d[a\\p\x7bNope\x7d])" "u" = .error e ∧
      e = .build "日é(?:\\p\x7bL\x7d[a\\p\x7bNope\x7d])" flags error ∧ e.column? = some 13 ∧
      error.message = "Invalid property name" ∧
      ParseFault.invalidProperty.PointsAt "日é(?:\\p\x7bL\x7d[a\\p\x7bNope\x7d])".toList
        (.ofOffset "日é(?:\\p\x7bL\x7d[a\\p\x7bNope\x7d])".toList 12) := by
  have h : (match parsePattern "日é(?:\\p\x7bL\x7d[a\\p\x7bNope\x7d])" "u" with
      | .error (.build _ _ error) => some error
      | _ => none) = some (.unknownProperty 12) := by decide +kernel
  cases hp : parsePattern "日é(?:\\p\x7bL\x7d[a\\p\x7bNope\x7d])" "u" with
  | ok p =>
    rw [hp] at h
    cases h
  | error e =>
    obtain ⟨hcolumn, -, hplace, -⟩ := parsePattern_error_placed hp
    rw [hp] at h
    cases e with
    | flags => cases h
    | build source flags error =>
      obtain rfl := Option.some.inj h
      obtain ⟨_, _, fault, he, hfault, hmessage, -, hpoint, -⟩ := hplace 12 rfl
      obtain ⟨rfl, rfl, rfl⟩ := PatternError.build.inj he
      obtain rfl := Option.some.inj hfault
      exact ⟨_, flags, _, rfl, rfl, hcolumn, hmessage, hpoint⟩

end RegexInsight
