import RegexInsight.Proofs.CaseImages
import RegexInsight.Proofs.CountedLoops
import RegexInsight.Proofs.TreeChecks

/-! A member of a class and the same thing on its own. Each is one instruction that asks for one
character. As long as case counts both ask the same. With case ignored a literal compares the small
letters of both characters, a set takes no notice, and a class asks its members for the character and
for its two counterparts. -/
namespace RegexInsight

/-- What an instruction asks of the next character, if it takes one. -/
def Inst.test? (mode : Mode) : Inst → Option (Char → Bool)
  | .char value => some (mode.sameChar · value)
  | .set test negate => some fun x => test.holds mode x != negate
  | .bracket items negate => some fun x => mode.anyItem items x != negate
  | _ => none

/-- The instruction of an element that is one character long. -/
def Element.inst? : Element → Option Inst
  | .char _ value => some (.char value)
  | .set _ s => some (.set ((CharTest.ofKind? s.kind).getD .dot) s.negate)
  | .bracket _ negate members =>
    some (.bracket (members.filterMap fun m => ClassItem.ofKind? m.kind) negate)
  | _ => none

/-- The element that is written like the member. A range is a member only. -/
def MemberKind.alone? : MemberKind → Option Element
  | .char value => some (.char ⟨0, 0⟩ value)
  | .set s => some (.set ⟨0, 0⟩ s)
  | .range .. => none

def MemberKind.inClass (kind : MemberKind) : Element :=
  .bracket ⟨0, 0⟩ false [⟨⟨0, 0⟩, kind⟩]

namespace Machine

variable {m : Machine} {inst : Inst} {test : Char → Bool}

theorem step_test {program : Program} {mode : Mode} {pc : Nat}
    (hi : program.insts[pc]? = some inst) (ht : inst.test? mode = some test) (text : Array Char)
    (pos : Nat) (slots : Slots) :
    Config.step program mode text ⟨pc, pos, slots, [], none, []⟩ =
      if text[pos]?.any test then .running ⟨pc + 1, pos + 1, slots, [], none, []⟩
      else .failed slots := by
  cases inst <;> cases ht <;> simp only [Config.step, hi, Config.consumeIf] <;> rfl

/-- A program of one instruction that takes a character tries the character that it stands at. -/
theorem matchAt_single (hm : m.program = ⟨#[inst, .accept], 0, 2, false⟩)
    (ht : inst.test? m.mode = some test) (hl : 2 ≤ m.limit) (start : Nat) :
    m.matchAt start = .ok (if m.text[start]?.any test then some #[some start, some (start + 1)]
      else none) := by
  obtain ⟨limit, hlimit⟩ := Nat.exists_eq_add_of_le' hl
  have hinst : m.program.insts[0]? = some inst := by rw [hm]; rfl
  have haccept : m.program.insts[1]? = some .accept := by rw [hm]; rfl
  have htest : (m.initial start).step m.program m.mode m.text = _ :=
    step_test hinst ht m.text start (m.initial start).slots
  by_cases hx : m.text[start]?.any test
  · have hend : Config.step m.program m.mode m.text
        ⟨1, start + 1, (m.initial start).slots, [], none, []⟩ =
          .matched (start + 1) (m.initial start).slots := Config.step_accept haccept
    rw [if_pos hx] at htest ⊢
    simp only [matchAt, hlimit, run, htest, hend]
    rw [initial, hm]
    rfl
  · rw [if_neg hx] at htest ⊢
    simp only [matchAt, hlimit, run, htest]

theorem search_congr {m' : Machine} (h : ∀ start, m'.matchAt start = m.matchAt start)
    (ha : m'.program.anchored = m.program.anchored) (ht : m'.text = m.text) (start : Nat)
    (sticky : Bool) : m'.search start sticky = m.search start sticky := by
  have hscan : ∀ count start, m'.scan count start = m.scan count start := by
    intro count
    induction count with
    | zero => exact fun start => rfl
    | succ count ih =>
      intro start
      rw [scan_succ, scan_succ, h]
      simp only [ih]
  rw [search, search, ha, ht, h, hscan]

end Machine

namespace Element

variable {e : Element} {inst : Inst}

@[simp] theorem bare_inst? (e : Element) : e.bare.inst? = e.inst? := by
  cases e with
  | bracket span negate members => simp [bare, mapSpans, inst?, List.filterMap_map, Function.comp_def]
  | _ => rfl

@[simp] theorem bare_sets (e : Element) : e.bare.sets = e.sets := by
  cases e with
  | bracket span negate members =>
    rw [bare, mapSpans, sets, sets, List.filterMap_map]
    rfl
  | _ => rfl

theorem emit_of_inst? (h : e.inst? = some inst) (names : List (Option String)) (code : Code) :
    e.emit names code = code.push inst := by
  cases e <;> cases h <;> rfl

theorem written_of_inst? (h : e.inst? = some inst) : e.written = [e] := by
  cases e <;> cases h <;> rfl

theorem isStartAnchor_of_inst? (h : e.inst? = some inst) : e.isStartAnchor = false := by
  cases e <;> cases h <;> rfl

theorem captures_of_inst? (h : e.inst? = some inst) : e.captures = [] := by
  cases e <;> cases h <;> exact captures_of_held_eq_nil rfl rfl

end Element

theorem PatternTree.Reads.single {tree : PatternTree} {e : Element} (h : tree.Reads [e]) :
    ∃ span e', tree.pattern.branches = [.mk span [e']] ∧ e'.bare = e.bare := by
  obtain ⟨b, hb, hbare⟩ := List.map_eq_singleton_iff.mp h
  cases b with
  | mk span elements =>
    rw [Branch.bare, Branch.mapSpans_mk] at hbare
    obtain ⟨-, helements⟩ := Branch.mk.inj hbare
    obtain ⟨e', rfl, he'⟩ := List.map_eq_singleton_iff.mp helements
    exact ⟨span, e', hb, he'⟩

theorem compile_single {unicode multiline : Bool} {source : List Char} {tree : PatternTree}
    {program : Program} {e : Element} {inst : Inst} (hp : parse unicode source = .ok tree)
    (ht : tree.Reads [e]) (hi : e.inst? = some inst) (hc : compile multiline tree = .ok program) :
    (∀ s ∈ e.sets, s.Known) ∧ program = ⟨#[inst, .accept], 0, 2, false⟩ := by
  have hw := PatternTree.WellFormed.of_parse hp
  have hnames : tree.names = [] := by
    rw [← numbered_map_name tree.names, ← hw.captures, ht.captures, List.flatMap_singleton,
      Element.captures_of_inst? hi]
    rfl
  obtain ⟨span, e', hbranches, hbare⟩ := ht.single
  have hi' : e'.inst? = some inst := by rw [← e'.bare_inst?, hbare, e.bare_inst?, hi]
  constructor
  · have hknown := ((hw.compile_ok_iff multiline).mp ⟨program, hc⟩).1
    rw [← e.bare_sets, ← hbare, e'.bare_sets]
    refine hknown e' ?_
    rw [Pattern.written, hbranches]
    simp [branchesWritten, Branch.written, elementsWritten, Element.written_of_inst? hi']
  · obtain ⟨-, -, -, rfl⟩ := compile_cases hc
    have hcode : tree.code = tree.blank.push inst := by
      rw [PatternTree.code, hbranches]
      exact e'.emit_of_inst? hi' _ _
    rw [hcode, hbranches, PatternTree.blank, hnames]
    simp [Code.push, Branch.startsAnchored, Branch.elements, Element.isStartAnchor_of_inst? hi']

/-- Whether, with case ignored, a class of this one member takes the character just if the member takes
it on its own. -/
def MemberKind.Steady : MemberKind → Char → Prop
  | .char c, x => foldCase x = foldCase c ↔ x = c ∨ foldCase x = c ∨ raiseCase x = c
  | .set ⟨.word, negate⟩, x => negate = false → x ∉ asciiRelatives
  | .set ⟨.property name value, negate⟩, x => ∀ p ∈ Property.find? name value,
    p.holds x = negate → p.holds (foldCase x) = negate ∧ p.holds (raiseCase x) = negate
  | _, _ => True

section
variable {mode : Mode}

theorem Mode.anyItem_singleton (hi : ¬ mode.ignoreCase) (item : ClassItem) (x : Char) :
    mode.anyItem [item] x = item.holds mode x := by
  rw [anyItem, if_neg hi, List.any_cons, List.any_nil, Bool.or_false]

theorem Mode.anyItem_char_iff (hi : mode.ignoreCase) (c x : Char) :
    mode.anyItem [.char c] x = mode.sameChar x c ↔ (MemberKind.char c).Steady x := by
  have hself : (x = c ∨ foldCase x = foldCase c) ↔ foldCase x = foldCase c :=
    or_iff_right_of_imp (congrArg foldCase)
  rw [Bool.eq_iff_iff]
  simp only [anyItem, hi, if_pos, List.any_cons, List.any_nil, Bool.or_false, ClassItem.holds,
    sameChar, Bool.true_and, Bool.or_eq_true, beq_iff_eq, hself, or_assoc, MemberKind.Steady]
  exact iff_comm

/-- A class asks a set for both counterparts as well. -/
theorem Mode.anyItem_set_iff (hi : mode.ignoreCase) (test : CharTest) (negate : Bool) (x : Char) :
    mode.anyItem [.set test negate] x = (test.holds mode x != negate) ↔
      (test.holds mode x = negate →
        test.holds mode (foldCase x) = negate ∧ test.holds mode (raiseCase x) = negate) := by
  simp only [anyItem, hi, if_pos, List.any_cons, List.any_nil, ClassItem.holds]
  generalize test.holds mode x = self
  generalize test.holds mode (foldCase x) = lower
  generalize test.holds mode (raiseCase x) = upper
  revert self lower upper negate
  decide

theorem foldCase_test {p : Char → Bool} (hp : ∀ c, p c → inBlocks caselessBlocks c) (x : Char) :
    p (foldCase x) = p x := foldCase_follows.test_eq hp x

theorem raiseCase_test {p : Char → Bool} (hp : ∀ c, p c → inBlocks caselessBlocks c) (x : Char) :
    p (raiseCase x) = p x := raiseCase_follows.test_eq hp x

/-- Line terminators, digits and spaces have no case. -/
theorem CharTest.holds_counterparts (mode : Mode) {test : CharTest}
    (h : test = .dot ∨ test = .digit ∨ test = .space) (x : Char) :
    test.holds mode (foldCase x) = test.holds mode x ∧
      test.holds mode (raiseCase x) = test.holds mode x := by
  rcases h with rfl | rfl | rfl
  · rw [holds, holds, holds, foldCase_test fun _ => isLineTerminator_caseless,
      raiseCase_test fun _ => isLineTerminator_caseless]
    exact ⟨rfl, rfl⟩
  · exact ⟨foldCase_test (fun _ => isDigit_caseless) x, raiseCase_test (fun _ => isDigit_caseless) x⟩
  · exact ⟨foldCase_test (fun _ => isSpaceChar_caseless) x,
      raiseCase_test (fun _ => isSpaceChar_caseless) x⟩

/-- Three characters that are not of a word have a counterpart that is, and none that is has one that
is not. -/
theorem isWordChar_steady_iff (negate : Bool) (x : Char) :
    (isWordChar x = negate → isWordChar (foldCase x) = negate ∧ isWordChar (raiseCase x) = negate) ↔
      (negate = false → x ∉ asciiRelatives) := by
  by_cases hx : x ∈ asciiRelatives
  · obtain ⟨⟨-, hdotless⟩, ⟨-, hlong⟩, hkelvin, -⟩ := asciiRelatives_counterparts
    have hcases : isWordChar x = false ∧
        (isWordChar (foldCase x) = true ∨ isWordChar (raiseCase x) = true) := by
      rcases mem_asciiRelatives.mp hx with rfl | rfl | rfl
      · exact ⟨by decide, .inr (by rw [hdotless]; decide)⟩
      · exact ⟨by decide, .inr (by rw [hlong]; decide)⟩
      · exact ⟨by decide, .inl (by rw [hkelvin]; decide)⟩
    obtain ⟨hself, hother⟩ := hcases
    cases negate <;> rcases hother with hother | hother <;> simp [hself, hother, hx]
  · obtain ⟨hlower, hupper⟩ := isWordChar_counterparts hx
    exact iff_of_true (fun h => ⟨hlower.trans h, hupper.trans h⟩) fun _ => hx

/-- A class of one set that there is differs from the set at the characters that are not steady. -/
theorem Mode.anyItem_ofKind?_iff (hi : mode.ignoreCase) {s : CharSet} {test : CharTest}
    (ht : CharTest.ofKind? s.kind = some test) (x : Char) :
    mode.anyItem [.set test s.negate] x = (test.holds mode x != s.negate) ↔
      (MemberKind.set s).Steady x := by
  obtain ⟨kind, negate⟩ := s
  rw [anyItem_set_iff hi]
  cases kind with
  | dot | digit | space =>
    cases ht
    exact iff_of_true (fun h => (CharTest.holds_counterparts mode (by simp) x).imp
      (·.trans h) (·.trans h)) trivial
  | word =>
    cases ht
    exact isWordChar_steady_iff negate x
  | property name value =>
    obtain ⟨p, hp, rfl⟩ := Option.map_eq_some_iff.mp ht
    simp [MemberKind.Steady, CharTest.holds, hp]

/-- Within ASCII a literal and a class decide alike. -/
theorem MemberKind.steady_char_of_ascii {c x : Char} (hc : c.toNat < 0x80) (hx : x.toNat < 0x80) :
    (char c).Steady x := by
  rw [Steady]
  simp only [← Char.toNat_inj, foldCase_ascii hc, foldCase_ascii hx, raiseCase_ascii hx]
  split <;> split <;> split <;> omega

/-- Beyond ASCII there is one character for each of three capitals that the class and the literal decide
on differently. -/
theorem MemberKind.steady_char_iff {c : Char} (hc : c.toNat < 0x80) (x : Char) :
    (char c).Steady x ↔ (c, x) ∉ [('I', '\u0131'), ('S', '\u017F'), ('K', '\u212A')] := by
  have hascii := foldCase_ascii hc
  by_cases ha : x ∈ asciiRelatives
  · obtain ⟨⟨hdotless, hdotless'⟩, ⟨hlong, hlong'⟩, hkelvin, hkelvin'⟩ := asciiRelatives_counterparts
    simp only [Steady, List.mem_cons, Prod.mk.injEq, List.not_mem_nil, ← Char.toNat_inj, hascii]
    rcases mem_asciiRelatives.mp ha with rfl | rfl | rfl
    · simp only [hdotless, hdotless', Char.reduceToNat, Nat.reduceEqDiff, and_true, and_false, or_false]
      split <;> omega
    · simp only [hlong, hlong', Char.reduceToNat, Nat.reduceEqDiff, and_true, and_false, or_false,
        false_or]
      split <;> omega
    · simp only [hkelvin, hkelvin', Char.reduceToNat, Nat.reduceEqDiff, and_true, and_false, or_false,
        false_or]
      split <;> omega
  · have hnot : (c, x) ∉ [('I', '\u0131'), ('S', '\u017F'), ('K', '\u212A')] := by
      intro h
      exact ha (List.mem_map_of_mem (f := Prod.snd) h)
    refine iff_of_true ?_ hnot
    by_cases hx : x.toNat < 0x80
    · exact steady_char_of_ascii hc hx
    · have hlower := foldCase_beyond_ascii hx ha
      have hupper := raiseCase_beyond_ascii hx ha
      constructor
      · intro hfold
        rw [hfold, hascii] at hlower
        split at hlower <;> omega
      · rintro (rfl | rfl | rfl)
        · exact absurd hc hx
        · exact absurd hc hlower
        · exact absurd hc hupper

theorem MemberKind.tests {kind : MemberKind} {e : Element} {inst : Inst}
    (he : kind.alone? = some e) (hi : e.inst? = some inst) (hs : ∀ s ∈ e.sets, s.Known) (mode : Mode) :
    ∃ inst' test test', kind.inClass.inst? = some inst' ∧ inst.test? mode = some test ∧
      inst'.test? mode = some test' ∧
        ∀ x, test' x = test x ↔ (mode.ignoreCase → kind.Steady x) := by
  cases kind with
  | range => cases he
  | char c =>
    cases he
    cases hi
    refine ⟨.bracket [.char c] false, (mode.sameChar · c), fun x => mode.anyItem [.char c] x != false,
      rfl, rfl, rfl, fun x => ?_⟩
    dsimp only
    rw [Bool.bne_false]
    by_cases hcase : mode.ignoreCase
    · exact (Mode.anyItem_char_iff hcase c x).trans (imp_iff_right hcase).symm
    · refine iff_of_true ?_ fun h => absurd h hcase
      simp [Mode.anyItem_singleton hcase, Mode.sameChar, ClassItem.holds, hcase]
  | set s =>
    cases he
    cases hi
    obtain ⟨test, ht⟩ := Option.isSome_iff_exists.mp
      ((CharTest.ofKind?_isSome_iff s).mpr (hs s List.mem_cons_self))
    have hitem : ClassItem.ofKind? (.set s) = some (.set test s.negate) := by
      rw [ClassItem.ofKind?, ht, Option.map_some]
    refine ⟨.bracket [.set test s.negate] false, fun x => test.holds mode x != s.negate,
      fun x => mode.anyItem [.set test s.negate] x != false, ?_, ?_, rfl, fun x => ?_⟩
    · simp [inClass, Element.inst?, hitem]
    · rw [ht, Option.getD_some, Inst.test?]
    · dsimp only
      rw [Bool.bne_false]
      by_cases hcase : mode.ignoreCase
      · exact (Mode.anyItem_ofKind?_iff hcase ht x).trans (imp_iff_right hcase).symm
      · exact iff_of_true (Mode.anyItem_singleton hcase _ x) fun h => absurd h hcase

end

namespace Regex

section
variable {source : String} {flags : Flags} {r : Regex} {tree : PatternTree} {e : Element} {inst : Inst}
  {test : Char → Bool}

theorem build_stepLimit (h : build source flags = .ok r) : r.stepLimit = defaultStepLimit := by
  unfold build at h
  split at h
  · cases h
  · unfold ofTree at h
    split at h <;> cases h
    rfl

theorem build_compiles (hp : parse flags.unicode source.toList = .ok tree)
    (h : build source flags = .ok r) : compile r.flags.multiline tree = .ok r.program := by
  obtain ⟨read, hread, hc⟩ := build_parses h
  obtain rfl := Except.ok.inj (hp.symm.trans hread)
  exact hc

theorem matchAt_single (hp : parse flags.unicode source.toList = .ok tree) (ht : tree.Reads [e])
    (hi : e.inst? = some inst) (h : build source flags = .ok r)
    (htest : inst.test? r.mode = some test) (text : List Char) (i : Nat) :
    (r.machine (.ofChars text)).matchAt i =
      .ok (if text[i]?.any test then some #[some i, some (i + 1)] else none) := by
  have hprogram := (compile_single hp ht hi (build_compiles hp h)).2
  have hlimit : 2 ≤ r.stepLimit := by
    rw [build_stepLimit h]
    decide
  rw [Machine.matchAt_single hprogram htest hlimit, ← List.getElem?_toArray]
  rfl

theorem matches_single (hp : parse flags.unicode source.toList = .ok tree) (ht : tree.Reads [e])
    (hi : e.inst? = some inst) (h : build source flags = .ok r)
    (htest : inst.test? r.mode = some test) (text : List Char) (i : Nat) :
    (r.machine (.ofChars text)).Matches i ↔ text[i]?.any test := by
  rw [Machine.Matches, matchAt_single hp ht hi h htest]
  split <;> simp [*]

end

theorem capturesAt_of_matchAt {r r' : Regex} {s : Subject}
    (ha : r'.program.anchored = r.program.anchored) (hflags : r'.flags = r.flags)
    (h : ∀ i, (r'.machine s).matchAt i = (r.machine s).matchAt i) (start : Nat) :
    r'.capturesAt s start = r.capturesAt s start := by
  have hsearch : ∀ i, r'.capturesFrom s i = r.capturesFrom s i := fun i => by
    rw [capturesFrom_eq, capturesFrom_eq, Machine.search_congr h ha rfl, hflags]
  unfold capturesAt
  simp only [hsearch]

end Regex

/-- A class of one member and the member on its own match at the same positions, except where case is
ignored and the text has a character there at which the member is not steady. -/
theorem class_matches_iff_steady {source source' : String} {flags : Flags} {r r' : Regex}
    {tree tree' : PatternTree} {kind : MemberKind} {e : Element} (he : kind.alone? = some e)
    (hp : parse flags.unicode source.toList = .ok tree) (ht : tree.Reads [e])
    (hp' : parse flags.unicode source'.toList = .ok tree') (ht' : tree'.Reads [kind.inClass])
    (hr : Regex.build source flags = .ok r) (hr' : Regex.build source' flags = .ok r')
    (text : List Char) :
    (∀ i, ((r'.machine (.ofChars text)).Matches i ↔ (r.machine (.ofChars text)).Matches i) ↔
      (flags.ignoreCase → ∀ x ∈ text[i]?, kind.Steady x)) ∧
    ((flags.ignoreCase → ∀ x ∈ text, kind.Steady x) → ∀ start,
      r'.capturesAt (.ofChars text) start = r.capturesAt (.ofChars text) start) := by
  have hflags := Regex.build_flags hr
  have hflags' : r'.flags = r.flags := (Regex.build_flags hr').trans hflags.symm
  have hcase : r.mode.ignoreCase = flags.ignoreCase := by rw [Regex.mode, hflags]
  obtain ⟨inst, hi⟩ : ∃ inst, e.inst? = some inst := by
    cases kind <;> cases he <;> exact ⟨_, rfl⟩
  obtain ⟨hknown, hprogram⟩ := compile_single hp ht hi (Regex.build_compiles hp hr)
  obtain ⟨inst', test, test', hi', htest, htest', hiff⟩ := MemberKind.tests he hi hknown r.mode
  obtain ⟨-, hprogram'⟩ := compile_single hp' ht' hi' (Regex.build_compiles hp' hr')
  rw [← Regex.mode_eq hflags'] at htest'
  rw [hcase] at hiff
  refine ⟨fun i => ?_, fun hsteady start => ?_⟩
  · rw [Regex.matches_single hp ht hi hr htest, Regex.matches_single hp' ht' hi' hr' htest']
    cases text[i]? with
    | none => simp
    | some x =>
      simp only [Option.any_some, Option.mem_some_iff, forall_eq']
      rw [← Bool.eq_iff_iff, hiff]
  · refine Regex.capturesAt_of_matchAt (by rw [hprogram, hprogram']) hflags' (fun i => ?_) start
    rw [Regex.matchAt_single hp ht hi hr htest, Regex.matchAt_single hp' ht' hi' hr' htest']
    cases hx : text[i]? with
    | none => rfl
    | some x =>
      have hsame := (hiff x).mpr fun hignore => hsteady hignore x (List.mem_of_getElem? hx)
      rw [Option.any_some, Option.any_some, hsame]

/-- The small letter of a text in which the Kelvin sign stands for it. -/
theorem class_matches_iff_steady_small_letter :
    ∃ r r', Regex.build "k" { Flags.allOff with ignoreCase := true } = .ok r ∧
      Regex.build "[k]" { Flags.allOff with ignoreCase := true } = .ok r' ∧
      (∀ i, (r'.machine (.ofChars ['a', 'K', '\u212A'])).Matches i ↔
        (r.machine (.ofChars ['a', 'K', '\u212A'])).Matches i) ∧
      ∀ start, r'.capturesAt (.ofChars ['a', 'K', '\u212A']) start =
        r.capturesAt (.ofChars ['a', 'K', '\u212A']) start := by
  let flags : Flags := { Flags.allOff with ignoreCase := true }
  let tree : PatternTree := .ofElements ⟨0, 1⟩ [.char ⟨0, 1⟩ 'k'] []
  let tree' : PatternTree := .ofElements ⟨0, 3⟩ [.bracket ⟨0, 3⟩ false [⟨⟨1, 2⟩, .char 'k'⟩]] []
  let r : Regex := ⟨"k", flags, [], ⟨#[.char 'k', .accept], 0, 2, false⟩, Regex.defaultStepLimit⟩
  let r' : Regex := ⟨"[k]", flags, [], ⟨#[.bracket [.char 'k'] false, .accept], 0, 2, false⟩,
    Regex.defaultStepLimit⟩
  have hp : parse false "k".toList = .ok tree := by with_unfolding_all rfl
  have hp' : parse false "[k]".toList = .ok tree' := by with_unfolding_all rfl
  have hr : Regex.build "k" flags = .ok r :=
    r.build_of_parse hp (by with_unfolding_all rfl) rfl rfl
  have hr' : Regex.build "[k]" flags = .ok r' :=
    r'.build_of_parse hp' (by with_unfolding_all rfl) rfl rfl
  have hsteady : ∀ x ∈ ['a', 'K', '\u212A'], (MemberKind.char 'k').Steady x := fun x _ =>
    (MemberKind.steady_char_iff (by decide) x).mpr (by simp)
  have ht : tree.Reads [.char ⟨0, 0⟩ 'k'] := rfl
  have ht' : tree'.Reads [(MemberKind.char 'k').inClass] := rfl
  have hboth := class_matches_iff_steady rfl hp ht hp' ht' hr hr' ['a', 'K', '\u212A']
  refine ⟨r, r', hr, hr', fun i => (hboth.1 i).mpr fun _ x hx => ?_, hboth.2 fun _ => hsteady⟩
  exact hsteady x (List.mem_of_getElem? hx)

/-- The Kelvin sign has the small letter of `K`, but is neither `K` nor a counterpart's `K`. It is no
character of a word, but has a counterpart that is. -/
theorem class_differs_at_kelvin_sign :
    ∃ letter inLetters word inWords,
      Regex.build "K" { Flags.allOff with ignoreCase := true } = .ok letter ∧
      Regex.build "[K]" { Flags.allOff with ignoreCase := true } = .ok inLetters ∧
      Regex.build "\\w" { Flags.allOff with ignoreCase := true } = .ok word ∧
      Regex.build "[\\w]" { Flags.allOff with ignoreCase := true } = .ok inWords ∧
      letter.capturesAt (.ofChars ['\u212A']) 0 = .ok (some [some (0, 1)]) ∧
      inLetters.capturesAt (.ofChars ['\u212A']) 0 = .ok none ∧
      word.capturesAt (.ofChars ['\u212A']) 0 = .ok none ∧
      inWords.capturesAt (.ofChars ['\u212A']) 0 = .ok (some [some (0, 1)]) := by
  let answer (source : String) : Option (Except RunError (Option Captures)) :=
    (Regex.build source { Flags.allOff with ignoreCase := true }).toOption.map
      (·.capturesAt (.ofChars ['\u212A']) 0)
  have h₁ : answer "K" = some (.ok (some [some (0, 1)])) := by decide +kernel
  have h₂ : answer "[K]" = some (.ok none) := by decide +kernel
  have h₃ : answer "\\w" = some (.ok none) := by decide +kernel
  have h₄ : answer "[\\w]" = some (.ok (some [some (0, 1)])) := by decide +kernel
  obtain ⟨letter, hletter, hc₁⟩ := ok_of_toOption_map h₁
  obtain ⟨inLetters, hinLetters, hc₂⟩ := ok_of_toOption_map h₂
  obtain ⟨word, hword, hc₃⟩ := ok_of_toOption_map h₃
  obtain ⟨inWords, hinWords, hc₄⟩ := ok_of_toOption_map h₄
  exact ⟨letter, inLetters, word, inWords, hletter, hinLetters, hword, hinWords, hc₁, hc₂, hc₃, hc₄⟩

end RegexInsight
