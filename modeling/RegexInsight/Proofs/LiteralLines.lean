import Mathlib.Logic.Relation
import RegexInsight.Explanation
import RegexInsight.Proofs.ControlFree
import RegexInsight.Proofs.EnclosedPattern

/-! What the line of a literal tells. Controls are written as escapes, but the backslash that begins an escape
is written as it stands. So the line tells a run up to writing its controls out; it tells runs apart in which no
escape is written out already. -/
namespace RegexInsight
namespace Explanation

section
variable {c d : Char}

theorem literalChar_of_not_control (hc : isControl c = false) : literalChar c = [c] := by
  have hne : ∀ d, isControl d = true → (c == d) = false := by
    rintro d hd
    by_cases h : c = d
    · simp [h, hd] at hc
    · simp [h]
  simp [literalChar, hc, hne '\n' rfl, hne '\r' rfl, hne '\t' rfl, hne '\x0c' rfl, hne '\x0b' rfl,
    hne '\x00' rfl]

/-- An escape is a backslash and what names the control, in which no other one begins. -/
theorem literalChar_of_control (hc : isControl c) : ∃ name, literalChar c = '\\' :: name ∧
    '\\' ∉ name ∧ ∀ x ∈ name, isControl x = false := by
  have hshape : ∀ c, isControl c → (literalChar c).head? = some '\\' ∧
      '\\' ∉ (literalChar c).tail ∧ ((literalChar c).tail.all fun x => !isControl x) = true :=
    forall_control (by decide +kernel)
  obtain ⟨hhead, hname, hcontrols⟩ := hshape c hc
  obtain ⟨name, hliteral⟩ := List.head?_eq_some_iff.mp hhead
  rw [hliteral, List.tail_cons] at hname hcontrols
  exact ⟨name, hliteral, hname, no_control_of_all hcontrols⟩

/-- The code of the control whose escape a text begins with. -/
def escapedCode : List Char → Nat
  | '\\' :: 'n' :: _ => 0x0A
  | '\\' :: 'r' :: _ => 0x0D
  | '\\' :: 't' :: _ => 0x09
  | '\\' :: 'f' :: _ => 0x0C
  | '\\' :: 'v' :: _ => 0x0B
  | '\\' :: 'u' :: '\x7b' :: text =>
    (text.takeWhile (· != '\x7d')).foldl (fun code x => 16 * code + (hexValue? x).getD 0) 0
  | _ => 0

theorem escapedCode_literalChar (hc : isControl c) (text : List Char) :
    escapedCode (literalChar c ++ text) = c.toNat := by
  have hdigits : ∀ c, isControl c →
      (((hexNumeral 4 c.toNat).map Char.toUpper).all (· != '\x7d')) = true ∧
        ((hexNumeral 4 c.toNat).map Char.toUpper).foldl
          (fun code x => 16 * code + (hexValue? x).getD 0) 0 = c.toNat :=
    forall_control (by decide +kernel)
  obtain ⟨hplain, hvalue⟩ := hdigits c hc
  unfold literalChar
  iterate 6
    split
    · rename_i hsame
      rw [eq_of_beq hsame]
      rfl
  rw [List.append_assoc, List.append_assoc]
  have hnumeral : (((hexNumeral 4 c.toNat).map Char.toUpper) ++ (['\x7d'] ++ text)).takeWhile
      (· != '\x7d') = (hexNumeral 4 c.toNat).map Char.toUpper := by
    rw [List.takeWhile_append_of_pos (List.all_eq_true.mp hplain)]
    simp
  simp only [escapedCode, List.cons_append, List.nil_append] at hnumeral ⊢
  rw [hnumeral, hvalue]

theorem literalChar_append_cancel (hc : isControl c) (hd : isControl d) {a b : List Char}
    (h : literalChar c ++ a = literalChar d ++ b) : c = d ∧ a = b := by
  have hcode : c.toNat = d.toNat := by
    rw [← escapedCode_literalChar hc a, h, escapedCode_literalChar hd b]
  obtain rfl : c = d := Char.toNat_inj.mp hcode
  exact ⟨rfl, List.append_cancel_left h⟩

end

/-- A run as its line shows it. -/
def spelled (run : List Char) : List Char := run.flatMap literalChar

section
variable {a b run : List Char} {c d : Char}

@[simp] theorem spelled_nil : spelled [] = [] := rfl

@[simp] theorem spelled_cons : spelled (c :: run) = literalChar c ++ spelled run := rfl

@[simp] theorem spelled_append : spelled (a ++ b) = spelled a ++ spelled b := List.flatMap_append

theorem literalLine_inj : literalLine a = literalLine b ↔ spelled a = spelled b := by
  rw [literalLine, literalLine, String.append_left_inj, String.append_right_inj,
    String.ofList_inj]
  rfl

theorem spelled_of_no_control (h : ∀ x ∈ run, isControl x = false) : spelled run = run := by
  induction run with
  | nil => rfl
  | cons x run ih =>
    have hx := literalChar_of_not_control (h x List.mem_cons_self)
    have hrun := ih fun y hy => h y (List.mem_cons_of_mem x hy)
    simp [hx, hrun]

theorem literalChar_no_control (c : Char) : ∀ x ∈ literalChar c, isControl x = false := by
  by_cases hc : isControl c
  · obtain ⟨name, hliteral, -, hname⟩ := literalChar_of_control hc
    rw [hliteral]
    exact List.forall_mem_cons.mpr ⟨rfl, hname⟩
  · simpa [literalChar_of_not_control (Bool.eq_false_iff.mpr hc)] using hc

theorem spelled_no_control (run : List Char) : ∀ x ∈ spelled run, isControl x = false := by
  intro x hx
  obtain ⟨c, -, hc⟩ := List.mem_flatMap.mp hx
  exact literalChar_no_control c x hc

/-- One control of the run is written out. -/
inductive Respells : List Char → List Char → Prop
  | control (before after : List Char) {c : Char} (hc : isControl c) :
    Respells (before ++ c :: after) (before ++ literalChar c ++ after)

theorem Respells.append_left (front : List Char) (h : Respells a b) :
    Respells (front ++ a) (front ++ b) := by
  cases h with
  | control before after hc => simpa using control (front ++ before) after hc

theorem Respells.spelled_eq (h : Respells a b) : spelled a = spelled b := by
  cases h with
  | control before after hc =>
    simp [spelled_of_no_control (literalChar_no_control _)]

/-- A run becomes what its line shows by writing its controls out, the first one first. -/
theorem respells_spelled (run : List Char) : Relation.ReflTransGen Respells run (spelled run) := by
  induction run with
  | nil => exact .refl
  | cons x run ih =>
    have hrest : Relation.ReflTransGen Respells (literalChar x ++ run) (spelled (x :: run)) :=
      ih.lift (literalChar x ++ ·) fun _ _ h => h.append_left (literalChar x)
    by_cases hx : isControl x
    · exact .head (.control [] run hx) hrest
    · simpa [literalChar_of_not_control (Bool.eq_false_iff.mpr hx)] using hrest

/-- A line tells a run up to which controls are written out. -/
theorem spelled_eq_iff : spelled a = spelled b ↔ Relation.EqvGen Respells a b := by
  constructor
  · intro h
    have ha : Relation.EqvGen Respells a (spelled a) :=
      Relation.EqvGen.reflTransGen_le_eqvGen _ _ _ (respells_spelled a)
    have hb : Relation.EqvGen Respells b (spelled a) :=
      h ▸ Relation.EqvGen.reflTransGen_le_eqvGen _ _ _ (respells_spelled b)
    exact .trans _ _ _ ha (.symm _ _ hb)
  · intro h
    induction h with
    | rel a b h => exact h.spelled_eq
    | refl a => rfl
    | symm a b _ ih => exact ih.symm
    | trans a b c _ _ ih ih' => exact ih.trans ih'

/-- Some escape stands in the run as it is written in a line. -/
def HoldsEscape (run : List Char) : Prop := ∃ c, isControl c ∧ literalChar c <:+: run

theorem not_holdsEscape_of_no_backslash (h : '\\' ∉ run) : ¬ HoldsEscape run := by
  rintro ⟨c, hc, hpart⟩
  obtain ⟨name, hliteral, -⟩ := literalChar_of_control hc
  exact h (hpart.subset (by simp [hliteral]))

theorem HoldsEscape.cons (h : HoldsEscape run) : HoldsEscape (c :: run) := by
  obtain ⟨d, hd, hpart⟩ := h
  exact ⟨d, hd, List.infix_cons hpart⟩

/-- What has no backslash is shown by no control, so it stands in the run itself. -/
theorem prefix_of_spelled {front rest : List Char} (hfront : '\\' ∉ front)
    (h : spelled run = front ++ rest) : front <+: run := by
  induction front generalizing run with
  | nil => exact List.nil_prefix
  | cons x front ih =>
    cases run with
    | nil => simp at h
    | cons y run =>
      have hy : isControl y = false := by
        by_contra hy
        obtain ⟨name, hliteral, -⟩ := literalChar_of_control (Bool.eq_true_of_not_eq_false hy)
        simp_all
      rw [spelled_cons, literalChar_of_not_control hy] at h
      obtain ⟨rfl, hrest⟩ : y = x ∧ spelled run = front ++ rest := List.cons.inj h
      have htail : '\\' ∉ front := fun hmem => hfront (List.mem_cons_of_mem y hmem)
      exact (List.prefix_cons_inj y).mpr (ih htail hrest)

theorem holdsEscape_of_spelled {rest : List Char} (hc : isControl c) (hd : isControl d = false)
    (h : spelled (d :: run) = literalChar c ++ rest) : HoldsEscape (d :: run) := by
  obtain ⟨name, hliteral, hname, -⟩ := literalChar_of_control hc
  rw [spelled_cons, literalChar_of_not_control hd, hliteral] at h
  obtain ⟨rfl, hrest⟩ : d = '\\' ∧ spelled run = name ++ rest := List.cons.inj h
  have hprefix : name <+: run := prefix_of_spelled hname hrest
  exact ⟨c, hc, by rw [hliteral]; exact ((List.prefix_cons_inj _).mpr hprefix).isInfix⟩

theorem spelled_cons_ne_nil : spelled (c :: run) ≠ [] := by
  by_cases hc : isControl c
  · obtain ⟨name, hliteral, -⟩ := literalChar_of_control hc
    simp [hliteral]
  · simp [literalChar_of_not_control (Bool.eq_false_iff.mpr hc)]

/-- Of runs in which no escape is written out, each has a line of its own. The first characters of two
such runs with one line are the same: a control would stand written out where the other run has none. -/
theorem spelled_injective (ha : ¬ HoldsEscape a) (hb : ¬ HoldsEscape b)
    (h : spelled a = spelled b) : a = b := by
  induction a generalizing b with
  | nil =>
    cases b with
    | nil => rfl
    | cons y b => exact absurd h.symm spelled_cons_ne_nil
  | cons x a ih =>
    cases b with
    | nil => exact absurd h spelled_cons_ne_nil
    | cons y b =>
      have hheads : x = y ∧ spelled a = spelled b := by
        by_cases hx : isControl x <;> by_cases hy : isControl y
        · exact literalChar_append_cancel hx hy h
        · exact absurd (holdsEscape_of_spelled hx (by simpa using hy) h.symm) hb
        · exact absurd (holdsEscape_of_spelled hy (by simpa using hx) h) ha
        · simpa [literalChar_of_not_control, hx, hy] using h
      obtain ⟨rfl, htails⟩ := hheads
      rw [ih (mt HoldsEscape.cons ha) (mt HoldsEscape.cons hb) htails]

/-- A run alone has its line exactly if it has neither a control nor an escape that is written out. -/
theorem spelled_unique_iff : (∀ x, spelled x = spelled run → x = run) ↔
    (∀ x ∈ run, isControl x = false) ∧ ¬ HoldsEscape run := by
  constructor
  · intro h
    have hrun : spelled run = run := h _ (spelled_of_no_control (spelled_no_control run))
    have hcontrols : ∀ x ∈ run, isControl x = false := hrun ▸ spelled_no_control run
    refine ⟨hcontrols, ?_⟩
    rintro ⟨c, hc, before, after, hwritten⟩
    have hread : before ++ c :: after = run :=
      h _ (hwritten ▸ (Respells.control before after hc).spelled_eq)
    have hfree := hcontrols c (hread ▸ by simp)
    simp [hc] at hfree
  · rintro ⟨hcontrols, hescape⟩ x hx
    rw [spelled_of_no_control hcontrols] at hx
    have hfree : ∀ c ∈ x, isControl c = false := by
      intro c hmem
      by_contra hc
      obtain ⟨before, after, rfl⟩ := List.append_of_mem hmem
      refine hescape ⟨c, by simpa using hc, spelled before, spelled after, ?_⟩
      simp [← hx]
    rw [← hx, spelled_of_no_control hfree]

end

/-- Characters are gathered into a run; any other element ends the run and has its own line. -/
theorem elementsLines_of_other (flags : Flags) (run : List Char) {e : Element} (es : List Element)
    (h : ∀ span value, e ≠ .char span value) :
    elementsLines flags run (e :: es) =
      runLine run ++ elementLine flags e :: elementsLines flags [] es := by
  cases e with
  | char span value => exact absurd rfl (h span value)
  | _ => rfl

end Explanation

def Element.char? : Element → Option Char
  | .char _ value => some value
  | _ => none

/-- The one alternative of the pattern is made of the characters of the run. -/
def Pattern.Spells (p : Pattern) (run : List Char) : Prop :=
  p.branches.map (fun b => b.elements.map Element.char?) = [run.map some]

instance (p : Pattern) (run : List Char) : Decidable (p.Spells run) :=
  inferInstanceAs (Decidable (_ = _))

theorem Pattern.Spells.branches {p : Pattern} {run : List Char} (h : p.Spells run) :
    ∃ span es, p.branches = [.mk span es] ∧ es.map Element.char? = run.map some := by
  obtain ⟨⟨span, es⟩, hbranches, hes⟩ := List.map_eq_singleton_iff.mp h
  exact ⟨span, es, hbranches, hes⟩

section
variable {es : List Element} {run : List Char} {e : Element} {c : Char}

theorem Element.char?_eq_some : e.char? = some c ↔ ∃ span, e = .char span c := by
  cases e <;> simp [char?, eq_comm]

theorem elementsLines_of_chars (flags : Flags) (read : List Char)
    (h : es.map Element.char? = run.map some) :
    Explanation.elementsLines flags read es = Explanation.runLine (run.reverse ++ read) := by
  induction run generalizing es read with
  | nil => simp_all [Explanation.elementsLines]
  | cons c run ih =>
    obtain ⟨e, es, rfl, he, hes⟩ := List.map_eq_cons_iff.mp h
    obtain ⟨span, rfl⟩ := Element.char?_eq_some.mp he
    simp [Explanation.elementsLines, ih (c :: read) hes]

theorem elementsEmit_of_chars (names : List (Option String)) (code : Code)
    (h : es.map Element.char? = run.map some) :
    elementsEmit names es code = ⟨code.insts ++ (run.map Inst.char).toArray, code.slots⟩ := by
  induction run generalizing es code with
  | nil => simp_all [elementsEmit]
  | cons c run ih =>
    obtain ⟨e, es, rfl, he, hes⟩ := List.map_eq_cons_iff.mp h
    obtain ⟨span, rfl⟩ := Element.char?_eq_some.mp he
    simp [elementsEmit, Element.emit, ih _ hes, Code.push]

theorem captures_of_chars (h : es.map Element.char? = run.map some) :
    es.flatMap Element.captures = [] := by
  induction run generalizing es with
  | nil => simp_all
  | cons c run ih =>
    obtain ⟨e, es, rfl, he, hes⟩ := List.map_eq_cons_iff.mp h
    obtain ⟨span, rfl⟩ := Element.char?_eq_some.mp he
    simp [ih hes]

theorem startsAnchored_of_chars (span : Span) (h : es.map Element.char? = run.map some) :
    (Branch.mk span es).startsAnchored = false := by
  cases run with
  | nil => simp_all [Branch.startsAnchored, Branch.elements]
  | cons c run =>
    obtain ⟨e, es, rfl, he, -⟩ := List.map_eq_cons_iff.mp h
    obtain ⟨span, rfl⟩ := Element.char?_eq_some.mp he
    rfl

end

namespace Pattern.Spells

variable {unicode : Bool} {tree : PatternTree} {run : List Char} {p : Pattern}

theorem componentLines (h : p.Spells run) (hne : run ≠ []) (flags : Flags) :
    Explanation.componentLines flags p = [Explanation.literalLine run] := by
  obtain ⟨span, es, hbranches, hes⟩ := h.branches
  have hlines : Explanation.elementsLines flags [] es = [Explanation.literalLine run] := by
    simp [elementsLines_of_chars flags [] hes, Explanation.runLine, hne]
  simp [Explanation.componentLines, hbranches, Explanation.branchesLines, Explanation.branchLines,
    hlines]

theorem names (h : tree.pattern.Spells run) (hw : tree.WellFormed unicode) : tree.names = [] := by
  obtain ⟨span, es, hbranches, hes⟩ := h.branches
  have hcaptures := hw.captures
  simpa [Pattern.captures_eq, hbranches, branchesCaptures, Branch.elements, captures_of_chars hes,
    numbered] using hcaptures.symm

theorem program_eq (h : tree.pattern.Spells run) (hw : tree.WellFormed unicode) {multiline : Bool}
    {program : Program} (hc : compile multiline tree = .ok program) :
    program = ⟨(run.map Inst.char ++ [Inst.accept]).toArray, 0, 2, false⟩ := by
  obtain ⟨-, -, -, rfl⟩ := compile_cases hc
  have hnames := h.names hw
  obtain ⟨span, es, hbranches, hes⟩ := h.branches
  have hcode : tree.code = ⟨(run.map Inst.char).toArray, 2⟩ := by
    simp [PatternTree.code, PatternTree.blank, hbranches, hnames, branchesEmit, Branch.emit,
      elementsEmit_of_chars _ _ hes]
  simp [hcode, hnames, hbranches, Code.push, startsAnchored_of_chars span hes]

end Pattern.Spells

/-- Under any flags, the two patterns capture the same from any place of any text on. -/
def ParsedPattern.CapturesLike (p q : ParsedPattern) : Prop :=
  ∀ flags, ∃ r r', p.regex flags = .ok r ∧ q.regex flags = .ok r' ∧
    ∀ s start, r.capturesFrom s start = r'.capturesFrom s start

theorem Pattern.Spells.regex {source flagText : String} {p : ParsedPattern} {run : List Char}
    (h : p.pattern.Spells run) (hp : parsePattern source flagText = .ok p) (flags : Flags) :
    p.regex flags = .ok ⟨p.source, flags, [],
      ⟨(run.map Inst.char ++ [Inst.accept]).toArray, 0, 2, false⟩, Regex.defaultStepLimit⟩ := by
  obtain ⟨-, -, hparse, program, hc⟩ := parsePattern_cases hp
  have hw : p.tree.WellFormed p.flags.unicode := .of_parse hparse
  have hnames : p.tree.names = [] := h.names hw
  obtain ⟨n, hcheck, hle, -⟩ := compile_cases hc
  obtain ⟨program, hc⟩ := compile_of_check flags.multiline hcheck hle
  simp [ParsedPattern.regex, Regex.ofTree, hc, hnames, h.program_eq hw hc]

theorem Pattern.Spells.capturesLike {source source' flags flags' : String} {p q : ParsedPattern}
    {run : List Char} (hp : parsePattern source flags = .ok p)
    (hq : parsePattern source' flags' = .ok q) (h : p.pattern.Spells run)
    (h' : q.pattern.Spells run) : p.CapturesLike q :=
  fun flags => ⟨_, _, h.regex hp flags, h'.regex hq flags, fun _ _ => rfl⟩

open Explanation in
/-- Two runs have one line exactly if they differ in which controls are written out. So where no escape is
written out in either, the line tells them apart, and two patterns that are such literals and have one
component line match the same text. A run shares its line with no other one exactly if it has neither a
control nor an escape. -/
theorem literalLine_eq_iff (a b : List Char) :
    (literalLine a = literalLine b ↔ Relation.EqvGen Respells a b) ∧
      ((∀ x, literalLine x = literalLine b → x = b) ↔
        (∀ c ∈ b, isControl c = false) ∧ ¬ HoldsEscape b) ∧
      (¬ HoldsEscape a → ¬ HoldsEscape b → literalLine a = literalLine b → a = b) ∧
      ∀ {source source' flags flags' : String} {p q : ParsedPattern},
        parsePattern source flags = .ok p → parsePattern source' flags' = .ok q →
        p.pattern.Spells a → q.pattern.Spells b → a ≠ [] → b ≠ [] →
        ((p.pattern.explain p.flags).components = (q.pattern.explain q.flags).components ↔
          literalLine a = literalLine b) ∧
        (¬ HoldsEscape a → ¬ HoldsEscape b →
          (p.pattern.explain p.flags).components = (q.pattern.explain q.flags).components →
          p.CapturesLike q) := by
  have hdistinct : ¬ HoldsEscape a → ¬ HoldsEscape b → literalLine a = literalLine b → a = b :=
    fun ha hb h => spelled_injective ha hb (literalLine_inj.mp h)
  refine ⟨literalLine_inj.trans spelled_eq_iff, ?_, hdistinct, ?_⟩
  · simp only [literalLine_inj]
    exact spelled_unique_iff
  · intro source source' flags flags' p q hp hq hpa hqb hane hbne
    have hlines : (p.pattern.explain p.flags).components = (q.pattern.explain q.flags).components ↔
        literalLine a = literalLine b := by
      simp [Pattern.explain, hpa.componentLines hane, hqb.componentLines hbne]
    refine ⟨hlines, fun ha hb hsame => ?_⟩
    have hab : a = b := hdistinct ha hb (hlines.mp hsame)
    subst hab
    exact Pattern.Spells.capturesLike hp hq hpa hqb

open Explanation in
/-- The same two characters, written in two ways and with different flags. -/
theorem literalLine_eq_iff_two_sources : ∃ p q, parsePattern "a\\n" "" = .ok p ∧
    parsePattern "\\x61\\u000a" "g" = .ok q ∧ p.pattern.Spells ['a', '\n'] ∧
    q.pattern.Spells ['a', '\n'] ∧ ¬ HoldsEscape ['a', '\n'] ∧
    (p.pattern.explain p.flags).components = (q.pattern.explain q.flags).components ∧
    p.CapturesLike q := by
  have hread : (parsePattern "a\\n" "").toOption.map (fun p =>
      decide (p.pattern.Spells ['a', '\n'])) = some true := by
    decide +kernel
  have hread' : (parsePattern "\\x61\\u000a" "g").toOption.map (fun q =>
      decide (q.pattern.Spells ['a', '\n'])) = some true := by
    decide +kernel
  obtain ⟨p, hp, hspells⟩ := ok_of_toOption_map hread
  obtain ⟨q, hq, hspells'⟩ := ok_of_toOption_map hread'
  simp only [decide_eq_true_eq] at hspells hspells'
  have hescape : ¬ HoldsEscape ['a', '\n'] := not_holdsEscape_of_no_backslash (by decide)
  obtain ⟨-, -, -, hpatterns⟩ := literalLine_eq_iff ['a', '\n'] ['a', '\n']
  obtain ⟨hlines, hcaptures⟩ := hpatterns hp hq hspells hspells' (by simp) (by simp)
  have hcomponents := hlines.mpr rfl
  exact ⟨p, q, hp, hq, hspells, hspells', hescape, hcomponents,
    hcaptures hescape hescape hcomponents⟩

/-- A line feed has the line of a backslash with the letter `n` behind it, and matches another text. -/
theorem literalLine_collides : ∃ p q, parsePattern "\\n" "" = .ok p ∧
    parsePattern "\\\\n" "" = .ok q ∧ p.pattern.Spells ['\n'] ∧ q.pattern.Spells ['\\', 'n'] ∧
    Explanation.literalLine ['\n'] = Explanation.literalLine ['\\', 'n'] ∧
    (p.pattern.explain p.flags).components = (q.pattern.explain q.flags).components ∧
    ¬ p.CapturesLike q := by
  have hread : (parsePattern "\\n" "").toOption.map (fun p =>
      (decide (p.pattern.Spells ['\n']), (p.pattern.explain p.flags).components,
        (p.regex .allOff).toOption.bind fun r =>
          (r.capturesFrom (.ofString "\n") 0).toOption.map (·.isSome))) =
      some (true, ["Literal \"\\n\""], some true) := by
    decide +kernel
  have hread' : (parsePattern "\\\\n" "").toOption.map (fun q =>
      (decide (q.pattern.Spells ['\\', 'n']), (q.pattern.explain q.flags).components,
        (q.regex .allOff).toOption.bind fun r =>
          (r.capturesFrom (.ofString "\n") 0).toOption.map (·.isSome))) =
      some (true, ["Literal \"\\n\""], some false) := by
    decide +kernel
  obtain ⟨p, hp, hfound⟩ := ok_of_toOption_map hread
  obtain ⟨q, hq, hfound'⟩ := ok_of_toOption_map hread'
  simp only [Prod.mk.injEq, decide_eq_true_eq] at hfound hfound'
  obtain ⟨hspells, hlines, hmatch⟩ := hfound
  obtain ⟨hspells', hlines', hmatch'⟩ := hfound'
  refine ⟨p, q, hp, hq, hspells, hspells', by decide +kernel, hlines.trans hlines'.symm, ?_⟩
  intro hlike
  obtain ⟨r, r', hr, hr', hsame⟩ := hlike .allOff
  simp only [hr, hr', hsame, Except.toOption, Option.bind_some] at hmatch hmatch'
  simp [hmatch] at hmatch'

end RegexInsight
