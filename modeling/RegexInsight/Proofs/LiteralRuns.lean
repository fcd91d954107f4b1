import Mathlib.Data.List.SplitBy
import RegexInsight.Proofs.LiteralLines

/-! How a list of elements is cut into lines. Neighbouring characters share a line, which comes out as soon as
another element or the end of the list ends their run; any other element has a line of its own. So the lines
are those of the longest runs, in order, and a list that is cut between two lines has the lines of both parts. -/
namespace RegexInsight

/-- Two neighbours are on one line if both of them are characters. -/
def Element.joins (a b : Element) : Bool := a.char?.isSome && b.char?.isSome

namespace Explanation

/-- The line of a run of characters, or of another element. -/
def pieceLine (flags : Flags) : List Element → String
  | [e] => elementLine flags e
  | run => literalLine (run.filterMap Element.char?)

section
variable {flags : Flags} {piece es : List Element} {run : List Char} {a e : Element}

theorem joins_eq_false (h : a.char? = none ∨ e.char? = none) : a.joins e = false := by
  rcases h with h | h <;> simp [Element.joins, h]

theorem pieceLine_of_chars (h : piece.map Element.char? = run.map some) (hne : piece ≠ []) :
    pieceLine flags piece = literalLine run := by
  match piece with
  | [] => exact absurd rfl hne
  | [e] =>
    obtain ⟨c, rfl, hc⟩ := List.map_eq_singleton_iff.mp h.symm
    obtain ⟨span, rfl⟩ := Element.char?_eq_some.mp hc.symm
    rfl
  | e :: e' :: es =>
    have hrun : (e :: e' :: es).filterMap Element.char? = run := by
      calc (e :: e' :: es).filterMap Element.char?
          = ((e :: e' :: es).map Element.char?).filterMap id := by rw [List.filterMap_map]; rfl
        _ = run := by rw [h, List.filterMap_map]; exact List.filterMap_some
    rw [← hrun]
    rfl

theorem pieceLines_of_chars (h : piece.map Element.char? = run.reverse.map some) :
    (piece.splitBy Element.joins).map (pieceLine flags) = runLine run := by
  by_cases hne : piece = []
  · obtain rfl : run = [] := by simpa [hne] using h.symm
    rw [hne]
    rfl
  · have hchars : ∀ e ∈ piece, e.char?.isSome := by
      intro e he
      have hmem : e.char? ∈ run.reverse.map some := h ▸ List.mem_map_of_mem he
      obtain ⟨c, -, hc⟩ := List.mem_map.mp hmem
      simp [← hc]
    have hjoined : piece.IsChain fun a b => a.joins b := by
      refine (List.pairwise_of_forall_mem_list fun a ha b hb => ?_).isChain
      simp [Element.joins, hchars a ha, hchars b hb]
    have hrun : run.isEmpty = false := by
      rw [List.isEmpty_eq_false_iff]
      rintro rfl
      exact hne (List.map_eq_nil_iff.mp h)
    rw [List.splitBy_of_isChain hne hjoined, List.map_singleton, pieceLine_of_chars h hne, runLine,
      hrun]
    rfl

theorem splitBy_other (h : e.char? = none) (es : List Element) :
    (e :: es).splitBy Element.joins = [e] :: es.splitBy Element.joins := by
  rw [← List.singleton_append, List.splitBy_append]
  · rfl
  · intro x hx y _
    obtain rfl : e = x := by simpa using hx
    exact joins_eq_false (.inl h)

theorem no_chars : ([] : List Element).map Element.char? = ([] : List Char).reverse.map some := rfl

theorem elementsLines_pending (h : piece.map Element.char? = run.reverse.map some)
    (es : List Element) : elementsLines flags run es =
      ((piece ++ es).splitBy Element.joins).map (pieceLine flags) := by
  induction es generalizing piece run with
  | nil => rw [List.append_nil, pieceLines_of_chars h, elementsLines]
  | cons e es ih =>
    cases hchar : e.char? with
    | some c =>
      obtain ⟨span, rfl⟩ := Element.char?_eq_some.mp hchar
      rw [List.append_cons]
      exact ih (by simp [h, hchar])
    | none =>
      have hother : ∀ span value, e ≠ .char span value := by
        rintro span value rfl
        cases hchar
      rw [elementsLines_of_other flags run es hother, ih no_chars,
        List.splitBy_append_cons es fun x _ => joins_eq_false (.inr hchar), splitBy_other hchar,
        List.map_append, pieceLines_of_chars h]
      rfl

theorem char?_isSome_of_isChain (h : (e :: es).IsChain fun a b => a.joins b) (he : e.char?.isSome) :
    ∀ x ∈ e :: es, x.char?.isSome := by
  induction es generalizing e with
  | nil => simpa using he
  | cons e' es ih =>
    obtain ⟨hjoins, htail⟩ := List.isChain_cons_cons.mp h
    have he' : e'.char?.isSome := (Bool.and_eq_true_iff.mp hjoins).2
    exact List.forall_mem_cons.mpr ⟨he, ih htail he'⟩

theorem map_char?_eq (h : ∀ x ∈ es, x.char?.isSome) :
    es.map Element.char? = (es.filterMap Element.char?).map some := by
  induction es with
  | nil => rfl
  | cons e es ih =>
    obtain ⟨he, hes⟩ := List.forall_mem_cons.mp h
    obtain ⟨c, hc⟩ := Option.isSome_iff_exists.mp he
    rw [List.map_cons, List.filterMap_cons_some hc, List.map_cons, ih hes, hc]

/-- A piece is a run of characters or one other element, and its line is that of the run or of the element. -/
theorem piece_cases (h : piece ∈ es.splitBy Element.joins) :
    (∃ run, run ≠ [] ∧ piece.map Element.char? = run.map some ∧
      pieceLine flags piece = literalLine run) ∨
    ∃ e, e.char? = none ∧ piece = [e] ∧ pieceLine flags piece = elementLine flags e := by
  have hchain := List.isChain_of_mem_splitBy h
  match piece with
  | [] => exact absurd rfl (List.ne_nil_of_mem_splitBy h)
  | e :: rest =>
    cases hchar : e.char? with
    | some c =>
      have hrun := map_char?_eq (char?_isSome_of_isChain hchain (by simp [hchar]))
      refine .inl ⟨_, ?_, hrun, pieceLine_of_chars hrun (List.cons_ne_nil e rest)⟩
      rw [List.filterMap_cons_some hchar]
      exact List.cons_ne_nil _ _
    | none =>
      cases rest with
      | nil => exact .inr ⟨e, hchar, rfl, rfl⟩
      | cons e' rest =>
        have hjoins := (List.isChain_cons_cons.mp hchain).1
        rw [joins_eq_false (.inl hchar)] at hjoins
        cases hjoins

theorem elementsLines_eq_map (flags : Flags) (es : List Element) :
    elementsLines flags [] es = (es.splitBy Element.joins).map (pieceLine flags) :=
  elementsLines_pending no_chars es

theorem elementsLines_ne_nil (flags : Flags) (h : es ≠ []) : elementsLines flags [] es ≠ [] := by
  rw [elementsLines_eq_map]
  exact mt List.map_eq_nil_iff.mp (List.splitBy_ne_nil.mpr h)

end

theorem branchLines_eq (flags : Flags) (b : Branch) :
    branchLines flags b = elementsLines flags [] b.elements := by
  cases b
  rfl

/-- What stands for a pattern without alternatives, or with one that is empty, stands for no other. -/
theorem componentLines_of_singleton (flags : Flags) {p : Pattern} {b : Branch}
    (hp : p.branches = [b]) (hb : b.elements ≠ []) :
    componentLines flags p = elementsLines flags [] b.elements := by
  have hlines := elementsLines_ne_nil flags hb
  rw [componentLines, hp, branchesLines, branchesLines, branchLines_eq]
  split <;> simp_all

theorem componentLines_ne_nil (flags : Flags) (p : Pattern) : componentLines flags p ≠ [] := by
  unfold componentLines
  split
  iterate 2 exact List.cons_ne_nil _ _
  · rename_i only hne _
    rintro rfl
    exact hne rfl
  · exact List.cons_ne_nil _ _

/-- A list of elements has one line for each of its longest runs of characters and for each other element, in
order, so it has lines if it has elements. If it is cut where a character does not meet a character, its lines
are those of both parts. A pattern always has lines, those of its elements if it has no alternatives to them. -/
theorem elementsLines_runs (flags : Flags) :
    (∀ es : List Element,
      elementsLines flags [] es = (es.splitBy Element.joins).map (pieceLine flags) ∧
      (∀ piece ∈ es.splitBy Element.joins,
        (∃ run, run ≠ [] ∧ piece.map Element.char? = run.map some ∧
          pieceLine flags piece = literalLine run) ∨
        ∃ e, e.char? = none ∧ piece = [e] ∧ pieceLine flags piece = elementLine flags e) ∧
      (es ≠ [] → elementsLines flags [] es ≠ [])) ∧
    (∀ xs ys : List Element,
      xs.getLast?.bind Element.char? = none ∨ ys.head?.bind Element.char? = none →
      elementsLines flags [] (xs ++ ys) = elementsLines flags [] xs ++ elementsLines flags [] ys) ∧
    ∀ p : Pattern, (p.explain flags).components ≠ [] ∧
      ∀ b, p.branches = [b] → b.elements ≠ [] →
        (p.explain flags).components = elementsLines flags [] b.elements := by
  refine ⟨fun es => ⟨elementsLines_eq_map flags es, fun piece => piece_cases,
    elementsLines_ne_nil flags⟩, fun xs ys hcut => ?_, fun p => ⟨componentLines_ne_nil flags p,
    fun b hp hb => componentLines_of_singleton flags hp hb⟩⟩
  have hmeet : ∀ x ∈ xs.getLast?, ∀ y ∈ ys.head?, x.joins y = false := by
    intro x hx y hy
    rw [Option.mem_def.mp hx, Option.mem_def.mp hy] at hcut
    exact joins_eq_false hcut
  simp only [elementsLines_eq_map, List.splitBy_append hmeet, List.map_append]

/-- Two characters before an anchor, and one behind it. -/
theorem elementsLines_runs_anchor :
    let flags := Flags.allOff
    let xs : List Element := [.char ⟨0, 1⟩ 'a', .char ⟨1, 2⟩ 'b']
    let ys : List Element := [.anchor ⟨2, 3⟩ .stop, .char ⟨3, 4⟩ 'c']
    let p : Pattern := ⟨⟨0, 4⟩, [.mk ⟨0, 4⟩ (xs ++ ys)]⟩
    ys.head?.bind Element.char? = none ∧ xs ++ ys ≠ [] ∧
      elementsLines flags [] xs = ["Literal \"ab\""] ∧
      elementsLines flags [] ys = ["End of string anchor", "Literal \"c\""] ∧
      (p.explain flags).components =
        ["Literal \"ab\"", "End of string anchor", "Literal \"c\""] := by
  intro flags xs ys p
  obtain ⟨-, hcut, hwhole⟩ := elementsLines_runs flags
  have hxs : elementsLines flags [] xs = ["Literal \"ab\""] := by decide +kernel
  have hys : elementsLines flags [] ys = ["End of string anchor", "Literal \"c\""] := by
    decide +kernel
  have hne : xs ++ ys ≠ [] := List.cons_ne_nil _ _
  have hcomponents := (hwhole p).2 _ rfl hne
  rw [Branch.elements, hcut xs ys (.inr rfl), hxs, hys] at hcomponents
  exact ⟨rfl, hne, hxs, hys, hcomponents⟩

end Explanation
end RegexInsight
