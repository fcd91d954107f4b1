import Mathlib.Tactic.SplitIfs
import RegexInsight.Proofs.CaseImages

/-! Texts that are spelled with the case forms of other texts. A form may be several characters long, but one
that begins with its own character is no longer than that, so a text and its forms part at the first
character that has another form. -/
namespace RegexInsight

/-- What the case forms of a character have in common. -/
structure CaseForm (c : Char) (form : List Char) : Prop where
  ne_nil : form ≠ []
  eq_of_head : form.head? = some c → form = [c]
  eq_of_caseless : (c :: form).any (inBlocks caselessBlocks) → form = [c]

theorem Follows.caseForm {f : Char → Char} {table : Array CaseRun} {alone : List Char}
    (h : Follows f table alone) (c : Char) : CaseForm c [f c] := by
  refine ⟨by simp, by simp, ?_⟩
  intro hcaseless
  have heq : f c = c := by
    apply h.eq_of_caseless
    simpa using hcaseless
  simp [heq]

theorem lowerForm_eq (c : Char) :
    lowerForm c = [foldCase c] ∨ c = '\u0130' ∧ lowerForm c = ['i', '\u0307'] := by
  unfold foldCase lowerForm
  split_ifs with hascii hdotted
  · exact .inl rfl
  · exact .inr ⟨by simpa using hdotted, rfl⟩
  · exact .inl rfl

theorem upperForm_eq (c : Char) : upperForm c = [raiseCase c] ∨
    ∃ entry ∈ longUpperForms.toList, entry.1 = c.toNat ∧ upperForm c = entry.2.map Char.ofNat := by
  unfold raiseCase upperForm
  split_ifs with hascii
  · exact .inl rfl
  · cases hentry : findEntry (fun entry => (entry.1, entry.1)) longUpperForms c.toNat with
    | none => exact .inl rfl
    | some entry =>
      have hfound := findEntry_spec hentry
      exact .inr ⟨entry, hfound.1, by dsimp only at hfound; omega, rfl⟩

/-- A long form begins with another character, and there is a case for it and for what it belongs to. None
begins with a small `x`. -/
theorem longUpperForms_spec : ∀ entry ∈ longUpperForms.toList, entry.2 ≠ [] ∧
    entry.2.head? ≠ some entry.1 ∧ entry.2.head? ≠ some 0x78 ∧
    ∀ n ∈ entry.1 :: entry.2, n.isValidChar ∧
      ∀ block ∈ caselessBlocks, n < block.1 ∨ block.2 < n := by
  decide +kernel

theorem map_toNat_longUpperForm {entry : Nat × List Nat} (h : entry ∈ longUpperForms.toList) :
    (entry.2.map Char.ofNat).map Char.toNat = entry.2 := by
  have hcodes : ∀ n ∈ entry.2, (Char.ofNat n).toNat = n := fun n hn =>
    toNat_ofNat ((longUpperForms_spec entry h).2.2.2 n (List.mem_cons_of_mem _ hn)).1
  rw [List.map_map]
  exact List.map_congr_left hcodes |>.trans (List.map_id _)

theorem lowerForm_caseForm (c : Char) : CaseForm c (lowerForm c) := by
  rcases lowerForm_eq c with hform | ⟨rfl, hform⟩
  · simpa [hform] using foldCase_follows.caseForm c
  · rw [hform]
    exact ⟨by simp, by decide, by decide⟩

theorem upperForm_caseForm (c : Char) : CaseForm c (upperForm c) := by
  rcases upperForm_eq c with hform | ⟨entry, hmem, hcode, hform⟩
  · simpa [hform] using raiseCase_follows.caseForm c
  · obtain ⟨hne, hhead, -, hall⟩ := longUpperForms_spec entry hmem
    rw [hcode] at hhead hall
    rw [hform]
    refine ⟨by simpa using hne, ?_, ?_⟩
    · intro hself
      apply absurd _ hhead
      rw [← map_toNat_longUpperForm hmem, List.head?_map, hself]
      rfl
    · intro hany
      obtain ⟨d, hd, hcaseless⟩ := List.any_eq_true.mp hany
      obtain ⟨block, hblock, hin⟩ := inBlocks_iff.mp hcaseless
      have hcode : d.toNat ∈ c.toNat :: entry.2 := by
        rw [← map_toNat_longUpperForm hmem, ← List.map_cons]
        exact List.mem_map_of_mem hd
      have havoids := (hall d.toNat hcode).2 block hblock
      omega

/-- The text is made of one form for each of the characters, one behind the other. -/
inductive Spelled (F : Char → List Char → Prop) : List Char → List Char → Prop
  | nil : Spelled F [] []
  | cons {c : Char} {form cs text : List Char} :
      F c form → Spelled F cs text → Spelled F (c :: cs) (form ++ text)

namespace Spelled

variable {F G : Char → List Char → Prop} {p q cs text : List Char} {s : Char}

theorem mono (hFG : ∀ c form, F c form → G c form) (h : Spelled F cs text) : Spelled G cs text := by
  induction h with
  | nil => exact .nil
  | cons hform _ ih => exact .cons (hFG _ _ hform) ih

theorem flatMap {f : Char → List Char} (hf : ∀ c, F c (f c)) : Spelled F cs (cs.flatMap f) := by
  induction cs with
  | nil => exact .nil
  | cons c cs ih =>
    rw [List.flatMap_cons]
    exact .cons (hf c) ih

theorem forall_mem {P : Char → Prop} (hF : ∀ c form, F c form → ∀ d ∈ form, P d)
    (h : Spelled F cs text) : ∀ d ∈ text, P d := by
  induction h with
  | nil => simp
  | cons hform _ ih =>
    simp only [List.mem_append]
    rintro d (hd | hd)
    · exact hF _ _ hform d hd
    · exact ih d hd

theorem length_eq (h : Spelled F cs text) (hF : ∀ c ∈ cs, ∀ form, F c form → form.length = 1) :
    text.length = cs.length := by
  induction h with
  | nil => rfl
  | cons hform _ ih =>
    have hone := hF _ List.mem_cons_self _ hform
    have hrest := ih fun c hc => hF c (List.mem_cons_of_mem _ hc)
    simp [hone, hrest, Nat.add_comm]

theorem ne_nil (h : Spelled CaseForm cs text) (hne : cs ≠ []) : text ≠ [] := by
  cases h with
  | nil => exact hne
  | cons hform _ => exact List.append_ne_nil_of_left_ne_nil hform.ne_nil _

/-- If the text begins with the first character, that character is spelled as it is. -/
theorem cons_cancel {c : Char} (h : Spelled CaseForm (c :: cs) (c :: text)) :
    Spelled CaseForm cs text := by
  generalize htext : c :: text = whole at h
  cases h with
  | @cons _ form _ rest hform hrest =>
    obtain ⟨d, form, rfl⟩ := List.exists_cons_of_ne_nil hform.ne_nil
    simp only [List.cons_append, List.cons.injEq] at htext
    obtain ⟨rfl, rfl⟩ := htext
    have hsingle := hform.eq_of_head rfl
    simp only [List.cons.injEq, true_and] at hsingle
    simpa [hsingle] using hrest

theorem append_cancel (h : Spelled CaseForm (p ++ cs) (p ++ text)) : Spelled CaseForm cs text := by
  induction p with
  | nil => exact h
  | cons c p ih => exact ih h.cons_cancel

/-- The first characters of both texts are the same if one of them has no case. -/
theorem head_eq_of_caseless {c : Char} (h : Spelled CaseForm (c :: cs) (s :: text))
    (hcaseless : inBlocks caselessBlocks c ∨ inBlocks caselessBlocks s) : c = s := by
  generalize htext : s :: text = whole at h
  cases h with
  | @cons _ form _ rest hform hrest =>
    obtain ⟨d, form, rfl⟩ := List.exists_cons_of_ne_nil hform.ne_nil
    simp only [List.cons_append, List.cons.injEq] at htext
    obtain ⟨rfl, -⟩ := htext
    have hsingle : s :: form = [c] := by
      apply hform.eq_of_caseless
      rcases hcaseless with hcaseless | hcaseless <;> simp [hcaseless]
    simp only [List.cons.injEq] at hsingle
    exact hsingle.1.symm

theorem not_before (hs : inBlocks caselessBlocks s) : ¬ Spelled CaseForm cs (s :: cs ++ q) := by
  induction cs with
  | nil =>
    intro h
    generalize htext : s :: [] ++ q = whole at h
    cases h
    simp at htext
  | cons c cs ih =>
    intro h
    obtain rfl := h.head_eq_of_caseless (.inr hs)
    exact ih h.cons_cancel

theorem not_append (hq : q ≠ []) : ¬ Spelled CaseForm cs (cs ++ q) := by
  intro h
  have hrest : Spelled CaseForm [] q := by
    apply append_cancel (p := cs)
    simpa using h
  cases hrest
  exact hq rfl

end Spelled

/-- The lower-case forms of a character within a text. A capital sigma has two. -/
def LowerForm (c : Char) (form : List Char) : Prop :=
  form = lowerForm c ∨ c = 'Σ' ∧ (form = ['σ'] ∨ form = ['ς'])

namespace LowerForm

variable {c : Char} {form : List Char}

theorem caseForm (h : LowerForm c form) : CaseForm c form := by
  rcases h with rfl | ⟨rfl, rfl | rfl⟩
  · exact lowerForm_caseForm c
  · exact ⟨by simp, by decide, by decide⟩
  · exact ⟨by simp, by decide, by decide⟩

theorem length_eq_one (h : LowerForm c form) (hc : c ≠ '\u0130') : form.length = 1 := by
  rcases h with rfl | ⟨rfl, rfl | rfl⟩
  · simp [(lowerForm_eq c).resolve_right fun hdotted => hc hdotted.1]
  · rfl
  · rfl

/-- The only character with a long form is in no form. -/
theorem dotted_not_mem (h : LowerForm c form) : '\u0130' ∉ form := by
  rcases h with rfl | ⟨rfl, rfl | rfl⟩
  · rcases lowerForm_eq c with hform | ⟨rfl, hform⟩
    · have hruns : ∀ r ∈ lowerRuns.toList, 0x130 < r.image ∨ r.image + (r.high - r.low) < 0x130 := by
        decide +kernel
      simp only [hform, List.mem_singleton]
      intro hdotted
      rcases foldCase_follows.sends c with hsame | ⟨r, hr, hlow, hhigh, himage⟩
      · obtain rfl : '\u0130' = c := hdotted.trans hsame
        revert hform
        decide
      · have hrun := hruns r hr
        have hcode : (foldCase c).toNat = 0x130 := by simp [← hdotted]
        omega
    · simp [hform]
  · decide
  · decide

end LowerForm

theorem lowerOnto_spelled (before out cs : List Char) : ∃ text,
    Spelled LowerForm cs text ∧ lowerOnto before out cs = text.reverse ++ out := by
  induction cs generalizing before out with
  | nil => exact ⟨[], .nil, rfl⟩
  | cons c cs ih =>
    obtain ⟨form, hform, hstep⟩ : ∃ form, LowerForm c form ∧
        lowerOnto before out (c :: cs) = lowerOnto (c :: before) (form.reverse ++ out) cs := by
      refine ⟨_, ?_, rfl⟩
      split_ifs with hsigma hfinal
      · exact .inr ⟨by simpa using hsigma, .inr rfl⟩
      · exact .inr ⟨by simpa using hsigma, .inl rfl⟩
      · exact .inl rfl
    obtain ⟨text, hspelled, htext⟩ := ih (c :: before) (form.reverse ++ out)
    exact ⟨form ++ text, .cons hform hspelled, by simp [hstep, htext]⟩

theorem lowerText_spelled (cs : List Char) : Spelled LowerForm cs (lowerText cs) := by
  obtain ⟨text, hspelled, htext⟩ := lowerOnto_spelled [] [] cs
  simpa [lowerText, htext] using hspelled

theorem upperForm_head_ne_x (c : Char) : (upperForm c).head? ≠ some 'x' := by
  rcases upperForm_eq c with hform | ⟨entry, hmem, hcode, hform⟩
  · have hruns : ∀ r ∈ upperRuns.toList, 0x78 < r.image ∨ r.image + (r.high - r.low) < 0x78 := by
      decide +kernel
    simp only [hform, List.head?_cons, ne_eq, Option.some.injEq]
    intro hx
    have hcode : (raiseCase c).toNat = 0x78 := by simp [hx]
    rcases raiseCase_follows.sends c with hsame | ⟨r, hr, hlow, hhigh, himage⟩
    · obtain rfl : c = 'x' := hsame.symm.trans hx
      revert hx
      decide
    · have hrun := hruns r hr
      omega
  · obtain ⟨-, -, hhead, -⟩ := longUpperForms_spec entry hmem
    rw [hform]
    intro hx
    apply hhead
    rw [← map_toNat_longUpperForm hmem, List.head?_map, hx]
    rfl

end RegexInsight
