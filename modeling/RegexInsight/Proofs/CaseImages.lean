import RegexInsight.CharTest

/-! Where the case mappings send a character. Both mappings are tables of runs, so what is true of a
counterpart is read off the bounds of the runs and of their images. Digits and spaces have no case, and
of the characters beyond ASCII three have a counterpart within it. -/
namespace RegexInsight

section
variable {α : Type} {bounds : α → Nat × Nat} {table : Array α} {code : Nat} {entry : α}

theorem bisect_spec {fuel lo hi : Nat} (h : bisect bounds table code fuel lo hi = some entry) :
    entry ∈ table.toList ∧ (bounds entry).1 ≤ code ∧ code ≤ (bounds entry).2 := by
  induction fuel generalizing lo hi with
  | zero => cases h
  | succ fuel ih =>
    rw [bisect] at h
    split at h
    · dsimp only at h
      split at h
      · cases h
      · rename_i middle hmiddle
        split at h
        · exact ih h
        · split at h
          · exact ih h
          · cases h
            exact ⟨Array.mem_toList_iff.mpr (Array.mem_of_getElem? hmiddle), by omega, by omega⟩
    · cases h

/-- An entry that is found is one of the table, and its bounds hold the code. -/
theorem findEntry_spec (h : findEntry bounds table code = some entry) :
    entry ∈ table.toList ∧ (bounds entry).1 ≤ code ∧ code ≤ (bounds entry).2 := bisect_spec h

end

/-- Blocks of characters that have no case and are no image. -/
def caselessBlocks : List (Nat × Nat) :=
  [(0x00, 0x40), (0x5B, 0x60), (0x7B, 0xB4), (0x1680, 0x1680), (0x2000, 0x2125), (0x3000, 0x3000),
    (0xFEFF, 0xFEFF)]

theorem inBlocks_iff {blocks : List (Nat × Nat)} {c : Char} :
    inBlocks blocks c ↔ ∃ block ∈ blocks, block.1 ≤ c.toNat ∧ c.toNat ≤ block.2 := by
  simp [inBlocks]

namespace CaseRun

/-- The run holds the one character and sends it to the other. -/
structure Sends (r : CaseRun) (c d : Char) : Prop where
  low : r.low ≤ c.toNat
  high : c.toNat ≤ r.high
  image : d.toNat = r.image + (c.toNat - r.low)

/-- All images are characters. -/
def Valid (r : CaseRun) : Prop :=
  r.image + (r.high - r.low) < 0xD800 ∨
    0xDFFF < r.image ∧ r.image + (r.high - r.low) < 0x110000

/-- Neither the run nor its image meets the code points of the block. The comparisons are those that are
fast to check, for the tables are long. -/
def avoids (r : CaseRun) (block : Nat × Nat) : Bool :=
  (r.high.blt block.1 || block.2.blt r.low) &&
    ((r.image + (r.high - r.low)).blt block.1 || block.2.blt r.image)

theorem avoids_iff {r : CaseRun} {block : Nat × Nat} : r.avoids block ↔
    (r.high < block.1 ∨ block.2 < r.low) ∧
      (r.image + (r.high - r.low) < block.1 ∨ block.2 < r.image) := by
  simp [avoids]

/-- The run stays beyond ASCII, or it is that of the ASCII letters, or it is one of some characters on
their own. -/
def KeepsAscii (alone : List Char) (r : CaseRun) : Prop :=
  (0x7F < r.low ∧ 0x7F < r.image) ∨
    (r.low = 0x41 ∧ r.high = 0x5A ∧ r.image = 0x61 ∨ r.low = 0x61 ∧ r.high = 0x7A ∧ r.image = 0x41) ∨
    r.low = r.high ∧ r.high ∈ alone.map Char.toNat

/-- What all runs of the case mappings have in common. -/
def Plain (alone : List Char) (r : CaseRun) : Prop :=
  r.Valid ∧ caselessBlocks.all r.avoids ∧ r.KeepsAscii alone

instance (alone : List Char) (r : CaseRun) : Decidable (r.Plain alone) :=
  inferInstanceAs (Decidable ((_ ∨ _) ∧ _ ∧ (_ ∨ _)))

end CaseRun

theorem toNat_ofNat {n : Nat} (h : n.isValidChar) : (Char.ofNat n).toNat = n := by
  rw [Char.ofNat, dif_pos h]
  rfl

theorem caseImage_sends {table : Array CaseRun} (hv : ∀ r ∈ table.toList, r.Valid) {c d : Char}
    (h : caseImage table c = some d) : ∃ r ∈ table.toList, r.Sends c d := by
  unfold caseImage at h
  split at h
  · cases h
  · rename_i r hr
    split at h
    · cases h
      obtain ⟨hmem, hlow, hhigh⟩ := findEntry_spec hr
      refine ⟨r, hmem, hlow, hhigh, ?_⟩
      have hvalid := hv r hmem
      unfold CaseRun.Valid at hvalid
      dsimp only at hlow hhigh
      refine toNat_ofNat ?_
      unfold Nat.isValidChar
      omega
    · cases h

/-- A mapping that leaves a character as it is or sends it on by a run of the table. Some characters
beyond ASCII may have a run each of their own. -/
structure Follows (f : Char → Char) (table : Array CaseRun) (alone : List Char) : Prop where
  plain : ∀ r ∈ table.toList, r.Plain alone
  sends : ∀ c, f c = c ∨ ∃ r ∈ table.toList, r.Sends c (f c)

theorem Follows.of_caseImage {f : Char → Char} {table : Array CaseRun} {alone : List Char}
    (hplain : ∀ r ∈ table.toList, r.Plain alone)
    (hascii : ∀ c, c.toNat < 0x80 → f c = c ∨ ∃ r ∈ table.toList, r.Sends c (f c))
    (hbeyond : ∀ c, ¬ c.toNat < 0x80 → f c = c ∨ f c = (caseImage table c).getD c) :
    Follows f table alone := by
  refine ⟨hplain, fun c => ?_⟩
  by_cases hc : c.toNat < 0x80
  · exact hascii c hc
  · refine (hbeyond c hc).elim .inl fun hf => ?_
    cases himage : caseImage table c with
    | none => exact .inl (by rw [hf, himage]; rfl)
    | some d =>
      obtain ⟨r, hr, hsends⟩ := caseImage_sends (fun r hr => (hplain r hr).1) himage
      rw [himage] at hf
      exact .inr ⟨r, hr, hf ▸ hsends⟩

theorem toNat_toLower (c : Char) : c.toLower.toNat =
    if 0x41 ≤ c.toNat ∧ c.toNat ≤ 0x5A then c.toNat + 0x20 else c.toNat := by
  have hcapital : (c.val ≥ 'A'.val ∧ c.val ≤ 'Z'.val) ↔ 0x41 ≤ c.toNat ∧ c.toNat ≤ 0x5A := Iff.rfl
  delta Char.toLower
  by_cases h : 0x41 ≤ c.toNat ∧ c.toNat ≤ 0x5A
  · rw [dif_pos (hcapital.mpr h), if_pos h]
    show (c.val + 0x20).toNat = _
    rw [UInt32.toNat_add]
    show (c.toNat + 0x20) % 2 ^ 32 = _
    omega
  · rw [dif_neg (mt hcapital.mp h), if_neg h]

theorem foldCase_ascii {c : Char} (hc : c.toNat < 0x80) : (foldCase c).toNat =
    if 0x41 ≤ c.toNat ∧ c.toNat ≤ 0x5A then c.toNat + 0x20 else c.toNat := by
  have hlower : foldCase c = c.toLower := by
    unfold foldCase lowerForm
    rw [if_pos hc]
  rw [hlower, toNat_toLower]

theorem raiseCase_ascii {c : Char} (hc : c.toNat < 0x80) : (raiseCase c).toNat =
    if 0x61 ≤ c.toNat ∧ c.toNat ≤ 0x7A then c.toNat - 0x20 else c.toNat := by
  have hupper : raiseCase c = c.toUpper := by
    unfold raiseCase upperForm
    rw [if_pos hc]
  have hsmall : ('a'.val ≤ c.val ∧ c.val ≤ 'z'.val) ↔ 0x61 ≤ c.toNat ∧ c.toNat ≤ 0x7A := Iff.rfl
  rw [hupper]
  delta Char.toUpper
  by_cases h : 0x61 ≤ c.toNat ∧ c.toNat ≤ 0x7A
  · rw [dif_pos (hsmall.mpr h), if_pos h]
    show (c.val + 0xFFFFFFE0).toNat = _
    rw [UInt32.toNat_add]
    show (c.toNat + 0xFFFFFFE0) % 2 ^ 32 = _
    omega
  · rw [dif_neg (mt hsmall.mp h), if_neg h]

/-- The Kelvin sign has the small letter of `k`. -/
theorem foldCase_follows : Follows foldCase lowerRuns ['\u212A'] := by
  refine .of_caseImage (by decide +kernel) (fun c hc => ?_) fun c hc => ?_
  · have hfold := foldCase_ascii hc
    split at hfold
    · rename_i h
      exact .inr ⟨⟨0x41, 0x5A, 1, 0x61⟩, List.mem_cons_self, h.1, h.2, by dsimp only; omega⟩
    · exact .inl (Char.toNat_inj.mp hfold)
  · unfold foldCase lowerForm
    rw [if_neg hc]
    by_cases hdotted : c == '\u0130'
    · rw [if_pos hdotted]
      exact .inl rfl
    · rw [if_neg hdotted]
      exact .inr rfl

/-- The dotless `i` and the long `s` have the capitals of `i` and `s`. A form that is not one character
long leaves the character as it is. -/
theorem raiseCase_follows : Follows raiseCase upperRuns ['\u0131', '\u017F'] := by
  have hlong : ∀ entry ∈ longUpperForms.toList, entry.2.length ≠ 1 := by decide +kernel
  refine .of_caseImage (by decide +kernel) (fun c hc => ?_) fun c hc => ?_
  · have hraise := raiseCase_ascii hc
    split at hraise
    · rename_i h
      exact .inr ⟨⟨0x61, 0x7A, 1, 0x41⟩, List.mem_cons_self, h.1, h.2, by dsimp only; omega⟩
    · exact .inl (Char.toNat_inj.mp hraise)
  · unfold raiseCase upperForm
    rw [if_neg hc]
    cases hentry : findEntry (fun entry => (entry.1, entry.1)) longUpperForms c.toNat with
    | none => exact .inr rfl
    | some entry =>
      have hlength := hlong entry (findEntry_spec hentry).1
      left
      dsimp only
      split
      · rename_i u hu
        exact absurd (congrArg List.length hu) (by rwa [List.length_map])
      · rfl

theorem isDigit_caseless {c : Char} (h : c.isDigit) : inBlocks caselessBlocks c := by
  have hle : c.toNat ≤ 0x39 := (Char.isDigit_iff_toNat.mp h).2
  exact inBlocks_iff.mpr ⟨(0x00, 0x40), by decide, Nat.zero_le _, by dsimp only; omega⟩

theorem isSpaceChar_caseless {c : Char} (h : isSpaceChar c) : inBlocks caselessBlocks c := by
  have hmark : c = '\uFEFF' ↔ c.toNat = 0xFEFF := Char.toNat_inj.symm
  simp only [isSpaceChar, isWhiteSpace, Bool.or_eq_true, Bool.and_eq_true, decide_eq_true_eq,
    beq_iff_eq, hmark] at h
  simp only [inBlocks, caselessBlocks, List.any_cons, List.any_nil, Bool.or_eq_true,
    Bool.and_eq_true, decide_eq_true_eq]
  omega

theorem isLineTerminator_caseless {c : Char} (h : isLineTerminator c) :
    inBlocks caselessBlocks c := by
  simp only [isLineTerminator, Bool.or_eq_true, beq_iff_eq] at h
  rcases h with ((rfl | rfl) | rfl) | rfl <;> decide

theorem isWordChar_iff {c : Char} : isWordChar c ↔ (0x30 ≤ c.toNat ∧ c.toNat ≤ 0x39) ∨
    (0x41 ≤ c.toNat ∧ c.toNat ≤ 0x5A) ∨ c.toNat = 0x5F ∨ (0x61 ≤ c.toNat ∧ c.toNat ≤ 0x7A) := by
  have hunderscore : c = '_' ↔ c.toNat = 0x5F := Char.toNat_inj.symm
  have hupper : c.isUpper ↔ 0x41 ≤ c.toNat ∧ c.toNat ≤ 0x5A := decide_eq_true_iff
  have hlower : c.isLower ↔ 0x61 ≤ c.toNat ∧ c.toNat ≤ 0x7A := by
    show (decide (0x61 ≤ c.toNat) && decide (c.toNat ≤ 0x7A)) = true ↔ _
    rw [Bool.and_eq_true, decide_eq_true_eq, decide_eq_true_eq]
  have hdigit : c.isDigit ↔ 0x30 ≤ c.toNat ∧ c.toNat ≤ 0x39 := Char.isDigit_iff_toNat
  show (((c.isUpper || c.isLower) || c.isDigit) || c == '_') = true ↔ _
  rw [Bool.or_eq_true, Bool.or_eq_true, Bool.or_eq_true, hupper, hlower, hdigit, beq_iff_eq,
    hunderscore]
  omega

namespace Follows

variable {f : Char → Char} {table : Array CaseRun} {alone : List Char} {c : Char}

theorem eq_of_caseless (h : Follows f table alone)
    (hc : inBlocks caselessBlocks c ∨ inBlocks caselessBlocks (f c)) : f c = c := by
  refine (h.sends c).resolve_right fun ⟨r, hr, hlow, hhigh, himage⟩ => ?_
  have havoids : ∀ block ∈ caselessBlocks, r.avoids block := List.all_eq_true.mp (h.plain r hr).2.1
  simp only [CaseRun.avoids_iff] at havoids
  simp only [inBlocks_iff] at hc
  rcases hc with ⟨block, hmem, hblock⟩ | ⟨block, hmem, hblock⟩
  · have hrun := (havoids block hmem).1
    omega
  · have hrun := (havoids block hmem).2
    omega

theorem test_eq (h : Follows f table alone) {p : Char → Bool}
    (hp : ∀ c, p c → inBlocks caselessBlocks c) (c : Char) : p (f c) = p c := by
  by_cases hc : inBlocks caselessBlocks c ∨ inBlocks caselessBlocks (f c)
  · rw [h.eq_of_caseless hc]
  · obtain ⟨hself, hother⟩ := not_or.mp hc
    rw [Bool.eq_false_iff.mpr fun hpass => hself (hp c hpass),
      Bool.eq_false_iff.mpr fun hpass => hother (hp (f c) hpass)]

/-- A character with a run of its own is one of those that may have one. -/
theorem mem_alone {r : CaseRun} (hlow : r.low ≤ c.toNat) (hhigh : c.toNat ≤ r.high)
    (hone : r.low = r.high) (hmem : r.high ∈ alone.map Char.toNat) : c ∈ alone := by
  obtain ⟨d, hd, hcode⟩ := List.mem_map.mp hmem
  obtain rfl : c = d := Char.toNat_inj.mp (by omega)
  exact hd

theorem isWordChar_eq (h : Follows f table alone) (hc : c ∉ alone) :
    isWordChar (f c) = isWordChar c := by
  rcases h.sends c with hsame | ⟨r, hr, hlow, hhigh, himage⟩
  · rw [hsame]
  · rw [Bool.eq_iff_iff, isWordChar_iff, isWordChar_iff]
    rcases (h.plain r hr).2.2 with hbeyond | hletters | ⟨hone, hmem⟩
    · omega
    · omega
    · exact absurd (mem_alone hlow hhigh hone hmem) hc

theorem mem_of_ascii (h : Follows f table alone) (hc : ¬ c.toNat < 0x80)
    (hf : (f c).toNat < 0x80) : c ∈ alone := by
  rcases h.sends c with hsame | ⟨r, hr, hlow, hhigh, himage⟩
  · rw [hsame] at hf
    exact absurd hf hc
  · rcases (h.plain r hr).2.2 with hbeyond | hletters | ⟨hone, hmem⟩
    · omega
    · omega
    · exact mem_alone hlow hhigh hone hmem

end Follows

/-- The characters beyond ASCII with a counterpart within it: the dotless `i` and the long `s`, which
have the capitals of `i` and `s`, and the Kelvin sign, which has the small letter of `k`. -/
def asciiRelatives : List Char := ['\u0131', '\u017F', '\u212A']

theorem mem_asciiRelatives {c : Char} :
    c ∈ asciiRelatives ↔ c = '\u0131' ∨ c = '\u017F' ∨ c = '\u212A' := by
  simp [asciiRelatives]

theorem foldCase_beyond_ascii {c : Char} (hc : ¬ c.toNat < 0x80) (ha : c ∉ asciiRelatives) :
    ¬ (foldCase c).toNat < 0x80 := fun h =>
  ha (List.mem_cons_of_mem _ (List.mem_cons_of_mem _
    (foldCase_follows.mem_of_ascii hc h)))

theorem raiseCase_beyond_ascii {c : Char} (hc : ¬ c.toNat < 0x80) (ha : c ∉ asciiRelatives) :
    ¬ (raiseCase c).toNat < 0x80 := fun h =>
  ha (List.mem_append_left ['\u212A'] (raiseCase_follows.mem_of_ascii hc h))

theorem isWordChar_counterparts {c : Char} (ha : c ∉ asciiRelatives) :
    isWordChar (foldCase c) = isWordChar c ∧ isWordChar (raiseCase c) = isWordChar c := by
  have hlower : c ∉ ['\u212A'] := fun h =>
    ha (List.mem_cons_of_mem _ (List.mem_cons_of_mem _ h))
  have hupper : c ∉ ['\u0131', '\u017F'] := fun h => ha (List.mem_append_left ['\u212A'] h)
  exact ⟨foldCase_follows.isWordChar_eq hlower,
    raiseCase_follows.isWordChar_eq hupper⟩

theorem asciiRelatives_counterparts :
    (foldCase '\u0131' = '\u0131' ∧ raiseCase '\u0131' = 'I') ∧
    (foldCase '\u017F' = '\u017F' ∧ raiseCase '\u017F' = 'S') ∧
    foldCase '\u212A' = 'k' ∧ raiseCase '\u212A' = '\u212A' := by decide +kernel

end RegexInsight
