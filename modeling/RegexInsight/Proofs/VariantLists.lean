import Mathlib.Data.List.Basic
import Mathlib.Data.List.Nodup
import RegexInsight.Proofs.VariantOverlap

/-! The lists of variants at a glance. A list is filled by one change after the other, each of which is looked
up in what is there. What comes of it needs no list to look it up in: of all changes those that are changes,
each text where it comes first, and of these the first ones, as many as there is room for. -/
namespace RegexInsight
namespace Variant

/-- The changes that do change a text, without those whose text has come before. -/
def distinct (seed : List Char) (vs : List Variant) : List Variant :=
  (vs.filter (·.text != seed)).eraseDupsBy fun v w => v.text == w.text

section
variable {cap : Nat} {seed : List Char} {kept vs : List Variant} {v : Variant} {t : PatternTraits}

theorem distinct_cons_of_eq (h : v.text = seed) : distinct seed (v :: vs) = distinct seed vs := by
  simp [distinct, h]

theorem distinct_cons_of_ne (h : v.text ≠ seed) :
    distinct seed (v :: vs) = v :: distinct seed (vs.filter fun w => w.text != v.text) := by
  unfold distinct
  rw [List.filter_cons_of_pos (by simpa using h), List.eraseDupsBy_cons, List.filter_filter,
    List.filter_filter]
  congr 3
  funext w
  by_cases hw : w.text = v.text <;> simp [hw, Bool.and_comm, bne]

/-- To what is kept come the distinct ones among the changes that are not in it. -/
theorem foldl_add_eq (h : kept.length ≤ cap) : vs.foldl (add cap seed) kept =
    kept ++ (distinct seed (vs.filter fun v => !kept.any (·.text == v.text))).take
      (cap - kept.length) := by
  induction vs generalizing kept with
  | nil => simp [distinct]
  | cons v vs ih =>
    rw [List.foldl_cons]
    by_cases hfull : cap ≤ kept.length
    · have hadd : add cap seed kept v = kept := by simp [add, hfull]
      rw [hadd, ih h, Nat.sub_eq_zero_of_le hfull, List.take_zero, List.take_zero]
    · by_cases hknown : kept.any (·.text == v.text)
      · have hadd : add cap seed kept v = kept := by simp only [add, hknown, Bool.or_true, if_true]
        rw [hadd, ih h, List.filter_cons_of_neg (by simp [hknown])]
      · by_cases hsame : v.text = seed
        · have hadd : add cap seed kept v = kept := by simp [add, hsame]
          rw [hadd, ih h, List.filter_cons_of_pos (by simp [hknown]), distinct_cons_of_eq hsame]
        · have hadd : add cap seed kept v = kept ++ [v] := by simp [add, hfull, hsame, hknown]
          have hroom : cap - kept.length = (cap - (kept ++ [v]).length) + 1 := by
            rw [List.length_append, List.length_singleton]
            omega
          have hrest : (vs.filter fun w => !(kept ++ [v]).any (·.text == w.text)) =
              (vs.filter fun w => !kept.any (·.text == w.text)).filter
                fun w => w.text != v.text := by
            rw [List.filter_filter]
            apply List.filter_congr
            intro w _
            rw [List.any_append, Bool.not_or, Bool.and_comm]
            simp [bne, Bool.beq_comm (a := v.text)]
          rw [hadd, ih (by rw [List.length_append, List.length_singleton]; omega), hrest,
            List.filter_cons_of_pos (by simp [hknown]), distinct_cons_of_ne hsame, hroom,
            List.take_succ_cons, List.append_assoc, List.singleton_append]

theorem keep_eq_take : keep cap seed vs = (distinct seed vs).take cap := by
  rw [keep, foldl_add_eq (Nat.zero_le _)]
  simp only [List.any_nil, Bool.not_false, List.filter_true, List.nil_append, List.length_nil,
    Nat.sub_zero]

theorem add_texts_nodup (h : (kept.map text).Nodup) : ((add cap seed kept v).map text).Nodup := by
  unfold add
  split_ifs with hskip
  · exact h
  · have hnew : v.text ∉ kept.map text := by
      intro hmem
      obtain ⟨w, hw, htext⟩ := List.mem_map.mp hmem
      apply hskip
      simp only [Bool.or_eq_true, List.any_eq_true, beq_iff_eq]
      exact .inr ⟨w, hw, htext⟩
    rw [List.map_append, List.map_singleton, ← List.concat_eq_append]
    exact h.concat hnew

theorem keep_texts_nodup : ((keep cap seed vs).map text).Nodup := by
  induction vs using List.reverseRecOn with
  | nil => exact List.nodup_nil
  | append_singleton vs v ih =>
    rw [keep_concat]
    exact add_texts_nodup ih

theorem replaceChar_ne_nil {old : Char} {new : List Char} (hnew : new ≠ []) (h : seed ≠ []) :
    replaceChar old new seed ≠ [] := by
  obtain ⟨c, seed, rfl⟩ := List.exists_cons_of_ne_nil h
  rw [replaceChar, List.flatMap_cons]
  split_ifs <;> simp [hnew]

theorem Tolerated.ne_nil {text : List Char} (h : Tolerated seed text) (hseed : seed ≠ []) :
    text ≠ [] := by
  cases h with
  | recased hrecased => exact hrecased.spelled.ne_nil hseed
  | respelled => simpa using hseed
  | shortened hlength =>
    intro hnil
    have hzero := congrArg List.length hnil
    simp at hzero
    omega
  | repeated => simp

/-- The changes for white space are three at most, and they come first. -/
theorem mem_tolerable (h : v ∈ tolerable t seed) : v.text = ' ' :: seed ∨ v.text = seed ++ [' '] ∨
    v.text = replaceChar ' ' [' ', ' '] seed ∨
      v ∈ tolerable { t with allowsWhitespace := false } seed := by
  simp only [tolerable, List.append_assoc, Bool.false_eq_true, if_false, List.nil_append] at h ⊢
  rcases List.mem_append.mp h with hspace | hother
  · simp only [List.mem_ite_nil_right, List.mem_append, List.mem_cons, List.not_mem_nil,
      or_false] at hspace
    rcases hspace with ⟨-, (rfl | rfl) | ⟨-, rfl⟩⟩
    · exact .inl rfl
    · exact .inr (.inl rfl)
    · exact .inr (.inr (.inl rfl))
  · exact .inr (.inr (.inr hother))

theorem tolerable_ne_nil (hseed : seed ≠ []) (h : v ∈ tolerable t seed) : v.text ≠ [] := by
  rcases mem_tolerable h with htext | htext | htext | hother
  · simp [htext]
  · simp [htext]
  · rw [htext]
    exact replaceChar_ne_nil (by simp) hseed
  · exact (tolerated_of_mem rfl (List.mem_map_of_mem hother)).ne_nil hseed

theorem intolerable_ne_nil (hseed : seed ≠ []) (h : v ∈ intolerable t seed) : v.text ≠ [] := by
  have hlength := (spoiled_of_mem (List.mem_map_of_mem h)).length_le
  exact List.ne_nil_of_length_pos (Nat.lt_of_lt_of_le (List.length_pos_of_ne_nil hseed) hlength)

/-- What makes a list of variants of `seed` that was filled with `edits`, one after the other, up to
`cap`. -/
structure Listed (cap : Nat) (seed : List Char) (edits kept : List Variant) : Prop where
  first : kept = (distinct seed edits).take cap
  few : kept.length ≤ cap
  apart : (kept.map text).Nodup
  changed : ∀ v ∈ kept, v.text ≠ seed
  nonempty : seed ≠ [] → ∀ v ∈ kept, v.text ≠ []

theorem keep_listed (h : seed ≠ [] → ∀ v ∈ vs, v.text ≠ []) :
    Listed cap seed vs (keep cap seed vs) where
  first := keep_eq_take
  few := keep_length_le_cap
  apart := keep_texts_nodup
  changed _ hv := (mem_of_mem_keep hv).2
  nonempty hseed _ hv := h hseed _ (mem_of_mem_keep hv).1

/-- Each list of variants holds the first of the distinct changes of its kind, 8 of those that are tolerable and
10 of those that are not. No text is in it twice, none is the seed, and none of a seed that is not empty is
empty. -/
theorem variants_listed (seed : List Char) (t : PatternTraits) :
    Listed 8 seed (tolerable t seed) (shouldMatch seed t) ∧
      Listed 10 seed (intolerable t seed) (shouldNotMatch seed t) :=
  ⟨keep_listed fun hseed _ hv => tolerable_ne_nil hseed hv,
    keep_listed fun hseed _ hv => intolerable_ne_nil hseed hv⟩

/-- A seed whose lists both are full, though each kind of change gives more texts. The small letters are what
the seed has anyway, so the alternating ones are next to the capital ones. -/
theorem variants_listed_full :
    let seed := "ab 1-2.3:4".toList
    let t : PatternTraits := ⟨true, true, true, true, true, true, false⟩
    ((shouldMatch seed t).map (String.ofList ·.text) =
          [" ab 1-2.3:4", "ab 1-2.3:4 ", "ab  1-2.3:4", "AB 1-2.3:4", "Ab 1-2.3:4", "ab 1_2.3:4",
            "ab 1-2-3:4", "ab 1-2.3-4"] ∧
        ⟨alternatingCase seed, "alternating case"⟩ ∈ shouldMatch seed t ∧
        8 < (distinct seed (tolerable t seed)).length ∧ ∀ v ∈ shouldMatch seed t, v.text ≠ []) ∧
      (shouldNotMatch seed t).map (String.ofList ·.text) =
          ["ab 1-2.3:4 ", "ab 1-2.3:4\t", "ab 1-2.3:4§", "ab x-2.3:4", "ab 1-2.3:4x", "ab 1-2.3:4!",
            "!b 1-2.3:4", "ab 1-2..3:4", "ab 1--2.3:4", "ab 1-2.3::4"] ∧
        10 < (distinct seed (intolerable t seed)).length ∧ ∀ v ∈ shouldNotMatch seed t, v.text ≠ [] := by
  intro seed t
  have hlisted := variants_listed seed t
  have hseed : seed ≠ [] := by decide
  exact ⟨⟨by decide +kernel, by decide +kernel, by decide +kernel, hlisted.1.nonempty hseed⟩,
    by decide +kernel, by decide +kernel, hlisted.2.nonempty hseed⟩

end
end Variant
end RegexInsight
