import Mathlib.Data.List.Induction
import RegexInsight.Variants

/-! Which of the changed texts are kept. A list of variants only grows at its end until it is full, so whatever
comes before it can be full is in it, unless it is no change at all. -/
namespace RegexInsight
namespace Variant

variable {cap : Nat} {seed : List Char} {kept vs : List Variant} {v : Variant}

theorem add_isPrefix : kept <+: add cap seed kept v := by
  unfold add
  split_ifs <;> simp

theorem add_length_le : (add cap seed kept v).length ≤ kept.length + 1 := by
  unfold add
  split_ifs <;> simp

theorem add_length_le_cap (h : kept.length ≤ cap) : (add cap seed kept v).length ≤ cap := by
  by_cases hfull : cap ≤ kept.length
  · simp [add, hfull, h]
  · exact Nat.le_trans add_length_le (Nat.lt_of_not_le hfull)

theorem mem_add {w : Variant} (h : w ∈ add cap seed kept v) : w ∈ kept ∨ w = v ∧ v.text ≠ seed := by
  by_cases hadded : (cap ≤ kept.length || v.text == seed || kept.any (·.text == v.text)) = true
  · simp [add, hadded] at h
    exact .inl h
  · simp only [add, hadded, Bool.false_eq_true, if_false, List.mem_append, List.mem_singleton] at h
    exact h.imp_right fun hw => ⟨hw, by simp at hadded; exact hadded.1.2⟩

theorem text_mem_add (hroom : kept.length < cap) (hne : v.text ≠ seed) :
    v.text ∈ (add cap seed kept v).map text := by
  by_cases hknown : kept.any (·.text == v.text)
  · simp only [add, hknown, Bool.or_true, if_true]
    simpa using hknown
  · simp [add, hknown, hne, Nat.not_le.mpr hroom]

theorem foldl_add_isPrefix : kept <+: vs.foldl (add cap seed) kept := by
  induction vs generalizing kept with
  | nil => exact List.prefix_refl _
  | cons v vs ih => exact add_isPrefix.trans ih

theorem foldl_add_length_le (h : kept.length ≤ cap) : (vs.foldl (add cap seed) kept).length ≤ cap := by
  induction vs generalizing kept with
  | nil => exact h
  | cons v vs ih => exact ih (add_length_le_cap h)

theorem keep_length_le_cap : (keep cap seed vs).length ≤ cap := foldl_add_length_le (Nat.zero_le _)

theorem keep_concat : keep cap seed (vs ++ [v]) = add cap seed (keep cap seed vs) v := by
  simp [keep]

theorem keep_isPrefix (ws : List Variant) : keep cap seed vs <+: keep cap seed (vs ++ ws) := by
  rw [keep, keep, List.foldl_append]
  exact foldl_add_isPrefix

theorem keep_length_le : (keep cap seed vs).length ≤ vs.length := by
  induction vs using List.reverseRecOn with
  | nil => simp [keep]
  | append_singleton vs v ih =>
    rw [keep_concat, List.length_append]
    exact Nat.le_trans add_length_le (Nat.succ_le_succ ih)

theorem mem_of_mem_keep {w : Variant} (h : w ∈ keep cap seed vs) : w ∈ vs ∧ w.text ≠ seed := by
  induction vs using List.reverseRecOn with
  | nil => simp [keep] at h
  | append_singleton vs v ih =>
    rw [keep_concat] at h
    rcases mem_add h with h | ⟨rfl, hne⟩
    · exact ⟨List.mem_append_left _ (ih h).1, (ih h).2⟩
    · exact ⟨by simp, hne⟩

theorem text_mem_keep {ws : List Variant} (hroom : vs.length < cap) (hne : v.text ≠ seed) :
    v.text ∈ (keep cap seed (vs ++ v :: ws)).map text := by
  have hkept : v.text ∈ (keep cap seed (vs ++ [v])).map text := by
    rw [keep_concat]
    exact text_mem_add (Nat.lt_of_le_of_lt keep_length_le hroom) hne
  rw [List.append_cons]
  exact ((keep_isPrefix ws).map text).subset hkept

theorem text_mem_keep_of_length_le {ws : List Variant} (hv : v ∈ vs) (hlength : vs.length ≤ cap)
    (hne : v.text ≠ seed) : v.text ∈ (keep cap seed (vs ++ ws)).map text := by
  obtain ⟨front, back, rfl⟩ := List.append_of_mem hv
  simp only [List.length_append, List.length_cons] at hlength
  rw [List.append_assoc, List.cons_append]
  exact text_mem_keep (by omega) hne

theorem shouldMatch_length_le (seed : List Char) (t : PatternTraits) :
    (shouldMatch seed t).length ≤ maxShouldMatch := keep_length_le_cap

theorem shouldNotMatch_length_le (seed : List Char) (t : PatternTraits) :
    (shouldNotMatch seed t).length ≤ maxShouldNotMatch := keep_length_le_cap

end Variant
end RegexInsight
