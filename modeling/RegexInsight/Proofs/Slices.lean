import Mathlib.Data.List.Basic
import RegexInsight.Regex

/-! Characters and bytes of a text. A character starts at the width of the characters before it, so the
byte of a later character is a later byte, and the characters between two positions are the slice
between their bytes. -/
namespace RegexInsight

@[simp] theorem width_nil : width [] = 0 := rfl

theorem width_cons (c : Char) (cs : List Char) : width (c :: cs) = c.utf8Size + width cs := by
  have hshift : ∀ (cs : List Char) (n : Nat),
      cs.foldl (fun n c => n + c.utf8Size) n = n + width cs := by
    intro cs
    induction cs with
    | nil => simp [width]
    | cons d cs ih =>
      intro n
      rw [width, List.foldl_cons, List.foldl_cons, ih, ih (0 + d.utf8Size)]
      omega
  rw [width, List.foldl_cons, hshift, Nat.zero_add]

theorem width_append (cs ds : List Char) : width (cs ++ ds) = width cs + width ds := by
  induction cs with
  | nil => simp
  | cons c cs ih => rw [List.cons_append, width_cons, width_cons, ih, Nat.add_assoc]

theorem width_pos {cs : List Char} (h : cs ≠ []) : 0 < width cs := by
  cases cs with
  | nil => exact absurd rfl h
  | cons c cs =>
    rw [width_cons]
    exact Nat.add_pos_left c.utf8Size_pos _

theorem width_eq_zero_iff {cs : List Char} : width cs = 0 ↔ cs = [] := by
  constructor
  · intro h
    by_contra hne
    exact absurd h (Nat.ne_of_gt (width_pos hne))
  · rintro rfl
    rfl

theorem width_take_lt {cs : List Char} {i j : Nat} (hij : i < j) (hj : j ≤ cs.length) :
    width (cs.take i) < width (cs.take j) := by
  obtain ⟨k, rfl⟩ := Nat.exists_eq_add_of_lt hij
  have hpos : 0 < width ((cs.drop i).take (k + 1)) := by
    refine width_pos fun h => ?_
    have hlength := congrArg List.length h
    simp at hlength
    omega
  rw [Nat.add_assoc, List.take_add, width_append]
  omega

theorem width_take_le {cs : List Char} {i j : Nat} (hij : i ≤ j) (hj : j ≤ cs.length) :
    width (cs.take i) ≤ width (cs.take j) := by
  rcases Nat.lt_or_eq_of_le hij with hlt | rfl
  · exact Nat.le_of_lt (width_take_lt hlt hj)
  · exact Nat.le_refl _

theorem width_take_le_iff {cs : List Char} {i j : Nat} (hi : i ≤ cs.length) (hj : j ≤ cs.length) :
    width (cs.take i) ≤ width (cs.take j) ↔ i ≤ j := by
  constructor
  · intro h
    by_contra hlt
    have := width_take_lt (Nat.lt_of_not_le hlt) hi
    omega
  · exact fun h => width_take_le h hj

theorem width_take_lt_iff {cs : List Char} {i j : Nat} (hi : i ≤ cs.length) (hj : j ≤ cs.length) :
    width (cs.take i) < width (cs.take j) ↔ i < j := by
  rw [← Nat.not_le, width_take_le_iff hj hi, Nat.not_le]

theorem width_take_min {cs : List Char} {i j : Nat} (hi : i ≤ cs.length) (hj : j ≤ cs.length) :
    min (width (cs.take i)) (width (cs.take j)) = width (cs.take (min i j)) := by
  by_cases h : i ≤ j
  · rw [Nat.min_eq_left h, Nat.min_eq_left ((width_take_le_iff hi hj).mpr h)]
  · have hji := Nat.le_of_not_le h
    rw [Nat.min_eq_right hji, Nat.min_eq_right ((width_take_le_iff hj hi).mpr hji)]

namespace Subject

theorem foldl_bytes (cs : List Char) (bytes : Array Nat) (byte : Nat) :
    cs.foldl (fun (bytes, byte) c => (bytes.push byte, byte + c.utf8Size)) (bytes, byte) =
      (bytes ++ ((List.range cs.length).map fun i => byte + width (cs.take i)).toArray,
        byte + width cs) := by
  induction cs generalizing bytes byte with
  | nil => simp
  | cons c cs ih =>
    rw [List.foldl_cons, ih, width_cons, List.length_cons, List.range_succ_eq_map]
    simp [width_cons, Function.comp_def, Nat.add_assoc]

@[simp] theorem size_ofChars (cs : List Char) : (ofChars cs).size = cs.length := by
  simp [ofChars, size]

theorem bytes_ofChars (cs : List Char) : (ofChars cs).bytes =
    ((List.range (cs.length + 1)).map fun i => width (cs.take i)).toArray := by
  simp [ofChars, foldl_bytes, List.range_succ]

theorem byteAt_ofChars {cs : List Char} {i : Nat} (hi : i ≤ cs.length) :
    (ofChars cs).byteAt i = width (cs.take i) := by
  rw [byteAt, bytes_ofChars, List.getElem?_toArray, List.getElem?_map,
    List.getElem?_range (Nat.lt_succ_of_le hi)]
  rfl

theorem slice_ofChars (cs : List Char) (start stop : Nat) :
    ((ofChars cs).slice start stop).toList = (cs.take stop).drop start := by
  simp [slice, ofChars, List.drop_take]

end Subject

namespace sliceChars?

theorem skip_append (cs ds : List Char) : skip (cs ++ ds) (width cs) = some ds := by
  induction cs with
  | nil => simp [skip]
  | cons c cs ih =>
    obtain ⟨k, hk⟩ := Nat.exists_eq_succ_of_ne_zero (Nat.ne_of_gt (width_pos (List.cons_ne_nil c cs)))
    have hwidth := hk.symm.trans (width_cons c cs)
    have hrest : k + 1 - c.utf8Size = width cs := by omega
    rw [List.cons_append, hk, skip, if_pos (by omega), hrest]
    · exact ih
    · simp

theorem skip_eq_some {cs rest : List Char} {n : Nat} (h : skip cs n = some rest) :
    ∃ front, cs = front ++ rest ∧ width front = n := by
  induction cs generalizing n with
  | nil =>
    cases n with
    | zero => exact ⟨[], by simpa [skip] using h, rfl⟩
    | succ n => cases h
  | cons c cs ih =>
    cases n with
    | zero => exact ⟨[], by simpa [skip] using h, rfl⟩
    | succ n =>
      rw [skip] at h
      · split at h
        · obtain ⟨front, rfl, hwidth⟩ := ih h
          exact ⟨c :: front, rfl, by rw [width_cons]; omega⟩
        · cases h
      · exact Nat.succ_ne_zero n

theorem take_append (cs ds out : List Char) :
    take (cs ++ ds) out (width cs) = some (out.reverse ++ cs) := by
  induction cs generalizing out with
  | nil => simp [take]
  | cons c cs ih =>
    obtain ⟨k, hk⟩ := Nat.exists_eq_succ_of_ne_zero (Nat.ne_of_gt (width_pos (List.cons_ne_nil c cs)))
    have hwidth := hk.symm.trans (width_cons c cs)
    have hrest : k + 1 - c.utf8Size = width cs := by omega
    rw [List.cons_append, hk, take, if_pos (by omega), hrest, ih]
    · simp
    · simp

theorem take_prefix {cs out part : List Char} {n : Nat} (h : take cs out n = some part) :
    ∃ taken, part = out.reverse ++ taken ∧ taken <+: cs := by
  induction cs generalizing out n with
  | nil =>
    cases n with
    | zero => exact ⟨[], by simpa [take] using h.symm, List.nil_prefix⟩
    | succ n => cases h
  | cons c cs ih =>
    cases n with
    | zero => exact ⟨[], by simpa [take] using h.symm, List.nil_prefix⟩
    | succ n =>
      rw [take] at h
      · split at h
        · obtain ⟨taken, rfl, hprefix⟩ := ih h
          exact ⟨c :: taken, by simp, List.cons_prefix_cons.mpr ⟨rfl, hprefix⟩⟩
        · cases h
      · exact Nat.succ_ne_zero n

end sliceChars?

theorem sliceChars?_eq_some {cs part : List Char} {start stop : Nat}
    (h : sliceChars? cs ⟨start, stop⟩ = some part) :
    ∃ front rest, cs = front ++ (part ++ rest) ∧ width front = start := by
  unfold sliceChars? at h
  split at h
  · cases h
  · rename_i hskip
    obtain ⟨front, hcs, hwidth⟩ := sliceChars?.skip_eq_some hskip
    split at h
    · cases h
    · obtain ⟨taken, rfl, rest, hrest⟩ := sliceChars?.take_prefix h
      exact ⟨front, rest, by rw [hcs, ← hrest], hwidth⟩

theorem sliceChars?_prefix {front rest part : List Char} {stop : Nat}
    (h : sliceChars? (front ++ rest) ⟨width front, stop⟩ = some part) : part <+: rest := by
  simp only [sliceChars?, sliceChars?.skip_append] at h
  split at h
  · cases h
  · obtain ⟨taken, rfl, hprefix⟩ := sliceChars?.take_prefix h
    exact hprefix

theorem sliceChars?_append (front part rest : List Char) :
    sliceChars? (front ++ (part ++ rest)) ⟨width front, width (front ++ part)⟩ = some part := by
  have hle : ¬ width (front ++ part) < width front := by
    rw [width_append]
    omega
  have hpart : width (front ++ part) - width front = width part := by
    rw [width_append]
    omega
  simp only [sliceChars?, sliceChars?.skip_append, if_neg hle, hpart, sliceChars?.take_append]
  rfl

theorem sliceChars?_take {cs : List Char} {i j : Nat} (hij : i ≤ j) :
    sliceChars? cs ⟨width (cs.take i), width (cs.take j)⟩ = some ((cs.take j).drop i) := by
  have hfront : cs.take i ++ (cs.take j).drop i = cs.take j := by
    rw [← Nat.min_eq_left hij, ← List.take_take, Nat.min_eq_left hij, List.take_append_drop]
  have hwhole := sliceChars?_append (cs.take i) ((cs.take j).drop i) (cs.drop j)
  rwa [← List.append_assoc, hfront, List.take_append_drop] at hwhole

theorem Subject.sliceChars?_byteSpan {cs : List Char} {i j : Nat} (hij : i ≤ j)
    (hj : j ≤ cs.length) :
    sliceChars? cs ((ofChars cs).byteSpan (i, j)) = some ((ofChars cs).slice i j).toList := by
  rw [byteSpan, byteAt_ofChars (Nat.le_trans hij hj), byteAt_ofChars hj, slice_ofChars]
  exact sliceChars?_take hij

end RegexInsight
