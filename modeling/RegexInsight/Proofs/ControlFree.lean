import RegexInsight.Text
import RegexInsight.Proofs.CaseImages
import RegexInsight.Proofs.Printing

/-! Texts without control characters. Such texts stay such when they are put together, numerals are of this
kind, and a text in quotation marks is whatever it quotes. -/
namespace RegexInsight

theorem forall_control {P : Char → Prop}
    (h : ∀ n < 0xA0, isControl (Char.ofNat n) → P (Char.ofNat n)) : ∀ c, isControl c → P c := by
  intro c hc
  have hcode : c.toNat < 0xA0 := by
    simp [isControl] at hc
    omega
  have hfound := h c.toNat hcode
  rw [Char.ofNat_toNat] at hfound
  exact hfound hc

theorem forall_mem_ite {α : Type} {P : α → Prop} {c : Prop} [Decidable c] {xs ys : List α}
    (h : ∀ x ∈ xs, P x) (hother : ∀ y ∈ ys, P y) : ∀ x ∈ if c then xs else ys, P x := by
  by_cases hc : c
  · simpa [hc] using h
  · simpa [hc] using hother

theorem no_control_of_all {cs : List Char} (h : (cs.all fun c => !isControl c) = true) :
    ∀ c ∈ cs, isControl c = false := by
  simpa using h

def ControlFree (s : String) : Prop := ∀ c ∈ s.toList, isControl c = false

section
variable {s t : String} {cs : List Char} {n : Nat}

@[simp] theorem controlFree_ofList :
    ControlFree (String.ofList cs) ↔ ∀ c ∈ cs, isControl c = false := by
  simp [ControlFree]

@[simp] theorem controlFree_append : ControlFree (s ++ t) ↔ ControlFree s ∧ ControlFree t := by
  simp [ControlFree, or_imp, forall_and]

namespace ControlFree

theorem of_all (h : (cs.all fun c => !isControl c) = true) : ControlFree (String.ofList cs) :=
  controlFree_ofList.mpr (no_control_of_all h)

theorem empty : ControlFree "" := of_all rfl

theorem count_eq_zero (hs : ControlFree s) {c : Char} (hc : isControl c) : s.toList.count c = 0 := by
  refine List.count_eq_zero.mpr fun hmem => ?_
  simp [hs c hmem] at hc

theorem append (hs : ControlFree s) (ht : ControlFree t) : ControlFree (s ++ t) :=
  controlFree_append.mpr ⟨hs, ht⟩

theorem between {ds : List Char} (hcs : (cs.all fun c => !isControl c) = true) (ht : ControlFree t)
    (hds : (ds.all fun c => !isControl c) = true) :
    ControlFree (String.ofList cs ++ t ++ String.ofList ds) :=
  ((of_all hcs).append ht).append (of_all hds)

theorem replicate (n : Nat) {c : Char} (hc : isControl c = false) :
    ControlFree (String.ofList (List.replicate n c)) := by
  rw [controlFree_ofList]
  intro x hx
  rwa [List.eq_of_mem_replicate hx]

theorem digits (b n : Nat) (hb : 1 < b) (hle : b ≤ 16) :
    ∀ c ∈ Nat.toDigits b n, isControl c = false := by
  have hdigit : ∀ k < 16, isControl k.digitChar = false := by decide
  exact forall_mem_toDigits hb (fun k hk => hdigit k (by omega)) n

theorem nat (n : Nat) : ControlFree (toString n) :=
  controlFree_ofList.mpr (digits 10 n (by omega) (by omega))

theorem intercalate (hs : ControlFree s) {parts : List String} (h : ∀ t ∈ parts, ControlFree t) :
    ControlFree (s.intercalate parts) := by
  induction parts with
  | nil => exact empty
  | cons first rest ih =>
    obtain ⟨hfirst, hrest⟩ := List.forall_mem_cons.mp h
    cases rest with
    | nil => simpa using hfirst
    | cons second rest =>
      rw [String.intercalate_cons_cons]
      exact (hfirst.append hs).append (ih hrest)

theorem hexNumeral (places n : Nat) : ∀ c ∈ hexNumeral places n, isControl c = false := by
  intro c hc
  rcases List.mem_append.mp hc with hc | hc
  · exact controlFree_ofList.mp (replicate _ rfl) c hc
  · exact digits 16 n (by omega) (by omega) c hc

theorem toLower (hs : ControlFree s) : ControlFree (s.map Char.toLower) := by
  intro c hc
  rw [String.toList_map] at hc
  obtain ⟨x, hx, rfl⟩ := List.mem_map.mp hc
  by_cases hupper : 0x41 ≤ x.toNat ∧ x.toNat ≤ 0x5A
  · simp [isControl, toNat_toLower, hupper]
    omega
  · have hfree := hs x hx
    rwa [isControl, toNat_toLower, if_neg hupper]

end ControlFree

namespace Quoted

theorem isHidden_of_isControl {c : Char} (hc : isControl c) : isHidden c := by
  unfold isHidden
  by_cases hcode : c.toNat < 0x7F
  · simp [isControl] at hc
    simp [hcode]
    omega
  · simp [hcode, hc]

theorem encodeChar_no_control (c : Char) : ∀ x ∈ encodeChar c, isControl x = false := by
  unfold encodeChar
  iterate 6
    split
    · exact no_control_of_all rfl
  split
  · simp only [List.forall_mem_append]
    exact ⟨⟨no_control_of_all rfl, ControlFree.hexNumeral 1 c.toNat⟩, no_control_of_all rfl⟩
  · rename_i hshown
    have hfree : isControl c = false := by
      by_contra hc
      exact hshown (isHidden_of_isControl (by simpa using hc))
    simpa using hfree

end Quoted

theorem controlFree_quoted (s : String) : ControlFree (quoted s) := by
  have hencoded : ∀ x ∈ s.toList.flatMap Quoted.encodeChar, isControl x = false := by
    intro x hx
    obtain ⟨c, -, hc⟩ := List.mem_flatMap.mp hx
    exact Quoted.encodeChar_no_control c x hc
  have hmark : isControl '"' = false := rfl
  simp only [quoted, Quoted.encode, controlFree_ofList, List.mem_append, List.mem_cons,
    List.not_mem_nil, or_false]
  rintro x ((rfl | hx) | rfl)
  · exact hmark
  · exact hencoded x hx
  · exact hmark

end

end RegexInsight
