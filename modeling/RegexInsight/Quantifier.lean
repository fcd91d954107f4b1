import RegexInsight.Cursor
import RegexInsight.Letters

/-! Reading a quantifier: `*`, `+`, `?` or bounds in braces, then an optional `?` that makes it
lazy. -/
namespace RegexInsight

/-- Bounds are kept below two to the thirty-second; larger numbers count as this one. -/
def maxBound : Nat := 0xFFFFFFFF

def boundValue (digits : List Char) : Nat :=
  digits.foldl (fun n d => Nat.min (n * 10 + (d.toNat - 0x30)) maxBound) 0

namespace Cursor

def number? (c : Cursor) : Option (Nat × Cursor) :=
  let (digits, after) := c.spanWhile Char.isDigit
  if digits.isEmpty then none else some (boundValue digits, after)

/-- Reads the upper bound after the lower bound `min`: a comma and a number, a comma alone for no
upper bound, or nothing for the lower bound again. -/
def upperBound (min : Nat) (c : Cursor) : Option Nat × Cursor :=
  match c.eat? ',' with
  | none => (some min, c)
  | some afterComma => match afterComma.number? with
    | some (max, after) => (some max, after)
    | none => (none, afterComma)

def braces? (c : Cursor) : Option ((Nat × Option Nat) × Cursor) :=
  match c.eat? '\x7b' with
  | none => none
  | some inside => match inside.number? with
    | none => none
    | some (min, afterMin) => match (afterMin.upperBound min).2.eat? '\x7d' with
      | none => none
      | some after => some ((min, (afterMin.upperBound min).1), after)

def atQuantifier (c : Cursor) : Bool :=
  match c.peek? with
  | some '*' | some '+' | some '?' => true
  | some '\x7b' => c.braces?.isSome
  | _ => false

/-- Reads the bounds of a quantifier, if one starts here. Outside unicode mode a brace that opens no
bounds is no quantifier. -/
def bounds (unicode : Bool) (c : Cursor) :
    Except ParseError (Option ((Nat × Option Nat) × Cursor)) :=
  match c.peek? with
  | some '*' => .ok (some ((0, none), c.next))
  | some '+' => .ok (some ((1, none), c.next))
  | some '?' => .ok (some ((0, some 1), c.next))
  | some '\x7b' => match c.braces? with
    | some ((min, max), after) =>
      if max.any (· < min) then .error ⟨.boundsOutOfOrder, c.offset⟩
      else .ok (some ((min, max), after))
    | none => if unicode then .error ⟨.incompleteQuantifier, c.offset⟩ else .ok none
  | _ => .ok none

theorem number?_length_le {c after : Cursor} {n : Nat} (h : c.number? = some (n, after)) :
    after.rest.length ≤ c.rest.length := by
  have := spanWhile_length_le Char.isDigit c
  unfold number? at h
  dsimp only at h
  split at h <;> cases h
  assumption

theorem upperBound_length_le (min : Nat) (c : Cursor) :
    (c.upperBound min).2.rest.length ≤ c.rest.length := by
  unfold upperBound
  split
  · exact Nat.le_refl _
  · rename_i hc
    have := eat?_length_lt hc
    split
    · rename_i hn
      have := number?_length_le hn
      dsimp only
      omega
    · dsimp only
      omega

theorem braces?_length_lt {c after : Cursor} {b : Nat × Option Nat}
    (h : c.braces? = some (b, after)) : after.rest.length < c.rest.length := by
  unfold braces? at h
  split at h
  · cases h
  · rename_i inside hi
    have := eat?_length_lt hi
    split at h
    · cases h
    · rename_i min afterMin hm
      have := number?_length_le hm
      have := afterMin.upperBound_length_le min
      split at h
      · cases h
      · rename_i ha
        have := eat?_length_lt ha
        cases h
        omega

theorem bounds_length_lt {unicode : Bool} {c after : Cursor} {b : Nat × Option Nat}
    (h : c.bounds unicode = .ok (some (b, after))) : after.rest.length < c.rest.length := by
  unfold bounds at h
  split at h
  iterate 3 · cases h; exact next_length_lt ‹_›
  · split at h
    · rename_i hb
      have := braces?_length_lt hb
      split at h <;> cases h
      assumption
    · split at h <;> cases h
  · cases h

end Cursor

/-- Anchors and lookbehinds are never repeated; lookaheads only outside unicode mode. -/
def Element.isQuantifiable (unicode : Bool) : Element → Bool
  | .anchor .. => false
  | .look _ direction _ _ => !unicode && direction == .ahead
  | _ => true

def Element.withQuantifier (unicode : Bool) (atom : Element) (c : Cursor) :
    Except ParseError (Element × Cursor) :=
  match c.bounds unicode with
  | .error e => .error e
  | .ok none => .ok (atom, c)
  | .ok (some ((min, max), afterBounds)) =>
    if !atom.isQuantifiable unicode then .error ⟨.nothingToRepeat, c.offset⟩
    else
      let lazy := afterBounds.eat? '?'
      let after := lazy.getD afterBounds
      if after.atQuantifier then .error ⟨.nothingToRepeat, after.offset⟩
      else .ok (.quantifier ⟨atom.span.start, after.byte⟩ min max lazy.isNone atom, after)

theorem Element.withQuantifier_length_le {unicode : Bool} {atom e : Element} {c after : Cursor}
    (h : atom.withQuantifier unicode c = .ok (e, after)) : after.rest.length ≤ c.rest.length := by
  unfold Element.withQuantifier at h
  split at h
  · cases h
  · cases h; exact Nat.le_refl _
  · rename_i afterBounds hb
    have := Cursor.bounds_length_lt hb
    dsimp only at h
    split at h
    · cases h
    · split at h
      · cases h
      · cases h
        cases hl : afterBounds.eat? '?' with
        | none => simp only [Option.getD_none]; omega
        | some after =>
          have := Cursor.eat?_length_lt hl
          simp only [Option.getD_some]
          omega

end RegexInsight
