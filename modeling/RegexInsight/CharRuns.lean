/-! Sets and maps of characters as sorted runs of code points. A run is found by bisection. -/
namespace RegexInsight

structure CharRange where
  low : Nat
  high : Nat

structure CharRun where
  low : Nat
  high : Nat
  step : Nat

/-- Every `step`-th code point from `low` to `high`, sent to the code point at the same distance
from `image`. -/
structure CaseRun where
  low : Nat
  high : Nat
  step : Nat
  image : Nat

def bisect {α : Type} (bounds : α → Nat × Nat) (table : Array α) (code : Nat) :
    Nat → Nat → Nat → Option α
  | 0, _, _ => none
  | fuel + 1, lo, hi =>
    if lo < hi then
      let mid := (lo + hi) / 2
      match table[mid]? with
      | none => none
      | some entry =>
        if code < (bounds entry).1 then bisect bounds table code fuel lo mid
        else if (bounds entry).2 < code then bisect bounds table code fuel (mid + 1) hi
        else some entry
    else none

/-- The entry whose bounds hold `code`. The search interval shrinks at every step, so the size of
the table bounds their number. -/
def findEntry {α : Type} (bounds : α → Nat × Nat) (table : Array α) (code : Nat) : Option α :=
  bisect bounds table code (table.size + 1) 0 table.size

def inRanges (table : Array CharRange) (c : Char) : Bool :=
  (findEntry (fun r => (r.low, r.high)) table c.toNat).isSome

def inRuns (table : Array CharRun) (c : Char) : Bool :=
  match findEntry (fun r => (r.low, r.high)) table c.toNat with
  | none => false
  | some r => (c.toNat - r.low) % r.step == 0

def caseImage (table : Array CaseRun) (c : Char) : Option Char :=
  match findEntry (fun r => (r.low, r.high)) table c.toNat with
  | none => none
  | some r =>
    if (c.toNat - r.low) % r.step == 0 then some (Char.ofNat (r.image + (c.toNat - r.low)))
    else none

end RegexInsight
