/-! Numbers from zero up to `2 ^ 52` with 53 significant bits, each operation rounded to the nearest of
them and a tie to the even one. -/
namespace RegexInsight

/-- The number `mantissa / 2 ^ scale`. -/
structure Binary64 where
  mantissa : Nat
  scale : Nat
deriving DecidableEq, Repr, Inhabited

namespace Binary64

def unit (v : Binary64) : Nat := Nat.pow 2 v.scale

/-- The nearest whole number to `num / den`, the even one of two that are equally near. -/
def roundRatio (num den : Nat) : Nat :=
  let low := num / den
  let twice := 2 * (num % den)
  if den < twice || (twice = den && low % 2 = 1) then low + 1 else low

/-- The number nearest to `num / den`, which is below `2 ^ 52`. -/
def ofRatio (num den : Nat) : Binary64 :=
  if num = 0 then ⟨0, 0⟩
  else
    let guess := 53 + Nat.log2 den - Nat.log2 num
    let scale := if num * Nat.pow 2 guess < Nat.pow 2 53 * den then guess else guess - 1
    ⟨roundRatio (num * Nat.pow 2 scale) den, scale⟩

def add (a b : Binary64) : Binary64 :=
  ofRatio (a.mantissa * b.unit + b.mantissa * a.unit) (a.unit * b.unit)

/-- The difference, or zero where it would be negative. -/
def sub (a b : Binary64) : Binary64 :=
  ofRatio (a.mantissa * b.unit - b.mantissa * a.unit) (a.unit * b.unit)

def mul (a b : Binary64) : Binary64 :=
  ofRatio (a.mantissa * b.mantissa) (a.unit * b.unit)

def less (a b : Binary64) : Bool := a.mantissa * b.unit < b.mantissa * a.unit

def min (a b : Binary64) : Binary64 := if less b a then b else a

def isNearest (v : Binary64) (num den : Nat) : Bool :=
  let w := ofRatio num den
  !less v w && !less w v

/-- The nearest whole number, a half going up. -/
def nearest (v : Binary64) : Nat := (2 * v.mantissa + v.unit) / (2 * v.unit)

/-- The value in units of `10 ^ -places`, a half going to the even unit. -/
def fixed (v : Binary64) (places : Nat) : Nat :=
  roundRatio (v.mantissa * Nat.pow 10 places) v.unit

def shortestFrom (v : Binary64) : Nat → Nat → Nat × Nat
  | 0, places => (v.fixed places, places)
  | fuel + 1, places =>
    let digits := v.fixed places
    let one := Nat.pow 10 places
    let low := v.mantissa * one / v.unit
    if v.isNearest digits one then (digits, places)
    else if v.isNearest low one then (low, places)
    else if v.isNearest (low + 1) one then (low + 1, places)
    else shortestFrom v fuel (places + 1)

/-- The digits and the number of places of the shortest decimal that reads back, with at least one
place. -/
def shortest (v : Binary64) : Nat × Nat := shortestFrom v 60 1

def numeral (digits places : Nat) : String :=
  let one := Nat.pow 10 places
  let tail := toString (digits % one)
  let zeros := String.ofList (List.replicate (places - tail.length) '0')
  toString (digits / one) ++ "." ++ zeros ++ tail

end Binary64
end RegexInsight
