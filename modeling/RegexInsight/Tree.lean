/-! Patterns: places in their source texts, their switches, and their trees. Every node of a tree
carries the span of the text it was read from. -/
namespace RegexInsight

/-- The bytes from `start` up to `stop`, which is excluded. -/
structure Span where
  start : Nat
  stop : Nat
deriving DecidableEq, Repr, Inhabited

/-- The bytes that a text takes. -/
def width (cs : List Char) : Nat := cs.foldl (fun n c => n + c.utf8Size) 0

/-- The characters of `cs` from byte `span.start` to byte `span.stop`, if both ends stand between
two characters and in this order. -/
def sliceChars? (cs : List Char) (span : Span) : Option (List Char) :=
  match skip cs span.start with
  | none => none
  | some rest => if span.stop < span.start then none else take rest [] (span.stop - span.start)
where
  skip : List Char → Nat → Option (List Char)
    | cs, 0 => some cs
    | [], _ + 1 => none
    | c :: cs, n => if c.utf8Size ≤ n then skip cs (n - c.utf8Size) else none
  take : List Char → List Char → Nat → Option (List Char)
    | _, out, 0 => some out.reverse
    | [], _, _ + 1 => none
    | c :: cs, out, n => if c.utf8Size ≤ n then take cs (c :: out) (n - c.utf8Size) else none

structure Flags where
  global : Bool
  ignoreCase : Bool
  multiline : Bool
  dotAll : Bool
  unicode : Bool
  sticky : Bool
deriving DecidableEq, Repr, Inhabited

namespace Flags

def allOff : Flags := ⟨false, false, false, false, false, false⟩

/-- Sets the switch of a letter, unless the letter is unknown or its switch is set already. -/
def switch? (f : Flags) : Char → Option Flags
  | 'g' => if f.global then none else some { f with global := true }
  | 'i' => if f.ignoreCase then none else some { f with ignoreCase := true }
  | 'm' => if f.multiline then none else some { f with multiline := true }
  | 's' => if f.dotAll then none else some { f with dotAll := true }
  | 'u' => if f.unicode then none else some { f with unicode := true }
  | 'y' => if f.sticky then none else some { f with sticky := true }
  | _ => none

def ofText? (text : String) : Option Flags := text.toList.foldlM switch? allOff

def entries (f : Flags) : List (Char × Bool) :=
  [('g', f.global), ('i', f.ignoreCase), ('m', f.multiline), ('s', f.dotAll), ('u', f.unicode),
    ('y', f.sticky)]

def text (f : Flags) : String :=
  String.ofList ((f.entries.filter (·.2)).map (·.1))

def withoutGlobal (f : Flags) : Flags := { f with global := false }

end Flags

def invalidFlagsMessage (text : String) : String :=
  s!"Invalid flags supplied to RegExp constructor '{text}'"

inductive SetKind where
  | dot
  | digit
  | word
  | space
  | property (name : String) (value : Option String)
deriving DecidableEq, Repr, Inhabited

structure CharSet where
  kind : SetKind
  negate : Bool
deriving DecidableEq, Repr, Inhabited

def CharSet.isDot (s : CharSet) : Bool := s.kind == .dot

inductive MemberKind where
  | char (value : Char)
  | range (min max : Char)
  | set (set : CharSet)
deriving DecidableEq, Repr, Inhabited

structure ClassMember where
  span : Span
  kind : MemberKind
deriving DecidableEq, Repr, Inhabited

/-- The number of a capture group, counted from 1 by opening brackets, and its name. -/
structure Capture where
  index : Nat
  name : Option String
deriving DecidableEq, Repr, Inhabited

inductive Anchor where
  | start
  | stop
  | wordBoundary
  | nonWordBoundary
deriving DecidableEq, Repr, Inhabited

inductive Direction where
  | ahead
  | behind
deriving DecidableEq, Repr, Inhabited

inductive Reference where
  | index (n : Nat)
  | name (name : String)
deriving DecidableEq, Repr, Inhabited

mutual

/-- One item of a branch. A quantifier has no upper bound when `max` is `none`. -/
inductive Element where
  | char (span : Span) (value : Char)
  | set (span : Span) (set : CharSet)
  | bracket (span : Span) (negate : Bool) (members : List ClassMember)
  | group (span : Span) (capture : Option Capture) (branches : List Branch)
  | quantifier (span : Span) (min : Nat) (max : Option Nat) (greedy : Bool) (inner : Element)
  | anchor (span : Span) (anchor : Anchor)
  | look (span : Span) (direction : Direction) (negate : Bool) (branches : List Branch)
  | backreference (span : Span) (target : Reference)

inductive Branch where
  | mk (span : Span) (elements : List Element)

end

structure Pattern where
  span : Span
  branches : List Branch

namespace Branch

def span : Branch → Span
  | mk span _ => span

def elements : Branch → List Element
  | mk _ elements => elements

end Branch

namespace Element

def span : Element → Span
  | char span _ | set span _ | bracket span _ _ | group span _ _ | quantifier span _ _ _ _
  | anchor span _ | look span _ _ _ | backreference span _ => span

def asSet? : Element → Option CharSet
  | set _ s => some s
  | _ => none

def isQuantifier : Element → Bool
  | quantifier .. => true
  | _ => false

structure Repetition where
  span : Span
  min : Nat
  max : Option Nat
  greedy : Bool
  inner : Element

def repetition? : Element → Option Repetition
  | quantifier span min max greedy inner => some ⟨span, min, max, greedy, inner⟩
  | _ => none

def isStartAnchor : Element → Bool
  | anchor _ .start => true
  | _ => false

def isEndAnchor : Element → Bool
  | anchor _ .stop => true
  | _ => false

end Element

end RegexInsight
