import RegexInsight.Tree

/-! A reading position: the text still to be read, and how much came before it in characters and in
bytes. And what can be found wrong there. -/
namespace RegexInsight

structure Cursor where
  rest : List Char
  offset : Nat
  byte : Nat
deriving Inhabited

namespace Cursor

def ofText (cs : List Char) : Cursor := ⟨cs, 0, 0⟩

def peek? (c : Cursor) : Option Char := c.rest.head?

def next (c : Cursor) : Cursor :=
  match c.rest with
  | [] => c
  | x :: rest => ⟨rest, c.offset + 1, c.byte + x.utf8Size⟩

def eat? (c : Cursor) (x : Char) : Option Cursor :=
  if c.peek? = some x then some c.next else none

def spanWhile (p : Char → Bool) (c : Cursor) : List Char × Cursor :=
  let taken := c.rest.takeWhile p
  (taken, ⟨c.rest.dropWhile p, c.offset + taken.length, c.byte + width taken⟩)

theorem next_length_le (c : Cursor) : c.next.rest.length ≤ c.rest.length := by
  unfold next; split <;> simp_all

theorem next_length_lt {c : Cursor} {x : Char} (h : c.peek? = some x) :
    c.next.rest.length < c.rest.length := by
  unfold peek? at h; unfold next; split <;> simp_all

theorem eat?_length_lt {c after : Cursor} {x : Char} (h : c.eat? x = some after) :
    after.rest.length < c.rest.length := by
  unfold eat? at h
  split at h
  · cases h; exact next_length_lt ‹_›
  · cases h

theorem spanWhile_length_le (p : Char → Bool) (c : Cursor) :
    (c.spanWhile p).2.rest.length ≤ c.rest.length := by
  simpa [spanWhile] using (List.dropWhile_suffix p).length_le

end Cursor

inductive ParseFault where
  | unmatchedParen
  | nothingToRepeat
  | boundsOutOfOrder
  | incompleteQuantifier
  | loneBracket
  | invalidGroup
  | duplicateName
  | unterminatedGroup
  | invalidGroupName
  | trailingBackslash
  | invalidEscape
  | invalidNamedReference
  | unknownName
  | invalidProperty
  | invalidControlEscape
  | invalidUnicodeEscape
  | unterminatedClass
  | rangeOutOfOrder
  | invalidClass
deriving DecidableEq, Repr, Inhabited

def ParseFault.message : ParseFault → String
  | unmatchedParen => "Unmatched ')'"
  | nothingToRepeat => "Nothing to repeat"
  | boundsOutOfOrder => "numbers out of order in \x7b\x7d quantifier"
  | incompleteQuantifier => "Incomplete quantifier"
  | loneBracket => "Lone quantifier brackets"
  | invalidGroup => "Invalid group"
  | duplicateName => "Duplicate capture group name"
  | unterminatedGroup => "Unterminated group"
  | invalidGroupName => "Invalid capture group name"
  | trailingBackslash => "\\ at end of pattern"
  | invalidEscape => "Invalid escape"
  | invalidNamedReference => "Invalid named reference"
  | unknownName => "Invalid named capture referenced"
  | invalidProperty => "Invalid property name"
  | invalidControlEscape => "Invalid unicode escape"
  | invalidUnicodeEscape => "Invalid Unicode escape"
  | unterminatedClass => "Unterminated character class"
  | rangeOutOfOrder => "Range out of order in character class"
  | invalidClass => "Invalid character class"

/-- A fault and the number of characters before the place it is reported at. -/
structure ParseError where
  fault : ParseFault
  offset : Nat
deriving DecidableEq, Repr, Inhabited

end RegexInsight
