import RegexInsight.Letters
import RegexInsight.PrintTable

/-! Searching and replacing in texts that are lists of characters, numerals, and texts in quotation
marks, with everything escaped that would not show as itself. -/
namespace RegexInsight

def holdsText (part : List Char) : List Char → Bool
  | [] => part.isEmpty
  | c :: cs => part.isPrefixOf (c :: cs) || holdsText part cs

def afterText? (part : List Char) : List Char → Option (List Char)
  | [] => if part.isEmpty then some [] else none
  | c :: cs =>
    if part.isPrefixOf (c :: cs) then some ((c :: cs).drop part.length) else afterText? part cs

/-- Replaces `old` by `new` from left to right. The first `skip` characters belong to a part that
was replaced; `out` is the text so far, last character first. -/
def replaceOnto (old new : List Char) (skip : Nat) (out : List Char) : List Char → List Char
  | [] => out
  | c :: cs =>
    match skip with
    | skip + 1 => replaceOnto old new skip out cs
    | 0 =>
      if old.isPrefixOf (c :: cs) then
        replaceOnto old new (old.length - 1) (new.reverse ++ out) cs
      else replaceOnto old new 0 (c :: out) cs

def replaceText (old new cs : List Char) : List Char := (replaceOnto old new 0 [] cs).reverse

/-- The parts of a text between the characters that satisfy `p`, always one more than these. `part`
and `parts` hold what was read, last first. -/
def splitOnto (p : Char → Bool) (part : List Char) (parts : List (List Char)) :
    List Char → List (List Char)
  | [] => (part.reverse :: parts).reverse
  | c :: cs =>
    if p c then splitOnto p [] (part.reverse :: parts) cs else splitOnto p (c :: part) parts cs

def splitText (p : Char → Bool) (cs : List Char) : List (List Char) := splitOnto p [] [] cs

def hexNumeral (places n : Nat) : List Char :=
  let digits := Nat.toDigits 16 n
  List.replicate (places - digits.length) '0' ++ digits

namespace Quoted

/-- Marks that would join the character before them. The halfwidth sound marks have the property
too, but they are letters, with a width of their own. -/
def isJoining (c : Char) : Bool :=
  inRanges graphemeExtendRanges c && c != '\uff9e' && c != '\uff9f'

/-- Controls, other invisible characters, fillers and further characters that are ignored when
shown, and marks that would join the character before them. -/
def isHidden (c : Char) : Bool :=
  if c.toNat < 0x7F then c.toNat < 0x20
  else isControl c || isJoining c || inRanges unprintableRanges c ||
    inRanges defaultIgnorableRanges c

def encodeChar (c : Char) : List Char :=
  if c == '\x00' then ['\\', '0']
  else if c == '\t' then ['\\', 't']
  else if c == '\r' then ['\\', 'r']
  else if c == '\n' then ['\\', 'n']
  else if c == '\\' then ['\\', '\\']
  else if c == '"' then ['\\', '"']
  else if isHidden c then ['\\', 'u', '\x7b'] ++ hexNumeral 1 c.toNat ++ ['\x7d']
  else [c]

def encode (cs : List Char) : List Char := '"' :: cs.flatMap encodeChar ++ ['"']

end Quoted

def quoted (s : String) : String := String.ofList (Quoted.encode s.toList)

end RegexInsight
