import RegexInsight.Machine

/-! Compiled patterns, texts prepared for matching, and the matches in a text one after the other. A
pattern is accepted exactly if a program can be made of it. -/
namespace RegexInsight

inductive BuildError where
  | parse (error : ParseError)
  | unknownProperty (offset : Nat)
  | unknownName (offset : Nat)
  | tooLarge
deriving DecidableEq, Repr, Inhabited

namespace BuildError

def message : BuildError → String
  | parse e => e.fault.message
  | unknownProperty _ => ParseFault.invalidProperty.message
  | unknownName _ => ParseFault.unknownName.message
  | tooLarge => "Regular expression too large"

def offset? : BuildError → Option Nat
  | parse e => some e.offset
  | unknownProperty offset | unknownName offset => some offset
  | tooLarge => none

end BuildError

def stepLimitMessage : String := "Match step limit exceeded"

def charsWithin : List Char → Nat → Nat
  | [], _ => 0
  | c :: cs, byte => if c.utf8Size ≤ byte then charsWithin cs (byte - c.utf8Size) + 1 else 0

/-- A text as characters, with the byte and the line at which each of them starts. Both tables have
a last entry for the end of the text. -/
structure Subject where
  chars : Array Char
  bytes : Array Nat
  lines : Array Nat

namespace Subject

def ofChars (cs : List Char) : Subject :=
  let (bytes, byte) := cs.foldl
    (fun (bytes, byte) c => (bytes.push byte, byte + c.utf8Size)) (#[], 0)
  let (lines, line) := cs.foldl
    (fun (lines, line) c => (lines.push line, if c == '\n' then line + 1 else line)) (#[], 1)
  ⟨cs.toArray, bytes.push byte, lines.push line⟩

def ofString (s : String) : Subject := ofChars s.toList

def size (s : Subject) : Nat := s.chars.size

def byteAt (s : Subject) (i : Nat) : Nat := s.bytes[i]?.getD 0

def lineAt (s : Subject) (i : Nat) : Nat := s.lines[i]?.getD 1

def charAtByte? (s : Subject) (byte : Nat) : Option Nat :=
  s.bytes.idxOf? byte

def slice (s : Subject) (start stop : Nat) : String :=
  String.ofList (s.chars.extract start stop).toList

end Subject

structure Regex where
  source : String
  flags : Flags
  names : List (Option String)
  program : Program
  stepLimit : Nat

/-- The spans of the groups of a match in characters, group 0 being the whole match. -/
abbrev Captures := List (Option (Nat × Nat))

def Captures.ofSlots : List (Option Nat) → Captures
  | some start :: some stop :: rest =>
    (if start ≤ stop then some (start, stop) else none) :: ofSlots rest
  | _ :: _ :: rest => none :: ofSlots rest
  | _ => []

namespace Captures

def group? (captures : Captures) (i : Nat) : Option (Nat × Nat) := captures[i]?.join

def whole (captures : Captures) : Nat × Nat := (captures.group? 0).getD (0, 0)

end Captures

namespace Regex

def defaultStepLimit : Nat := 1000000

def ofTree (source : String) (flags : Flags) (tree : PatternTree) : Except BuildError Regex :=
  match compile flags.multiline tree with
  | .error (.unknownProperty byte) => .error (.unknownProperty (charsWithin source.toList byte))
  | .error (.unknownName byte) => .error (.unknownName (charsWithin source.toList byte))
  | .error .tooLarge => .error .tooLarge
  | .ok program => .ok ⟨source, flags, tree.names, program, defaultStepLimit⟩

def build (source : String) (flags : Flags) : Except BuildError Regex :=
  match parse flags.unicode source.toList with
  | .error e => .error (.parse e)
  | .ok tree => ofTree source flags tree

def groupCount (r : Regex) : Nat := r.program.groupCount

def mode (r : Regex) : Mode := ⟨r.flags.ignoreCase, r.flags.multiline, r.flags.dotAll⟩

def capturesFrom (r : Regex) (s : Subject) (start : Nat) : Except RunError (Option Captures) :=
  match (⟨r.program, r.mode, s.chars, r.stepLimit⟩ : Machine).search start r.flags.sticky with
  | .error e => .error e
  | .ok none => .ok none
  | .ok (some slots) => .ok (some (Captures.ofSlots slots.toList))

/-- The first match that starts at or after byte `start`; none if no character starts there. -/
def capturesAt (r : Regex) (s : Subject) (start : Nat) : Except RunError (Option Captures) :=
  match s.charAtByte? start with
  | none => .ok none
  | some i => r.capturesFrom s i

def isMatch (r : Regex) (s : Subject) : Except RunError Bool :=
  match r.capturesFrom s 0 with
  | .error e => .error e
  | .ok found => .ok found.isSome

end Regex

/-- A group of a match. The value is empty if the group took no part. -/
structure GroupRecord where
  index : Nat
  name : Option String
  value : String
  span : Option Span
deriving DecidableEq, Repr, Inhabited

structure MatchRecord where
  span : Span
  text : String
  line : Nat
  groups : List GroupRecord
deriving DecidableEq, Repr, Inhabited

structure MatchList where
  found : List MatchRecord
  truncated : Bool
deriving DecidableEq, Repr, Inhabited

namespace Subject

def byteSpan (s : Subject) (span : Nat × Nat) : Span := ⟨s.byteAt span.1, s.byteAt span.2⟩

end Subject

namespace Regex

def groupRecord (r : Regex) (s : Subject) (captures : Captures) (i : Nat) : GroupRecord :=
  let span := captures.group? (i + 1)
  ⟨i + 1, r.names[i]?.join, (span.map fun (a, b) => s.slice a b).getD "", span.map s.byteSpan⟩

def record (r : Regex) (s : Subject) (captures : Captures) : MatchRecord :=
  let (start, stop) := captures.whole
  ⟨s.byteSpan (start, stop), s.slice start stop, s.lineAt start,
    (List.range r.groupCount).map (r.groupRecord s captures)⟩

/-- Collects up to `count` further matches from character `start` on. The next search starts behind
a match, and one character further behind an empty match. `found` holds the earlier matches, last
first. -/
def collectFrom (r : Regex) (s : Subject) (found : List MatchRecord) :
    Nat → Nat → Except RunError MatchList
  | 0, _ => .ok ⟨found.reverse, true⟩
  | count + 1, start =>
    match r.capturesFrom s start with
    | .error e => .error e
    | .ok none => .ok ⟨found.reverse, false⟩
    | .ok (some captures) =>
      let found := r.record s captures :: found
      let (first, stop) := captures.whole
      if !r.flags.global then .ok ⟨found.reverse, false⟩
      else if first < stop then collectFrom r s found count stop
      else if stop < s.size then collectFrom r s found count (stop + 1)
      else .ok ⟨found.reverse, false⟩

def collect (r : Regex) (s : Subject) (limit : Nat) : Except RunError MatchList :=
  r.collectFrom s [] limit 0

end Regex

inductive PatternError where
  | flags (text : String)
  | build (source : String) (flags : Flags) (error : BuildError)
deriving DecidableEq, Repr, Inhabited

namespace PatternError

def message : PatternError → String
  | flags text => invalidFlagsMessage text
  | build source switches error =>
    s!"Invalid regular expression: /{source}/" ++ switches.text ++ ": " ++ error.message

def offset? : PatternError → Option Nat
  | flags _ => none
  | build _ _ error => error.offset?

def column? (e : PatternError) : Option Nat := e.offset?.map (· + 1)

end PatternError

structure ParsedPattern where
  source : String
  flags : Flags
  tree : PatternTree

namespace ParsedPattern

def pattern (p : ParsedPattern) : Pattern := p.tree.pattern

def raw (p : ParsedPattern) (span : Span) : List Char :=
  (sliceChars? p.source.toList span).getD []

/-- The program of the pattern under other flags, as long as they agree on unicode mode. -/
def regex (p : ParsedPattern) (flags : Flags) : Except BuildError Regex :=
  Regex.ofTree p.source flags p.tree

end ParsedPattern

def parsePattern (source flagText : String) : Except PatternError ParsedPattern :=
  match Flags.ofText? flagText with
  | none => .error (.flags flagText)
  | some flags =>
    match parse flags.unicode source.toList with
    | .error e => .error (.build source flags (.parse e))
    | .ok tree =>
      match Regex.ofTree source flags tree with
      | .error e => .error (.build source flags e)
      | .ok _ => .ok ⟨source, flags, tree⟩

end RegexInsight
