import RegexInsight.Bracket
import RegexInsight.Quantifier

/-! Reading a pattern. The capture groups are counted ahead, so that a reference may stand before its
group. Groups that are open are kept on a stack together with what stood before them, so one step reads
one term, one bar or one bracket, and the text that is left shrinks. -/
namespace RegexInsight

structure GroupCount where
  total : Nat
  named : Bool
deriving DecidableEq, Repr, Inhabited

namespace GroupCount

/-- What an opening bracket adds, given the text after it: `(?<` opens a named group unless it is a
lookbehind, and `(?` anything else captures nothing. -/
def opened (count : GroupCount) : List Char → GroupCount
  | '?' :: '<' :: '=' :: _ | '?' :: '<' :: '!' :: _ => count
  | '?' :: '<' :: _ => ⟨count.total + 1, true⟩
  | '?' :: _ => count
  | _ => ⟨count.total + 1, count.named⟩

/-- Counts on through a text. Escaped characters are passed over, and a bracket class holds no
groups. -/
def scan (inClass : Bool) (count : GroupCount) : List Char → GroupCount
  | [] => count
  | '\\' :: [] => count
  | '\\' :: _ :: rest => scan inClass count rest
  | '[' :: rest => scan true count rest
  | ']' :: rest => scan false count rest
  | '(' :: rest => scan inClass (if inClass then count else count.opened rest) rest
  | _ :: rest => scan inClass count rest

def ofText (cs : List Char) : GroupCount := scan false ⟨0, false⟩ cs

end GroupCount

/-- A pattern and the names of its capture groups in the order of their numbers. -/
structure PatternTree where
  pattern : Pattern
  names : List (Option String)

inductive Shell where
  | group (capture : Option Capture)
  | look (direction : Direction) (negate : Bool)

def Shell.element (span : Span) (branches : List Branch) : Shell → Element
  | group capture => .group span capture branches
  | look direction negate => .look span direction negate branches

/-- A list of alternatives being read: the finished ones, the byte at which the last one starts, and
its elements. Both lists hold the newest entry first. -/
structure Level where
  branches : List Branch
  start : Nat
  elements : List Element

namespace Level

def empty (start : Nat) : Level := ⟨[], start, []⟩

def add (e : Element) (l : Level) : Level := { l with elements := e :: l.elements }

def close (stop : Nat) (l : Level) : List Branch :=
  .mk ⟨l.start, stop⟩ l.elements.reverse :: l.branches

end Level

structure OpenGroup where
  start : Nat
  shell : Shell
  outer : Level

structure Dialect where
  unicode : Bool
  groups : GroupCount

/-- The state between two steps. References are kept with their places, the newest first. -/
structure Reading where
  cursor : Cursor
  names : Array (Option String)
  references : List (String × Nat)
  level : Level
  groups : List OpenGroup

namespace Cursor

def escapeAtom (d : Dialect) (c : Cursor) : Except ParseError (Element × Cursor) :=
  let after := c.next
  match after.peek? with
  | none => .error ⟨.trailingBackslash, c.offset⟩
  | some x =>
    match shorthandSet? x with
    | some s => .ok (.set ⟨c.byte, after.next.byte⟩ s, after.next)
    | none =>
      if x == 'b' then .ok (.anchor ⟨c.byte, after.next.byte⟩ .wordBoundary, after.next)
      else if x == 'B' then .ok (.anchor ⟨c.byte, after.next.byte⟩ .nonWordBoundary, after.next)
      else if x == 'k' && (d.unicode || d.groups.named) then
        match after.next.eat? '<' with
        | none => .error ⟨.invalidNamedReference, c.offset⟩
        | some inside => match inside.groupName with
          | .error e => .error e
          | .ok (name, last) => .ok (.backreference ⟨c.byte, last.byte⟩ (.name name), last)
      else if d.unicode && (x == 'p' || x == 'P') then
        match after.next.property (x == 'P') c.offset with
        | .error e => .error e
        | .ok (s, last) => .ok (.set ⟨c.byte, last.byte⟩ s, last)
      else if '1' ≤ x && x ≤ '9' then
        match after.number? with
        | some (n, last) =>
          if n ≤ d.groups.total then .ok (.backreference ⟨c.byte, last.byte⟩ (.index n), last)
          else if d.unicode then .error ⟨.invalidEscape, c.offset⟩
          else .ok (.char ⟨c.byte, after.octal.2.byte⟩ after.octal.1, after.octal.2)
        | none => .error ⟨.invalidEscape, c.offset⟩
      else match after.escapedChar d.unicode c.offset false with
        | .error e => .error e
        | .ok (value, last) => .ok (.char ⟨c.byte, last.byte⟩ value, last)

/-- Reads the atom that starts with `x` and is no group. Outside unicode mode a brace or bracket
that opens or closes nothing stands for itself. -/
def atom (d : Dialect) (x : Char) (c : Cursor) : Except ParseError (Element × Cursor) :=
  let span : Span := ⟨c.byte, c.next.byte⟩
  match x with
  | '[' => c.bracket d.unicode
  | '\\' => c.escapeAtom d
  | '.' => .ok (.set span ⟨.dot, false⟩, c.next)
  | '^' => .ok (.anchor span .start, c.next)
  | '$' => .ok (.anchor span .stop, c.next)
  | '*' | '+' | '?' => .error ⟨.nothingToRepeat, c.offset⟩
  | '\x7b' =>
    if c.braces?.isSome then .error ⟨.nothingToRepeat, c.offset⟩
    else if d.unicode then .error ⟨.loneBracket, c.offset⟩
    else .ok (.char span x, c.next)
  | '\x7d' | ']' =>
    if d.unicode then .error ⟨.loneBracket, c.offset⟩ else .ok (.char span x, c.next)
  | _ => .ok (.char span x, c.next)

def opening (count : Nat) (c : Cursor) : Except ParseError (Shell × Cursor) :=
  match c.next.eat? '?' with
  | none => .ok (.group (some ⟨count + 1, none⟩), c.next)
  | some mark =>
    let kind := mark.next
    match mark.peek? with
    | some ':' => .ok (.group none, kind)
    | some '=' => .ok (.look .ahead false, kind)
    | some '!' => .ok (.look .ahead true, kind)
    | some '<' =>
      match kind.peek? with
      | some '=' => .ok (.look .behind false, kind.next)
      | some '!' => .ok (.look .behind true, kind.next)
      | _ => match kind.groupName with
        | .error e => .error e
        | .ok (name, after) => .ok (.group (some ⟨count + 1, some name⟩), after)
    | _ => .error ⟨.invalidGroup, c.offset⟩

inductive EscapeRead (d : Dialect) (c : Cursor) (x : Char) : Element → Cursor → Prop
  | shorthand {s : CharSet} (hs : shorthandSet? x = some s) :
    EscapeRead d c x (.set ⟨c.byte, c.next.next.byte⟩ s) c.next.next
  | wordBoundary (hx : x = 'b') :
    EscapeRead d c x (.anchor ⟨c.byte, c.next.next.byte⟩ .wordBoundary) c.next.next
  | nonWordBoundary (hx : x = 'B') :
    EscapeRead d c x (.anchor ⟨c.byte, c.next.next.byte⟩ .nonWordBoundary) c.next.next
  | name {inside after : Cursor} {name : String} (hx : x = 'k')
    (hk : d.unicode || d.groups.named) (hi : c.next.next.eat? '<' = some inside)
    (hn : inside.groupName = .ok (name, after)) :
    EscapeRead d c x (.backreference ⟨c.byte, after.byte⟩ (.name name)) after
  | property {s : CharSet} {after : Cursor} (hu : d.unicode) (hx : x = 'p' ∨ x = 'P')
    (hp : c.next.next.property (x == 'P') c.offset = .ok (s, after)) :
    EscapeRead d c x (.set ⟨c.byte, after.byte⟩ s) after
  | index {n : Nat} {after : Cursor} (hx : '1' ≤ x && x ≤ '9')
    (hn : c.next.number? = some (n, after)) (hle : n ≤ d.groups.total) :
    EscapeRead d c x (.backreference ⟨c.byte, after.byte⟩ (.index n)) after
  | octal (hx : '1' ≤ x && x ≤ '9') (hu : d.unicode = false) :
    EscapeRead d c x (.char ⟨c.byte, c.next.octal.2.byte⟩ c.next.octal.1) c.next.octal.2
  | char {value : Char} {after : Cursor}
    (he : c.next.escapedChar d.unicode c.offset false = .ok (value, after)) :
    EscapeRead d c x (.char ⟨c.byte, after.byte⟩ value) after

theorem escapeAtom_read {d : Dialect} {c after : Cursor} {e : Element}
    (h : c.escapeAtom d = .ok (e, after)) :
    ∃ x, c.next.peek? = some x ∧ EscapeRead d c x e after := by
  unfold escapeAtom at h
  dsimp only at h
  split at h
  · cases h
  · rename_i x hx
    refine ⟨x, hx, ?_⟩
    split at h
    · cases h
      exact .shorthand ‹_›
    split at h
    · cases h
      exact .wordBoundary (by simp_all)
    split at h
    · cases h
      exact .nonWordBoundary (by simp_all)
    split at h
    · rename_i hk
      simp only [Bool.and_eq_true, beq_iff_eq] at hk
      split at h
      · cases h
      · split at h <;> cases h
        exact .name hk.1 hk.2 ‹_› ‹_›
    split at h
    · rename_i hp
      simp only [Bool.and_eq_true, Bool.or_eq_true, beq_iff_eq] at hp
      split at h <;> cases h
      exact .property hp.1 hp.2 ‹_›
    split at h
    · rename_i hdigit
      split at h
      · split at h
        · cases h
          exact .index hdigit ‹_› ‹_›
        · split at h <;> cases h
          exact .octal hdigit (by simp_all)
      · cases h
    · split at h <;> cases h
      exact .char ‹_›

theorem escapeAtom_length_lt {d : Dialect} {c after : Cursor} {e : Element} {x : Char}
    (hx : c.peek? = some x) (h : c.escapeAtom d = .ok (e, after)) :
    after.rest.length < c.rest.length := by
  have := next_length_lt hx
  have := c.next.next_length_le
  obtain ⟨_, _, hread⟩ := escapeAtom_read h
  cases hread with
  | shorthand | wordBoundary | nonWordBoundary => omega
  | name _ _ hi hn =>
    have := eat?_length_lt hi
    have := groupName_length_le hn
    omega
  | property _ _ hp =>
    have := property_length_le hp
    omega
  | index _ hn _ =>
    have := number?_length_le hn
    omega
  | octal =>
    have := c.next.octal_length_le
    omega
  | char he =>
    have := escapedChar_length_le he
    omega

theorem bracket_length_lt {unicode : Bool} {c after : Cursor} {e : Element} {x : Char}
    (hx : c.peek? = some x) (h : c.bracket unicode = .ok (e, after)) :
    after.rest.length < c.rest.length := by
  have := next_length_lt hx
  unfold bracket at h
  dsimp only at h
  split at h
  · cases h
  · rename_i hm
    have := classMembers_length_le hm
    cases h
    cases he : c.next.eat? '^' with
    | none => simp_all; omega
    | some inside =>
      have := eat?_length_lt he
      simp_all
      omega

theorem atom_length_lt {d : Dialect} {c after : Cursor} {e : Element} {x : Char}
    (hx : c.peek? = some x) (h : c.atom d x = .ok (e, after)) :
    after.rest.length < c.rest.length := by
  have hn := next_length_lt hx
  unfold atom at h
  dsimp only at h
  split at h
  · exact bracket_length_lt hx h
  · exact escapeAtom_length_lt hx h
  all_goals
    repeat' split at h
    all_goals first
      | cases h; exact hn
      | cases h

theorem opening_length_lt {count : Nat} {c after : Cursor} {s : Shell} {x : Char}
    (hx : c.peek? = some x) (h : c.opening count = .ok (s, after)) :
    after.rest.length < c.rest.length := by
  have := next_length_lt hx
  unfold opening at h
  split at h
  · cases h; assumption
  · rename_i mark hm
    have := eat?_length_lt hm
    have := mark.next_length_le
    have := mark.next.next_length_le
    dsimp only at h
    split at h
    iterate 3 · cases h; omega
    · split at h
      iterate 2 · cases h; omega
      · split at h
        · cases h
        · rename_i hg
          have := groupName_length_le hg
          cases h
          omega
    · cases h

end Cursor

namespace Reading

def ofText (cs : List Char) : Reading := ⟨.ofText cs, #[], [], .empty 0, []⟩

def noteReference (offset : Nat) (e : Element) (r : Reading) : Reading :=
  match e with
  | .backreference _ (.name name) => { r with references := (name, offset) :: r.references }
  | _ => r

def addTerm (d : Dialect) (atom : Element) (c : Cursor) (outer : Level) (r : Reading) :
    Except ParseError Reading :=
  match atom.withQuantifier d.unicode c with
  | .error e => .error e
  | .ok (term, after) => .ok { r with cursor := after, level := outer.add term }

def openGroup (r : Reading) : Except ParseError Reading :=
  match r.cursor.opening r.names.size with
  | .error e => .error e
  | .ok (shell, inside) =>
    let opened : Reading :=
      { r with
        cursor := inside
        level := .empty inside.byte
        groups := ⟨r.cursor.byte, shell, r.level⟩ :: r.groups }
    match shell with
    | .group (some capture) =>
      if capture.name.isSome && r.names.contains capture.name then
        .error ⟨.duplicateName, r.cursor.offset⟩
      else .ok { opened with names := r.names.push capture.name }
    | _ => .ok opened

def closeGroup (d : Dialect) (r : Reading) : Except ParseError Reading :=
  match r.groups with
  | [] => .error ⟨.unmatchedParen, r.cursor.offset⟩
  | g :: groups =>
    let after := r.cursor.next
    let branches := (r.level.close r.cursor.byte).reverse
    addTerm d (g.shell.element ⟨g.start, after.byte⟩ branches) after g.outer
      { r with groups := groups }

def step (d : Dialect) (x : Char) (r : Reading) : Except ParseError Reading :=
  match x with
  | '|' =>
    .ok { r with
      cursor := r.cursor.next
      level := ⟨r.level.close r.cursor.byte, r.cursor.next.byte, []⟩ }
  | ')' => r.closeGroup d
  | '(' => r.openGroup
  | _ => match r.cursor.atom d x with
    | .error e => .error e
    | .ok (atom, after) => addTerm d atom after r.level (r.noteReference r.cursor.offset atom)

/-- The tree at the end of the text, where no group may be open and every name must be known. -/
def finish (r : Reading) : Except ParseError PatternTree :=
  match r.groups, r.references.reverse.find? (fun (name, _) => !r.names.contains (some name)) with
  | _ :: _, _ => .error ⟨.unterminatedGroup, r.cursor.offset⟩
  | [], some (_, offset) => .error ⟨.unknownName, offset⟩
  | [], none =>
    .ok ⟨⟨⟨0, r.cursor.byte⟩, (r.level.close r.cursor.byte).reverse⟩, r.names.toList⟩

theorem addTerm_length_le {d : Dialect} {atom : Element} {c : Cursor} {outer : Level}
    {r s : Reading} (h : addTerm d atom c outer r = .ok s) :
    s.cursor.rest.length ≤ c.rest.length := by
  unfold addTerm at h
  split at h
  · cases h
  · rename_i ht
    cases h
    exact Element.withQuantifier_length_le ht

theorem step_length_lt {d : Dialect} {x : Char} {r s : Reading}
    (hx : r.cursor.peek? = some x) (h : r.step d x = .ok s) :
    s.cursor.rest.length < r.cursor.rest.length := by
  have hn := Cursor.next_length_lt hx
  unfold step at h
  split at h
  · cases h; exact hn
  · unfold closeGroup at h
    split at h
    · cases h
    · exact Nat.lt_of_le_of_lt (addTerm_length_le h) hn
  · unfold openGroup at h
    split at h
    · cases h
    · rename_i ho
      have := Cursor.opening_length_lt hx ho
      dsimp only at h
      repeat' split at h
      all_goals first
        | cases h; assumption
        | cases h
  · split at h
    · cases h
    · rename_i ha
      exact Nat.lt_of_le_of_lt (addTerm_length_le h) (Cursor.atom_length_lt hx ha)

def run (d : Dialect) (r : Reading) : Except ParseError PatternTree :=
  match _hx : r.cursor.peek? with
  | none => r.finish
  | some x =>
    match _h : r.step d x with
    | .error e => .error e
    | .ok s => run d s
termination_by r.cursor.rest.length
decreasing_by exact step_length_lt ‹_› ‹_›

end Reading

def parse (unicode : Bool) (source : List Char) : Except ParseError PatternTree :=
  (Reading.ofText source).run ⟨unicode, .ofText source⟩

end RegexInsight
