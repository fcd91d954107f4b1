import RegexInsight.Escape

/-! Reading a bracket class. -/
namespace RegexInsight
namespace Cursor

def classAtom (unicode : Bool) (c : Cursor) : Except ParseError (ClassMember × Cursor) :=
  match c.peek? with
  | none => .error ⟨.unterminatedClass, c.offset⟩
  | some x =>
    if x != '\\' then .ok (⟨⟨c.byte, c.next.byte⟩, .char x⟩, c.next)
    else match c.next.peek? with
      | none => .error ⟨.trailingBackslash, c.offset⟩
      | some y =>
        match shorthandSet? y with
        | some s => .ok (⟨⟨c.byte, c.next.next.byte⟩, .set s⟩, c.next.next)
        | none =>
          if unicode && (y == 'p' || y == 'P') then
            match c.next.next.property (y == 'P') c.offset with
            | .error e => .error e
            | .ok (s, after) => .ok (⟨⟨c.byte, after.byte⟩, .set s⟩, after)
          else if y == 'b' then .ok (⟨⟨c.byte, c.next.next.byte⟩, .char '\x08'⟩, c.next.next)
          else if !unicode && '1' ≤ y && y ≤ '9' then
            let (value, after) := c.next.octal
            .ok (⟨⟨c.byte, after.byte⟩, .char value⟩, after)
          else match c.next.escapedChar unicode c.offset true with
            | .error e => .error e
            | .ok (value, after) => .ok (⟨⟨c.byte, after.byte⟩, .char value⟩, after)

def atRangeDash (c : Cursor) : Bool :=
  c.peek? == some '-' && c.next.peek?.any (· != ']')

/-- Reads a member or a range. A dash between two members that are not both characters is a
character of its own, in unicode mode an error. -/
def classItem (unicode : Bool) (c : Cursor) : Except ParseError (List ClassMember × Cursor) :=
  match c.classAtom unicode with
  | .error e => .error e
  | .ok (first, dash) =>
    if !dash.atRangeDash then .ok ([first], dash)
    else match dash.next.classAtom unicode with
      | .error e => .error e
      | .ok (second, after) =>
        match first.kind, second.kind with
        | .char min, .char max =>
          if max < min then .error ⟨.rangeOutOfOrder, dash.offset⟩
          else .ok ([⟨⟨first.span.start, second.span.stop⟩, .range min max⟩], after)
        | _, _ =>
          if unicode then .error ⟨.invalidClass, dash.offset⟩
          else .ok ([first, ⟨⟨dash.byte, dash.next.byte⟩, .char '-'⟩, second], after)

/-- The ways in which a member that is not a range is read, `x` being its first character. -/
inductive ClassAtomRead (unicode : Bool) (c : Cursor) (x : Char) : ClassMember → Cursor → Prop
  | literal (hx : x ≠ '\\') :
    ClassAtomRead unicode c x ⟨⟨c.byte, c.next.byte⟩, .char x⟩ c.next
  | shorthand {y : Char} {s : CharSet} (hx : x = '\\') (hy : c.next.peek? = some y)
    (hs : shorthandSet? y = some s) :
    ClassAtomRead unicode c x ⟨⟨c.byte, c.next.next.byte⟩, .set s⟩ c.next.next
  | property {y : Char} {s : CharSet} {after : Cursor} (hx : x = '\\')
    (hy : c.next.peek? = some y)
    (hp : c.next.next.property (y == 'P') c.offset = .ok (s, after)) (hn : y = 'p' ∨ y = 'P') :
    ClassAtomRead unicode c x ⟨⟨c.byte, after.byte⟩, .set s⟩ after
  | backspace (hx : x = '\\') (hy : c.next.peek? = some 'b') :
    ClassAtomRead unicode c x ⟨⟨c.byte, c.next.next.byte⟩, .char '\x08'⟩ c.next.next
  | octal {y : Char} (hx : x = '\\') (hy : c.next.peek? = some y) (hu : unicode = false) :
    ClassAtomRead unicode c x ⟨⟨c.byte, c.next.octal.2.byte⟩, .char c.next.octal.1⟩ c.next.octal.2
  | char {y value : Char} {after : Cursor} (hx : x = '\\') (hy : c.next.peek? = some y)
    (he : c.next.escapedChar unicode c.offset true = .ok (value, after)) :
    ClassAtomRead unicode c x ⟨⟨c.byte, after.byte⟩, .char value⟩ after

theorem classAtom_read {unicode : Bool} {c after : Cursor} {m : ClassMember}
    (h : c.classAtom unicode = .ok (m, after)) :
    ∃ x, c.peek? = some x ∧ ClassAtomRead unicode c x m after := by
  unfold classAtom at h
  split at h
  · cases h
  · rename_i x hx
    refine ⟨x, hx, ?_⟩
    split at h
    · cases h
      exact .literal (by simp_all)
    · rename_i hslash
      have hslash : x = '\\' := by simpa using hslash
      split at h
      · cases h
      · rename_i y hy
        split at h
        · cases h
          exact .shorthand hslash hy ‹_›
        split at h
        · rename_i hn
          split at h <;> cases h
          exact .property hslash hy ‹_› (by simpa using (Bool.and_eq_true_iff.mp hn).2)
        split at h
        · rename_i hb
          cases h
          exact .backspace hslash (by simp_all)
        split at h
        · rename_i hd
          cases h
          exact .octal hslash hy (by simp_all)
        · split at h <;> cases h
          exact .char hslash hy ‹_›

theorem classAtom_length_lt {unicode : Bool} {c after : Cursor} {m : ClassMember}
    (h : c.classAtom unicode = .ok (m, after)) : after.rest.length < c.rest.length := by
  obtain ⟨x, hx, hread⟩ := classAtom_read h
  have := next_length_lt hx
  have := c.next.next_length_le
  cases hread with
  | literal | shorthand | backspace => omega
  | property _ _ hp =>
    have := property_length_le hp
    omega
  | octal =>
    have := c.next.octal_length_le
    omega
  | char _ _ he =>
    have := escapedChar_length_le he
    omega

theorem classItem_length_lt {unicode : Bool} {c after : Cursor} {ms : List ClassMember}
    (h : c.classItem unicode = .ok (ms, after)) : after.rest.length < c.rest.length := by
  unfold classItem at h
  split at h
  · cases h
  · rename_i first dash hfirst
    have := classAtom_length_lt hfirst
    have := dash.next_length_le
    split at h
    · cases h; assumption
    · split at h
      · cases h
      · rename_i hsecond
        have := classAtom_length_lt hsecond
        split at h <;> split at h <;> cases h <;> omega

/-- Reads members up to the closing bracket; `found` holds the earlier ones, last first. -/
def classMembers (unicode : Bool) (found : List ClassMember) (c : Cursor) :
    Except ParseError (List ClassMember × Cursor) :=
  match c.peek? with
  | none => .error ⟨.unterminatedClass, c.offset⟩
  | some ']' => .ok (found.reverse, c.next)
  | some _ =>
    match _h : c.classItem unicode with
    | .error e => .error e
    | .ok (item, after) => classMembers unicode (item.reverse ++ found) after
termination_by c.rest.length
decreasing_by exact classItem_length_lt ‹_›

theorem classMembers_length_le {unicode : Bool} {found ms : List ClassMember} {c after : Cursor}
    (h : c.classMembers unicode found = .ok (ms, after)) : after.rest.length ≤ c.rest.length := by
  fun_induction classMembers unicode found c with
  | case1 => cases h
  | case2 => cases h; exact next_length_le _
  | case3 => cases h
  | case4 found c _ _ _ item next hi ih =>
    exact Nat.le_trans (ih h) (Nat.le_of_lt (classItem_length_lt hi))

def bracket (unicode : Bool) (c : Cursor) : Except ParseError (Element × Cursor) :=
  let inside := (c.next.eat? '^').getD c.next
  match inside.classMembers unicode [] with
  | .error e => .error e
  | .ok (members, after) =>
    .ok (.bracket ⟨c.byte, after.byte⟩ (c.next.eat? '^').isSome members, after)

end Cursor
end RegexInsight
