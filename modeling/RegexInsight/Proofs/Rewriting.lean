import RegexInsight.Proofs.ReadBack
import RegexInsight.Proofs.Tiling

/-! Reading a text whose counted quantifiers are written shorter. Where nothing is edited both texts
have the same character, and where a counted quantifier is replaced a brace stands against a star, a plus
or a question mark. No reader but that of a quantifier tells these apart unless it reads the brace, so
it reads the same from both texts as long as it ends before the edit. -/
namespace RegexInsight

/-- What stands at byte `place` of a text, and what is to stand there instead. -/
structure Edit where
  place : Nat
  old : List Char
  new : List Char
deriving DecidableEq, Repr

/-- A text with all edits made. The text starts at byte `byte`, and its first `skip` characters belong
to a part that was replaced. -/
def rewrite (edits : List Edit) (skip byte : Nat) : List Char → List Char
  | [] => []
  | x :: rest =>
    match skip with
    | skip + 1 => rewrite edits skip (byte + x.utf8Size) rest
    | 0 => match edits.find? (·.place == byte) with
      | some e => e.new ++ rewrite edits (e.old.length - 1) (byte + x.utf8Size) rest
      | none => x :: rewrite edits 0 (byte + x.utf8Size) rest

theorem rewrite_cons {edits : List Edit} {byte : Nat} (x : Char) (rest : List Char)
    (h : edits.find? (·.place == byte) = none) :
    rewrite edits 0 byte (x :: rest) = x :: rewrite edits 0 (byte + x.utf8Size) rest := by
  rw [rewrite, h]

theorem rewrite_skip (edits : List Edit) (skipped rest : List Char) (byte : Nat) :
    rewrite edits skipped.length byte (skipped ++ rest) =
      rewrite edits 0 (byte + width skipped) rest := by
  induction skipped generalizing byte with
  | nil => rfl
  | cons x skipped ih =>
    rw [List.cons_append, List.length_cons, rewrite, ih, width_cons, Nat.add_assoc]

theorem rewrite_edit {edits : List Edit} {byte : Nat} {e : Edit} (rest : List Char)
    (h : edits.find? (·.place == byte) = some e) (hne : e.old ≠ []) :
    rewrite edits 0 byte (e.old ++ rest) = e.new ++ rewrite edits 0 (byte + width e.old) rest := by
  obtain ⟨x, more, hold⟩ := List.exists_cons_of_ne_nil hne
  rw [hold, List.cons_append, rewrite, h]
  dsimp only
  rw [hold, List.length_cons, Nat.add_sub_cancel, rewrite_skip, width_cons, Nat.add_assoc]

example : rewrite [⟨5, ['c'], []⟩, ⟨1, ['b', 'b'], ['x', 'y', 'z']⟩] 0 0 "abb→cd".toList =
    "axyz→cd".toList := by decide +kernel

/-- In `text'` the edit is made, and what stands before and behind it in `text` is edited on its own. -/
def Edit.Made (edits : List Edit) (text text' : List Char) (e : Edit) : Prop :=
  ∃ front rest, text = front ++ (e.old ++ rest) ∧ width front = e.place ∧
    text' = rewrite edits 0 0 front ++ (e.new ++ rewrite edits 0 (width front + width e.old) rest)

/-- The counted quantifiers that have a shorter form. -/
inductive Shorthand : List Char → List Char → Prop
  | star : Shorthand ['\x7b', '0', ',', '\x7d'] ['*']
  | plus : Shorthand ['\x7b', '1', ',', '\x7d'] ['+']
  | optional : Shorthand ['\x7b', '0', ',', '1', '\x7d'] ['?']

/-- The shorter forms. -/
def marks : List Char := ['*', '+', '?']

theorem Shorthand.shape {old new : List Char} (h : Shorthand old new) :
    (∃ more, old = '\x7b' :: more) ∧ ∃ m ∈ marks, new = [m] := by
  cases h <;> exact ⟨⟨_, rfl⟩, _, by decide, rfl⟩

theorem Shorthand.ne_nil {old new : List Char} (h : Shorthand old new) : old ≠ [] := by
  cases h <;> exact List.cons_ne_nil _ _

theorem Shorthand.prefix_of_brace {old new front rest : List Char} (h : Shorthand old new)
    (hne : front ≠ []) (hp : old <+: front ++ '\x7b' :: rest) : old <+: front := by
  obtain hle | ⟨more, hmore⟩ := List.prefix_or_prefix_of_prefix hp (List.prefix_append front _)
  · exact hle
  · obtain ⟨x, front, rfl⟩ := List.exists_cons_of_ne_nil hne
    cases more with
    | nil => exact ⟨[], by rw [← hmore, List.append_nil, List.append_nil]⟩
    | cons y more =>
      obtain ⟨rest', hrest⟩ := hp
      rw [← hmore, List.append_assoc, List.append_cancel_left_eq, List.cons_append] at hrest
      obtain ⟨rfl, -⟩ := List.cons.inj hrest
      have htail : '\x7b' ∈ old.tail := by simp [← hmore]
      cases h <;> simp at htail

theorem Shorthand.unique {old new old' new' rest rest' : List Char} (h : Shorthand old new)
    (h' : Shorthand old' new') (hr : old ++ rest = old' ++ rest') : old = old' ∧ new = new' := by
  cases h <;> cases h' <;> simp_all

theorem Shorthand.bounds {old new rest : List Char} {c c' after : Cursor} (h : Shorthand old new)
    (hold : c.Reads old after) (hnew : c'.rest = new ++ rest) (unicode : Bool) :
    ∃ b, c.bounds unicode = .ok (some (b, after)) ∧ c'.bounds unicode = .ok (some (b, c'.next)) := by
  obtain ⟨rest, offset, byte⟩ := c
  obtain ⟨rest', offset', byte'⟩ := c'
  obtain ⟨after, offsetAfter, byteAfter⟩ := after
  obtain ⟨hrest, hoffset, hbyte⟩ := hold
  dsimp only at hrest hoffset hbyte hnew
  subst hrest hoffset hbyte hnew
  cases h
  · exact ⟨_, rfl, rfl⟩
  · exact ⟨_, rfl, rfl⟩
  · exact ⟨_, rfl, rfl⟩

/-- A text with edits that each replace a counted quantifier by its shorter form. -/
structure Shortening where
  source : List Char
  edits : List Edit
  valid : ∀ (c : Cursor) (e : Edit), c.Within source → edits.find? (·.place == c.byte) = some e →
    Shorthand e.old e.new ∧ ∃ rest, c.rest = e.old ++ rest

theorem Element.bare_quantifier {span span' : Span} {min : Nat} {max : Option Nat} {greedy : Bool}
    {inner inner' : Element} (h : inner'.bare = inner.bare) :
    (quantifier span' min max greedy inner').bare = (quantifier span min max greedy inner).bare :=
  congrArg (quantifier ⟨0, 0⟩ min max greedy) h

namespace Shortening

variable {w : Shortening} {c c' after : Cursor} {x : Char}

def at? (w : Shortening) (byte : Nat) : Option Edit := w.edits.find? (·.place == byte)

/-- Nothing is edited from byte `start` on before byte `stop`. -/
def Clear (w : Shortening) (start stop : Nat) : Prop :=
  ∀ byte, start ≤ byte → byte < stop → w.at? byte = none

theorem Clear.mono {start start' stop stop' : Nat} (h : w.Clear start stop) (hs : start ≤ start')
    (he : stop' ≤ stop) : w.Clear start' stop' :=
  fun byte h₁ h₂ => h byte (Nat.le_trans hs h₁) (Nat.lt_of_lt_of_le h₂ he)

/-- The second cursor stands in the edited text where the first one stands in the text. -/
structure Follows (w : Shortening) (c c' : Cursor) : Prop where
  within : c.Within w.source
  rest : c'.rest = rewrite w.edits 0 c.byte c.rest

/-- A reader that looks for such characters does not tell a mark from a brace. -/
def Blind (p : Char → Bool) : Prop := ∀ m ∈ marks, p m = p '\x7b'

instance (p : Char → Bool) : Decidable (Blind p) := List.decidableBAll _ marks

namespace Follows

/-- Where nothing is edited both texts go on with the same character. -/
theorem plain (h : w.Follows c c') (hc : w.at? c.byte = none) (hx : c.peek? = some x) :
    c'.peek? = some x ∧ w.Follows c.next c'.next := by
  obtain ⟨rest, hrest⟩ : ∃ rest, c.rest = x :: rest := ⟨_, Cursor.rest_of_peek? hx⟩
  have hnext : c.next = ⟨rest, c.offset + 1, c.byte + x.utf8Size⟩ := by simp [Cursor.next, hrest]
  have hrest' : c'.rest = x :: rewrite w.edits 0 (c.byte + x.utf8Size) rest := by
    rw [h.rest, hrest, rewrite_cons _ _ hc]
  refine ⟨by rw [Cursor.peek?, hrest', List.head?_cons], h.within.reaches c.next_reaches, ?_⟩
  rw [hnext, Cursor.next, hrest']

theorem stop (h : w.Follows c c') (hc : c.peek? = none) : c'.peek? = none := by
  have hrest : c.rest = [] := by simpa [Cursor.peek?] using hc
  rw [Cursor.peek?, h.rest, hrest]
  rfl

/-- At an edit the one text has a counted quantifier and the other one its shorter form. -/
theorem edited (h : w.Follows c c') {e : Edit} (hc : w.at? c.byte = some e) :
    Shorthand e.old e.new ∧ ∃ after, c.Reads e.old after ∧
      c'.rest = e.new ++ rewrite w.edits 0 after.byte after.rest := by
  obtain ⟨hs, rest, hrest⟩ := w.valid c e h.within hc
  refine ⟨hs, ⟨rest, c.offset + e.old.length, c.byte + width e.old⟩, ⟨hrest, rfl, rfl⟩, ?_⟩
  rw [h.rest, hrest, rewrite_edit rest hc hs.ne_nil]

/-- At an edit a brace stands against a mark. -/
theorem brace (h : w.Follows c c') (hc : w.at? c.byte ≠ none) :
    c.peek? = some '\x7b' ∧ ∃ m ∈ marks, c'.peek? = some m := by
  obtain ⟨e, he⟩ := Option.ne_none_iff_exists'.mp hc
  obtain ⟨hs, after, hread, hrest⟩ := h.edited he
  obtain ⟨⟨more, hold⟩, m, hm, hnew⟩ := hs.shape
  rw [Cursor.peek?, Cursor.peek?, hread.rest, hrest, hold, hnew]
  exact ⟨rfl, m, hm, rfl⟩

theorem next (h : w.Follows c c') (hx : c.peek? = some x) (hne : x ≠ '\x7b') :
    c'.peek? = some x ∧ w.Follows c.next c'.next := by
  refine h.plain ?_ hx
  by_contra hc
  exact hne (Option.some.inj (hx.symm.trans (h.brace hc).1))

theorem before (h : w.Follows c c') (hx : c.peek? = some x) {stop : Nat}
    (hclear : w.Clear c.byte stop) (hlt : c.byte < stop) :
    c'.peek? = some x ∧ w.Follows c.next c'.next :=
  h.plain (hclear c.byte (Nat.le_refl _) hlt) hx

/-- Only a mark can be new. -/
theorem peek?_of (h : w.Follows c c') (hx : c'.peek? = some x) (hm : x ∉ marks) :
    c.peek? = some x := by
  by_cases hc : w.at? c.byte = none
  · cases hy : c.peek? with
    | none =>
      rw [h.stop hy] at hx
      cases hx
    | some y => rw [← (h.plain hc hy).1, hx]
  · obtain ⟨-, m, hmarks, hm'⟩ := h.brace hc
    exact absurd (Option.some.inj (hm'.symm.trans hx) ▸ hmarks) hm

theorem any {p : Char → Bool} (h : w.Follows c c') (hp : Blind p) :
    c'.peek?.any p = c.peek?.any p := by
  by_cases hc : w.at? c.byte = none
  · cases hx : c.peek? with
    | none => rw [h.stop hx]
    | some x => rw [(h.plain hc hx).1]
  · obtain ⟨hx, m, hm, hx'⟩ := h.brace hc
    rw [hx, hx', Option.any_some, Option.any_some, hp m hm]

theorem eat?_plain (h : w.Follows c c') (hc : w.at? c.byte = none) (x : Char) :
    (c.eat? x = none ∧ c'.eat? x = none) ∨
      ∃ a a', c.eat? x = some a ∧ c'.eat? x = some a' ∧ w.Follows a a' := by
  simp only [Cursor.eat?]
  cases hy : c.peek? with
  | none =>
    rw [h.stop hy]
    exact .inl ⟨rfl, rfl⟩
  | some y =>
    obtain ⟨hy', hn⟩ := h.plain hc hy
    rw [hy']
    by_cases hxy : some y = some x
    · rw [if_pos hxy, if_pos hxy]
      exact .inr ⟨_, _, rfl, rfl, hn⟩
    · rw [if_neg hxy, if_neg hxy]
      exact .inl ⟨rfl, rfl⟩

theorem eat? (h : w.Follows c c') (hx : x ∉ '\x7b' :: marks) :
    (c.eat? x = none ∧ c'.eat? x = none) ∨
      ∃ a a', c.eat? x = some a ∧ c'.eat? x = some a' ∧ w.Follows a a' := by
  by_cases hc : w.at? c.byte = none
  · exact h.eat?_plain hc x
  · obtain ⟨hy, m, hm, hy'⟩ := h.brace hc
    refine .inl ⟨if_neg fun he => hx ?_, if_neg fun he => hx ?_⟩
    · rw [← Option.some.inj (hy.symm.trans he)]
      exact List.mem_cons_self
    · rw [← Option.some.inj (hy'.symm.trans he)]
      exact List.mem_cons_of_mem _ hm

/-- What is read up to a character that does not qualify is the same in both texts. -/
theorem spanWhile {p : Char → Bool} (h : w.Follows c c') (hp : Blind p) (hbrace : p '\x7b' = false) :
    (c'.spanWhile p).1 = (c.spanWhile p).1 ∧ w.Follows (c.spanWhile p).2 (c'.spanWhile p).2 := by
  have hlists : c'.rest.takeWhile p = c.rest.takeWhile p ∧ c'.rest.dropWhile p =
      rewrite w.edits 0 (c.byte + width (c.rest.takeWhile p)) (c.rest.dropWhile p) := by
    obtain ⟨rest, offset, byte⟩ := c
    induction rest generalizing offset byte c' with
    | nil =>
      have hrest : c'.rest = [] := h.rest
      rw [hrest]
      exact ⟨rfl, rfl⟩
    | cons x rest ih =>
      by_cases hx : p x
      · obtain ⟨hx', hn⟩ := h.next (x := x) rfl fun he => by simp [he, hbrace] at hx
        obtain ⟨htake, hdrop⟩ := ih _ _ hn
        rw [Cursor.rest_of_peek? hx', List.takeWhile_cons_of_pos hx, List.takeWhile_cons_of_pos hx,
          List.dropWhile_cons_of_pos hx, List.dropWhile_cons_of_pos hx, width_cons, htake, hdrop,
          Nat.add_assoc]
        exact ⟨rfl, rfl⟩
      · have hstop : c'.rest.takeWhile p = [] ∧ c'.rest.dropWhile p = c'.rest := by
          have hany := h.any hp
          cases hc' : c'.rest with
          | nil => exact ⟨rfl, rfl⟩
          | cons y rest' =>
            have hy : ¬ p y := by simpa [Cursor.peek?, hx, hc'] using hany
            exact ⟨List.takeWhile_cons_of_neg hy, List.dropWhile_cons_of_neg hy⟩
        rw [hstop.1, hstop.2, List.takeWhile_cons_of_neg hx, List.dropWhile_cons_of_neg hx]
        exact ⟨rfl, h.rest⟩
  exact ⟨hlists.1, h.within.reaches (c.spanWhile_reaches p), hlists.2⟩

end Follows

theorem rewrite_brace {front rest : List Char} {offset byte : Nat}
    (hc : Cursor.Within w.source ⟨front ++ '\x7b' :: rest, offset, byte⟩) :
    rewrite w.edits 0 byte (front ++ '\x7b' :: rest) =
      rewrite w.edits 0 byte front ++
        rewrite w.edits 0 (byte + width front) ('\x7b' :: rest) := by
  induction hlen : front.length using Nat.strongRecOn generalizing front offset byte with
  | ind n ih =>
    subst hlen
    cases front with
    | nil => rfl
    | cons x front =>
      cases he : w.edits.find? (·.place == byte) with
      | none =>
        have hnext : Cursor.Within w.source
            ⟨front ++ '\x7b' :: rest, offset + 1, byte + x.utf8Size⟩ :=
          hc.reaches ⟨[x], Cursor.next_reads rfl⟩
        rw [List.cons_append, rewrite_cons _ _ he, rewrite_cons _ _ he,
          ih _ (Nat.lt_succ_self _) hnext rfl, width_cons, Nat.add_assoc, List.cons_append]
      | some e =>
        -- the edit ends before the brace, as no text that is replaced has another one
        obtain ⟨hs, after, hafter⟩ := w.valid _ e hc he
        obtain ⟨front', hfront⟩ := hs.prefix_of_brace (List.cons_ne_nil x front) ⟨after, hafter.symm⟩
        have hlt : front'.length < (x :: front).length := by
          rw [← hfront, List.length_append]
          exact Nat.lt_add_of_pos_left (List.length_pos_iff.mpr hs.ne_nil)
        rw [← hfront] at hc ⊢
        have hnext : Cursor.Within w.source
            ⟨front' ++ '\x7b' :: rest, offset + e.old.length, byte + width e.old⟩ :=
          hc.reaches ⟨e.old, List.append_assoc .., rfl, rfl⟩
        rw [List.append_assoc, rewrite_edit _ he hs.ne_nil, rewrite_edit _ he hs.ne_nil,
          ih _ hlt hnext rfl, width_append, Nat.add_assoc, List.append_assoc]

/-- Every edit that stands in the text is made, whatever the others are. -/
theorem rewrite_made {e : Edit} {front rest : List Char} (he : e ∈ w.edits)
    (hs : w.source = front ++ (e.old ++ rest)) (hplace : width front = e.place)
    (hshort : Shorthand e.old e.new) : e.Made w.edits w.source (rewrite w.edits 0 0 w.source) := by
  refine ⟨front, rest, hs, hplace, ?_⟩
  obtain ⟨e', hat⟩ : ∃ e', w.at? (width front) = some e' :=
    Option.isSome_iff_exists.mp (List.find?_isSome.mpr ⟨e, he, by simp [hplace]⟩)
  -- two edits at one place replace the same text
  obtain ⟨hshort', rest', hrest'⟩ :=
    w.valid ⟨e.old ++ rest, front.length, width front⟩ e'
      ⟨front, hs, (Nat.zero_add _).symm, (Nat.zero_add _).symm⟩ hat
  obtain ⟨hold, hnew⟩ := hshort.unique hshort' hrest'
  have hedit := rewrite_edit rest hat hshort'.ne_nil
  rw [← hold, ← hnew] at hedit
  obtain ⟨⟨more, hbrace⟩, -⟩ := hshort.shape
  rw [← hedit]
  rw [hbrace, List.cons_append] at hs ⊢
  have hc : Cursor.Within w.source ⟨front ++ '\x7b' :: (more ++ rest), 0, 0⟩ :=
    ⟨[], hs, rfl, rfl⟩
  have hsplit := rewrite_brace hc
  rwa [← hs, Nat.zero_add] at hsplit

/-- Two readings with the same outcome, of which the second follows the first. -/
def Both (w : Shortening) {α : Type} (found found' : Option (α × Cursor)) : Prop :=
  (found = none ∧ found' = none) ∨
    ∃ a c c', found = some (a, c) ∧ found' = some (a, c') ∧ w.Follows c c'

theorem Both.isSome_eq {α : Type} {found found' : Option (α × Cursor)} (h : w.Both found found') :
    found'.isSome = found.isSome := by
  obtain ⟨h₁, h₂⟩ | ⟨_, _, _, h₁, h₂, _⟩ := h
  · rw [h₁, h₂]
  · rw [h₁, h₂]
    rfl

namespace Follows

theorem number? (h : w.Follows c c') : w.Both c.number? c'.number? := by
  obtain ⟨htaken, hafter⟩ := h.spanWhile (p := Char.isDigit) (by decide) (by decide)
  simp only [Cursor.number?, htaken]
  split
  · exact .inl ⟨rfl, rfl⟩
  · exact .inr ⟨_, _, _, rfl, rfl, hafter⟩

theorem upperBound (h : w.Follows c c') (min : Nat) :
    (c'.upperBound min).1 = (c.upperBound min).1 ∧
      w.Follows (c.upperBound min).2 (c'.upperBound min).2 := by
  unfold Cursor.upperBound
  obtain ⟨hc, hc'⟩ | ⟨a, a', hc, hc', ha⟩ := h.eat? (x := ',') (by decide)
  · rw [hc, hc']
    exact ⟨rfl, h⟩
  · rw [hc, hc']
    obtain ⟨hn, hn'⟩ | ⟨n, b, b', hn, hn', hb⟩ := ha.number?
    · simp only [hn, hn']
      exact ⟨trivial, ha⟩
    · simp only [hn, hn']
      exact ⟨trivial, hb⟩

theorem braces? (h : w.Follows c c') (hc : w.at? c.byte = none) : w.Both c.braces? c'.braces? := by
  unfold Cursor.braces?
  obtain ⟨ho, ho'⟩ | ⟨a, a', ho, ho', ha⟩ := h.eat?_plain hc '\x7b'
  · rw [ho, ho']
    exact .inl ⟨rfl, rfl⟩
  · rw [ho, ho']
    obtain ⟨hm, hm'⟩ | ⟨min, b, b', hm, hm', hb⟩ := ha.number?
    · simp only [hm, hm']
      exact .inl ⟨rfl, rfl⟩
    · obtain ⟨hmax, hb⟩ := hb.upperBound min
      simp only [hm, hm', hmax]
      obtain ⟨he, he'⟩ | ⟨d, d', he, he', hd⟩ := hb.eat? (x := '\x7d') (by decide)
      · rw [he, he']
        exact .inl ⟨rfl, rfl⟩
      · rw [he, he']
        exact .inr ⟨_, d, d', rfl, rfl, hd⟩

theorem atQuantifier (h : w.Follows c c') (hc : w.at? c.byte = none) :
    c'.atQuantifier = c.atQuantifier := by
  unfold Cursor.atQuantifier
  rw [(h.braces? hc).isSome_eq]
  cases hx : c.peek? with
  | none => rw [h.stop hx]
  | some x => rw [(h.plain hc hx).1]

theorem bounds {unicode : Bool} {found : Option ((Nat × Option Nat) × Cursor)} (h : w.Follows c c')
    (hread : c.bounds unicode = .ok found) :
    ∃ found', c'.bounds unicode = .ok found' ∧ w.Both found found' := by
  cases he : w.at? c.byte with
  | some e =>
    obtain ⟨hs, after, hold, hnew⟩ := h.edited he
    obtain ⟨b, hb, hb'⟩ := hs.bounds hold hnew unicode
    rw [hb] at hread
    cases hread
    refine ⟨_, hb', .inr ⟨b, _, _, rfl, rfl, h.within.reaches ⟨_, hold⟩, ?_⟩⟩
    obtain ⟨m, -, hm⟩ := hs.shape.2
    rw [Cursor.next, hnew, hm]
    rfl
  | none =>
    cases hx : c.peek? with
    | none =>
      rw [Cursor.bounds, hx] at hread
      cases hread
      exact ⟨none, by rw [Cursor.bounds, h.stop hx], .inl ⟨rfl, rfl⟩⟩
    | some x =>
      obtain ⟨hx', hn⟩ := h.plain he hx
      unfold Cursor.bounds at hread ⊢
      rw [hx'.trans hx.symm]
      split at hread
      iterate 3
        · cases hread
          exact ⟨_, rfl, .inr ⟨_, _, _, rfl, rfl, hn⟩⟩
      · obtain ⟨hb, hb'⟩ | ⟨b, a, a', hb, hb', ha⟩ := h.braces? he
        · rw [hb] at hread
          rw [hb']
          dsimp only at hread ⊢
          split at hread <;> cases hread
          rename_i hu
          exact ⟨none, if_neg hu, .inl ⟨rfl, rfl⟩⟩
        · rw [hb] at hread
          rw [hb']
          dsimp only at hread ⊢
          split at hread <;> cases hread
          rename_i hle
          exact ⟨_, if_neg hle, .inr ⟨b, a, a', rfl, rfl, ha⟩⟩
      · cases hread
        exact ⟨none, rfl, .inl ⟨rfl, rfl⟩⟩

end Follows

/-- An atom is repeated alike in both texts if what is replaced are at most its bounds. -/
theorem withQuantifier {unicode : Bool} {atom atom' e : Element} (h : w.Follows c c')
    (hatom : atom'.bare = atom.bare)
    (hclear : w.Clear (c.byte + 1) (after.byte + 1))
    (hread : atom.withQuantifier unicode c = .ok (e, after)) :
    ∃ e' after', atom'.withQuantifier unicode c' = .ok (e', after') ∧ e'.bare = e.bare ∧
      w.Follows after after' := by
  unfold Element.withQuantifier at hread ⊢
  split at hread
  · cases hread
  · rename_i hb
    cases hread
    obtain ⟨found', hb', ⟨-, rfl⟩ | ⟨_, _, _, hsome, _⟩⟩ := h.bounds hb
    · rw [hb']
      exact ⟨_, _, rfl, hatom, h⟩
    · cases hsome
  · rename_i min max afterBounds hb
    obtain ⟨found', hb', ⟨hnone, -⟩ | ⟨_, _, a', hsome, rfl, ha⟩⟩ := h.bounds hb
    · cases hnone
    cases hsome
    rw [hb', isQuantifiable_of_bare hatom]
    dsimp only at hread ⊢
    split at hread
    · cases hread
    · rename_i hq
      rw [if_neg hq]
      split at hread <;> cases hread
      rename_i hdone
      obtain ⟨_, -, hreads⟩ := Cursor.bounds_reads hb
      have hpast : c.byte + 1 ≤ afterBounds.byte :=
        Cursor.Reaches.byte_lt ⟨_, hreads⟩ (Cursor.bounds_length_lt hb)
      have hlazy : afterBounds.Reaches ((afterBounds.eat? '?').getD afterBounds) :=
        ⟨_, afterBounds.eat?_getD_reads '?'⟩
      have hplain : w.at? afterBounds.byte = none :=
        hclear _ hpast (Nat.lt_succ_of_le hlazy.byte_le)
      have hlast : w.at? ((afterBounds.eat? '?').getD afterBounds).byte = none :=
        hclear _ (Nat.le_trans hpast hlazy.byte_le) (Nat.lt_succ_self _)
      obtain ⟨hl, hl'⟩ | ⟨b, b', hl, hl', hb⟩ := ha.eat?_plain hplain '?'
      · rw [hl] at hdone hlast ⊢
        rw [hl']
        have hdone' : ¬ a'.atQuantifier := (ha.atQuantifier hlast).symm ▸ hdone
        exact ⟨_, a', if_neg hdone', Element.bare_quantifier hatom, ha⟩
      · rw [hl] at hdone hlast ⊢
        rw [hl']
        have hdone' : ¬ b'.atQuantifier := (hb.atQuantifier hlast).symm ▸ hdone
        exact ⟨_, b', if_neg hdone', Element.bare_quantifier hatom, hb⟩

end Shortening

end RegexInsight
