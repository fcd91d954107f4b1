import RegexInsight.Proofs.Passages
import RegexInsight.Proofs.WellFormed

/-! The spans of a tree tile its source. Elements follow each other without a gap, alternatives are
kept apart by one bar each, and a bracket begins where its opening token ends. What has been read so
far lies on the open levels; one step keeps each of them tiled up to where the next one opens. -/
namespace RegexInsight

/-- The span is the place of `text` in the source, so both its ends stand between characters. -/
def Span.Marks (source text : List Char) (span : Span) : Prop :=
  ∃ before after, source = before ++ text ++ after ∧
    span = ⟨width before, width before + width text⟩

/-- The spans follow each other without a gap, from byte `start` to byte `stop`. -/
def Contiguous : List Span → Nat → Nat → Prop
  | [], start, stop => start = stop
  | s :: ss, start, stop => s.start = start ∧ Contiguous ss s.stop stop

/-- The spans follow each other from byte `start` to byte `stop`, with a bar between any two. -/
def Barred (source : List Char) : List Span → Nat → Nat → Prop
  | [], _, _ => False
  | [s], start, stop => s = ⟨start, stop⟩
  | s :: t :: ss, start, stop =>
    s.start = start ∧ Span.Marks source ['|'] ⟨s.stop, t.start⟩ ∧ Barred source (t :: ss) t.start stop

/-- The span begins with one text and ends with another, and `inner` holds of the bytes between. -/
def Span.Encloses (source opening closing : List Char) (inner : Nat → Nat → Prop) (span : Span) :
    Prop :=
  ∃ start stop, Marks source opening ⟨span.start, start⟩ ∧ inner start stop ∧
    Marks source closing ⟨stop, span.stop⟩

/-- Texts that stand side by side stand there as one text. -/
theorem Span.Marks.join {source s t : List Char} {start middle stop : Nat}
    (h₁ : Marks source s ⟨start, middle⟩) (h₂ : Marks source t ⟨middle, stop⟩) :
    Marks source (s ++ t) ⟨start, stop⟩ := by
  obtain ⟨before, after, hs, hspan⟩ := h₁
  obtain ⟨before', after', hs', hspan'⟩ := h₂
  obtain ⟨rfl, rfl⟩ := Span.mk.inj hspan
  obtain ⟨hmiddle, rfl⟩ := Span.mk.inj hspan'
  rw [← width_append] at hmiddle
  -- what stands before the second text is the first one and what stands before that
  have hbefore : before' = before ++ s := by
    have heq : before ++ s ++ after = before' ++ (t ++ after') := by
      rw [← hs, hs', List.append_assoc]
    rcases List.append_eq_append_iff.mp heq with ⟨more, rfl, _⟩ | ⟨more, he, _⟩
    · rw [width_append (before ++ s)] at hmiddle
      have hmore : more = [] := width_eq_zero_iff.mp (by omega)
      rw [hmore, List.append_nil]
    · rw [he, width_append before'] at hmiddle
      have hmore : more = [] := width_eq_zero_iff.mp (by omega)
      rw [he, hmore, List.append_nil]
  subst hbefore
  refine ⟨before, after', by simpa using hs', ?_⟩
  rw [width_append, width_append, Nat.add_assoc]

theorem Span.Marks.lt {source text : List Char} {start stop : Nat}
    (h : Marks source text ⟨start, stop⟩) (hne : text ≠ []) : start < stop := by
  obtain ⟨before, after, _, hspan⟩ := h
  obtain ⟨rfl, rfl⟩ := Span.mk.inj hspan
  exact Nat.lt_add_of_pos_right (width_pos hne)

namespace Node

/-- How the spans directly below a node lie in it. -/
def Tiled (source : List Char) : Node → Prop
  | pattern p =>
    p.span = ⟨0, width source⟩ ∧ Barred source (p.branches.map Branch.span) 0 (width source)
  | branch b => Contiguous (b.elements.map Element.span) b.span.start b.span.stop
  | element (.group span capture branches) =>
    span.Encloses source (Shell.group capture).openingText [')']
      (Barred source (branches.map Branch.span))
  | element (.look span direction negate branches) =>
    span.Encloses source (Shell.look direction negate).openingText [')']
      (Barred source (branches.map Branch.span))
  | element (.bracket span negate members) =>
    span.Encloses source (if negate then ['[', '^'] else ['[']) [']']
      (Contiguous (members.map ClassMember.span))
  | element (.quantifier span _ _ _ inner) =>
    inner.span.start = span.start ∧
      ∃ text, text ≠ [] ∧ Span.Marks source text ⟨inner.span.stop, span.stop⟩
  | element _ | member _ => True

def isPart : Node → Bool
  | element _ | member _ => true
  | pattern _ | branch _ => false

/-- The node has a place in the source, and what is directly below it lies as it has to. -/
structure Placed (source : List Char) (n : Node) : Prop where
  marks : ∃ text, n.span.Marks source text
  nonempty : n.isPart → n.span.start < n.span.stop
  tiled : n.Tiled source

/-- The node and all nodes below it are placed. -/
def Sits (source : List Char) (n : Node) : Prop := ∀ m ∈ n.walk, m.Placed source

theorem sits_iff {source : List Char} {n : Node} :
    n.Sits source ↔ n.Placed source ∧ ∀ m ∈ n.children, m.Sits source := by
  simp only [Sits]
  rw [walk_eq, List.forall_mem_cons]
  simp only [List.mem_flatMap]
  constructor
  · rintro ⟨h, hs⟩
    exact ⟨h, fun m hm k hk => hs k ⟨m, hm, hk⟩⟩
  · rintro ⟨h, hs⟩
    exact ⟨h, fun k ⟨m, hm, hk⟩ => hs m hm k hk⟩

end Node

theorem contiguous_concat {ss : List Span} {t : Span} {start stop : Nat} :
    Contiguous (ss ++ [t]) start stop ↔ Contiguous ss start t.start ∧ t.stop = stop := by
  induction ss generalizing start with
  | nil =>
    simp only [List.nil_append, Contiguous]
    exact and_congr_left' eq_comm
  | cons s ss ih => rw [List.cons_append, Contiguous, Contiguous, ih, and_assoc]

theorem contiguous_append {ss ts : List Span} {start middle stop : Nat}
    (h₁ : Contiguous ss start middle) (h₂ : Contiguous ts middle stop) :
    Contiguous (ss ++ ts) start stop := by
  induction ss generalizing start with
  | nil => rwa [show start = middle from h₁]
  | cons s ss ih => exact ⟨h₁.1, ih h₁.2⟩

/-- The last of some barred spans ends where all of them end, and stands behind a bar if it is not
the first. -/
theorem barred_concat {source : List Char} {ss : List Span} {t : Span} {start stop : Nat} :
    Barred source (ss ++ [t]) start stop ↔ t.stop = stop ∧
      (ss = [] ∧ t.start = start ∨
        ∃ bar, Barred source ss start bar ∧ Span.Marks source ['|'] ⟨bar, t.start⟩) := by
  match ss with
  | [] =>
    obtain ⟨a, b⟩ := t
    simp [Barred, and_comm]
  | [s] =>
    obtain ⟨a, b⟩ := t
    obtain ⟨a', b'⟩ := s
    simp only [List.cons_append, List.nil_append, Barred, Span.mk.injEq, List.cons_ne_nil,
      false_and, false_or, true_and]
    constructor
    · rintro ⟨rfl, hbar, rfl⟩
      exact ⟨rfl, b', ⟨rfl, rfl⟩, hbar⟩
    · rintro ⟨rfl, bar, ⟨rfl, rfl⟩, hbar⟩
      exact ⟨rfl, hbar, rfl⟩
  | s :: s' :: ss =>
    rw [List.cons_append, List.cons_append, Barred, ← List.cons_append, barred_concat]
    simp only [List.cons_ne_nil, false_and, false_or, Barred]
    constructor
    · rintro ⟨hs, hbar, ht, bar, hss, hlast⟩
      exact ⟨ht, bar, ⟨hs, hbar, hss⟩, hlast⟩
    · rintro ⟨ht, bar, ⟨hs, hbar, hss⟩, hlast⟩
      exact ⟨hs, hbar, ht, bar, hss, hlast⟩

theorem Barred.marks {source : List Char} {ss : List Span} {start stop : Nat}
    (h : Barred source ss start stop) (hs : ∀ s ∈ ss, ∃ text, Span.Marks source text s) :
    ∃ text, Span.Marks source text ⟨start, stop⟩ := by
  match ss with
  | [] => exact h.elim
  | [s] =>
    obtain rfl : s = ⟨start, stop⟩ := h
    exact hs _ List.mem_cons_self
  | s :: t :: ss =>
    obtain ⟨hstart, hbar, hrest⟩ := h
    obtain ⟨text, htext⟩ := hs s List.mem_cons_self
    obtain ⟨more, hmore⟩ := hrest.marks fun u hu => hs u (List.mem_cons_of_mem _ hu)
    obtain ⟨a, b⟩ := s
    obtain rfl : a = start := hstart
    exact ⟨_, (htext.join hbar).join hmore⟩

def Cursor.Within (source : List Char) (c : Cursor) : Prop := (Cursor.ofText source).Reaches c

section
variable {source : List Char} {c after : Cursor}

theorem Cursor.Within.reaches (h : c.Within source) (hr : c.Reaches after) :
    after.Within source := h.trans hr

theorem Cursor.Within.marks (h : c.Within source) {text : List Char} (hr : c.Reads text after) :
    Span.Marks source text ⟨c.byte, after.byte⟩ := by
  obtain ⟨before, hb⟩ := h
  refine ⟨before, after.rest, ?_, ?_⟩
  · rw [List.append_assoc, ← hr.rest]
    exact hb.rest
  · have hbyte : c.byte = width before := by simpa [ofText] using hb.byte
    rw [hr.byte, hbyte]

theorem Node.placed_of_reaches {n : Node} (h : c.Within source) (hr : c.Reaches after)
    (hs : n.span = ⟨c.byte, after.byte⟩) (hl : after.rest.length < c.rest.length)
    (ht : n.Tiled source) : n.Placed source := by
  obtain ⟨text, hread⟩ := hr
  refine ⟨⟨text, hs ▸ h.marks hread⟩, fun _ => ?_, ht⟩
  rw [hs]
  exact Cursor.Reaches.byte_lt ⟨text, hread⟩ hl

end

namespace Cursor

variable {source : List Char} {unicode : Bool} {c after : Cursor}

theorem classAtom_placed (hc : c.Within source) {m : ClassMember}
    (h : c.classAtom unicode = .ok (m, after)) :
    c.Reaches after ∧ m.span = ⟨c.byte, after.byte⟩ ∧ (Node.member m).Placed source := by
  obtain ⟨hr, hs⟩ := classAtom_reaches h
  exact ⟨hr, hs, Node.placed_of_reaches hc hr hs (classAtom_length_lt h) trivial⟩

theorem classItem_placed (hc : c.Within source) {ms : List ClassMember}
    (h : c.classItem unicode = .ok (ms, after)) :
    c.Reaches after ∧ Contiguous (ms.map ClassMember.span) c.byte after.byte ∧
      ∀ m ∈ ms, (Node.member m).Placed source := by
  have hlength := classItem_length_lt h
  unfold classItem at h
  split at h
  · cases h
  · rename_i first dash hfirst
    obtain ⟨hr₁, hs₁, hp₁⟩ := classAtom_placed hc hfirst
    split at h
    · cases h
      refine ⟨hr₁, ?_, by simpa using hp₁⟩
      simp [Contiguous, hs₁]
    · rename_i hdash
      have hminus : dash.peek? = some '-' := by simp_all [atRangeDash]
      have hd : dash.Within source := hc.reaches hr₁
      split at h
      · cases h
      · rename_i second next hsecond
        obtain ⟨hr₂, hs₂, hp₂⟩ := classAtom_placed (hd.reaches (next_reaches dash)) hsecond
        have hr := hr₁.trans ((next_reaches dash).trans hr₂)
        split at h <;> split at h <;> cases h
        · rename_i min max _ _ _
          have hp : (Node.member ⟨⟨c.byte, after.byte⟩, .range min max⟩).Placed source :=
            Node.placed_of_reaches hc hr rfl hlength trivial
          rw [hs₁, hs₂]
          exact ⟨hr, by simp [Contiguous], by simpa using hp⟩
        · have hbar : (Node.member ⟨⟨dash.byte, dash.next.byte⟩, .char '-'⟩).Placed source :=
            Node.placed_of_reaches hd (next_reaches dash) rfl (next_length_lt hminus) trivial
          refine ⟨hr, by simp [Contiguous, hs₁, hs₂], ?_⟩
          simp [hp₁, hp₂, hbar]

theorem classMembers_placed {start : Nat} {found ms : List ClassMember} (hc : c.Within source)
    (ht : Contiguous (found.reverse.map ClassMember.span) start c.byte)
    (hf : ∀ m ∈ found, (Node.member m).Placed source)
    (h : c.classMembers unicode found = .ok (ms, after)) :
    ∃ stop, c.Reaches after ∧ Contiguous (ms.map ClassMember.span) start stop ∧
      Span.Marks source [']'] ⟨stop, after.byte⟩ ∧ ∀ m ∈ ms, (Node.member m).Placed source := by
  fun_induction classMembers unicode found c with
  | case1 => cases h
  | case2 found c hclose =>
    cases h
    have hr := next_reads hclose
    exact ⟨c.byte, ⟨_, hr⟩, ht, hc.marks hr, fun m hm => hf m (List.mem_reverse.mp hm)⟩
  | case3 => cases h
  | case4 found c x hne hx item next hi ih =>
    obtain ⟨hr, hitem, hp⟩ := classItem_placed hc hi
    obtain ⟨stop, hafter, hrest⟩ := ih (hc.reaches hr)
      (by simpa using contiguous_append ht hitem)
      (fun m hm => by
        rcases List.mem_append.mp hm with hm | hm
        · exact hp m (List.mem_reverse.mp hm)
        · exact hf m hm) h
    exact ⟨stop, hr.trans hafter, hrest⟩

theorem classMembers_reaches {found ms : List ClassMember} (hc : c.Within source)
    (h : c.classMembers unicode found = .ok (ms, after)) : c.Reaches after := by
  fun_induction classMembers unicode found c with
  | case1 => cases h
  | case2 found c hclose =>
    cases h
    exact next_reaches c
  | case3 => cases h
  | case4 found c x hne hx item next hi ih =>
    have hr := (classItem_placed hc hi).1
    exact hr.trans (ih (hc.reaches hr) h)

theorem bracket_sits {e : Element} (hc : c.Within source) (hopen : c.peek? = some '[')
    (h : c.bracket unicode = .ok (e, after)) :
    c.Reaches after ∧ e.span = ⟨c.byte, after.byte⟩ ∧ (Node.element e).Sits source := by
  have hlength := bracket_length_lt hopen h
  have hinside : c.Reads (if (c.next.eat? '^').isSome then ['[', '^'] else ['['])
      ((c.next.eat? '^').getD c.next) := by
    cases he : c.next.eat? '^' with
    | none => exact next_reads hopen
    | some inside => exact (next_reads hopen).trans (eat?_reads he)
  unfold bracket at h
  dsimp only at h
  split at h
  · cases h
  · rename_i hm
    cases h
    have hempty : Contiguous (([] : List ClassMember).reverse.map ClassMember.span)
      ((c.next.eat? '^').getD c.next).byte ((c.next.eat? '^').getD c.next).byte := rfl
    obtain ⟨stop, hr, hmembers, hclose, hp⟩ :=
      classMembers_placed (hc.reaches ⟨_, hinside⟩) hempty (by simp) hm
    have hreach : c.Reaches after := Reaches.trans ⟨_, hinside⟩ hr
    refine ⟨hreach, rfl, Node.sits_iff.mpr ⟨?_, ?_⟩⟩
    · exact Node.placed_of_reaches hc hreach rfl hlength
        ⟨_, stop, hc.marks hinside, hmembers, hclose⟩
    · intro n hn
      obtain ⟨m, hm, rfl⟩ := List.mem_map.mp hn
      exact Node.sits_iff.mpr ⟨hp m hm, by simp [Node.children]⟩

theorem sits_of_reaches {e : Element} (hc : c.Within source) (hr : c.Reaches after)
    (hs : e.span = ⟨c.byte, after.byte⟩) (hl : after.rest.length < c.rest.length)
    (hn : (Node.element e).children = []) (ht : (Node.element e).Tiled source) :
    (Node.element e).Sits source :=
  Node.sits_iff.mpr ⟨Node.placed_of_reaches hc hr hs hl ht, by simp [hn]⟩

theorem escapeAtom_sits {d : Dialect} {e : Element} (hc : c.Within source)
    (hx : c.peek? = some '\\') (h : c.escapeAtom d = .ok (e, after)) :
    (Node.element e).Sits source := by
  obtain ⟨hr, hs⟩ := escapeAtom_reaches h
  have hl := escapeAtom_length_lt hx h
  obtain ⟨_, _, hread⟩ := escapeAtom_read h
  cases hread <;> exact sits_of_reaches hc hr hs hl rfl trivial

theorem atom_sits {d : Dialect} {x : Char} {e : Element} (hc : c.Within source)
    (hx : c.peek? = some x) (h : c.atom d x = .ok (e, after)) :
    c.Reaches after ∧ e.span = ⟨c.byte, after.byte⟩ ∧ (Node.element e).Sits source := by
  have hnext := next_length_lt hx
  unfold atom at h
  dsimp only at h
  split at h
  · exact bracket_sits hc hx h
  · exact ⟨(escapeAtom_reaches h).1, (escapeAtom_reaches h).2, escapeAtom_sits hc hx h⟩
  all_goals
    repeat' split at h
    all_goals
      cases h
      try exact ⟨next_reaches c, rfl, sits_of_reaches hc (next_reaches c) rfl hnext rfl trivial⟩

end Cursor

theorem Element.withQuantifier_sits {source : List Char} {unicode : Bool} {atom e : Element}
    {c after : Cursor} {start : Nat} (hc : c.Within source) (hs : atom.span = ⟨start, c.byte⟩)
    (ha : (Node.element atom).Sits source)
    (h : atom.withQuantifier unicode c = .ok (e, after)) :
    c.Reaches after ∧ e.span = ⟨start, after.byte⟩ ∧ (Node.element e).Sits source := by
  obtain ⟨rfl, rfl⟩ | ⟨min, max, greedy, text, rfl, ht, hread⟩ := Element.withQuantifier_reads h
  · exact ⟨.refl _, hs, ha⟩
  · have hne := List.append_ne_nil_of_left_ne_nil ht.ne_nil (if greedy then [] else ['?'])
    have hlonger := hread.byte_lt hne
    have hown := hc.marks hread
    obtain ⟨⟨inner, hinner⟩, hnonempty, _⟩ := (Node.sits_iff.mp ha).1
    rw [Node.span, hs] at hinner
    have hatom : start < c.byte := by simpa [Node.span, hs] using hnonempty rfl
    refine ⟨⟨_, hread⟩, by rw [Element.span, hs], Node.sits_iff.mpr ⟨⟨?_, ?_, ?_⟩, ?_⟩⟩
    · rw [Node.span, Element.span, hs]
      exact ⟨_, hinner.join hown⟩
    · intro _
      rw [Node.span, Element.span, hs]
      exact Nat.lt_trans hatom hlonger
    · exact ⟨rfl, _, hne, by rwa [hs]⟩
    · simpa [Node.children] using ha

/-- A level that begins at byte `start` is tiled up to byte `stop`, where it could be closed. -/
structure Level.Tiled (source : List Char) (start stop : Nat) (l : Level) : Prop where
  barred : Barred source ((l.close stop).reverse.map Branch.span) start stop
  sits : ∀ b ∈ l.close stop, (Node.branch b).Sits source

/-- The levels around an open bracket are tiled up to it, and its token leads to byte `inside`. -/
def OpenTiled (source : List Char) : Nat → List OpenGroup → Prop
  | inside, [] => inside = 0
  | inside, g :: groups =>
    Span.Marks source g.shell.openingText ⟨g.start, inside⟩ ∧
      ∃ start, g.outer.Tiled source start g.start ∧ OpenTiled source start groups

structure Reading.Tiled (source : List Char) (r : Reading) : Prop where
  within : r.cursor.Within source
  levels : ∃ start, r.level.Tiled source start r.cursor.byte ∧ OpenTiled source start r.groups

section
variable {source : List Char} {start : Nat} {c after : Cursor} {l : Level}

theorem Cursor.Within.marks_nil (h : c.Within source) : Span.Marks source [] ⟨c.byte, c.byte⟩ :=
  h.marks ⟨rfl, rfl, rfl⟩

theorem Branch.sits_nil (h : c.Within source) :
    (Node.branch (.mk ⟨c.byte, c.byte⟩ [])).Sits source :=
  Node.sits_iff.mpr ⟨⟨⟨[], h.marks_nil⟩, nofun, rfl⟩, by simp [Node.children, Branch.elements]⟩

theorem Level.tiled_empty (h : c.Within source) :
    (Level.empty c.byte).Tiled source c.byte c.byte :=
  ⟨rfl, by simpa [Level.close, Level.empty] using Branch.sits_nil h⟩

theorem Level.close_spans (l : Level) (stop : Nat) :
    (l.close stop).reverse.map Branch.span =
      l.branches.reverse.map Branch.span ++ [⟨l.start, stop⟩] := by
  simp [close, Branch.span]

theorem Level.Tiled.marks {stop : Nat} (h : l.Tiled source start stop) :
    ∃ text, Span.Marks source text ⟨start, stop⟩ := by
  refine h.barred.marks fun s hs => ?_
  obtain ⟨b, hb, rfl⟩ := List.mem_map.mp hs
  exact (Node.sits_iff.mp (h.sits b (List.mem_reverse.mp hb))).1.marks

theorem Level.Tiled.bar (h : l.Tiled source start c.byte) (hc : c.Within source)
    (hbar : c.peek? = some '|') :
    (⟨l.close c.byte, c.next.byte, []⟩ : Level).Tiled source start c.next.byte := by
  have hread := Cursor.next_reads hbar
  refine ⟨?_, ?_⟩
  · rw [Level.close_spans, barred_concat]
    exact ⟨rfl, .inr ⟨c.byte, h.barred, hc.marks hread⟩⟩
  · exact List.forall_mem_cons.mpr ⟨Branch.sits_nil (hc.reaches ⟨_, hread⟩), h.sits⟩

/-- An element that begins where the level has come to takes it on to where the element ends. -/
theorem Level.Tiled.add {e : Element} {first stop : Nat} (h : l.Tiled source start first)
    (hs : e.span = ⟨first, stop⟩) (he : (Node.element e).Sits source) :
    (l.add e).Tiled source start stop := by
  have hbarred := h.barred
  rw [Level.close_spans, barred_concat] at hbarred
  obtain ⟨hlast, hsits⟩ := List.forall_mem_cons.mp h.sits
  obtain ⟨hplaced, hchildren⟩ := Node.sits_iff.mp hlast
  obtain ⟨before, hbefore⟩ := hplaced.marks
  obtain ⟨text, htext⟩ := (Node.sits_iff.mp he).1.marks
  rw [Node.span, hs] at htext
  refine ⟨?_, List.forall_mem_cons.mpr ⟨Node.sits_iff.mpr ⟨⟨?_, nofun, ?_⟩, ?_⟩, hsits⟩⟩
  · rw [Level.close_spans, barred_concat]
    exact ⟨rfl, hbarred.2⟩
  · exact ⟨before ++ text, Span.Marks.join hbefore htext⟩
  · have htiled := hplaced.tiled
    simp only [Node.Tiled, Branch.elements, Branch.span, Level.add, List.reverse_cons,
      List.map_append, List.map_cons, List.map_nil, contiguous_concat, hs] at htiled ⊢
    exact ⟨htiled, trivial⟩
  · intro n hn
    simp only [Node.children, Branch.elements, Level.add, List.reverse_cons, List.map_append,
      List.mem_append] at hn hchildren
    rcases hn with hn | hn
    · exact hchildren n hn
    · rw [List.map_singleton, List.mem_singleton] at hn
      exact hn ▸ he

theorem Shell.element_span (s : Shell) (span : Span) (branches : List Branch) :
    (s.element span branches).span = span := by
  cases s <;> rfl

theorem Shell.element_sits (s : Shell) {first inside : Nat} (hc : c.Within source)
    (hclose : c.peek? = some ')') (hopen : Span.Marks source s.openingText ⟨first, inside⟩)
    (h : l.Tiled source inside c.byte) :
    (Node.element (s.element ⟨first, c.next.byte⟩ (l.close c.byte).reverse)).Sits source := by
  have hbracket := hc.marks (Cursor.next_reads hclose)
  obtain ⟨text, htext⟩ := h.marks
  have hwhole := (hopen.join htext).join hbracket
  refine Node.sits_iff.mpr ⟨⟨⟨s.openingText ++ text ++ [')'], ?_⟩, fun _ => ?_, ?_⟩, fun n hn => ?_⟩
  · rw [Node.span, s.element_span]
    exact hwhole
  · rw [Node.span, s.element_span]
    exact hwhole.lt (by simp)
  · cases s <;> exact ⟨inside, c.byte, hopen, h.barred, hbracket⟩
  · have hchildren : ∃ b ∈ l.close c.byte, n = Node.branch b := by
      cases s <;> simpa [Shell.element, Node.children, eq_comm] using hn
    obtain ⟨b, hb, rfl⟩ := hchildren
    exact h.sits b hb

end

namespace Reading

variable {source : List Char} {d : Dialect} {x : Char} {r s : Reading}

theorem ofText_tiled (source : List Char) : (ofText source).Tiled source :=
  ⟨.refl _, 0, Level.tiled_empty (.refl _), rfl⟩

theorem addTerm_tiled {atom : Element} {c : Cursor} {outer : Level} {first start : Nat}
    (hc : c.Within source) (hs : atom.span = ⟨first, c.byte⟩) (ha : (Node.element atom).Sits source)
    (ho : outer.Tiled source start first) (hg : OpenTiled source start r.groups)
    (h : addTerm d atom c outer r = .ok s) : s.Tiled source := by
  unfold addTerm at h
  split at h
  · cases h
  · rename_i ht
    cases h
    obtain ⟨hr, hspan, hsits⟩ := Element.withQuantifier_sits hc hs ha ht
    exact ⟨hc.reaches hr, start, ho.add hspan hsits, hg⟩

/-- Opening a group sets the level aside at the bracket, and begins a new one behind the token. -/
theorem openGroup_tiled (hr : r.Tiled source) (hx : r.cursor.peek? = some '(')
    (h : r.openGroup = .ok s) : s.Tiled source := by
  obtain ⟨hc, start, hlevel, hgroups⟩ := hr
  unfold openGroup at h
  split at h
  · cases h
  · rename_i shell inside ho
    have hread := Cursor.opening_reads hx ho
    have hinside : inside.Within source := hc.reaches ⟨_, hread⟩
    have hopen : OpenTiled source inside.byte (⟨r.cursor.byte, shell, r.level⟩ :: r.groups) :=
      ⟨hc.marks hread, start, hlevel, hgroups⟩
    dsimp only at h
    split at h
    · split at h <;> cases h
      exact ⟨hinside, inside.byte, Level.tiled_empty hinside, hopen⟩
    · cases h
      exact ⟨hinside, inside.byte, Level.tiled_empty hinside, hopen⟩

theorem closeGroup_tiled (hr : r.Tiled source) (hx : r.cursor.peek? = some ')')
    (h : r.closeGroup d = .ok s) : s.Tiled source := by
  obtain ⟨hc, inside, hlevel, hgroups⟩ := hr
  unfold closeGroup at h
  split at h
  · cases h
  · rename_i g groups hg
    rw [hg] at hgroups
    obtain ⟨hopen, start, houter, hrest⟩ := hgroups
    exact addTerm_tiled (hc.reaches (Cursor.next_reaches _)) (g.shell.element_span _ _)
      (g.shell.element_sits hc hx hopen hlevel) houter hrest h

theorem noteReference_groups (offset : Nat) (e : Element) (r : Reading) :
    (r.noteReference offset e).groups = r.groups := by
  unfold noteReference
  split <;> rfl

theorem step_tiled (hr : r.Tiled source) (hx : r.cursor.peek? = some x) (h : r.step d x = .ok s) :
    s.Tiled source := by
  unfold step at h
  split at h
  · cases h
    obtain ⟨hc, start, hlevel, hgroups⟩ := hr
    exact ⟨hc.reaches (Cursor.next_reaches _), start, hlevel.bar hc hx, hgroups⟩
  · exact closeGroup_tiled hr hx h
  · exact openGroup_tiled hr hx h
  · split at h
    · cases h
    · rename_i ha
      obtain ⟨hc, start, hlevel, hgroups⟩ := hr
      obtain ⟨hreach, hspan, hsits⟩ := Cursor.atom_sits hc hx ha
      rw [← noteReference_groups r.cursor.offset] at hgroups
      exact addTerm_tiled (hc.reaches hreach) hspan hsits hlevel hgroups h

theorem finish_tiled {tree : PatternTree} (hr : r.Tiled source) (hend : r.cursor.rest = [])
    (h : r.finish = .ok tree) : (Node.pattern tree.pattern).Sits source := by
  obtain ⟨⟨text, hread⟩, start, hlevel, hgroups⟩ := hr
  have htext : source = text := by simpa [hend, Cursor.ofText] using hread.rest
  have hbyte : r.cursor.byte = width source := by simpa [htext, Cursor.ofText] using hread.byte
  unfold finish at h
  split at h
  · cases h
  · cases h
  · rename_i hg _
    cases h
    rw [hg] at hgroups
    obtain rfl : start = 0 := hgroups
    rw [hbyte] at hlevel ⊢
    refine Node.sits_iff.mpr ⟨⟨⟨source, [], [], by simp, ?_⟩, by rintro ⟨⟩, ?_⟩, fun n hn => ?_⟩
    · simp [Node.span]
    · exact ⟨rfl, hlevel.barred⟩
    · have hchildren : ∃ b ∈ r.level.close (width source), n = Node.branch b := by
        simpa [Node.children, eq_comm] using hn
      obtain ⟨b, hb, rfl⟩ := hchildren
      exact hlevel.sits b hb

theorem run_tiled {tree : PatternTree} (hr : r.Tiled source) (h : r.run d = .ok tree) :
    (Node.pattern tree.pattern).Sits source := by
  obtain ⟨s, hs, hend, hfinish⟩ := run_eq_ok.mp h
  exact finish_tiled (hs.keeps step_tiled hr) (by simpa [Cursor.peek?] using hend) hfinish

end Reading

/-- All nodes of a tree that was read have their places in the source, and tile it. -/
theorem parse_tiled {unicode : Bool} {source : List Char} {tree : PatternTree}
    (h : parse unicode source = .ok tree) : ∀ n ∈ tree.pattern.nodes, n.Placed source :=
  Reading.run_tiled (Reading.ofText_tiled source) h

/-- A lone `\c`, a dash that is no range, and a letter of two bytes. -/
theorem parse_tiled_lone_control :
    ∃ tree, parse false "(?:é|\\c)[^\\d-é]{2,}?|".toList = .ok tree ∧
      ∀ n ∈ tree.pattern.nodes, n.Placed "(?:é|\\c)[^\\d-é]{2,}?|".toList := by
  have h : (parse false "(?:é|\\c)[^\\d-é]{2,}?|".toList).toOption.isSome := by decide +kernel
  cases hp : parse false "(?:é|\\c)[^\\d-é]{2,}?|".toList with
  | error e =>
    rw [hp] at h
    cases h
  | ok tree => exact ⟨tree, rfl, parse_tiled hp⟩

end RegexInsight
