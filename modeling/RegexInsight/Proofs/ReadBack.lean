import RegexInsight.Proofs.Printing

/-! What is printed is read back. The steps of reading take a printed element onto the level that is
open, whatever follows it, and so take printed alternatives onto a level that is closed behind them.
The count ahead of reading is what the reading itself comes to. -/
namespace RegexInsight

theorem numbered_map_name (names : List (Option String)) :
    (numbered names).map Capture.name = names := by
  apply List.ext_getElem <;> simp [numbered]

/-- Groups that carry on the numbering of some names carry it on with their own names. -/
theorem numbered_grow {names all : List (Option String)} {captures later : List Capture}
    (h : numbered names ++ captures ++ later = numbered all) :
    numbered (names ++ captures.map Capture.name) = numbered names ++ captures := by
  have hall : names ++ captures.map Capture.name ++ later.map Capture.name = all := by
    rw [← numbered_map_name all, ← h]
    simp [numbered_map_name]
  rw [← hall] at h
  have hsplit : numbered (names ++ captures.map Capture.name ++ later.map Capture.name) =
      numbered (names ++ captures.map Capture.name) ++
        (later.map Capture.name).mapIdx fun i name =>
          ⟨i + (names ++ captures.map Capture.name).length + 1, name⟩ :=
    List.mapIdx_append
  exact (List.append_inj_left (h.trans hsplit) (by simp [numbered])).symm

theorem numbered_next {names all : List (Option String)} {capture : Capture} {later : List Capture}
    (hd : all.reduceOption.Nodup) (h : numbered names ++ capture :: later = numbered all) :
    capture.index = names.length + 1 ∧ capture.name ∈ all ∧
      ∀ name, capture.name = some name → some name ∉ names := by
  have hall : names ++ capture.name :: later.map Capture.name = all := by
    rw [← numbered_map_name all, ← h]
    simp [numbered_map_name]
  have hgrow : numbered (names ++ [capture.name]) = numbered names ++ [capture] := by
    have hsplit : numbered names ++ [capture] ++ later = numbered all := by simpa using h
    simpa using numbered_grow hsplit
  have hcapture : capture = ⟨names.length + 1, capture.name⟩ := by
    rw [numbered, List.mapIdx_append] at hgrow
    simpa using (List.append_cancel_left hgrow).symm
  refine ⟨congrArg Capture.index hcapture, hall ▸ by simp, fun name hname hmem => ?_⟩
  rw [← hall, hname, List.reduceOption_append, List.reduceOption_cons_of_some] at hd
  have hdisjoint := (List.nodup_append.mp hd).2.2
  exact hdisjoint name (List.reduceOption_mem_iff.mpr hmem) name List.mem_cons_self rfl

namespace Reading

variable {d : Dialect} {r s t : Reading}

theorem Steps.counted (h : Steps d r s) : GroupCount.scan false s.counted s.cursor.rest =
    GroupCount.scan false r.counted r.cursor.rest := by
  induction h with
  | refl => rfl
  | step hx h _ ih => exact ih.trans (step_counted hx h)

/-- From `r` the elements are read onto the open level, up to where `rest` is left. All names that
they refer to are among `all`. -/
structure Adds (d : Dialect) (all : List (Option String)) (r : Reading) (es : List Element)
    (rest : List Char) (s : Reading) : Prop where
  steps : Steps d r s
  rest : s.cursor.rest = rest
  groups : s.groups = r.groups
  branches : s.level.branches = r.level.branches
  elements : s.level.elements.map Element.bare =
    (es.map Element.bare).reverse ++ r.level.elements.map Element.bare
  names : s.names.toList = r.names.toList ++ (es.flatMap Element.captures).map Capture.name
  references : ∀ x ∈ s.references, x ∈ r.references ∨ some x.1 ∈ all

theorem Adds.trans {all : List (Option String)} {es es' : List Element} {rest rest' : List Char}
    (h₁ : Adds d all r es rest s) (h₂ : Adds d all s es' rest' t) :
    Adds d all r (es ++ es') rest' t where
  steps := h₁.steps.trans h₂.steps
  rest := h₂.rest
  groups := h₂.groups.trans h₁.groups
  branches := h₂.branches.trans h₁.branches
  elements := by rw [h₂.elements, h₁.elements]; simp
  names := by rw [h₂.names, h₁.names]; simp
  references := fun x hx => (h₂.references x hx).elim (h₁.references x) .inr

end Reading

/-- What follows an element makes another one of it, and leaves `rest`. -/
structure Suffix (suffix rest : List Char) (e target : Element) : Prop where
  digit : ∀ x ∈ (suffix ++ rest).head?, x.isDigit = false
  captures : target.captures = e.captures
  reads : ∀ (b : Element) (c : Cursor), b.bare = e.bare → c.rest = suffix ++ rest →
    ∃ b' after, b.withQuantifier true c = .ok (b', after) ∧ after.rest = rest ∧
      b'.bare = target.bare

theorem isQuantifiable_of_bare {b e : Element} (h : b.bare = e.bare) (unicode : Bool) :
    b.isQuantifiable unicode = e.isQuantifiable unicode := by
  rw [← Element.mapSpans_isQuantifiable, ← Element.mapSpans_isQuantifiable (e := e)]
  exact congrArg _ h

theorem Suffix.none {rest : List Char} (hr : Clear rest) (e : Element) : Suffix [] rest e e where
  digit := fun x hx => (hr x hx).2
  captures := rfl
  reads := by
    intro b c hb hc
    refine ⟨b, c, ?_, hc, hb⟩
    rw [Element.withQuantifier, Cursor.bounds_clear (hc ▸ hr)]

theorem Suffix.bounds {rest : List Char} (hr : Clear rest) {span : Span} {min : Nat}
    {max : Option Nat} {greedy : Bool} {inner : Element} (hmin : min ≤ maxBound)
    (hmax : ∀ m ∈ max, m ≤ maxBound) (hle : ∀ m ∈ max, min ≤ m)
    (hq : inner.isQuantifiable true) :
    Suffix (printBounds min max greedy) rest inner (.quantifier span min max greedy inner) where
  digit := by
    rintro x ⟨⟩
    rfl
  captures := Element.captures_quantifier span min max greedy inner
  reads := by
    intro b c hb hc
    obtain ⟨after, hread, hrest⟩ := Cursor.withQuantifier_print hmin hmax hle
      ((isQuantifiable_of_bare hb true).trans hq) hr hc
    refine ⟨_, after, hread, hrest, ?_⟩
    rw [Element.bare, Element.bare, Element.mapSpans, Element.mapSpans]
    congr 1

/-- What the text as a whole decides when it is the print of a tree whose groups have these names. -/
structure Dialect.Fits (d : Dialect) (all : List (Option String)) : Prop where
  unicode : d.unicode = true
  total : d.groups.total = all.length
  distinct : all.reduceOption.Nodup
  names : ∀ name, some name ∈ all → IsGroupName name

/-- All parts of the element are formed and can be printed, in a tree whose groups have these
names. -/
def Element.Ready (all : List (Option String)) (e : Element) : Prop :=
  ∀ x ∈ e.parts, x.Formed true all.length (fun name => some name ∈ all) ∧ x.Printable ∧ x.DotFree

/-- From `r` the alternatives are read onto the open level, up to where `rest` is left and the level
can be closed. -/
structure Reading.Closes (d : Dialect) (all : List (Option String)) (r : Reading) (bs : List Branch)
    (rest : List Char) (s : Reading) : Prop where
  steps : Steps d r s
  rest : s.cursor.rest = rest
  groups : s.groups = r.groups
  branches : ∀ stop, (s.level.close stop).reverse.map Branch.bare =
    r.level.branches.reverse.map Branch.bare ++ bs.map Branch.bare
  names : s.names.toList = r.names.toList ++ (branchesCaptures bs).map Capture.name
  references : ∀ x ∈ s.references, x ∈ r.references ∨ some x.1 ∈ all

section
variable {d : Dialect} {all : List (Option String)} {suffix rest more : List Char}
  {e target : Element} {r s : Reading}

open Reading

/-- A name that is referred to is the name of the same reference without its place. -/
theorem name_of_bare {b : Element} {span : Span} {name : String} (h : b.bare = e.bare)
    (hb : b = .backreference span (.name name)) : ∃ span, e = .backreference span (.name name) := by
  subst hb
  cases e <;> simp_all [Element.bare, Element.mapSpans]

theorem ReadsAtom.adds (hd : d.unicode = true) (h : r.cursor.ReadsAtom d e (suffix ++ rest))
    (hs : Suffix suffix rest e target) (hheld : e.held = [])
    (hcapture : (Node.element e).capture? = none)
    (hk : ∀ span name, e = .backreference span (.name name) → some name ∈ all) :
    ∃ s, r.Adds d all [target] rest s := by
  obtain ⟨x, b, after, hx, ⟨hbar, hclose, hopen⟩, hatom, hb, hrest⟩ := h
  obtain ⟨b', last, hquantified, hlast, hb'⟩ := hs.reads b after hb hrest
  obtain ⟨references, hnote, hmem⟩ : ∃ references,
      r.noteReference r.cursor.offset b = { r with references := references } ∧
        ∀ x ∈ references, x ∈ r.references ∨ some x.1 ∈ all := by
    unfold noteReference
    split
    · rename_i span name
      obtain ⟨span', he⟩ := name_of_bare hb rfl
      exact ⟨_, rfl, List.forall_mem_cons.mpr ⟨.inr (hk span' name he), fun x hx => .inl hx⟩⟩
    · exact ⟨_, rfl, fun x hx => .inl hx⟩
  have hstep : r.step d x = .ok { r with
      cursor := last, references := references, level := r.level.add b' } := by
    rw [step_atom hbar hclose hopen, hatom]
    dsimp only
    rw [addTerm, hd, hquantified, hnote]
  refine ⟨_, .single hx hstep, hlast, rfl, rfl, ?_, ?_, hmem⟩
  · simp [Level.add, hb']
  · simp [hs.captures, Element.captures_of_held_eq_nil hheld hcapture]

theorem Shell.openingText_head (shell : Shell) : ∃ more, shell.openingText = '(' :: more := by
  rcases shell with (_ | ⟨index, _ | name⟩) | ⟨_ | _, _ | _⟩ <;> exact ⟨_, rfl⟩

theorem openGroup_print (hf : d.Fits all) {shell : Shell} {later : List Capture}
    (hn : numbered r.names.toList ++ (shell.capture?.toList ++ later) = numbered all)
    (hr : r.cursor.rest = shell.openingText ++ more) (hmore : more.head? ≠ some '?') :
    ∃ s, Steps d r s ∧ s.cursor.rest = more ∧ s.groups = ⟨r.cursor.byte, shell, r.level⟩ :: r.groups ∧
      s.level.branches = [] ∧ s.level.elements = [] ∧ s.references = r.references ∧
      s.names.toList = r.names.toList ++ shell.capture?.toList.map Capture.name := by
  have hnext : ∀ capture, shell = .group (some capture) →
      capture.index = r.names.size + 1 ∧ capture.name ∈ all ∧
        ∀ name, capture.name = some name → some name ∉ r.names.toList := by
    rintro capture rfl
    exact numbered_next hf.distinct hn
  have hopening : ∀ capture, shell = .group (some capture) →
      capture.index = r.names.size + 1 ∧ ∀ name ∈ capture.name, IsGroupName name := by
    intro capture he
    obtain ⟨hindex, hmem, _⟩ := hnext capture he
    refine ⟨hindex, fun name hname => hf.names name ?_⟩
    rwa [← Option.mem_def.mp hname]
  obtain ⟨inside, hread, hinside⟩ := Cursor.opening_print hopening hr hmore
  obtain ⟨text, htext⟩ := shell.openingText_head
  have hpeek : r.cursor.peek? = some '(' := (Cursor.peek?_of_rest (by rw [hr, htext]; rfl)).1
  have hstep : r.step d '(' = r.openGroup := rfl
  unfold openGroup at hstep
  rw [hread] at hstep
  dsimp only at hstep
  rcases shell with (_ | capture) | ⟨direction, negate⟩
  · exact ⟨_, .single hpeek hstep, hinside, rfl, rfl, rfl, rfl, by simp [Shell.capture?]⟩
  · have hnew : (capture.name.isSome && r.names.contains capture.name) = false := by
      cases hname : capture.name with
      | none => rfl
      | some name => simpa using (hnext capture rfl).2.2 name hname
    dsimp only at hstep
    rw [hnew] at hstep
    exact ⟨_, .single hpeek hstep, hinside, rfl, rfl, rfl, rfl, by simp [Shell.capture?]⟩
  · exact ⟨_, .single hpeek hstep, hinside, rfl, rfl, rfl, rfl, by simp [Shell.capture?]⟩

/-- The bracket behind a group closes it, and the group goes onto the level around it. -/
theorem closeGroup_print (hd : d.unicode = true) {shell : Shell} {span : Span} {bs : List Branch}
    {start : Nat} {outer : Level} {groups : List OpenGroup}
    (hs : Suffix suffix rest (shell.element span bs) target)
    (hg : s.groups = ⟨start, shell, outer⟩ :: groups)
    (hb : ∀ stop, (s.level.close stop).reverse.map Branch.bare = bs.map Branch.bare)
    (hr : s.cursor.rest = ')' :: (suffix ++ rest)) :
    ∃ e after, e.bare = target.bare ∧ after.rest = rest ∧
      Steps d s { s with cursor := after, level := outer.add e, groups := groups } := by
  obtain ⟨hpeek, hnext⟩ := Cursor.peek?_of_rest hr
  have hbare : ∀ span' stop,
      (shell.element span' (s.level.close stop).reverse).bare = (shell.element span bs).bare := by
    intro span' stop
    rw [Element.bare, Element.bare, Shell.mapSpans_element, Shell.mapSpans_element]
    exact congrArg (fun bs => shell.element ⟨0, 0⟩ bs) (hb stop)
  obtain ⟨e, after, hread, hrest, he⟩ := hs.reads _ s.cursor.next
    (hbare ⟨start, s.cursor.next.byte⟩ s.cursor.byte) hnext
  refine ⟨e, after, he, hrest, .single hpeek ?_⟩
  change s.closeGroup d = _
  rw [closeGroup, hg]
  dsimp only
  rw [addTerm, hd, hread]

theorem branchesPrint_clear (bs : List Branch) (hr : Clear rest) :
    Clear (branchesPrint bs ++ rest) := by
  match bs with
  | [] => exact hr
  | [.mk span es] => exact elementsPrint_clear es hr
  | .mk span es :: b :: bs =>
    rw [branchesPrint, Branch.print, List.append_assoc]
    · exact elementsPrint_clear es (.cons (by decide))
    · exact nofun

theorem shell_adds (hf : d.Fits all) {shell : Shell} {span : Span} {bs : List Branch}
    {later : List Capture} (hs : Suffix suffix rest (shell.element span bs) target)
    (hbranches : ∀ s : Reading, s.level.branches = [] → s.level.elements = [] →
      numbered s.names.toList ++ branchesCaptures bs ++ later = numbered all →
      s.cursor.rest = branchesPrint bs ++ ')' :: (suffix ++ rest) →
      ∃ t, s.Closes d all bs (')' :: (suffix ++ rest)) t)
    (hn : numbered r.names.toList ++ (shell.element span bs).captures ++ later = numbered all)
    (hr : r.cursor.rest = shell.openingText ++ branchesPrint bs ++ [')'] ++ suffix ++ rest) :
    ∃ t, r.Adds d all [target] rest t := by
  have hcaptures : (shell.element span bs).captures = shell.capture?.toList ++ branchesCaptures bs := by
    cases shell with
    | group capture => rw [Shell.element, Element.captures_group, Shell.capture?]
    | look direction negate => rw [Shell.element, Element.captures_look, Shell.capture?]; rfl
  rw [hcaptures] at hn
  have hopened : numbered r.names.toList ++ (shell.capture?.toList ++ (branchesCaptures bs ++ later)) =
      numbered all := by simpa using hn
  have htext : r.cursor.rest =
      shell.openingText ++ (branchesPrint bs ++ ')' :: (suffix ++ rest)) := by simpa using hr
  have hclear : Clear (branchesPrint bs ++ ')' :: (suffix ++ rest)) :=
    branchesPrint_clear bs (.cons (by decide))
  obtain ⟨s, hopen, hrest, hgroups, hlevel, helements, hreferences, hnames⟩ :=
    openGroup_print hf hopened htext fun hq => (hclear _ hq).1 (by decide)
  have hgrow : numbered s.names.toList = numbered r.names.toList ++ shell.capture?.toList := by
    rw [hnames]
    exact numbered_grow ((List.append_assoc _ _ _).trans hopened)
  obtain ⟨t, ht⟩ := hbranches s hlevel helements (by rw [hgrow]; simpa using hn) hrest
  obtain ⟨e, after, he, hafter, hclose⟩ := closeGroup_print hf.unicode hs (ht.groups.trans hgroups)
    (fun stop => by rw [ht.branches, hlevel]; rfl) ht.rest
  refine ⟨_, (hopen.trans ht.steps).trans hclose, hafter, rfl, rfl, ?_, ?_, ?_⟩
  · simp [Level.add, he]
  · rw [ht.names, hnames]
    simp [hs.captures, hcaptures]
  · intro x hx
    rcases ht.references x hx with hx | hx
    · exact .inl (hreferences ▸ hx)
    · exact .inr hx

theorem Reading.Adds.close {es : List Element} (h : r.Adds d all es rest s)
    (hr : r.level.elements = []) (span : Span) (stop : Nat) :
    (s.level.close stop).map Branch.bare =
      (Branch.mk span es).bare :: r.level.branches.map Branch.bare := by
  have helements := h.elements
  rw [hr, List.map_nil, List.append_nil] at helements
  have hbare : ∀ es : List Element, es.map (·.mapSpans fun _ => ⟨0, 0⟩) = es.map Element.bare :=
    fun _ => rfl
  rw [Level.close, List.map_cons, h.branches, Branch.bare, Branch.bare, Branch.mapSpans_mk,
    Branch.mapSpans_mk, hbare, hbare, List.map_reverse, helements, List.reverse_reverse]

theorem bar_print {es : List Element} (h : r.Adds d all es ('|' :: more) s)
    (hr : r.level.elements = []) (span : Span) :
    ∃ t, Steps d s t ∧ t.cursor.rest = more ∧ t.groups = s.groups ∧ t.names = s.names ∧
      t.references = s.references ∧ t.level.elements = [] ∧
      t.level.branches.map Branch.bare =
        (Branch.mk span es).bare :: r.level.branches.map Branch.bare := by
  obtain ⟨hbar, hnext⟩ := Cursor.peek?_of_rest h.rest
  have hstep : s.step d '|' = .ok { s with
      cursor := s.cursor.next
      level := ⟨s.level.close s.cursor.byte, s.cursor.next.byte, []⟩ } := rfl
  exact ⟨_, .single hbar hstep, hnext, rfl, rfl, rfl, rfl, h.close hr span _⟩

theorem Element.Repeatable.isQuantifiable (h : e.Repeatable true) :
    e.isQuantifier = false ∧ e.isQuantifiable true := by
  cases e with
  | look span direction negate branches => cases direction <;> simp [Repeatable] at h
  | quantifier | anchor => exact h.elim
  | char | set | bracket | group | backreference => exact ⟨rfl, rfl⟩

theorem Element.Ready.held (h : e.Ready all) : ∀ x ∈ e.held, x.Ready all := Throughout.held h

theorem Element.Ready.self (h : e.Ready all) :
    e.Formed true all.length (fun name => some name ∈ all) ∧ e.Printable ∧ e.DotFree :=
  Throughout.self h

end

section
variable {d : Dialect} {all : List (Option String)}

open Reading

mutual

theorem Element.print_adds (hf : d.Fits all) (e : Element) {suffix rest : List Char}
    {target : Element} {r : Reading} {later : List Capture} (hq : e.isQuantifier = false)
    (hs : Suffix suffix rest e target) (hp : e.Ready all)
    (hn : numbered r.names.toList ++ e.captures ++ later = numbered all)
    (hr : r.cursor.rest = e.print ++ suffix ++ rest) : ∃ s, r.Adds d all [target] rest s := by
  have hself := hp.self
  have hheld := hp.held
  rw [List.append_assoc] at hr
  cases e with
  | char span value =>
    exact ReadsAtom.adds hf.unicode (Cursor.char_print hf.unicode span value hr) hs rfl rfl nofun
  | set span s =>
    exact ReadsAtom.adds hf.unicode (Cursor.set_print hf.unicode span hself.2.1 hr) hs rfl rfl nofun
  | bracket span negate members =>
    exact ReadsAtom.adds hf.unicode
      (Cursor.bracket_print hf.unicode span hself.2.1 hself.2.2 hself.1 hr) hs rfl rfl nofun
  | anchor span anchor =>
    exact ReadsAtom.adds hf.unicode (Cursor.anchor_print span anchor hr) hs rfl rfl nofun
  | backreference span reference =>
    cases reference with
    | index n =>
      have hle : n ≤ d.groups.total := hf.total.symm ▸ hself.1.2
      exact ReadsAtom.adds hf.unicode (Cursor.index_print span hself.1.1 hle hself.2.1 hr hs.digit)
        hs rfl rfl (by rintro _ _ ⟨⟩)
    | name name =>
      refine ReadsAtom.adds hf.unicode (Cursor.name_print hf.unicode span (hf.names name hself.1) hr)
        hs rfl rfl ?_
      rintro _ _ ⟨⟩
      exact hself.1
  | group span capture branches =>
    have htext : r.cursor.rest =
        (Shell.group capture).openingText ++ branchesPrint branches ++ [')'] ++ suffix ++ rest := by
      simpa [Element.print] using hr
    exact shell_adds hf hs (fun s hb he hn hr => branchesPrint_closes hf branches hself.1
      (.cons (by decide)) hheld he hn hr) hn htext
  | look span direction negate branches =>
    have htext : r.cursor.rest = (Shell.look direction negate).openingText ++
        branchesPrint branches ++ [')'] ++ suffix ++ rest := by
      simpa [Element.print] using hr
    exact shell_adds hf hs (fun s hb he hn hr => branchesPrint_closes hf branches hself.1
      (.cons (by decide)) hheld he hn hr) hn htext
  | quantifier => cases hq

theorem elementsPrint_adds (hf : d.Fits all) (es : List Element) {rest : List Char} {r : Reading}
    {later : List Capture} (hc : Clear rest) (hp : ∀ e ∈ es, e.Ready all)
    (hn : numbered r.names.toList ++ es.flatMap Element.captures ++ later = numbered all)
    (hr : r.cursor.rest = elementsPrint es ++ rest) : ∃ s, r.Adds d all es rest s := by
  cases es with
  | nil =>
    exact ⟨r, .refl r, hr, rfl, rfl, by simp, by simp, fun x hx => .inl hx⟩
  | cons e es =>
    obtain ⟨he, hes⟩ := List.forall_mem_cons.mp hp
    have hclear := elementsPrint_clear es hc
    rw [List.flatMap_cons, ← List.append_assoc] at hn
    rw [elementsPrint, List.append_assoc] at hr
    obtain ⟨s, hs⟩ : ∃ s, r.Adds d all [e] (elementsPrint es ++ rest) s := by
      cases e with
      | quantifier span min max greedy inner =>
        obtain ⟨⟨hle, hrepeatable⟩, ⟨hmin, hmax⟩, _⟩ := he.self
        obtain ⟨hinner, hquantifiable⟩ := hrepeatable.isQuantifiable
        have hsuffix : Suffix (printBounds min max greedy) (elementsPrint es ++ rest) inner
            (.quantifier span min max greedy inner) :=
          .bounds hclear hmin hmax hle hquantifiable
        rw [Element.captures_quantifier] at hn
        exact Element.print_adds hf inner hinner hsuffix (he.held inner List.mem_cons_self)
          ((List.append_assoc _ _ _).symm.trans hn) hr
      | char | set | bracket | anchor | look | group | backreference =>
        exact Element.print_adds hf _ rfl (.none hclear _) he 
          ((List.append_assoc _ _ _).symm.trans hn) (by rw [hr, List.append_nil])
    have hnames : numbered s.names.toList = numbered r.names.toList ++ e.captures := by
      rw [hs.names, List.flatMap_singleton]
      exact numbered_grow ((List.append_assoc _ _ _).symm.trans hn)
    obtain ⟨t, ht⟩ := elementsPrint_adds hf es hc hes (by rw [hnames]; exact hn) hs.rest
    exact ⟨t, hs.trans ht⟩

theorem branchesPrint_closes (hf : d.Fits all) (bs : List Branch) {rest : List Char} {r : Reading}
    {later : List Capture} (hne : bs ≠ []) (hc : Clear rest)
    (hp : ∀ e ∈ bs.flatMap Branch.elements, e.Ready all) (he : r.level.elements = [])
    (hn : numbered r.names.toList ++ branchesCaptures bs ++ later = numbered all)
    (hr : r.cursor.rest = branchesPrint bs ++ rest) : ∃ s, r.Closes d all bs rest s := by
  match bs with
  | [] => exact absurd rfl hne
  | [.mk span es] =>
    rw [branchesCaptures, List.flatMap_singleton] at hn
    rw [List.flatMap_singleton] at hp
    obtain ⟨s, hs⟩ := elementsPrint_adds hf es hc hp hn hr
    refine ⟨s, hs.steps, hs.rest, hs.groups, fun stop => ?_, ?_, hs.references⟩
    · rw [List.map_reverse, hs.close he span, List.reverse_cons, List.map_reverse, List.map_singleton]
    · rw [hs.names, branchesCaptures, List.flatMap_singleton]
      rfl
  | .mk span es :: b :: bs =>
    have hcaptures : branchesCaptures (.mk span es :: b :: bs) =
        es.flatMap Element.captures ++ branchesCaptures (b :: bs) := List.flatMap_cons
    rw [List.flatMap_cons] at hp
    obtain ⟨hes, hbs⟩ := List.forall_mem_append.mp hp
    rw [hcaptures] at hn
    have hfirst : numbered r.names.toList ++ es.flatMap Element.captures ++
        (branchesCaptures (b :: bs) ++ later) = numbered all := by simpa using hn
    have htext : r.cursor.rest =
        elementsPrint es ++ '|' :: (branchesPrint (b :: bs) ++ rest) := by
      rw [hr, branchesPrint, Branch.print, List.append_assoc]
      · rfl
      · exact nofun
    obtain ⟨s, hs⟩ := elementsPrint_adds hf es (.cons (by decide)) hes hfirst htext
    obtain ⟨t, hbar, hrest, hgroups, hnames, hreferences, helements, hbranches⟩ := bar_print hs he span
    have hnumbered : numbered t.names.toList = numbered r.names.toList ++ es.flatMap Element.captures := by
      rw [hnames, hs.names]
      exact numbered_grow hfirst
    obtain ⟨u, hu⟩ := branchesPrint_closes hf (b :: bs) (List.cons_ne_nil _ _) hc hbs helements
      (by rw [hnumbered]; simpa using hn) hrest
    refine ⟨u, (hs.steps.trans hbar).trans hu.steps, hu.rest,
      hu.groups.trans (hgroups.trans hs.groups), fun stop => ?_, ?_, fun x hx => ?_⟩
    · rw [hu.branches, List.map_reverse, hbranches]
      simp
    · rw [hu.names, hnames, hs.names, hcaptures]
      simp
    · rcases hu.references x hx with hx | hx
      · exact hs.references x (hreferences ▸ hx)
      · exact .inr hx

end

end

namespace Reading

variable {tree : PatternTree} {d : Dialect}

/-- The steps from the start of the print of a tree lead to its end, where the tree has been read. -/
theorem steps_print (hw : tree.WellFormed true) (hp : tree.Printable)
    (hdot : ∀ e ∈ tree.pattern.elements, e.DotFree) (hf : d.Fits tree.names) :
    ∃ s, (ofText tree.print).Closes d tree.names tree.pattern.branches [] s ∧
      s.names.toList = tree.names := by
  have hready : ∀ e ∈ tree.pattern.branches.flatMap Branch.elements, e.Ready tree.names := by
    intro e he x hx
    have hmem : x ∈ tree.pattern.elements := by
      rw [Pattern.elements_eq]
      exact List.mem_flatMap.mpr ⟨e, he, hx⟩
    exact ⟨hw.elements x hmem, hp.elements x hmem, hdot x hmem⟩
  have hcaptures : branchesCaptures tree.pattern.branches = numbered tree.names := by
    rw [← Pattern.captures_eq, hw.captures]
  have hnumbered : numbered (ofText tree.print).names.toList ++
      branchesCaptures tree.pattern.branches ++ [] = numbered tree.names := by
    rw [List.append_nil, hcaptures]
    rfl
  have hclear : Clear [] := nofun
  obtain ⟨s, hs⟩ := branchesPrint_closes hf tree.pattern.branches hw.branches hclear hready rfl
    hnumbered (List.append_nil _).symm
  refine ⟨s, hs, ?_⟩
  rw [hs.names, hcaptures, numbered_map_name]
  rfl

theorem ofText_print (hw : tree.WellFormed true) (hp : tree.Printable)
    (hdot : ∀ e ∈ tree.pattern.elements, e.DotFree) :
    (GroupCount.ofText tree.print).total = tree.names.length := by
  have hf : Dialect.Fits ⟨true, tree.names.length, false⟩ tree.names :=
    ⟨rfl, rfl, hw.distinct, hp.names⟩
  obtain ⟨s, hs, hnames⟩ := steps_print hw hp hdot hf
  have hcount := hs.steps.counted
  rw [hs.rest] at hcount
  have hstart : (ofText tree.print).counted = ⟨0, false⟩ := by simp [counted, ofText]
  rw [GroupCount.scan, hstart] at hcount
  have htotal : s.counted.total = tree.names.length := by
    rw [← hnames]
    exact Array.length_toList.symm
  rw [← htotal, hcount]
  rfl

end Reading

/-- A tree that is printed is read back, up to the places of its parts. -/
theorem parse_print {tree : PatternTree} (hw : tree.WellFormed true) (hp : tree.Printable)
    (hdot : ∀ e ∈ tree.pattern.elements, e.DotFree) :
    ∃ read, parse true tree.print = .ok read ∧ read.bare = tree.bare := by
  have hf : Dialect.Fits ⟨true, .ofText tree.print⟩ tree.names :=
    ⟨rfl, Reading.ofText_print hw hp hdot, hw.distinct, hp.names⟩
  obtain ⟨s, hs, hnames⟩ := Reading.steps_print hw hp hdot hf
  have hknown : s.references.reverse.find? (fun x => !s.names.contains (some x.1)) =
      none := by
    refine List.find?_eq_none.mpr fun x hx => ?_
    have hmem : some x.1 ∈ s.names.toList := by
      rcases hs.references x (List.mem_reverse.mp hx) with hx | hx
      · cases hx
      · exact hnames.symm ▸ hx
    simpa using hmem
  have hgroups : s.groups = [] := hs.groups
  let read : PatternTree :=
    ⟨⟨⟨0, s.cursor.byte⟩, (s.level.close s.cursor.byte).reverse⟩, s.names.toList⟩
  have hfinish : s.finish = .ok read := by
    rw [Reading.finish, hgroups, hknown]
  refine ⟨read, ?_, ?_⟩
  · have hend : s.cursor.peek? = none := by rw [Cursor.peek?, hs.rest, List.head?_nil]
    exact Reading.run_eq_ok.mpr ⟨s, hs.steps, hend, hfinish⟩
  · simp only [PatternTree.bare, read, hs.branches, hnames]
    rfl

/-- A named group with two alternatives, of which one is a lazy loop and one is empty. -/
theorem parse_print_named_group :
    ∃ tree : PatternTree, tree.WellFormed true ∧ tree.Printable ∧
      (∀ e ∈ tree.pattern.elements, e.DotFree) ∧
      tree.print = "(?<a>\\d\x7b2,\x7d?|)[^\\w\\u\x7b61\x7d]\\k<a>".toList ∧
      ∃ read, parse true tree.print = .ok read ∧ read.bare = tree.bare := by
  let span : Span := ⟨0, 0⟩
  let tree : PatternTree := ⟨⟨span, [.mk span [
    .group span (some ⟨1, some "a"⟩)
      [.mk span [.quantifier span 2 none false (.set span ⟨.digit, false⟩)], .mk span []],
    .bracket span true [⟨span, .set ⟨.word, false⟩⟩, ⟨span, .char 'a'⟩],
    .backreference span (.name "a")]]⟩, [some "a"]⟩
  have hparts : tree.pattern.elements = [
      .group span (some ⟨1, some "a"⟩)
        [.mk span [.quantifier span 2 none false (.set span ⟨.digit, false⟩)], .mk span []],
      .quantifier span 2 none false (.set span ⟨.digit, false⟩),
      .set span ⟨.digit, false⟩,
      .bracket span true [⟨span, .set ⟨.word, false⟩⟩, ⟨span, .char 'a'⟩],
      .backreference span (.name "a")] := by
    simp [tree, Pattern.elements_eq, Element.parts_eq, Element.held, Branch.elements]
  have hw : tree.WellFormed true := by
    refine ⟨by simp [tree], ?_, by simp [tree], ?_⟩
    · simp [tree, Pattern.captures_eq, branchesCaptures, Branch.elements, Element.captures_eq,
        Element.held, Node.capture?, numbered]
    · simp [hparts, Element.Formed, Element.Repeatable, MemberKind.Ordered, tree]
  have hp : tree.Printable := by
    refine ⟨by simp [hparts, Element.Printable, CharSet.Printable, MemberKind.Printable, maxBound], ?_⟩
    simp only [tree, List.mem_singleton, Option.some.injEq]
    rintro _ rfl
    exact ⟨'a', [], rfl, by decide +kernel, by simp; decide +kernel⟩
  have hdot : ∀ e ∈ tree.pattern.elements, e.DotFree := by
    simp [hparts, Element.DotFree, MemberKind.isDot, CharSet.isDot]
  exact ⟨tree, hw, hp, hdot, by decide +kernel, parse_print hw hp hdot⟩

/-- The kinds of the members of a class. -/
def Element.memberKinds : Element → List MemberKind
  | .bracket _ _ members => members.map ClassMember.kind
  | _ => []

/-- A dot that is printed in a class is read back as the character. -/
theorem parse_print_dot_in_class :
    ∃ tree : PatternTree, tree.WellFormed true ∧ tree.Printable ∧ tree.print = "[.]".toList ∧
      ∃ read, parse true tree.print = .ok read ∧ read.bare ≠ tree.bare := by
  let span : Span := ⟨0, 0⟩
  let tree : PatternTree :=
    ⟨⟨span, [.mk span [.bracket span false [⟨span, .set ⟨.dot, false⟩⟩]]]⟩, []⟩
  let kinds (t : PatternTree) : List (List MemberKind) :=
    (t.pattern.branches.flatMap Branch.elements).map Element.memberKinds
  have hparts : tree.pattern.elements = [.bracket span false [⟨span, .set ⟨.dot, false⟩⟩]] := by
    simp [tree, Pattern.elements_eq, Element.parts_eq, Element.held, Branch.elements]
  have hw : tree.WellFormed true := by
    refine ⟨by simp [tree], ?_, by simp [tree], ?_⟩
    · simp [tree, Pattern.captures_eq, branchesCaptures, Branch.elements, Element.captures_eq,
        Element.held, Node.capture?, numbered]
    · simp [hparts, Element.Formed, MemberKind.Ordered]
  have hp : tree.Printable :=
    ⟨by simp [hparts, Element.Printable, CharSet.Printable, MemberKind.Printable], by simp [tree]⟩
  have hprint : tree.print = "[.]".toList := by decide +kernel
  have hkinds : (parse true "[.]".toList).toOption.map (fun read => kinds read.bare) =
      some [[.char '.']] := by decide +kernel
  refine ⟨tree, hw, hp, hprint, ?_⟩
  rw [hprint]
  cases hread : parse true "[.]".toList with
  | error e =>
    rw [hread] at hkinds
    cases hkinds
  | ok read =>
    refine ⟨read, rfl, fun hsame => ?_⟩
    rw [hread] at hkinds
    have hchar : kinds tree.bare = [[.char '.']] := hsame ▸ Option.some.inj hkinds
    exact absurd hchar (by decide)

end RegexInsight
