import RegexInsight.Proofs.Searches
import RegexInsight.Proofs.Slices

/-! The matches that are collected. Each is found by a search that begins where the one before has
ended, or a character further if that one is empty, so they come in order and none is passed over.
They are shown as slices of the text. -/
namespace RegexInsight
namespace Regex

/-- What up to `count` searches find, the first of which begins at `start`, and whether they were cut
short. -/
inductive Lists (r : Regex) (s : Subject) : Nat → Nat → List Captures → Bool → Prop
  | cut (start : Nat) : Lists r s 0 start [] true
  | none {count start : Nat} : r.capturesFrom s start = .ok none →
    Lists r s (count + 1) start [] false
  | last {count start : Nat} {c : Captures} : r.capturesFrom s start = .ok (some c) →
    r.next? s c = none → Lists r s (count + 1) start [c] false
  | more {count start next : Nat} {c : Captures} {cs : List Captures} {truncated : Bool} :
    r.capturesFrom s start = .ok (some c) → r.next? s c = some next →
    Lists r s count next cs truncated → Lists r s (count + 1) start (c :: cs) truncated

variable {r : Regex} {s : Subject} {count start : Nat} {cs : List Captures} {truncated : Bool}

theorem collectFrom_lists {found : List MatchRecord} {l : MatchList}
    (h : r.collectFrom s found count start = .ok l) :
    ∃ cs, r.Lists s count start cs l.truncated ∧ l.found = found.reverse ++ cs.map (r.record s) := by
  induction count generalizing found start with
  | zero =>
    cases h
    exact ⟨[], .cut start, by simp⟩
  | succ count ih =>
    rw [collectFrom_succ] at h
    cases hfound : r.capturesFrom s start with
    | error e =>
      rw [hfound] at h
      cases h
    | ok hit =>
      rw [hfound] at h
      cases hit with
      | none =>
        cases h
        exact ⟨[], .none hfound, by simp⟩
      | some c =>
        simp only [Except.bind] at h
        split at h
        · rename_i hlast
          cases h
          exact ⟨[c], .last hfound hlast, by simp⟩
        · rename_i hnext
          obtain ⟨cs, hlists, hrecords⟩ := ih h
          exact ⟨c :: cs, .more hfound hnext hlists, by simpa using hrecords⟩

theorem Lists.take {more : Nat} {cs' : List Captures} {truncated' : Bool}
    (h : r.Lists s count start cs truncated) (h' : r.Lists s more start cs' truncated')
    (hle : count ≤ more) : cs = cs'.take count := by
  induction h generalizing more cs' truncated' with
  | cut start => rw [List.take_zero]
  | none hnone =>
    cases h' with
    | cut => omega
    | none => rfl
    | last hsome | more hsome => cases hnone.symm.trans hsome
  | last hsome hlast =>
    cases h' with
    | cut => omega
    | none hnone => cases hsome.symm.trans hnone
    | last hsome' =>
      cases hsome.symm.trans hsome'
      rw [List.take_succ_cons, List.take_nil]
    | more hsome' hnext =>
      cases hsome.symm.trans hsome'
      cases hlast.symm.trans hnext
  | more hsome hnext _ ih =>
    cases h' with
    | cut => omega
    | none hnone => cases hsome.symm.trans hnone
    | last hsome' hlast =>
      cases hsome.symm.trans hsome'
      cases hnext.symm.trans hlast
    | more hsome' hnext' hrest =>
      cases hsome.symm.trans hsome'
      cases hnext.symm.trans hnext'
      rw [List.take_succ_cons, ← ih hrest (by omega)]

theorem Lists.length_le (h : r.Lists s count start cs truncated) (hg : r.flags.global = false) :
    cs.length ≤ 1 := by
  cases h with
  | cut | none | last => simp
  | more _ hnext => simp [next?, hg] at hnext

section
variable {unicode multiline : Bool} {source : List Char} {tree : PatternTree}

/-- Every match that is listed is one that a search from `start` or from further on has found. -/
theorem Lists.hits (hp : parse unicode source = .ok tree)
    (hc : compile multiline tree = .ok r.program) (h : r.Lists s count start cs truncated)
    (hs : start ≤ s.size) : ∀ c ∈ cs, ∃ first, start ≤ first ∧ r.Hit s first c := by
  induction h with
  | cut | none => simp
  | last hsome =>
    exact List.forall_mem_singleton.mpr ⟨_, Nat.le_refl _, capturesFrom_some hp hc hs hsome⟩
  | more hsome hnext _ ih =>
    have hhit := capturesFrom_some hp hc hs hsome
    obtain ⟨hlt, _, hle, _⟩ := hhit.next hnext
    refine List.forall_mem_cons.mpr ⟨⟨_, Nat.le_refl _, hhit⟩, fun c hmem => ?_⟩
    obtain ⟨first, hfirst, hrest⟩ := ih hle c hmem
    have hstart := hhit.start_le
    exact ⟨first, by omega, hrest⟩

/-- The matches come one behind the other, and each begins behind where the one before began. -/
theorem Lists.apart (hp : parse unicode source = .ok tree)
    (hc : compile multiline tree = .ok r.program) (h : r.Lists s count start cs truncated)
    (hs : start ≤ s.size) :
    cs.Pairwise fun a b => a.whole.2 ≤ b.whole.1 ∧ a.whole.1 < b.whole.1 := by
  induction h with
  | cut | none => exact .nil
  | last => exact List.pairwise_singleton _ _
  | more hsome hnext hrest ih =>
    obtain ⟨hlt, hstop, hle, _⟩ := (capturesFrom_some hp hc hs hsome).next hnext
    refine List.pairwise_cons.mpr ⟨fun c hmem => ?_, ih hle⟩
    obtain ⟨first, hfirst, hhit⟩ := hrest.hits hp hc hle c hmem
    have hstart := hhit.start_le
    omega

/-- Each search begins further on, so no more searches are cut short than there are positions. -/
theorem Lists.le_size (hp : parse unicode source = .ok tree)
    (hc : compile multiline tree = .ok r.program) (h : r.Lists s count start cs truncated)
    (hs : start ≤ s.size) (ht : truncated = true) : count ≤ s.size + 1 - start := by
  induction h with
  | cut => exact Nat.zero_le _
  | none | last => cases ht
  | more hsome hnext _ ih =>
    have hhit := capturesFrom_some hp hc hs hsome
    obtain ⟨hlt, _, hle, _⟩ := hhit.next hnext
    have hstart := hhit.start_le
    have hcount := ih hle ht
    omega

theorem Lists.sticky (hp : parse unicode source = .ok tree)
    (hc : compile multiline tree = .ok r.program) (h : r.Lists s count start cs truncated)
    (hs : start ≤ s.size) (hy : r.flags.sticky = true) :
    (∀ c ∈ cs.head?, c.whole.1 = start) ∧
      cs.IsChain fun a b => r.next? s a = some b.whole.1 := by
  induction h with
  | cut | none => simp
  | last hsome =>
    have hhit := capturesFrom_some hp hc hs hsome
    simpa using hhit.sticky hy
  | more hsome hnext _ ih =>
    have hhit := capturesFrom_some hp hc hs hsome
    obtain ⟨hhead, hchain⟩ := ih (hhit.next hnext).2.2.1
    refine ⟨by simpa using hhit.sticky hy, ?_⟩
    refine List.isChain_cons.mpr ⟨fun c hmem => ?_, hchain⟩
    rw [hnext, hhead c hmem]

/-- No position that matches is passed over: a match that is listed begins there or reaches over
it. -/
theorem Lists.complete (hp : parse unicode source = .ok tree)
    (hc : compile r.flags.multiline tree = .ok r.program) (h : r.Lists s count start cs truncated)
    (hs : start ≤ s.size) (ht : truncated = false) (hg : r.flags.global = true)
    (hy : r.flags.sticky = false) {p : Nat} (hsp : start ≤ p) (hps : p ≤ s.size)
    (hm : (r.machine s).Matches p) :
    ∃ c ∈ cs, p = c.whole.1 ∨ c.whole.1 < p ∧ p < c.whole.2 := by
  induction h with
  | cut => cases ht
  | none hnone => exact absurd hm (capturesFrom_none hp hc hy hnone hsp hps)
  | @last _ start c hsome hlast =>
    have hhit := capturesFrom_some hp hc hs hsome
    refine ⟨c, List.mem_cons_self, ?_⟩
    have hbefore : ¬ p < c.whole.1 := fun hlt => hhit.earlier p hsp hlt hm
    have hordered := hhit.ordered
    simp only [next?, hg, Bool.not_true, Bool.false_eq_true, if_false] at hlast
    split_ifs at hlast
    omega
  | @more _ start next c cs _ hsome hnext _ ih =>
    have hhit := capturesFrom_some hp hc hs hsome
    obtain ⟨hlt, hstop, hle, hwhere⟩ := hhit.next hnext
    by_cases hbehind : next ≤ p
    · obtain ⟨d, hd, hpos⟩ := ih hle ht hbehind
      exact ⟨d, List.mem_cons_of_mem _ hd, hpos⟩
    · have hbefore : ¬ p < c.whole.1 := fun hlt => hhit.earlier p hsp hlt hm
      exact ⟨c, List.mem_cons_self, by omega⟩

end
end Regex

/-- The search for `b` began where `a` ends, or a character further if `a` is empty. -/
def MatchRecord.Resumes (text : List Char) (a b : MatchRecord) : Prop :=
  if a.span.start < a.span.stop then b.span.start = a.span.stop
  else ∃ c, sliceChars? text ⟨a.span.stop, b.span.start⟩ = some [c]

/-- What holds of a list of matches: they and their groups are slices of the sample, they are in order
and apart, a larger limit only adds some behind, none is passed over unless the list was cut short,
and each begins where it has to if the pattern is sticky. -/
structure Regex.Enumerates (r : Regex) (sample : String) (limit : Nat) (l : MatchList) : Prop where
  texts : ∀ m ∈ l.found, sliceChars? sample.toList m.span = some m.text.toList
  groups : ∀ m ∈ l.found, ∀ g ∈ m.groups, match g.span with
    | some span => sliceChars? sample.toList span = some g.value.toList
    | none => g.value = ""
  ordered : ∀ m ∈ l.found, m.span.start ≤ m.span.stop
  apart : l.found.Pairwise fun a b => a.span.stop ≤ b.span.start
  distinct : (l.found.map MatchRecord.span).Nodup
  first : ∀ more ≥ limit, ∀ all, r.collect (.ofString sample) more = .ok all →
    l.found = all.found.take limit
  whole : sample.toList.length + 1 < limit → l.truncated = false
  complete : r.flags.global = true → r.flags.sticky = false → l.truncated = false →
    ∀ p ≤ sample.toList.length, (r.machine (.ofString sample)).Matches p →
      ∃ m ∈ l.found, m.span.start = width (sample.toList.take p) ∨
        m.span.start < width (sample.toList.take p) ∧ width (sample.toList.take p) < m.span.stop
  sticky : r.flags.sticky = true → (∀ m ∈ l.found.head?, m.span.start = 0) ∧
    l.found.IsChain (MatchRecord.Resumes sample.toList)
  single : r.flags.global = false → l.found.length ≤ 1

namespace Regex

variable {r : Regex} {text : List Char} {start : Nat} {c : Captures}

theorem Hit.span (h : r.Hit (.ofChars text) start c) :
    (r.record (.ofChars text) c).span =
      ⟨width (text.take c.whole.1), width (text.take c.whole.2)⟩ := by
  have hordered := h.ordered
  have hstop := h.stop_le
  rw [Subject.size_ofChars] at hstop
  change Subject.byteSpan _ c.whole = _
  rw [Subject.byteSpan, Subject.byteAt_ofChars (by omega), Subject.byteAt_ofChars hstop]

theorem Hit.slice (h : r.Hit (.ofChars text) start c) :
    sliceChars? text (r.record (.ofChars text) c).span =
      some (r.record (.ofChars text) c).text.toList := by
  have hstop := h.stop_le
  rw [Subject.size_ofChars] at hstop
  exact Subject.sliceChars?_byteSpan h.ordered hstop

theorem Hit.group_slice (h : r.Hit (.ofChars text) start c) :
    ∀ g ∈ (r.record (.ofChars text) c).groups, match g.span with
      | some span => sliceChars? text span = some g.value.toList
      | none => g.value = "" := by
  intro g hg
  obtain ⟨i, _, rfl⟩ := List.mem_map.mp hg
  unfold groupRecord
  cases hgroup : c.group? (i + 1) with
  | none => rfl
  | some span =>
    obtain ⟨hordered, hstop⟩ := h.groups (i + 1) span.1 span.2 hgroup
    rw [Subject.size_ofChars] at hstop
    exact Subject.sliceChars?_byteSpan hordered hstop

theorem Hit.span_covers (h : r.Hit (.ofChars text) start c) {p : Nat}
    (hp : p = c.whole.1 ∨ c.whole.1 < p ∧ p < c.whole.2) :
    let span := (r.record (.ofChars text) c).span
    span.start = width (text.take p) ∨
      span.start < width (text.take p) ∧ width (text.take p) < span.stop := by
  have hstop := h.stop_le
  rw [Subject.size_ofChars] at hstop
  rw [h.span]
  rcases hp with rfl | ⟨hfirst, hlast⟩
  · exact .inl rfl
  · exact .inr ⟨width_take_lt hfirst (by omega), width_take_lt hlast hstop⟩

theorem Hit.resumes {d : Captures} {first : Nat} (h : r.Hit (.ofChars text) start c)
    (hd : r.Hit (.ofChars text) first d) (hn : r.next? (.ofChars text) c = some d.whole.1) :
    (r.record (.ofChars text) c).Resumes text (r.record (.ofChars text) d) := by
  obtain ⟨hlt, _, hle, hwhere⟩ := h.next hn
  have hordered := h.ordered
  rw [Subject.size_ofChars] at hle
  rw [MatchRecord.Resumes, h.span, hd.span]
  rcases hwhere with hstop | ⟨hstop, hempty⟩
  · have hbytes := width_take_lt hlt hle
    rw [if_pos (hstop ▸ hbytes), hstop]
  · rw [if_neg (by rw [hempty]; exact Nat.lt_irrefl _), hstop]
    have hlast : c.whole.2 < text.length := by omega
    refine ⟨text[c.whole.2], ?_⟩
    rw [sliceChars?_take (Nat.le_add_right _ 1), List.drop_take, Nat.add_sub_cancel_left,
      List.drop_eq_getElem_cons hlast]
    rfl

theorem records_apart {cs : List Captures} (hh : ∀ c ∈ cs, ∃ first, r.Hit (.ofChars text) first c)
    (h : cs.Pairwise fun a b => a.whole.2 ≤ b.whole.1 ∧ a.whole.1 < b.whole.1) :
    (cs.map (r.record (.ofChars text))).Pairwise fun a b =>
      a.span.stop ≤ b.span.start ∧ a.span.start < b.span.start := by
  rw [List.pairwise_map]
  refine h.imp_of_mem fun {a b} ha hb hab => ?_
  obtain ⟨_, hhit⟩ := hh a ha
  obtain ⟨_, hhit'⟩ := hh b hb
  have hordered := hhit'.ordered
  have hstop := hhit'.stop_le
  rw [Subject.size_ofChars] at hstop
  rw [hhit.span, hhit'.span]
  exact ⟨width_take_le hab.1 (by omega), width_take_lt hab.2 (by omega)⟩

theorem records_sticky {cs : List Captures}
    (hh : ∀ c ∈ cs, ∃ first, r.Hit (.ofChars text) first c) (h₀ : ∀ c ∈ cs.head?, c.whole.1 = 0)
    (h : cs.IsChain fun a b => r.next? (.ofChars text) a = some b.whole.1) :
    (∀ m ∈ (cs.map (r.record (.ofChars text))).head?, m.span.start = 0) ∧
      (cs.map (r.record (.ofChars text))).IsChain (MatchRecord.Resumes text) := by
  constructor
  · intro m hm
    rw [List.head?_map] at hm
    obtain ⟨c, hc, rfl⟩ := Option.map_eq_some_iff.mp hm
    obtain ⟨_, hhit⟩ := hh c (List.mem_of_mem_head? hc)
    rw [hhit.span, h₀ c hc]
    rfl
  · rw [List.isChain_map]
    refine h.imp_of_mem_imp fun a b ha hb hnext => ?_
    obtain ⟨_, hhit⟩ := hh a ha
    obtain ⟨_, hhit'⟩ := hh b hb
    exact hhit.resumes hhit' hnext

/-- The matches that are collected, for a pattern that was compiled from a parsed tree. -/
theorem enumerates_of_parse {unicode : Bool} {source : List Char} {tree : PatternTree}
    (hp : parse unicode source = .ok tree) (hc : compile r.flags.multiline tree = .ok r.program)
    {sample : String} {limit : Nat} {l : MatchList}
    (h : r.collect (.ofString sample) limit = .ok l) : r.Enumerates sample limit l := by
  obtain ⟨cs, hlists, hfound⟩ := collectFrom_lists h
  rw [List.reverse_nil, List.nil_append] at hfound
  have hstart : 0 ≤ (Subject.ofString sample).size := Nat.zero_le _
  have hsize : (Subject.ofString sample).size = sample.toList.length := Subject.size_ofChars _
  have hhits : ∀ c ∈ cs, ∃ first, r.Hit (.ofChars sample.toList) first c := fun c hmem => by
    obtain ⟨first, _, hhit⟩ := hlists.hits hp hc hstart c hmem
    exact ⟨first, hhit⟩
  have hrecord : ∀ m ∈ l.found, ∃ first c, r.Hit (.ofChars sample.toList) first c ∧
      m = r.record (.ofChars sample.toList) c := by
    intro m hm
    rw [hfound] at hm
    obtain ⟨c, hmem, rfl⟩ := List.mem_map.mp hm
    obtain ⟨first, hhit⟩ := hhits c hmem
    exact ⟨first, c, hhit, rfl⟩
  have hapart := records_apart hhits (hlists.apart hp hc hstart)
  refine ⟨fun m hm => ?_, fun m hm => ?_, fun m hm => ?_, ?_, ?_, fun more hmore all hall => ?_,
    fun hl => ?_, fun hg hy ht p hps hmatch => ?_, fun hy => ?_, fun hg => ?_⟩
  · obtain ⟨first, c, hhit, rfl⟩ := hrecord m hm
    exact hhit.slice
  · obtain ⟨first, c, hhit, rfl⟩ := hrecord m hm
    exact hhit.group_slice
  · obtain ⟨first, c, hhit, rfl⟩ := hrecord m hm
    have hstop := hhit.stop_le
    rw [Subject.size_ofChars] at hstop
    rw [hhit.span]
    exact width_take_le hhit.ordered hstop
  · rw [hfound]
    exact hapart.imp And.left
  · rw [hfound, List.Nodup, List.pairwise_map]
    refine hapart.imp fun hab he => ?_
    rw [he] at hab
    exact Nat.lt_irrefl _ hab.2
  · obtain ⟨cs', hlists', hfound'⟩ := collectFrom_lists hall
    rw [hfound, hfound', hlists.take hlists' hmore, List.reverse_nil, List.nil_append,
      List.map_take]
  · by_contra ht
    have hcount := hlists.le_size hp hc hstart (by simpa using ht)
    omega
  · obtain ⟨c, hmem, hpos⟩ := hlists.complete hp hc hstart ht hg hy (Nat.zero_le p)
      (hsize ▸ hps) hmatch
    obtain ⟨first, hhit⟩ := hhits c hmem
    rw [hfound]
    exact ⟨_, List.mem_map_of_mem hmem, hhit.span_covers hpos⟩
  · obtain ⟨hhead, hchain⟩ := hlists.sticky hp hc hstart hy
    rw [hfound]
    exact records_sticky hhits hhead hchain
  · rw [hfound, List.length_map]
    exact hlists.length_le hg

theorem build_of_parse (r : Regex) {tree : PatternTree}
    (hp : parse r.flags.unicode r.source.toList = .ok tree)
    (hc : compile r.flags.multiline tree = .ok r.program) (hn : r.names = tree.names)
    (hl : r.stepLimit = defaultStepLimit) : build r.source r.flags = .ok r := by
  rw [build, hp]
  dsimp only
  rw [ofTree, hc, ← hn, ← hl]

theorem build_parses {source : String} {flags : Flags} (h : build source flags = .ok r) :
    ∃ tree, parse flags.unicode source.toList = .ok tree ∧
      compile r.flags.multiline tree = .ok r.program := by
  unfold build at h
  split at h
  · cases h
  · rename_i tree htree
    unfold ofTree at h
    split at h
    · cases h
    · cases h
    · cases h
    · rename_i hc
      cases h
      exact ⟨tree, htree, hc⟩

theorem build_flags {source : String} {flags : Flags} (h : build source flags = .ok r) :
    r.flags = flags := by
  unfold build at h
  split at h
  · cases h
  · unfold ofTree at h
    split at h <;> cases h
    rfl

end Regex

/-- The matches that are collected are slices of the sample, in order and apart, and none is missed. -/
theorem collect_enumerates {source : String} {flags : Flags} {r : Regex}
    (hb : Regex.build source flags = .ok r) (stepLimit : Nat) {sample : String} {limit : Nat}
    {l : MatchList}
    (h : ({ r with stepLimit := stepLimit } : Regex).collect (.ofString sample) limit = .ok l) :
    ({ r with stepLimit := stepLimit } : Regex).Enumerates sample limit l := by
  obtain ⟨tree, hp, hc⟩ := Regex.build_parses hb
  exact Regex.enumerates_of_parse (r := { r with stepLimit := stepLimit }) hp hc h

/-- Two empty matches around one with a group, in a text with a character of two bytes. -/
theorem collect_enumerates_empty :
    ∃ r l, Regex.build "(b)*" ⟨true, false, false, false, false, false⟩ = .ok r ∧
      ({ r with stepLimit := 50 } : Regex).collect (.ofString "éb") 9 = .ok l ∧
      l.found.map MatchRecord.span = [⟨0, 0⟩, ⟨2, 3⟩, ⟨3, 3⟩] ∧
      ({ r with stepLimit := 50 } : Regex).Enumerates "éb" 9 l := by
  let l : MatchList := ⟨[⟨⟨0, 0⟩, "", 1, [⟨1, none, "", none⟩]⟩,
    ⟨⟨2, 3⟩, "b", 1, [⟨1, none, "b", some ⟨2, 3⟩⟩]⟩, ⟨⟨3, 3⟩, "", 1, [⟨1, none, "", none⟩]⟩], false⟩
  have h : ((Regex.build "(b)*" ⟨true, false, false, false, false, false⟩).toOption.map fun r =>
      ({ r with stepLimit := 50 } : Regex).collect (.ofString "éb") 9) = some (.ok l) := by
    decide +kernel
  cases hb : Regex.build "(b)*" ⟨true, false, false, false, false, false⟩ with
  | error e =>
    rw [hb] at h
    cases h
  | ok r =>
    rw [hb] at h
    have hl := Option.some.inj h
    exact ⟨r, l, rfl, hl, rfl, collect_enumerates hb 50 hl⟩

end RegexInsight
