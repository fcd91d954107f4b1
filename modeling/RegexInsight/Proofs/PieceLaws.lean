import RegexInsight.Proofs.PieceLooks
import RegexInsight.Proofs.PieceLoops
import RegexInsight.Proofs.PieceTests

/-! What can be said of every piece of code. A law says something of a piece: which slots it may write,
which groups have to be unset before it, where it is entered and where it is left, and with which
outcomes. It holds of single instructions, and of what is put together from pieces of which it holds,
so it holds of the code of a tree. That a piece performs its outcomes is such a law. -/
namespace RegexInsight
namespace Machine

variable {m : Machine}

structure Law (m : Machine) where
  Holds : Region → List Nat → Nat → Nat → (Point → List Point) → Prop
  nothing (r : Region) (unset : List Nat) (pc : Nat) : Holds r unset pc pc fun p => [p]
  widen {r s : Region} {unset unset' : List Nat} {entry exit : Nat} {f : Point → List Point} :
    r.Fits m.program → s.Fits m.program → r.Within s → unset ⊆ unset' →
    Holds r unset entry exit f → Holds s unset' entry exit f
  seq {r₁ r₂ r : Region} {unset₁ unset₂ unset : List Nat} {entry middle exit : Nat}
    {f g : Point → List Point} : Holds r₁ unset₁ entry middle f → Holds r₂ unset₂ middle exit g →
    r₁.Fits m.program → r₂.Fits m.program → r.Fits m.program → r₁.Within r → r₂.Within r →
    unset₁ ⊆ unset → unset₂ ⊆ unset → (∀ t ∈ unset₂, t ≤ m.program.groupCount ∧ t ∉ r₁.groups) →
    Holds r unset entry exit fun p => (f p).flatMap g
  split {r : Region} {unset : List Nat} {entry first second exit : Nat} {f g : Point → List Point} :
    m.program.insts[entry]? = some (.split first second) → Holds r unset first exit f →
    Holds r unset second exit g → Holds r unset entry exit fun p => f p ++ g p
  jump {r : Region} {unset : List Nat} {entry exit : Nat} :
    m.program.insts[entry]? = some (.jump exit) → Holds r unset entry exit fun p => [p]
  consume {r : Region} {unset : List Nat} {pc : Nat} {names : List (Option String)} {inst : Inst}
    {test : Char → Bool} : m.program.insts[pc]? = some inst →
    ((∃ value, inst = .char value ∧ test = (m.mode.sameChar · value)) ∨
      (∃ set negate, inst = .set set negate ∧ test = fun x => set.holds m.mode x != negate) ∨
      ∃ items negate, inst = .bracket items negate ∧
        test = fun x => m.mode.anyItem items x != negate) →
    Holds r unset pc (pc + 1) ((m.attempt names).consume test)
  assertStart {r : Region} {unset : List Nat} {pc : Nat} {names : List (Option String)} :
    m.program.insts[pc]? = some .assertStart →
    Holds r unset pc (pc + 1) fun p => if (m.attempt names).holdsAt p.pos .start then [p] else []
  assertEnd {r : Region} {unset : List Nat} {pc : Nat} {names : List (Option String)} :
    m.program.insts[pc]? = some .assertEnd →
    Holds r unset pc (pc + 1) fun p => if (m.attempt names).holdsAt p.pos .stop then [p] else []
  wordBoundary {r : Region} {unset : List Nat} {pc : Nat} {names : List (Option String)}
    {negate : Bool} : m.program.insts[pc]? = some (.wordBoundary negate) →
    Holds r unset pc (pc + 1) fun p =>
      if (m.attempt names).holdsAt p.pos (if negate then .nonWordBoundary else .wordBoundary)
      then [p] else []
  refer {r : Region} {unset : List Nat} {pc : Nat} {names : List (Option String)} {ref : Reference}
    {group : Nat} : ref.group? names = some group → group ≤ m.program.groupCount →
    (m.program.groupCount + 1) * 2 ≤ m.program.slotCount →
    m.program.insts[pc]? = some (.backreference group) →
    Holds r unset pc (pc + 1) ((m.attempt names).refer ref)
  group {groups : List Nat} {low high i entry middle : Nat} {f : Point → List Point} :
    (⟨i :: groups, low, high⟩ : Region).Fits m.program → i ∉ groups →
    m.program.insts[entry]? = some (.save (i * 2)) →
    m.program.insts[middle]? = some (.save (i * 2 + 1)) →
    Holds ⟨groups, low, high⟩ groups (entry + 1) middle f →
    Holds ⟨i :: groups, low, high⟩ (i :: groups) entry (middle + 1) fun p =>
      (f (p.setGroup i none)).map fun q => q.setGroup i (some (p.pos, q.pos))
  copy {captures : List Capture} {low high entry exit : Nat} {f : Point → List Point} :
    (⟨captures.map Capture.index, low, high⟩ : Region).Fits m.program →
    (∀ k slot, (slotsOf (captures.map Capture.index))[k]? = some slot →
      m.program.insts[entry + k]? = some (.clear slot)) →
    Holds ⟨captures.map Capture.index, low, high⟩ (captures.map Capture.index)
      (entry + (slotsOf (captures.map Capture.index)).length) exit f →
    Holds ⟨captures.map Capture.index, low, high⟩ [] entry exit fun p => f (p.forget captures)
  option {r : Region} {unset : List Nat} {entry exit : Nat} {greedy : Bool} {f : Point → List Point} :
    m.program.insts[entry]? = some (choice greedy (entry + 1) exit) →
    Holds r unset (entry + 1) exit f → Holds r unset entry exit fun p => prefer greedy (f p) p
  loop {greedy : Bool} {groups : List Nat} {slot high head check exit : Nat} {f : Point → List Point} :
    m.Loop greedy groups slot high head check exit →
    Holds ⟨groups, slot + 1, high⟩ [] (head + 2) check f →
    Holds ⟨groups, slot, high⟩ [] head exit fun p => star greedy f (m.text.size - p.pos) p
  ahead {r : Region} {groups : List Nat} {entry stop : Nat} {negate : Bool} {f : Point → List Point} :
    r.Fits m.program → m.program.insts[entry]? = some (.look false negate (stop + 1)) →
    m.program.insts[stop]? = some .accept → Holds r groups (entry + 1) stop f →
    Holds r groups entry (stop + 1) fun p => look negate (f p).head? p
  behind {r : Region} {groups : List Nat} {entry stop : Nat} {negate : Bool} {f : Point → List Point} :
    r.Fits m.program → m.program.insts[entry]? = some (.look true negate (stop + 1)) →
    m.program.insts[stop]? = some .accept → Holds r groups (entry + 1) stop f →
    Holds r groups entry (stop + 1) fun p => look negate (RegexInsight.behind (fun start =>
      (f { p with pos := start }).find? fun q => q.pos == p.pos) p.pos) p

def performs (m : Machine) : m.Law where
  Holds := m.Performs
  nothing := .nothing
  widen := .widen
  seq := .seq
  split := .split
  jump := .jump
  consume := .consume
  assertStart := .assertStart
  assertEnd := .assertEnd
  wordBoundary := .wordBoundary
  refer := .refer
  group := .group
  copy := .copy
  option := .option
  loop := .loop
  ahead := .ahead
  behind := .behind

end Machine
end RegexInsight
