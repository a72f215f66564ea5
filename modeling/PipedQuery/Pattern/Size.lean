import Std.Data.HashMap
import PipedQuery.Pattern.ByteRange
import PipedQuery.Pattern.Flaw
import PipedQuery.Pattern.Form
import PipedQuery.Pattern.LiteralTrie

/-!
# How large patterns get

The bytes that the automata of a pattern take.  One reads texts forwards and one backwards, and both
have to stay below a limit (`Form.fits`).

States are numbered in the order in which they are laid out, and an automaton grows by a form in the
same way wherever it stands, with one exception: in classes beyond ASCII, equal states are shared as
far as a table of few slots remembers them, and the slot depends on the numbers of states.
-/

namespace PipedQuery.Pattern

/-- The bytes of a state. -/
def stateSize : Nat := 32

/-- The bytes of a link from a fork. -/
def forkLinkSize : Nat := 4

/-- The bytes of a link that reads a byte, where a state has several of them. -/
def byteLinkSize : Nat := 8

/-- The two ways in which automata read. -/
inductive Direction where
  | forward
  | backward
deriving DecidableEq

/-- How far an automaton is laid out: its states, and the bytes of the links that are kept outside of
    them. -/
structure Draft where
  states : Nat
  linkBytes : Nat

namespace Draft

/-- The automaton without states. -/
def empty : Draft := ⟨0, 0⟩

/-- The bytes of the automaton. -/
def bytes (d : Draft) : Nat := stateSize * d.states + d.linkBytes

/-- The draft, if it is not too large. -/
def checked (d : Draft) : Option Draft := if d.bytes ≤ maxSize then some d else none

/-- The draft with more states and links. -/
def add (d : Draft) (states linkBytes : Nat) : Draft := ⟨d.states + states, d.linkBytes + linkBytes⟩

/-- The draft with more states and links, if it does not get too large. -/
def grow (states linkBytes : Nat) (d : Draft) : Option Draft := (d.add states linkBytes).checked

end Draft

/-- Repeats a step that may fail. -/
def iterate {σ : Type} (step : σ → Option σ) : Nat → σ → Option σ
  | 0, s => some s
  | n + 1, s =>
    match step s with
    | none => none
    | some s => iterate step n s

/-! ## Classes beyond ASCII -/

/-- The states that are remembered by their links, one a slot. -/
abbrev Memo := Std.HashMap Nat (List Nat × Nat)

/-- The slot of a state with the given links: a hash of 64 bits, taken modulo the number of slots. -/
def slotOf (slots : Nat) (links : List Nat) : Nat :=
  (links.foldl (fun h (n : Nat) => (h ^^^ n.toUInt64) * 1099511628211) 14695981039346656037).toNat % slots

/-- The state with the given links, if it is remembered. -/
def Memo.state? (m : Memo) (slot : Nat) (links : List Nat) : Option Nat :=
  match m[slot]? with
  | some (known, state) => if known == links then some state else none
  | none => none

/-- A draft with the states that are remembered in it. -/
structure Sharing where
  draft : Draft
  memo : Memo

/-- The state with the given links, which is laid out unless it is remembered. -/
def Sharing.state (slots linkBytes : Nat) (s : Sharing) (links : List Nat) : Nat × Sharing :=
  let slot := slotOf slots links
  match s.memo.state? slot links with
  | some state => (state, s)
  | none =>
    let state := s.draft.states
    (state, ⟨s.draft.add 1 linkBytes, s.memo.insert slot (links, state)⟩)

/-- Lays out the state that reads some sequences of byte ranges up to the state `goal`, behind the
    states that follow it.  Sequences that start alike share a link.  The depth is the length of the
    longest sequence. -/
def layBranches (goal : Nat) : Nat → List (List ByteRange) → Sharing → Nat × Sharing
  | 0, _, s => (goal, s)
  | depth + 1, seqs, s =>
    let groups := seqs.splitBy fun a b => a.head? == b.head?
    let (links, s) := groups.foldl (fun (links, s) group =>
      match group with
      | (r :: more) :: _ =>
        let (next, s) :=
          if more.isEmpty then (goal, s) else layBranches goal depth (group.map List.tail) s
        (next :: r.2 :: r.1 :: links, s)
      | _ => (links, s)) ([], s)
    s.state 10000 (byteLinkSize * groups.length) links.reverse

/-- Lays out the states that read a sequence of byte ranges from its end on, and gives the first of
    them.  States that go on alike are shared. -/
def layChain (goal : Nat) : List ByteRange → Sharing → Nat × Sharing
  | [], s => (goal, s)
  | r :: seq, s =>
    let (next, s) := s.state 1000 0 [goal, r.1, r.2]
    layChain next seq s

/-- The draft with a class beyond ASCII. -/
def layClass (direction : Direction) (ranges : CodeRanges) (d : Draft) : Draft :=
  let seqs := byteRanges ranges
  match direction with
  | .forward => (layBranches d.states 4 seqs ⟨d.add 1 0, ∅⟩).2.draft
  | .backward =>
    let start : Sharing := ⟨d.add 2 (forkLinkSize * seqs.length), ∅⟩
    (seqs.foldl (fun s seq => (layChain (d.states + 1) seq s).2) start).draft

/-! ## Tries -/

mutual

/-- The draft with what follows a node of a trie. -/
def Trie.lay : Trie → Draft → Draft
  | .node closed branches, d =>
    let d := Trie.layGroup branches (Trie.layGroups closed d)
    let groups := ((branches :: closed).filter fun g => !g.isEmpty).length
    d.add 1 (forkLinkSize * (groups + closed.length))

/-- The draft with several groups of branches. -/
def Trie.layGroups : List (List (Nat × Trie)) → Draft → Draft
  | [], d => d
  | group :: groups, d => Trie.layGroup group (Trie.layGroups groups d)

/-- The draft with a group of branches, which is a state of its own. -/
def Trie.layGroup : List (Nat × Trie) → Draft → Draft
  | [], d => d
  | [branch], d => (Trie.layBranch branch d).add 1 0
  | branch :: branches, d =>
    (Trie.layFurther branches (Trie.layBranch branch d)).add 1
      (byteLinkSize * (branches.length + 1))

/-- The draft with what follows several branches. -/
def Trie.layFurther : List (Nat × Trie) → Draft → Draft
  | [], d => d
  | branch :: branches, d => Trie.layFurther branches (Trie.layBranch branch d)

/-- The draft with what follows a branch. -/
def Trie.layBranch : Nat × Trie → Draft → Draft
  | (_, t), d => if t.isLeaf then d else t.lay d

end

/-- The bytes of a text, in the order in which they are read. -/
def Direction.bytesOf (direction : Direction) (cs : List Char) : List Nat :=
  let bytes := cs.flatMap fun c => encode c.toNat
  match direction with
  | .forward => bytes
  | .backward => bytes.reverse

namespace Form

/-- The text that a form is. -/
def text? : Form → Option (List Char)
  | .text cs => some cs
  | _ => none

mutual

/-- The draft with a form, if it does not get too large. -/
def lay (direction : Direction) : Form → Draft → Option Draft
  | .empty, d | .place _, d => d.grow 1 0
  | .text cs, d => d.grow (textSize cs) 0
  | .oneOf _ ranges, d =>
    if ranges.all (·.2 < 0x80) then d.grow 2 (byteLinkSize * ranges.length)
    else (layClass direction ranges d).checked
  | .group body, d =>
    match direction with
    | .forward => do
      let d ← d.grow 1 0
      let d ← body.lay direction d
      d.grow 1 0
    | .backward => body.lay direction d
  | .sequence parts, d => layParts direction parts d
  | .choice options, d =>
    match options.mapM text? with
    | some texts => ((Trie.ofList (texts.map direction.bytesOf)).lay (d.add 1 0)).checked
    | none => layOptions direction 0 options d
  | .repeated body _ low high, d =>
    match high with
    | none =>
      if 0 < low then do
        let d ← iterate (body.lay direction) low d
        d.grow 1 (2 * forkLinkSize)
      else if body.minLength?.any (0 < ·) then do
        let d ← d.grow 1 (2 * forkLinkSize)
        body.lay direction d
      else do
        let d ← body.lay direction d
        d.grow 3 (4 * forkLinkSize)
    | some high =>
      if low = 0 && high = 1 then do
        let d ← d.grow 1 (2 * forkLinkSize)
        let d ← body.lay direction d
        d.grow 1 0
      else if low = high then iterate (body.lay direction) low d
      else do
        let d ← if low = 0 then d.grow 1 0 else iterate (body.lay direction) low d
        let d ← d.grow 1 0
        iterate (fun d => do
          let d ← d.grow 1 (2 * forkLinkSize)
          body.lay direction d) (high - low) d

/-- The draft with several forms in a row.  They are laid out in the order in which they are read. -/
def layParts (direction : Direction) : List Form → Draft → Option Draft
  | [], d => some d
  | f :: fs, d =>
    match direction with
    | .forward => do layParts direction fs (← f.lay direction d)
    | .backward => do f.lay direction (← layParts direction fs d)

/-- The draft with several options, of which `before` are there already.  The fork between them comes
    behind the second one. -/
def layOptions (direction : Direction) (before : Nat) : List Form → Draft → Option Draft
  | [], d => some d
  | f :: fs, d => do
    let d ← f.lay direction d
    let d ← d.grow (if before = 1 then 2 else 0) forkLinkSize
    layOptions direction (before + 1) fs d

end

/-- The automaton of a pattern, if it does not get too large.  In front of the pattern it passes over
    any text, unless the pattern is bound to the end of the text where reading starts.  Groups and
    the whole of the pattern are marked where texts are read forwards. -/
def draft? (direction : Direction) (f : Form) : Option Draft := do
  let bound :=
    match direction with
    | .forward => f.startsWith .textStart
    | .backward => f.endsWith .textEnd
  let d ← if bound then Draft.empty.grow 1 0
    else Draft.empty.grow 3 (2 * forkLinkSize + byteLinkSize)
  let d ← (group f).lay direction d
  d.grow 1 0

/-- Whether the automata of a pattern stay below the limit. -/
def fits (f : Form) : Bool := (f.draft? .forward).isSome && (f.draft? .backward).isSome

end Form

end PipedQuery.Pattern
