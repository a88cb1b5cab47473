import TreePattern.Regex.Construction
import TreePattern.Text.ByteRange

namespace TreePattern.Regex

/-- The room that the automata of an expression take, one that reads bytes forward and one that
reads them backward. -/
structure Footprint where
  states : Nat
  edges : Nat
  branches : Nat

namespace Footprint

instance : Add Footprint :=
  ⟨fun f g ↦ ⟨f.states + g.states, f.edges + g.edges, f.branches + g.branches⟩⟩

def scale (n : Nat) (f : Footprint) : Footprint := ⟨n * f.states, n * f.edges, n * f.branches⟩

def bytes (f : Footprint) : Nat := 32 * f.states + 8 * f.edges + 4 * f.branches

def limit : Nat := 10 * Nat.pow 2 20

def fits (f : Footprint) : Bool := f.bytes ≤ limit

def zero : Footprint := ⟨0, 0, 0⟩

def single : Footprint := ⟨1, 0, 0⟩

def fork : Footprint := ⟨1, 0, 2⟩

end Footprint

open Footprint

/-- Words that a tree of bytes holds, cut where a word ends at its root: those that come after such
a word do not share the branches of those before. -/
def cutWords (words : List (List Nat)) : List (List (List Nat)) :=
  let add (cut : List (List (List Nat)) × List (List Nat)) (word : List Nat) :=
    match word, cut with
    | [], ([], now) => ([now.reverse], [])
    | [], (done, now) =>
      if now.isEmpty && done.all List.isEmpty then (done, []) else (now.reverse :: done, [])
    | word, (done, now) => (done, word :: now)
  let (done, now) := words.foldl add ([], [])
  now.reverse :: done

def tails (words : List (List Nat)) : List (List (List Nat)) :=
  let heads := (words.filterMap List.head?).eraseDups
  heads.map fun b ↦ (words.filter fun w ↦ w.head? == some b).map (·.drop 1)

def wordTree : (depth : Nat) → List (List Nat) → Footprint
  | 0, _ => zero
  | depth + 1, words =>
    let cuts := cutWords words
    let used := cuts.filter (!·.isEmpty)
    let node (cut : List (List Nat)) : Footprint :=
      let branches := tails cut
      let inner := branches.filter fun ws ↦ ws.any (!·.isEmpty)
      inner.foldl (fun f ws ↦ f + wordTree depth ws)
        ⟨1, if branches.length = 1 then 0 else branches.length, 0⟩
    used.foldl (fun f cut ↦ f + node cut) ⟨1, 0, used.length + (cuts.length - 1)⟩

def encode (cs : List Char) : List Nat := cs.flatMap fun c ↦ (String.utf8EncodeChar c).map (·.toNat)

def word? : Expr → Option (List Nat)
  | .literal cs => some (encode cs)
  | _ => none

def wordsFootprint (words : List (List Nat)) : Footprint :=
  single + wordTree (words.foldl (fun n w ↦ max n w.length) 0 + 1) words

def asciiFootprint (s : CharSet) : Footprint := ⟨2, s.ranges.length, 0⟩

namespace Forward

abbrev Node := List (ByteRange × Nat)

def tails : List (List ByteRange) → List (ByteRange × List (List ByteRange))
  | [] => []
  | [] :: ss => tails ss
  | (b :: s) :: ss =>
    match tails ss with
    | [] => [(b, [s])]
    | (c, ts) :: rest => if b = c then (b, s :: ts) :: rest else (b, [s]) :: (c, ts) :: rest

/-- The state from which sequences are read, among all states so far; states that lead to the same
are one. The state after all sequences has number 0. -/
def share : (depth : Nat) → List (List ByteRange) → List Node → Nat × List Node
  | 0, _, nodes => (0, nodes)
  | depth + 1, sequences, nodes =>
    match tails sequences with
    | [] => (0, nodes)
    | branches =>
      let add (found : Node × List Node) (branch : ByteRange × List (List ByteRange)) :=
        let (n, nodes) := share depth branch.2 found.2
        ((branch.1, n) :: found.1, nodes)
      let (node, nodes) := branches.foldl add ([], nodes)
      match nodes.idxOf? node with
      | some i => (i + 1, nodes)
      | none => (nodes.length + 1, nodes ++ [node])

def setFootprint (s : CharSet) : Footprint :=
  if s.isAscii then asciiFootprint s
  else
    let nodes := (share 5 s.byteSequences []).2
    ⟨nodes.length + 1, nodes.flatten.length, 0⟩

mutual

def footprint : Expr → Footprint
  | .empty | .look _ => single
  | .literal cs => scale (encode cs).length single
  | .set s => setFootprint s
  | .group _ e => footprint e + ⟨2, 0, 0⟩
  | .concat es => footprints es
  | .alt es =>
    match es.mapM word? with
    | some words => wordsFootprint words
    | none => footprints es + ⟨2, 0, es.length⟩
  | .times e least none _ =>
    let f := footprint e
    if least = 0 then
      if (e.shortest.getD 0) = 0 then f + ⟨3, 0, 4⟩ else f + fork
    else scale least f + fork
  | .times e least (some most) _ =>
    let f := footprint e
    if least = 0 ∧ most = 1 then f + fork + single
    else if least = most then scale least f
    else
      (if least = 0 then single else scale least f) + single + scale (most - least) (f + fork)
termination_by structural e => e

def footprints : List Expr → Footprint
  | [] => zero
  | e :: es => footprint e + footprints es
termination_by structural es => es

end

end Forward

namespace Backward

/-- States that lead on to a state over some bytes are remembered in a thousand places; where two
meet the later one stays. -/
structure Memory where
  states : Nat
  places : Array (Option (Nat × ByteRange × Nat))

def place (next : Nat) (b : ByteRange) : Nat :=
  let mix (h : UInt64) (n : Nat) := (h ^^^ n.toUInt64) * 1099511628211
  (mix (mix (mix 14695981039346656037 next) b.first) b.last).toNat % 1000

def Memory.step (m : Memory) (next : Nat) (b : ByteRange) : Memory × Nat :=
  let i := place next b
  let remembered := match m.places[i]? with
    | some (some (n, c, state)) => if n = next ∧ c = b then some state else none
    | _ => none
  match remembered with
  | some state => (m, state)
  | none => (⟨m.states + 1, m.places.setIfInBounds i (some (next, b, m.states))⟩, m.states)

def Memory.read (m : Memory) (next : Nat) : List ByteRange → Memory
  | [] => m
  | b :: bs =>
    let (m, next) := m.step next b
    m.read next bs

def setFootprint (s : CharSet) (states : Nat) : Footprint :=
  if s.isAscii then asciiFootprint s
  else
    let sequences := s.byteSequences
    let start : Memory := ⟨states + 2, Array.replicate 1000 none⟩
    let m := sequences.foldl (fun (m : Memory) bs ↦ m.read (states + 1) bs) start
    ⟨m.states - states, 0, sequences.length⟩

def copies (add : Footprint → Footprint) : Nat → Footprint → Footprint
  | 0, f => f
  | n + 1, f => if f.fits then copies add n (add f) else f

mutual

def extend : Expr → Footprint → Footprint
  | .empty, f | .look _, f => f + single
  | .literal cs, f => f + scale (encode cs).length single
  | .set s, f => f + setFootprint s f.states
  | .group _ e, f => extend e f
  | .concat es, f => extendConcat es f
  | .alt es, f =>
    match es.mapM word? with
    | some words => f + wordsFootprint (words.map List.reverse)
    | none => extendAlt 0 es f + ⟨0, 0, es.length⟩
  | .times e least none _, f =>
    if least = 0 then
      if (e.shortest.getD 0) = 0 then extend e f + ⟨3, 0, 4⟩ else extend e (f + fork)
    else copies (extend e) least f + fork
  | .times e least (some most) _, f =>
    if least = 0 ∧ most = 1 then extend e (f + fork) + single
    else if least = most then copies (extend e) least f
    else
      let f := if least = 0 then f + single else copies (extend e) least f
      copies (fun f ↦ extend e (f + fork)) (most - least) (f + single)
termination_by structural e => e

def extendConcat : List Expr → Footprint → Footprint
  | [], f => f
  | e :: es, f => extend e (extendConcat es f)
termination_by structural es => es

/-- The two states that hold alternatives together come after the second of them. -/
def extendAlt : (before : Nat) → List Expr → Footprint → Footprint
  | _, [], f => f
  | n, e :: es, f =>
    let f := extend e f
    extendAlt (n + 1) es (if n = 1 then f + ⟨2, 0, 0⟩ else f)
termination_by structural _ es => es

end

end Backward

namespace Expr

def search (anchored : Bool) : Footprint := if anchored then single else fork + ⟨2, 1, 0⟩

def forwardFootprint (e : Expr) : Footprint :=
  search e.startsText + Forward.footprint e + ⟨3, 0, 0⟩

def backwardFootprint (e : Expr) : Footprint :=
  Backward.extend e (search e.endsText) + single

def fits (e : Expr) : Bool := e.forwardFootprint.fits && e.backwardFootprint.fits

end Expr

end TreePattern.Regex
