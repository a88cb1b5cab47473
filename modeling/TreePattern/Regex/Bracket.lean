import TreePattern.Regex.Escape

namespace TreePattern.Regex.Reader

inductive SetOperation
  | intersection | difference | symmetricDifference

namespace SetOperation

def apply : SetOperation → CharSet → CharSet → CharSet
  | intersection => .inter
  | difference => .diff
  | symmetricDifference => .symmDiff

end SetOperation

structure NestedSet where
  set : CharSet
  depth : Nat

structure OpenClass where
  negated : Bool
  before : Option (NestedSet × SetOperation)
  items : Nat
  ranges : List CharRange
  depth : Nat

namespace OpenClass

def start (negated : Bool) : OpenClass := ⟨negated, none, 0, [], 0⟩

def add (o : OpenClass) (s : NestedSet) : OpenClass :=
  { o with items := o.items + 1, ranges := s.set.ranges ++ o.ranges, depth := max s.depth o.depth }

/-- Operators group to the left; items are nested in their union, which one item alone is not. -/
def value (f : Flags) (o : OpenClass) : NestedSet :=
  let set := CharClass.fold f (.ofRanges o.ranges)
  let depth := if o.items ≤ 1 then o.depth else o.depth + 1
  match o.before with
  | none => ⟨set, depth⟩
  | some (left, operation) => ⟨operation.apply left.set set, max left.depth depth + 1⟩

def operate (f : Flags) (o : OpenClass) (operation : SetOperation) : OpenClass :=
  { start o.negated with before := some (o.value f, operation) }

def close? (f : Flags) (o : OpenClass) : Option NestedSet :=
  let value := o.value f
  (CharClass.allowed? f (value.set.complementIf o.negated)).map (⟨·, value.depth + 1⟩)

end OpenClass

def addHyphens (o : OpenClass) : Nat → OpenClass
  | 0 => o
  | n + 1 => addHyphens (o.add ⟨.single '-', 0⟩) n

/-- After an opening bracket: a caret negates, hyphens are themselves, and so is a closing bracket
that comes first. -/
def openClass (f : Flags) (cs : List Char) : OpenClass × List Char :=
  let (o, cs) := match skip f cs with
    | '^' :: cs => (OpenClass.start true, skip f cs)
    | cs => (OpenClass.start false, cs)
  match spacedAll f (· == '-') cs with
  | ([], ']' :: rest) => (o.add ⟨.single ']', 0⟩, rest)
  | (hyphens, rest) => (addHyphens o hyphens.length, rest)

def classAtom? (f : Flags) : List Char → Option (Atom × List Char)
  | '\\' :: cs => escape? f cs
  | c :: cs => some (.literal c, cs)
  | [] => none

/-- What follows a hyphen, which is itself before a closing bracket or another hyphen. Here a
comment hides no more than its mark. -/
def peek (f : Flags) (cs : List Char) : Option Char :=
  if f.verbose then
    match skipBlanks cs with
    | '#' :: cs => (skipBlanks cs).head?
    | cs => cs.head?
  else cs.head?

def classItem? (f : Flags) (cs : List Char) : Option (CharSet × List Char) := do
  let (first, rest) ← classAtom? f cs
  let single := do
    match first with
    | .literal c => some (← CharClass.allowed? f (.single c), rest)
    | .set s => some (s, rest)
    | .look _ => none
  match skip f rest with
  | '-' :: cs =>
    if peek f cs = some ']' ∨ peek f cs = some '-' then single
    else do
      let (second, rest) ← classAtom? f (skip f cs)
      match first, second with
      | .literal low, .literal high =>
        if low ≤ high then some (← CharClass.allowed? f (.range low.toNat high.toNat), rest)
        else none
      | _, _ => none
  | _ => single

def namedClass? (cs : List Char) : Option (CharSet × Bool × List Char) :=
  match cs with
  | ':' :: cs =>
    let (negated, cs) := match cs with
      | '^' :: cs => (true, cs)
      | cs => (false, cs)
    match CharClass.ofName? (String.ofList (cs.takeWhile (· != ':'))), cs.dropWhile (· != ':') with
    | some s, ':' :: ']' :: rest => some (s, negated, rest)
    | _, _ => none
  | _ => none

def classBody (f : Flags) : Nat → OpenClass → List OpenClass → List Char →
    Option (NestedSet × List Char)
  | 0, _, _, _ => none
  | steps + 1, o, outer, cs =>
    match skip f cs with
    | [] => none
    | '[' :: cs =>
      match namedClass? cs with
      | some (s, negated, rest) => do
        let s ← CharClass.allowed? f ((CharClass.fold f s).complementIf negated)
        classBody f steps (o.add ⟨s, 0⟩) outer rest
      | none =>
        let (inner, rest) := openClass f cs
        classBody f steps inner (o :: outer) rest
    | ']' :: cs => do
      let s ← o.close? f
      match outer with
      | [] => some (s, cs)
      | p :: outer => classBody f steps (p.add s) outer cs
    | '&' :: '&' :: cs => classBody f steps (o.operate f .intersection) outer cs
    | '-' :: '-' :: cs => classBody f steps (o.operate f .difference) outer cs
    | '~' :: '~' :: cs => classBody f steps (o.operate f .symmetricDifference) outer cs
    | cs => do
      let (s, rest) ← classItem? f cs
      classBody f steps (o.add ⟨s, 0⟩) outer rest

def charClass? (f : Flags) (cs : List Char) : Option (NestedSet × List Char) :=
  let (o, rest) := openClass f cs
  classBody f (cs.length + 1) o [] rest

end TreePattern.Regex.Reader
