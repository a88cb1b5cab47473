import TreePattern.Regex.Bracket
import TreePattern.Regex.Construction

namespace TreePattern.Regex.Reader

/-- An expression with the depth to which it was nested in writing. A change of flags is an item
that cannot be repeated. -/
structure Item where
  expr : Expr
  depth : Nat
  repeatable : Bool

def Item.plain (e : Expr) : Item := ⟨e, 0, true⟩

structure OpenGroup where
  flags : Flags
  number : Option Nat
  alternatives : List Item
  items : List Item

/-- What has been read: the flags in force, the alternatives and items of the innermost group, the
last first, the groups around it, and the number of groups and the names of some. -/
structure State where
  flags : Flags
  alternatives : List Item
  items : List Item
  outer : List OpenGroup
  groups : Nat
  names : List (List Char)

def State.start : State := ⟨Flags.start, [], [], [], 0, []⟩

def deepest (items : List Item) : Nat := items.foldl (fun n i ↦ max n i.depth) 0

def concatenation : List Item → Item
  | [i] => i
  | items =>
    let depth := if items = [] then 0 else deepest items + 1
    ⟨.sequence (items.reverse.map Item.expr), depth, true⟩

namespace State

def push (s : State) (i : Item) : State := { s with items := i :: s.items }

def pushExpr (s : State) (e : Expr) : State := s.push (.plain e)

def body (s : State) : Item :=
  match s.alternatives with
  | [] => concatenation s.items
  | alternatives =>
    let items := concatenation s.items :: alternatives
    ⟨.choice (items.reverse.map Item.expr), deepest items + 1, true⟩

def depthLimit : Nat := 250

def pushNested? (s : State) (i : Item) : Option State :=
  if i.depth ≤ depthLimit then some (s.push i) else none

def enter (s : State) (f : Flags) (number : Option Nat) : State :=
  { s with
    flags := f
    alternatives := []
    items := []
    outer := ⟨s.flags, number, s.alternatives, s.items⟩ :: s.outer }

def enterNumbered (s : State) : State :=
  { s.enter s.flags (some s.groups) with groups := s.groups + 1 }

def leave? (s : State) : Option State :=
  match s.outer with
  | [] => none
  | g :: outer =>
    let body := s.body
    let e := match g.number with
      | some n => .group n body.expr
      | none => body.expr
    pushNested? { s with flags := g.flags, alternatives := g.alternatives, items := g.items, outer }
      ⟨e, body.depth + 1, true⟩

def alternate (s : State) : State :=
  { s with alternatives := concatenation s.items :: s.alternatives, items := [] }

def times? (s : State) (least : Nat) (most : Option Nat) (lazy : Bool) : Option State :=
  match s.items with
  | [] => none
  | i :: items =>
    let e := i.expr.repetition least most (lazy == s.flags.swapGreed)
    if i.repeatable then pushNested? { s with items } ⟨e, i.depth + 1, true⟩ else none

end State

def setFlag? (f : Flags) (c : Char) (b : Bool) : Option Flags :=
  match c with
  | 'i' => some { f with ignoreCase := b }
  | 'm' => some { f with multiLine := b }
  | 's' => some { f with dotAll := b }
  | 'R' => some { f with crlf := b }
  | 'u' => some { f with unicode := b }
  | 'x' => some { f with verbose := b }
  | 'U' => some { f with swapGreed := b }
  | _ => none

/-- Letters that switch flags on and, after a hyphen, off. No letter comes twice, and the hyphen
comes once and not last. -/
def flags? (f : Flags) (cs : List Char) : Option Flags :=
  let apply (b : Bool) (f : Option Flags) (c : Char) := f.bind fun f ↦ setFlag? f c b
  let on := cs.takeWhile (· != '-')
  let off := (cs.dropWhile (· != '-')).drop 1
  if cs.eraseDups.length ≠ cs.length ∨ cs.getLast? = some '-' then none
  else off.foldl (apply false) (on.foldl (apply true) (some f))

def startsName (c : Char) : Bool := isAlphabetic c || c == '_'

def continuesName (c : Char) : Bool :=
  startsName c || isNumeric c || c == '.' || c == '[' || c == ']'

def name? (s : State) (cs : List Char) : Option (State × List Char) := do
  let (name, rest) ← cutFirst? '>' cs
  if name.head?.any startsName && name.all continuesName && !s.names.contains name then
    some ({ s.enterNumbered with names := name :: s.names }, rest)
  else none

def groupStart? (s : State) (cs : List Char) : Option (State × List Char) :=
  match skip s.flags cs with
  | '?' :: 'P' :: '<' :: cs => name? s cs
  | '?' :: '<' :: cs => name? s cs
  | '?' :: cs => do
    let isEnd (c : Char) := c == ':' || c == ')'
    let letters := cs.takeWhile fun c ↦ !isEnd c
    let f ← flags? s.flags letters
    match cs.dropWhile fun c ↦ !isEnd c with
    | ')' :: rest =>
      if letters = [] then none
      else some ({ s with flags := f, items := ⟨.empty, 0, false⟩ :: s.items }, rest)
    | _ :: rest => some (s.enter f none, rest)
    | [] => none
  | cs => some (s.enterNumbered, cs)

end TreePattern.Regex.Reader
