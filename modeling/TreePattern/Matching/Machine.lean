import TreePattern.Matching.Cursor
import TreePattern.Matching.Level

namespace TreePattern

/-- A match that is under way. The path has its top first; `inKey` tells whether the candidates of
the top level are being chosen, and `yielded` whether the last result was a match. -/
structure Machine where
  budget : Nat
  cursor : Cursor
  path : List Level
  inKey : Bool
  yielded : Bool

inductive Halt
  | mismatch (e : Mismatch)
  | fault (f : Fault)

inductive Pull
  | item (b : Bindings) (m : Machine)
  | failed (e : Mismatch) (m : Machine)
  | ended (m : Machine)
  | fault (f : Fault)

namespace Machine

def start (budget : Nat) (code : List Action) (n : Node) : Machine :=
  ⟨budget, ⟨[], code⟩, [.root n], false, false⟩

def top? (m : Machine) : Except Halt (Level × List Level) :=
  match m.path with
  | l :: path => .ok (l, path)
  | [] => .error (.fault .noLevel)

def chosen? (m : Machine) : Except Halt Level := do
  let (l, _) ← m.top?
  if l.blank then .error (.fault .blankLevel) else .ok l

def lift {α : Type} (r : Except Fault α) : Except Halt α := r.mapError .fault

def update (m : Machine) (f : Level → Except Fault Level) : Except Halt Machine := do
  let (l, path) ← m.top?
  let l ← lift (f l)
  return { m with path := l :: path, inKey := true }

def clear (m : Machine) : Machine := { m with path := [] }

def testRoot (m : Machine) (name : String) (p : Predicate) (skippable : Bool) :
    Except Halt Machine :=
  match m.path with
  | [l] =>
    if p.accepts l.value.toValue then .ok { m with inKey := false }
    else if skippable then .ok { m.clear with inKey := false }
    else .error (.mismatch (rejection name l.value))
  | _ => .error (.fault .notAtRoot)

/-- Drops the top level and goes back to choose again on the one below it. -/
def backtrack (m : Machine) : Machine :=
  match Cursor.rewind? m.cursor.passed m.cursor.ahead with
  | some cursor => { m with cursor := cursor, path := m.path.tail, inKey := true }
  | none => { m with path := [], inKey := true }

def choose (m : Machine) : Except Halt Machine := do
  let (l, path) ← m.top?
  match l.pending false with
  | .more (.ok c) rest => return { m with path := l.choose c rest :: path, inKey := false }
  | .more (.error e) _ => .error (.mismatch e)
  | .done => return m.backtrack
  | .fault f => .error (.fault f)

/-- A selector, which may run in either phase. -/
def select (m : Machine) : Action → Except Halt Machine
  | .lookup key skippable => m.update fun l ↦
    l.install? fun _ ↦ .ofList (Candidates.lookup l.parent key skippable)
  | .regexKey regex skippable => m.update fun l ↦
    .ok (l.refine skippable (Choices.filterKeys regex skippable))
  | .keySubtree run skippable => m.update fun l ↦
    .ok { l.refine skippable (Choices.matchKeys run skippable) with subtree := true }
  | _ => .error (.fault .misplaced)

def outsideKey (m : Machine) : Action → Except Halt Machine
  | .arrow => do
    let l ← m.chosen?
    return { m with path := .child l.value :: m.path, inKey := false }
  | .ident name => m.update fun l ↦ .ok { l with name := some name, blank := false }
  | .valueSubtree run skippable => do
    let l ← m.chosen?
    let group ← lift
      ((Level.child l.value).install? fun _ ↦ .ofGroup l.value (run l.value) skippable)
    return { m with path := { group with subtree := true } :: m.path, inKey := true }
  | .test name p skippable => m.testRoot name p skippable
  | .close => .error (.fault .misplaced)
  | a => m.select a

def insideKey (m : Machine) : Action → Except Halt Machine
  | .test name p skippable => m.update fun l ↦
    .ok (l.refine false (Choices.filterValues name p skippable))
  | .close => m.choose
  | .arrow | .ident _ | .valueSubtree _ _ => .error (.fault .misplaced)
  | a => m.select a

def execute (m : Machine) (a : Action) : Except Halt Machine :=
  if m.inKey then m.insideKey a else m.outsideKey a

/-- After a match, back to before the last `close`, to choose again. Code without one matches at
most once. -/
def resume (m : Machine) : Machine :=
  if m.yielded then
    if m.cursor.atClose then
      { m with cursor := m.cursor.back?.getD m.cursor, inKey := true, yielded := false }
    else { m.clear with yielded := false }
  else m

def bindings (m : Machine) : Bindings := m.path.reverse.foldl Level.bind []

/-- One instruction, unless the machine has a result or none is left. -/
def step (m : Machine) : Except Pull Machine :=
  if m.path.isEmpty then .error (.ended m)
  else
    let halt : Halt → Pull
      | .mismatch e => .failed e m.clear
      | .fault f => .fault f
    match m.cursor.advance? with
    | none => do
      let _ ← m.chosen?.mapError halt
      .error (.item m.bindings { m with yielded := true })
    | some (a, cursor) => (execute { m with cursor := cursor } a).mapError halt

def loop : (steps : Nat) → Machine → Pull
  | 0, _ => .fault .exhausted
  | steps + 1, m =>
    match m.step with
    | .ok m => loop steps m
    | .error result => result

def next (m : Machine) : Pull := loop m.budget m.resume

def results : (most : Nat) → Machine → Results
  | 0, _ => .fault .exhausted
  | most + 1, m =>
    match m.next with
    | .item b m => .more (.ok b) fun _ ↦ results most m
    | .failed e m => .more (.error e) fun _ ↦ results most m
    | .ended _ => .done
    | .fault f => .fault f

def run (budget : Nat) (code : List Action) (n : Node) : Results :=
  results budget (start budget code n)

end Machine

end TreePattern
