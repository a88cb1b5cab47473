import TreePattern.Matching.Action

namespace TreePattern

/-- One step into the tree: the node whose entries may be chosen, the candidates not yet tried, once
it is known which, and what has been chosen. It is `blank` before a selector or a name. -/
structure Level where
  parent : Node
  candidates : Option (Unit → Choices)
  key : Option Node
  value : Node
  bindings : Option Bindings
  name : Option String
  subtree : Bool
  blank : Bool

namespace Level

def root (n : Node) : Level := ⟨n, some fun _ ↦ .done, none, n, none, none, false, false⟩

def child (n : Node) : Level := ⟨n, none, none, n, none, none, false, true⟩

def install? (l : Level) (cs : Unit → Choices) : Except Fault Level :=
  match l.candidates with
  | none => .ok { l with candidates := some cs, blank := false }
  | some _ => .error .secondLookup

def pending (l : Level) (skippable : Bool) : Choices :=
  match l.candidates with
  | some cs => cs ()
  | none => .ofList (Candidates.all l.parent skippable)

def refine (l : Level) (skippable : Bool) (f : Choices → Choices) : Level :=
  { l with candidates := some fun _ ↦ f (l.pending skippable), blank := false }

def choose (l : Level) (c : Candidate) (rest : Unit → Choices) : Level :=
  { l with candidates := some rest, key := some c.key, value := c.value, bindings := c.bindings }

/-- What a level adds to the bindings of a match: those of its subtree, then its own name. -/
def bind (b : Bindings) (l : Level) : Bindings :=
  let b := if l.subtree then b.overwrite (l.bindings.getD []) else b
  match l.name, l.key with
  | some name, some key => Table.put b name (key, l.value)
  | _, _ => b

end Level

end TreePattern
