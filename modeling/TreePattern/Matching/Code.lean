import TreePattern.Matching.Machine
import TreePattern.Pattern.Compiled

namespace TreePattern

mutual

def Value.weight : Value → Nat
  | .null | .bool _ | .int _ | .float _ => 1
  | .str s => s.length + 1
  | .seq items => Value.itemWeight items + 1
  | .map entries => Value.entryWeight entries + 1
  | .set items => Value.itemWeight items + 1
termination_by structural v => v

def Value.itemWeight : List Value → Nat
  | [] => 0
  | v :: vs => v.weight + Value.itemWeight vs
termination_by structural vs => vs

def Value.entryWeight : List (Value × Value) → Nat
  | [] => 0
  | (k, v) :: es => k.weight + v.weight + Value.entryWeight es
termination_by structural es => es

end

def Node.weight : Node → Nat
  | .stored v => v.weight
  | .index _ => 1
  | .char _ => 1

mutual

/-- A bound on the steps that some code takes on a node of a given weight, and on its results: every
instruction multiplies them at most by the entries of a node and the results of its subtree. -/
def Instr.breadth (weight : Nat) : Instr → Nat
  | .keySubtree code _ => (weight + 2) * Instr.codeBreadth weight code
  | .valueSubtree code _ => (weight + 2) * (Instr.codeBreadth weight code + 1)
  | .arrow | .ident _ | .stringKey _ _ | .regexKey _ _ | .param _ _ _ | .test _ _ _ | .close =>
    weight + 2
termination_by structural i => i

def Instr.codeBreadth (weight : Nat) : List Instr → Nat
  | [] => 2
  | i :: is => Instr.breadth weight i * Instr.codeBreadth weight is
termination_by structural is => is

end

mutual

/-- An instruction as the machine runs it; a subtree runs on a machine of its own. -/
def Instr.action : Instr → Action
  | .arrow => .arrow
  | .ident name => .ident name
  | .stringKey key skippable => .lookup (.str key) skippable
  | .regexKey regex skippable => .regexKey regex skippable
  | .param _ key skippable => .lookup key skippable
  | .test name predicate skippable => .test name predicate skippable
  | .keySubtree code skippable => .keySubtree
    (fun n ↦ Machine.run (Instr.codeBreadth n.weight code) (Instr.actions code) n) skippable
  | .valueSubtree code skippable => .valueSubtree
    (fun n ↦ Machine.run (Instr.codeBreadth n.weight code) (Instr.actions code) n) skippable
  | .close => .close
termination_by structural i => i

def Instr.actions : List Instr → List Action
  | [] => []
  | i :: is => i.action :: Instr.actions is
termination_by structural is => is

end

def Machine.ofCode (code : List Instr) (n : Node) : Machine :=
  .start (Instr.codeBreadth n.weight code) (Instr.actions code) n

def Results.ofCode (code : List Instr) (n : Node) : Results :=
  Machine.run (Instr.codeBreadth n.weight code) (Instr.actions code) n

namespace Compiled

def machine (c : Compiled) (root : Value) : Machine := .ofCode c.code (.stored root)

def results (c : Compiled) (root : Value) : Except Fault Items :=
  (Results.ofCode c.code (.stored root)).toList

end Compiled

end TreePattern
