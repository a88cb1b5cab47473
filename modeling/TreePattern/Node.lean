import TreePattern.Value.Display

namespace TreePattern

inductive Node
  | stored (v : Value)
  | index (i : Nat)
  | char (c : Char)

namespace Node

/-- Indices become integers, those past the largest integer the largest, and characters strings. -/
def toValue : Node → Value
  | stored v => v
  | index i => .int (if i < Nat.pow 2 63 then Int64.ofNat i else Int64.maxValue)
  | char c => .str (String.singleton c)

/-- Nodes are compared as the values they stand for. -/
def beq (m n : Node) : Bool := m.toValue == n.toValue

instance : BEq Node := ⟨beq⟩

instance : Inhabited Node := ⟨stored .null⟩

def value? : Node → Option Value
  | stored v => some v
  | _ => none

def index? : Node → Option Nat
  | index i => some i
  | _ => none

def str? (n : Node) : Option String := n.value?.bind Value.str?

def chars : Node → List Char
  | stored v => v.chars
  | index i => Nat.toDigits 10 i
  | char c => Quoted.write (String.singleton c)

def display (n : Node) : String := String.ofList n.chars

end Node

end TreePattern
