import TreePattern.Node

namespace TreePattern

inductive Json
  | null
  | bool (b : Bool)
  | int (n : Int)
  | float (x : Binary64)
  | str (text : String)
  | arr (items : List Json)
  | obj (entries : List (String × Json))

namespace Json

instance : Inhabited Json := ⟨null⟩

/-- An integer beyond 64 signed bits is read as the nearest float. -/
def intValue (n : Int) : Value :=
  if Int64.minValue.toInt ≤ n ∧ n ≤ Int64.maxValue.toInt then .int (Int64.ofInt n)
  else .float (Binary64.ofInt n)

mutual

def toValue : Json → Value
  | null => .null
  | bool b => .bool b
  | int n => intValue n
  | float x => .float x
  | str s => .str s
  | arr items => .seq (itemValues items)
  | obj entries => .ofEntries (entryValues entries)
termination_by structural j => j

def itemValues : List Json → List Value
  | [] => []
  | j :: js => toValue j :: itemValues js
termination_by structural js => js

def entryValues : List (String × Json) → List (Value × Value)
  | [] => []
  | (k, j) :: es => (.str k, toValue j) :: entryValues es
termination_by structural es => es

end

/-- A string is its own key; any other value is keyed by its text. -/
def keyText : Value → String
  | .str s => s
  | v => v.display

mutual

def ofValue : Value → Json
  | .null => null
  | .bool b => bool b
  | .int n => int n.toInt
  | .float x => if x.isFinite then float x else null
  | .str s => str s
  | .seq items => arr (ofItems items)
  | .set items => arr (ofItems items)
  | .map entries => obj (Table.ofList (ofEntries entries))
termination_by structural v => v

def ofItems : List Value → List Json
  | [] => []
  | v :: vs => ofValue v :: ofItems vs
termination_by structural vs => vs

def ofEntries : List (Value × Value) → List (String × Json)
  | [] => []
  | (k, v) :: es => (keyText k, ofValue v) :: ofEntries es
termination_by structural es => es

end

def ofNode : Node → Json
  | .stored v => ofValue v
  | .index i => int i
  | .char c => str (String.singleton c)

end Json

end TreePattern
