import TreePattern.Kind
import TreePattern.Node

namespace TreePattern

abbrev Entry := Node × Node

namespace Node

def kindName : Node → String
  | stored v => (Kind.of v).name
  | index _ => "index"
  | char _ => "str"

def indexed (nodes : List Node) : List Entry := nodes.mapIdx fun i n ↦ (index i, n)

def entries? : Node → Option (List Entry)
  | stored (.map es) => some (es.map fun e ↦ (stored e.1, stored e.2))
  | stored (.seq vs) => some (indexed (vs.map stored))
  | stored (.set vs) => some (vs.map fun v ↦ (stored v, stored v))
  | stored (.str s) => some (indexed (s.toList.map char))
  | char c => some [(index 0, char c)]
  | _ => none

/-- The offset that an index stands for, counted from the end when negative. The sum cannot leave
the 64-bit range, since one of its terms is negative and the other is not. -/
def offset? (n : Int64) (length : Nat) : Option Nat :=
  if length < Nat.pow 2 63 then
    let size := Int64.ofNat length
    let i := if n < 0 then size + n else n
    if 0 ≤ i ∧ i < size then some i.toInt.toNat else none
  else none

def entry? : Node → Value → Option Entry
  | stored (.map es), k => (Table.find? es k).map fun e ↦ (stored e.1, stored e.2)
  | stored (.seq vs), .int n => do
    let i ← offset? n vs.length
    let v ← vs[i]?
    return (index i, stored v)
  | stored (.str s), .int n => do
    let i ← offset? n s.toList.length
    let c ← s.toList[i]?
    return (index i, char c)
  | char c, .int n => (offset? n 1).map fun i ↦ (index i, char c)
  | _, _ => none

def remaining? (n : Node) : Option (List Nat) :=
  n.entries?.map fun es ↦ (List.range (es.length + 1)).reverse

end Node

end TreePattern
