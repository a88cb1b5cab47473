import TreePattern.Value.Basic

namespace TreePattern

inductive Kind
  | null | bool | int | float | str | seq | map | set
  deriving DecidableEq

namespace Kind

def of : Value → Kind
  | .null => null
  | .bool _ => bool
  | .int _ => int
  | .float _ => float
  | .str _ => str
  | .seq _ => seq
  | .map _ => map
  | .set _ => set

def name : Kind → String
  | null => "null"
  | bool => "bool"
  | int => "int"
  | float => "float"
  | str => "str"
  | seq => "seq"
  | map => "map"
  | set => "set"

/-- All names in alphabetical order. -/
def names : List (String × Kind) :=
  [("bool", bool), ("dict", map), ("float", float), ("frozenset", set), ("int", int),
    ("list", seq), ("map", map), ("none", null), ("null", null), ("seq", seq), ("set", set),
    ("str", str), ("string", str), ("tuple", seq)]

def ofName? (name : String) : Option Kind := Table.get? names name

end Kind

end TreePattern
