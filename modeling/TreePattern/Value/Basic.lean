import TreePattern.Decimal.Binary64
import TreePattern.Table

namespace TreePattern

inductive Value
  | null
  | bool (b : Bool)
  | int (n : Int64)
  | float (x : Binary64)
  | str (text : String)
  | seq (items : List Value)
  | map (entries : List (Value × Value))
  | set (items : List Value)

namespace Value

mutual

/-- Equality up to the order of mapping entries and set items. Floats are compared by their bits. -/
def beq : Value → Value → Bool
  | null, null => true
  | bool a, bool b => a == b
  | int a, int b => a == b
  | float a, float b => a == b
  | str a, str b => a == b
  | seq a, seq b => itemsEq a b
  | map a, map b => a.length == b.length && entriesIn a b
  | set a, set b => a.length == b.length && itemsIn a b
  | _, _ => false
termination_by structural v => v

def itemsEq : List Value → List Value → Bool
  | [], [] => true
  | a :: as, b :: bs => beq a b && itemsEq as bs
  | _, _ => false
termination_by structural vs => vs

def entriesIn : List (Value × Value) → List (Value × Value) → Bool
  | [], _ => true
  | (k, v) :: es, others =>
    (match others.find? (fun e ↦ beq k e.1) with
      | some e => beq v e.2
      | none => false) && entriesIn es others
termination_by structural es => es

def itemsIn : List Value → List Value → Bool
  | [], _ => true
  | a :: as, others => others.any (fun b ↦ beq a b) && itemsIn as others
termination_by structural vs => vs

end

instance : BEq Value := ⟨beq⟩

instance : Inhabited Value := ⟨null⟩

/-- A mapping of given entries: a repeated key keeps its first place and takes the last value. -/
def ofEntries (entries : List (Value × Value)) : Value := map (Table.ofList entries)

def distinct (items : List Value) : List Value :=
  items.foldl (fun seen v ↦ if seen.any (v == ·) then seen else seen ++ [v]) []

def ofItems (items : List Value) : Value := set (distinct items)

def str? : Value → Option String
  | str s => some s
  | _ => none

def int? : Value → Option Int64
  | int n => some n
  | _ => none

def bool? : Value → Option Bool
  | bool b => some b
  | _ => none

def entries? : Value → Option (List (Value × Value))
  | map es => some es
  | _ => none

end Value

end TreePattern
