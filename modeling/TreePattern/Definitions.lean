import TreePattern.Predicate.Basic
import TreePattern.Value.Display

namespace TreePattern

inductive Definition
  | key (v : Value)
  | predicate (p : Predicate)

namespace Definition

def display : Definition → String
  | key v => "Key(" ++ v.display ++ ")"
  | predicate _ => "Predicate(<predicate>)"

def key? : Definition → Option Value
  | key v => some v
  | predicate _ => none

def predicate? : Definition → Option Predicate
  | key _ => none
  | predicate p => some p

end Definition

structure Definitions where
  entries : List (String × Definition)

namespace Definitions

def empty : Definitions := ⟨[]⟩

/-- A name that is inserted again keeps its place. -/
def insert (d : Definitions) (name : String) (definition : Definition) : Definitions :=
  ⟨Table.put d.entries name definition⟩

def ofList (entries : List (String × Definition)) : Definitions := ⟨Table.ofList entries⟩

def insertAll (d : Definitions) (entries : List (String × Definition)) : Definitions :=
  ⟨Table.putAll d.entries entries⟩

def get? (d : Definitions) (name : String) : Option Definition := Table.get? d.entries name

def names (d : Definitions) : List String := Table.keys d.entries

def size (d : Definitions) : Nat := d.entries.length

/-- The definitions of some of the names, in the order of the names. -/
def restrict (d : Definitions) (names : List String) : Definitions :=
  ofList (names.filterMap fun name ↦ (d.get? name).map fun definition ↦ (name, definition))

def kinds : Definitions := ofList (Kind.names.map fun e ↦ (e.1, .predicate (.ofKind e.2)))

end Definitions

end TreePattern
