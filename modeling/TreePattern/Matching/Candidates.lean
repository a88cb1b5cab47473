import TreePattern.Matching.Bindings
import TreePattern.Pattern.Basic

namespace TreePattern

structure Candidate where
  key : Node
  value : Node
  bindings : Option Bindings

abbrev Candidates := List (Except Mismatch Candidate)

namespace Candidates

def plain (e : Entry) : Candidate := ⟨e.1, e.2, none⟩

def all (n : Node) (skippable : Bool) : Candidates :=
  match n.entries? with
  | some es => es.map fun e ↦ .ok (plain e)
  | none => if skippable then [] else [.error (.notAContainer n.kindName)]

def lookup (n : Node) (key : Value) (skippable : Bool) : Candidates :=
  match n.entry? key with
  | some e => [.ok (plain e)]
  | none => if skippable then [] else [.error (.missingKey key.display)]

/-- What a test leaves of a candidate: what fails is left out or becomes an error. -/
def kept? (test : Candidate → Bool) (skippable : Bool) (error : Candidate → Mismatch) :
    Except Mismatch Candidate → Option (Except Mismatch Candidate)
  | .error e => some (.error e)
  | .ok c => if test c then some (.ok c) else if skippable then none else some (.error (error c))

def keyMatches (regex : Regex) (c : Candidate) : Bool := c.key.toValue.str?.any regex.isMatch

def keptKey? (regex : Regex) (skippable : Bool) :
    Except Mismatch Candidate → Option (Except Mismatch Candidate) :=
  kept? (keyMatches regex) skippable fun c ↦ .keyMismatch (abbreviated c.key) regex.source

def keptValue? (name : String) (predicate : Predicate) (skippable : Bool) :
    Except Mismatch Candidate → Option (Except Mismatch Candidate) :=
  kept? (fun c ↦ predicate.accepts c.value.toValue) skippable fun c ↦ rejection name c.value

def filterKeys (regex : Regex) (skippable : Bool) : Candidates → Candidates :=
  List.filterMap (keptKey? regex skippable)

def filterValues (name : String) (predicate : Predicate) (skippable : Bool) :
    Candidates → Candidates :=
  List.filterMap (keptValue? name predicate skippable)

def valid : Items → List Bindings
  | .ok b :: items => b :: valid items
  | _ => []

def bound (e : Entry) (b : Bindings) : Candidate := ⟨e.1, e.2, some b⟩

def ofItems (e : Entry) (items : Items) : Candidates := items.map (·.map (bound e))

/-- One entry for each result before the first error. -/
def ofValid (e : Entry) (items : Items) : Candidates := (valid items).map (.ok ∘ bound e)

def ofKey (c : Candidate) (items : Items) (skippable : Bool) : Candidates :=
  if skippable then ofValid (c.key, c.value) items else ofItems (c.key, c.value) items

/-- The candidates of a group: one for each result of the group on the value itself. When the group
is optional they end at the first error, and there is one that binds nothing when there is no
other. -/
def ofGroup (n : Node) (items : Items) (skippable : Bool) : Candidates :=
  if skippable then
    match ofValid (n, n) items with
    | [] => [.ok (bound (n, n) [])]
    | cs => cs
  else ofItems (n, n) items

end Candidates

end TreePattern
