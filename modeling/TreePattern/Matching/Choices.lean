import TreePattern.Matching.Candidates
import TreePattern.Matching.Supply

namespace TreePattern

abbrev Choices := Supply (Except Mismatch Candidate)

abbrev Results := Supply (Except Mismatch Bindings)

namespace Choices

def filterKeys (regex : Regex) (skippable : Bool) : Choices → Choices :=
  Supply.filterMap (Candidates.keptKey? regex skippable)

def filterValues (name : String) (predicate : Predicate) (skippable : Bool) : Choices → Choices :=
  Supply.filterMap (Candidates.keptValue? name predicate skippable)

def valid : Results → Supply Bindings
  | .done | .more (.error _) _ => .done
  | .fault f => .fault f
  | .more (.ok b) rest => .more b fun _ ↦ valid (rest ())

def ofResults (e : Entry) (results : Results) : Choices :=
  results.map (·.map (Candidates.bound e))

def ofValid (e : Entry) (results : Results) : Choices :=
  (valid results).map (.ok ∘ Candidates.bound e)

def ofKey (c : Candidate) (results : Results) (skippable : Bool) : Choices :=
  if skippable then ofValid (c.key, c.value) results else ofResults (c.key, c.value) results

/-- Replaces each candidate by one for each result of a match on its key. -/
def matchKeys (run : Node → Results) (skippable : Bool) : Choices → Choices :=
  Supply.flatMap fun
    | .error e => .single (.error e)
    | .ok c => ofKey c (run c.key) skippable

def ofGroup (n : Node) (results : Results) (skippable : Bool) : Choices :=
  if skippable then
    match ofValid (n, n) results with
    | .done => .single (.ok (Candidates.bound (n, n) []))
    | cs => cs
  else ofResults (n, n) results

theorem toList_filterKeys (regex : Regex) (skippable : Bool) (cs : Choices) :
    (filterKeys regex skippable cs).toList =
      cs.toList.map (Candidates.filterKeys regex skippable) := cs.toList_filterMap _

theorem toList_filterValues (name : String) (predicate : Predicate) (skippable : Bool)
    (cs : Choices) :
    (filterValues name predicate skippable cs).toList =
      cs.toList.map (Candidates.filterValues name predicate skippable) := cs.toList_filterMap _

theorem toList_ofResults (e : Entry) (results : Results) :
    (ofResults e results).toList = results.toList.map (Candidates.ofItems e) :=
  results.toList_map _

end Choices

end TreePattern
