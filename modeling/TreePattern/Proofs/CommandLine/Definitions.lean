import TreePattern.CommandLine.Run
import TreePattern.Proofs.Except
import TreePattern.Proofs.Table
import TreePattern.Proofs.Text.Cut

namespace TreePattern.CommandLine

/-- An option that defines a name. -/
inductive Setting
  | type (spec : String)
  | param (spec : String)
  | commit (name : String)
  | uri (spec : String)

namespace Setting

end Setting

namespace Setting

def entry : Setting → Except Problem (String × Definition)
  | type spec => do
    let (name, value) ← nameAndValue spec
    let kinds ← ((splitAll '|' value.toList).map String.ofList).mapM (kindOf spec)
    return (name, .predicate (.ofKinds kinds))
  | param spec => do
    let (name, value) ← nameAndValue spec
    return (name, .key ((Json.read? value).elim (.str value) Json.toValue))
  | commit name => .ok (name, .predicate (CommitId.predicate ⟨true⟩))
  | uri spec => do
    let (name, value) ← nameAndValue spec
    let schemes := (splitAll ',' value.toList).map String.ofList
    return (name, .predicate (Uri.ofSchemes (schemes.map trimBlanks)).predicate)

variable {s : Setting} {e : String × Definition} {p : Problem}

end Setting

variable {a : Arguments} {d : Definitions} {p : Problem}

end TreePattern.CommandLine
