import TreePattern.Matching.Choices

namespace TreePattern

inductive Action
  | arrow
  | ident (name : String)
  | lookup (key : Value) (skippable : Bool)
  | regexKey (regex : Regex) (skippable : Bool)
  | test (name : String) (predicate : Predicate) (skippable : Bool)
  | keySubtree (run : Node → Results) (skippable : Bool)
  | valueSubtree (run : Node → Results) (skippable : Bool)
  | close

def Action.isClose : Action → Bool
  | close => true
  | _ => false

end TreePattern
