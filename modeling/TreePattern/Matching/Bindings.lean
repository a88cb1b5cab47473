import TreePattern.Container
import TreePattern.Json.Basic

namespace TreePattern

/-- Names with the key and value captured under each, a name captured again at its first place. -/
abbrev Bindings := List (String × Entry)

namespace Bindings

def overwrite (b c : Bindings) : Bindings := Table.putAll b c

def toJson (b : Bindings) : Json :=
  .obj (Table.ofList (b.map fun e ↦ (e.1, .arr [.ofNode e.2.1, .ofNode e.2.2])))

end Bindings

inductive Mismatch
  | notAContainer (found : String)
  | missingKey (key : String)
  | keyMismatch (key regex : String)
  | rejected (name value : String)
  deriving DecidableEq

def Mismatch.message : Mismatch → String
  | notAContainer found => "expected a mapping, sequence or set, found " ++ found
  | missingKey key => "missing key " ++ key
  | keyMismatch key regex => "key " ++ key ++ " does not match /" ++ regex ++ "/"
  | rejected name value => "value " ++ value ++ " rejected by $" ++ name

abbrev Items := List (Except Mismatch Bindings)

def abbreviated (n : Node) : String :=
  let text := n.chars
  if text.length ≤ 60 then String.ofList text else String.ofList (text.take 60 ++ ['.', '.', '.'])

def rejection (name : String) (n : Node) : Mismatch := .rejected name (abbreviated n)

end TreePattern
