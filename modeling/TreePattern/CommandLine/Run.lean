import TreePattern.CommandLine.Arguments
import TreePattern.Json.Reader
import TreePattern.Json.Writer
import TreePattern.Matching.Code
import TreePattern.Predicate.CommitId
import TreePattern.Predicate.Uri
import TreePattern.Text.Blank

namespace TreePattern.CommandLine

structure Report where
  status : Nat
  output : List String
  errors : List String
  deriving DecidableEq

inductive Problem
  | malformed (spec : String)
  | unknownKind (kind spec : String)
  | pattern (e : PatternError)
  | unreadable (path reason : String)
  | notJson

def definedNames (sorted : Bool) (d : Definitions) : String :=
  let names := if sorted then d.names.mergeSort fun a b ↦ a ≤ b else d.names
  if names.isEmpty then "no names are defined" else "defined names: " ++ ", ".intercalate names

def patternLines (sorted : Bool) (e : PatternError) : List String :=
  match e.cause with
  | .invalidRegex => ["Error: " ++ e.cause.message]
  | .undefinedName _ => ["Error: " ++ e.message, definedNames sorted e.definitions]
  | _ => ["Error: " ++ e.message]

def Problem.lines (sorted : Bool) : Problem → List String
  | malformed spec => ["error: expected NAME=VALUE, got `" ++ spec ++ "`"]
  | unknownKind kind spec => ["error: unknown kind `" ++ kind ++ "` in `" ++ spec ++ "`"]
  | pattern e => patternLines sorted e
  | unreadable path reason => ["error: failed to read " ++ path ++ ": " ++ reason]
  | notJson => ["error: input is not valid JSON"]

def nameAndValue (spec : String) : Except Problem (String × String) :=
  match cutFirst? '=' spec.toList with
  | some (c :: name, value) => .ok (String.ofList (c :: name), String.ofList value)
  | _ => .error (.malformed spec)

def kindOf (spec : String) (text : String) : Except Problem Kind :=
  match Kind.ofName? (trimBlanks text) with
  | some kind => .ok kind
  | none => .error (.unknownKind text spec)

def defineType (d : Definitions) (spec : String) : Except Problem Definitions := do
  let (name, value) ← nameAndValue spec
  let kinds ← (splitAll '|' value.toList).mapM fun text ↦ kindOf spec (String.ofList text)
  return d.insert name (.predicate (.ofKinds kinds))

/-- `name=json`: a key. What is not JSON is taken as a string. -/
def defineParam (d : Definitions) (spec : String) : Except Problem Definitions := do
  let (name, value) ← nameAndValue spec
  return d.insert name (.key ((Json.read? value).elim (.str value) Json.toValue))

def defineCommit (d : Definitions) (name : String) : Except Problem Definitions :=
  .ok (d.insert name (.predicate (CommitId.predicate ⟨true⟩)))

def defineUri (d : Definitions) (spec : String) : Except Problem Definitions := do
  let (name, value) ← nameAndValue spec
  let schemes := (splitAll ',' value.toList).map fun text ↦ trimBlanks (String.ofList text)
  return d.insert name (.predicate (Uri.ofSchemes schemes).predicate)

/-- Later definitions of a name win. -/
def definitions (a : Arguments) : Except Problem Definitions := do
  let d := if a.builtinTypes then Definitions.kinds else Definitions.empty
  let d ← a.types.foldlM defineType d
  let d ← a.params.foldlM defineParam d
  let d ← a.commits.foldlM defineCommit d
  a.uris.foldlM defineUri d

def source (file : Option String) (input : Except String String)
    (read : String → Except String String) : String × Except String String :=
  match file with
  | some path => (path, read path)
  | none => ("stdin", input)

def readDocument (place : String) (text : Except String String) : Except Problem Json := do
  let text ← text.mapError (.unreadable place)
  match Json.read? text with
  | some j => .ok j
  | none => .error .notJson

def report : Items → Report
  | [] => ⟨0, [], []⟩
  | .ok b :: items =>
    let r := report items
    { r with output := b.toJson.write :: r.output }
  | .error e :: _ => ⟨1, [], ["validation error: " ++ e.message]⟩

def prepare (o : Options) (input : Except String String) (read : String → Except String String) :
    Except Problem (Compiled × Value) := do
  let d ← definitions o.arguments
  let c ← (Compiled.compile d o.pattern).mapError .pattern
  let (place, text) := source o.file input read
  let j ← readDocument place text
  return (c, j.toValue)

/-- Writes a line of JSON for each match up to the first error. A document that does not validate ends
the program with status 1; what goes wrong before, of which the first is reported, with 2. -/
def execute (o : Options) (input : Except String String) (read : String → Except String String) :
    Report :=
  match prepare o input read with
  | .error problem => ⟨2, [], problem.lines o.arguments.builtinTypes⟩
  | .ok (c, root) =>
    match c.results root with
    | .ok items => report items
    | .error _ => ⟨2, [], ["error: internal fault"]⟩

def run (o : Options) (input : String) (read : String → Except String String) : Report :=
  execute o (.ok input) read

end TreePattern.CommandLine
