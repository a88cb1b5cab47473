namespace TreePattern.CommandLine

structure Arguments where
  positionals : List String
  types : List String
  params : List String
  commits : List String
  uris : List String
  builtinTypes : Bool
  verbosity : Nat

namespace Arguments

def none : Arguments := ⟨[], [], [], [], [], false, 0⟩

inductive Valued
  | type | param | commit | uri

inductive Flag
  | builtinTypes | verbose

def Valued.ofLong? (name : String) : Option Valued :=
  match name with
  | "type" => some type
  | "param" => some param
  | "commit" => some commit
  | "uri" => some uri
  | _ => Option.none

def Valued.ofShort? (c : Char) : Option Valued :=
  match c with
  | 't' => some type
  | 'p' => some param
  | _ => Option.none

def Flag.ofLong? (name : String) : Option Flag :=
  match name with
  | "builtin-types" => some builtinTypes
  | "verbose" => some verbose
  | _ => Option.none

def Flag.ofShort? (c : Char) : Option Flag := if c = 'v' then some verbose else Option.none

def addPositional (a : Arguments) (text : String) : Arguments :=
  { a with positionals := a.positionals ++ [text] }

def addValue (a : Arguments) (text : String) : Valued → Arguments
  | .type => { a with types := a.types ++ [text] }
  | .param => { a with params := a.params ++ [text] }
  | .commit => { a with commits := a.commits ++ [text] }
  | .uri => { a with uris := a.uris ++ [text] }

/-- The flag for the built-in types may be set only once. -/
def addFlag? (a : Arguments) : Flag → Option Arguments
  | .builtinTypes => if a.builtinTypes then Option.none else some { a with builtinTypes := true }
  | .verbose => some { a with verbosity := a.verbosity + 1 }

abbrev Waiting := Option Valued

/-- A cluster of short options. The first one with a value takes the rest of the cluster, without a
leading `=`, or waits for the next argument when nothing is left. -/
def shorts? (a : Arguments) : List Char → Option (Arguments × Waiting)
  | [] => some (a, Option.none)
  | c :: cs =>
    match Valued.ofShort? c, cs with
    | some option, [] => some (a, some option)
    | some option, '=' :: value => some (a.addValue (String.ofList value) option, Option.none)
    | some option, value => some (a.addValue (String.ofList value) option, Option.none)
    | Option.none, cs => do
      let flag ← Flag.ofShort? c
      shorts? (← a.addFlag? flag) cs

def long? (a : Arguments) (text : List Char) : Option (Arguments × Waiting) :=
  let name := String.ofList (text.takeWhile (· != '='))
  match text.dropWhile (· != '=') with
  | [] =>
    match Valued.ofLong? name with
    | some option => some (a, some option)
    | Option.none => do
      let flag ← Flag.ofLong? name
      return (← a.addFlag? flag, Option.none)
  | _ :: value => (Valued.ofLong? name).map fun option ↦
    (a.addValue (String.ofList value) option, Option.none)

def read? (a : Arguments) : (waiting : Waiting) → List String → Option Arguments
  | some _, [] => Option.none
  | some option, text :: texts =>
    match text.toList with
    | '-' :: _ :: _ => Option.none
    | _ => read? (a.addValue text option) Option.none texts
  | Option.none, [] => some a
  | Option.none, text :: texts =>
    match text.toList with
    | ['-', '-'] => some (texts.foldl addPositional a)
    | '-' :: '-' :: name => do
      let (a, waiting) ← long? a name
      read? a waiting texts
    | '-' :: c :: cs => do
      let (a, waiting) ← shorts? a (c :: cs)
      read? a waiting texts
    | _ => read? (a.addPositional text) Option.none texts

end Arguments

structure Options where
  pattern : String
  file : Option String
  arguments : Arguments

/-- The arguments are a pattern and at most one file, besides options. -/
def Options.ofArguments? (texts : List String) : Option Options := do
  let a ← Arguments.none.read? none texts
  match a.positionals with
  | [pattern] => some ⟨pattern, none, a⟩
  | [pattern, file] => some ⟨pattern, some file, a⟩
  | _ => none

end TreePattern.CommandLine
