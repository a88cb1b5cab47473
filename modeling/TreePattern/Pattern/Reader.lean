import TreePattern.Pattern.Error
import TreePattern.Text.Blank

namespace TreePattern.Pattern

structure Failure where
  cause : Cause
  rest : List Char
  compiled : List Instr

/-- Takes something from the front of a text and returns it with the rest, or fails with the rest of
the text at the place of the error and the code of what had been read. -/
abbrev Reader (α : Type) := List Char → Except Failure (α × List Char)

def fail {α : Type} (cause : Cause) (rest : List Char) : Except Failure α :=
  .error ⟨cause, rest, []⟩

def unexpected {α : Type} (rest : List Char) : Except Failure α := fail .unexpectedToken rest

/-- A failure that comes after some code of the same level. -/
def after {α : Type} (code : List Instr) (r : Except Failure α) : Except Failure α :=
  r.mapError fun f ↦ { f with compiled := code ++ f.compiled }

/-- Of a subtree that was not finished no code is kept. -/
def nested {α : Type} (r : Except Failure α) : Except Failure α :=
  r.mapError fun f ↦ { f with compiled := [] }

def isIdentStart (c : Char) : Bool := ('a' ≤ c && c ≤ 'z') || ('A' ≤ c && c ≤ 'Z') || c == '_'

def isIdentChar (c : Char) : Bool := isIdentStart c || ('0' ≤ c && c ≤ '9')

def isSelectorStart (c : Char) : Bool := c == '$' || c == '\x27' || c == '/' || c == '['

def startsWith (p : Char → Bool) (cs : List Char) : Bool := cs.head?.any p

def ident : Reader String := fun cs ↦
  if startsWith isIdentStart cs then
    .ok (String.ofList (cs.takeWhile isIdentChar), cs.dropWhile isIdentChar)
  else unexpected cs

def skippable (cs : List Char) : Bool × List Char :=
  match skipBlanks cs with
  | '?' :: rest => (true, rest)
  | rest => (false, rest)

inductive DelimitedError
  | unfinished
  | badEscape (rest : List Char)

/-- The text up to a delimiter. A percent sign stands before a delimiter or percent sign that is
part of the text, and before nothing else. -/
def delimited (delimiter : Char) : List Char → Except DelimitedError (List Char × List Char)
  | [] => .error .unfinished
  | [c] =>
    if c = delimiter then .ok ([], [])
    else if c = '%' then .error (.badEscape [c])
    else .error .unfinished
  | c :: d :: cs =>
    if c = delimiter then .ok ([], d :: cs)
    else if c = '%' then
      if d = delimiter ∨ d = '%' then
        (delimited delimiter cs).map fun (text, rest) ↦ (d :: text, rest)
      else .error (.badEscape (c :: d :: cs))
    else (delimited delimiter (d :: cs)).map fun (text, rest) ↦ (c :: text, rest)

def quoted (delimiter : Char) (unfinished badEscape : Cause) : Reader String := fun cs ↦
  match delimited delimiter cs with
  | .ok (text, rest) => .ok (String.ofList text, rest)
  | .error .unfinished => fail unfinished (delimiter :: cs)
  | .error (.badEscape rest) => fail badEscape rest

def lookUp {α : Type} (role : Role) (as? : Definition → Option α) (d : Definitions) (name : String)
    (place : List Char) : Except Failure α :=
  match d.get? name with
  | some definition =>
    match as? definition with
    | some a => .ok a
    | none => fail (.wrongDefinition name role) place
  | none => fail (.undefinedName name) place

def keyOf : Definitions → String → List Char → Except Failure Value := lookUp .key Definition.key?

def predicateOf : Definitions → String → List Char → Except Failure Predicate :=
  lookUp .predicate Definition.predicate?

def param (d : Definitions) : Reader Selector := fun cs ↦ do
  let (before, rest) := skippable cs
  let place := skipBlanks rest
  let (name, rest) ← ident place
  let (behind, rest) := skippable rest
  let key ← keyOf d name place
  return (.param name key (before || behind), rest)

def typeTest (d : Definitions) : Reader TypeTest := fun cs ↦
  let (skip, rest) := skippable cs
  match skipBlanks rest with
  | '$' :: rest => do
    let place := skipBlanks rest
    let (name, rest) ← ident place
    let predicate ← predicateOf d name place
    return (⟨name, predicate, skip⟩, rest)
  | rest => unexpected rest

def manyWithin {α : Type} (opening : List Char) (item : Reader α) (code : α → List Instr) :
    Nat → Reader (List α)
  | 0, cs => unexpected cs
  | steps + 1, cs =>
    let cs := skipBlanks cs
    match opening.isPrefixOf? cs with
    | some rest => do
      let (a, rest) ← item rest
      let (as, rest) ← after (code a) (manyWithin opening item code steps rest)
      return (a :: as, rest)
    | none => .ok ([], cs)

/-- What stands behind each opening, as long as there is one. Every step takes a character. -/
def many {α : Type} (opening : List Char) (item : Reader α) (code : α → List Instr) :
    Reader (List α) := fun cs ↦ manyWithin opening item code (cs.length + 1) cs

def typeTests (d : Definitions) : Reader (List TypeTest) :=
  many [':'] (typeTest d) fun t ↦ [t.instr]

def enclosed (pattern : Reader Pattern) (close : Char) : Reader Pattern := fun cs ↦ do
  let (p, rest) ← nested (pattern cs)
  match skipBlanks rest with
  | c :: rest => if c = close then .ok (p, rest) else unexpected (c :: rest)
  | [] => unexpected []

def selector (d : Definitions) (pattern : Reader Pattern) : Reader Selector := fun cs ↦
  match cs with
  | '\x27' :: rest => do
    let (key, rest) ← quoted '\x27' .unfinishedString .stringEscape rest
    let (skip, rest) := skippable rest
    return (.literal key skip, rest)
  | '/' :: rest => do
    let (source, rest) ← quoted '/' .unfinishedRegex .regexEscape rest
    match Regex.read? source with
    | some regex =>
      let (skip, rest) := skippable rest
      return (.regex regex skip, rest)
    | none => fail .invalidRegex cs
  | '$' :: rest => param d rest
  | '[' :: rest => do
    let (p, rest) ← enclosed pattern ']' rest
    let (skip, rest) := skippable rest
    return (.subtree p skip, rest)
  | _ => unexpected cs

def tag (d : Definitions) (pattern : Reader Pattern) : Reader Tag := fun cs ↦
  let cs := skipBlanks cs
  if startsWith isIdentStart cs then do
    let (name, rest) ← ident cs
    let rest := skipBlanks rest
    if startsWith isSelectorStart rest then
      let (s, rest) ← after [.ident name] (selector d pattern rest)
      let (ts, rest) ← after [.ident name, s.instr] (typeTests d rest)
      return (.captureSelect name s ts, rest)
    else
      let (ts, rest) ← after [.ident name] (typeTests d rest)
      return (.capture name ts, rest)
  else do
    let (s, rest) ← selector d pattern cs
    let (ts, rest) ← after [s.instr] (typeTests d rest)
    return (.select s ts, rest)

def tags (d : Definitions) (pattern : Reader Pattern) : Reader (List Tag) :=
  many ['-', '>'] (fun cs ↦ after [.arrow] (tag d pattern cs)) Tag.code

def group (pattern : Reader Pattern) : Reader Group := fun cs ↦ do
  let (p, rest) ← enclosed pattern ')' cs
  let (skip, rest) := skippable rest
  return (.mk p skip, rest)

def groups (pattern : Reader Pattern) : Reader (List Group) :=
  many ['('] (group pattern) Group.code

/-- A pattern in which subtrees nest less than `depth` deep. -/
def pattern (d : Definitions) : (depth : Nat) → Reader Pattern
  | 0, cs => unexpected cs
  | depth + 1, cs => do
    let (ts, rest) ← typeTests d cs
    let (path, rest) ← after (testCode ts) (tags d (pattern d depth) rest)
    let (gs, rest) ← after (testCode ts ++ tagCode path) (groups (pattern d depth) rest)
    return (.mk ts path gs, rest)

/-- A pattern that takes the whole text. It cannot nest deeper than the text is long. -/
def whole (d : Definitions) (cs : List Char) : Except Failure Pattern := do
  let (p, rest) ← pattern d (cs.length + 1) cs
  match skipBlanks rest with
  | [] => .ok p
  | rest => after p.code (unexpected rest)

def read (d : Definitions) (source : String) : Except PatternError Pattern :=
  (whole d source.toList).mapError fun f ↦
    ⟨f.cause, source.toList.length - f.rest.length, source, d, f.compiled⟩

end TreePattern.Pattern
