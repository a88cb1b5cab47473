import TreePattern.Definitions
import TreePattern.Regex.Reader

namespace TreePattern

/-- A test of a value; `skippable` tells whether a value that fails is passed over or an error. -/
structure TypeTest where
  name : String
  predicate : Predicate
  skippable : Bool

mutual

inductive Selector
  | literal (key : String) (skippable : Bool)
  | regex (regex : Regex) (skippable : Bool)
  | param (name : String) (key : Value) (skippable : Bool)
  | subtree (pattern : Pattern) (skippable : Bool)

/-- One step into a value, which captures the chosen entry under a name, selects by key or both. -/
inductive Tag
  | capture (name : String) (tests : List TypeTest)
  | select (selector : Selector) (tests : List TypeTest)
  | captureSelect (name : String) (selector : Selector) (tests : List TypeTest)

inductive Group
  | mk (pattern : Pattern) (skippable : Bool)

inductive Pattern
  | mk (tests : List TypeTest) (tags : List Tag) (groups : List Group)

end

inductive Instr
  | arrow
  | ident (name : String)
  | stringKey (key : String) (skippable : Bool)
  | regexKey (regex : Regex) (skippable : Bool)
  | param (name : String) (key : Value) (skippable : Bool)
  | test (name : String) (predicate : Predicate) (skippable : Bool)
  | keySubtree (code : List Instr) (skippable : Bool)
  | valueSubtree (code : List Instr) (skippable : Bool)
  | close

def TypeTest.instr (t : TypeTest) : Instr := .test t.name t.predicate t.skippable

def testCode (tests : List TypeTest) : List Instr := tests.map TypeTest.instr

mutual

def Selector.instr : Selector → Instr
  | .literal key skippable => .stringKey key skippable
  | .regex regex skippable => .regexKey regex skippable
  | .param name key skippable => .param name key skippable
  | .subtree pattern skippable => .keySubtree pattern.code skippable
termination_by structural s => s

def Tag.code : Tag → List Instr
  | .capture name tests => .arrow :: .ident name :: (testCode tests ++ [.close])
  | .select selector tests => .arrow :: selector.instr :: (testCode tests ++ [.close])
  | .captureSelect name selector tests =>
    .arrow :: .ident name :: selector.instr :: (testCode tests ++ [.close])
termination_by structural t => t

def tagCode : List Tag → List Instr
  | [] => []
  | t :: ts => t.code ++ tagCode ts
termination_by structural ts => ts

def Group.code : Group → List Instr
  | .mk pattern skippable => [.valueSubtree pattern.code skippable, .close]
termination_by structural g => g

def groupCode : List Group → List Instr
  | [] => []
  | g :: gs => g.code ++ groupCode gs
termination_by structural gs => gs

/-- The tests of the root, then each tag and each group, closed by an instruction of its own. -/
def Pattern.code : Pattern → List Instr
  | .mk tests tags groups => testCode tests ++ tagCode tags ++ groupCode groups
termination_by structural p => p

end

namespace Instr

def isClose : Instr → Bool
  | close => true
  | _ => false

mutual

def names : Instr → List String
  | param name _ _ => [name]
  | test name _ _ => [name]
  | keySubtree code _ => codeNames code
  | valueSubtree code _ => codeNames code
  | arrow | ident _ | stringKey _ _ | regexKey _ _ | close => []
termination_by structural i => i

def codeNames : List Instr → List String
  | [] => []
  | i :: is => names i ++ codeNames is
termination_by structural is => is

end

end Instr

end TreePattern
