import TreePattern.Pattern.Basic

namespace TreePattern

inductive Role
  | key
  | predicate
  deriving DecidableEq

def Role.text : Role → String
  | key => "key value"
  | predicate => "predicate"

inductive Cause
  | unfinishedString
  | unfinishedRegex
  | stringEscape
  | regexEscape
  | unexpectedToken
  | invalidRegex
  | undefinedName (name : String)
  | wrongDefinition (name : String) (expected : Role)
  deriving DecidableEq

def Cause.message : Cause → String
  | unfinishedString => "Unfinished string"
  | unfinishedRegex => "Unfinished regex"
  | stringEscape => "Error in string escape"
  | regexEscape => "Error in regex escape"
  | unexpectedToken => "Unexpected token"
  | invalidRegex => "Invalid regex"
  | undefinedName name => "Undefined name '" ++ name ++ "'"
  | wrongDefinition name expected => "'" ++ name ++ "' must be defined as a " ++ expected.text

/-- A pattern that was refused, the character at which it went wrong, and the instructions of the
outermost level that stand before that. -/
structure PatternError where
  cause : Cause
  position : Nat
  source : String
  definitions : Definitions
  compiled : List Instr

def PatternError.message (e : PatternError) : String :=
  e.cause.message ++ " at position " ++ toString e.position

end TreePattern
