import TreePattern.Pattern.Reader

namespace TreePattern

structure Compiled where
  source : String
  pattern : Pattern
  definitions : Definitions

namespace Compiled

def code (c : Compiled) : List Instr := c.pattern.code

def namesOf (code : List Instr) : List String := (Instr.codeNames code).eraseDups

def params (c : Compiled) : List String := namesOf c.code

/-- Compiles a pattern and keeps of the definitions those it refers to. -/
def compile (d : Definitions) (source : String) : Except PatternError Compiled := do
  let p ← Pattern.read d source
  return ⟨source, p, d.restrict (namesOf p.code)⟩

end Compiled

end TreePattern
