import TreePattern.Predicate.Basic
import TreePattern.Text.Hexadecimal

namespace TreePattern

structure CommitId where
  long : Bool

namespace CommitId

def acceptsText (c : CommitId) (cs : List Char) : Bool :=
  cs.all Hexadecimal.isDigit && (cs.length == 40 || (c.long && cs.length == 64))

def predicate (c : CommitId) : Predicate := .ofText c.acceptsText

end CommitId

end TreePattern
