import TreePattern.Text.Grapheme
import TreePattern.Text.Invisible
import TreePattern.Text.Newest

namespace TreePattern.CharSet

def visible : CharSet :=
  unions [Category.sets (Category.letters ++ Category.marks ++ Category.numbers ++
    Category.punctuation ++ Category.symbols), newestShown]

def printable : CharSet :=
  diff visible (union (diff graphemeExtend Category.modifierLetter.set) defaultIgnorable)

end TreePattern.CharSet

namespace TreePattern

def isPrintable (c : Char) : Bool :=
  (0x20 ≤ c.toNat && c.toNat < 0x7f) || CharSet.printable.contains c

end TreePattern
