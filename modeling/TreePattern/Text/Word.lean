import TreePattern.Text.Grapheme
import TreePattern.Text.Letter
import TreePattern.Text.Newest

namespace TreePattern

def CharSet.word : CharSet :=
  .unions [alphabetic, Category.sets Category.marks, Category.decimalNumber.set,
    Category.connectorPunctuation.set, joinControl]

def isAlphabetic (c : Char) : Bool :=
  CharSet.alphabetic.contains c || CharSet.newestAlphabetic.contains c

def isNumeric (c : Char) : Bool :=
  (Category.sets Category.numbers).contains c || CharSet.newestNumbers.contains c

end TreePattern
