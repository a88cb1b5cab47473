namespace TreePattern

/-- What no compiled pattern can bring about; a mismatch is an answer about the tree instead. -/
inductive Fault
  | misplaced
  | noLevel
  | secondLookup
  | blankLevel
  | notAtRoot
  | exhausted
  deriving DecidableEq

end TreePattern
