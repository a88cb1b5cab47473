namespace TreePattern

structure CharRange where
  first : Nat
  last : Nat
  deriving DecidableEq

/-- Ranges of code points that ascend and lie apart. -/
structure CharSet where
  ranges : List CharRange
  deriving DecidableEq

namespace CharRange

/-- Adds a range to ranges that begin no later, the last of which comes first. -/
def join : List CharRange → CharRange → List CharRange
  | [], s => [s]
  | r :: rs, s => if s.first ≤ r.last + 1 then ⟨r.first, max r.last s.last⟩ :: rs else s :: r :: rs

def joinAll (rs : List CharRange) : List CharRange := (rs.foldl join []).reverse

def gaps : Nat → List CharRange → List CharRange
  | n, [] => if n < 0x110000 then [⟨n, 0x10ffff⟩] else []
  | n, r :: rs =>
    if n < r.first then ⟨n, r.first - 1⟩ :: gaps (r.last + 1) rs else gaps (r.last + 1) rs

def anyHolds : List CharRange → Nat → Bool
  | [], _ => false
  | r :: rs, n => r.first ≤ n && (n ≤ r.last || anyHolds rs n)

end CharRange

namespace CharSet

def empty : CharSet := ⟨[]⟩

def full : CharSet := ⟨[⟨0, 0x10ffff⟩]⟩

def range (low high : Nat) : CharSet := ⟨[⟨low, high⟩]⟩

def single (c : Char) : CharSet := range c.toNat c.toNat

def contains (s : CharSet) (c : Char) : Bool := CharRange.anyHolds s.ranges c.toNat

def ofRanges (rs : List CharRange) : CharSet :=
  ⟨CharRange.joinAll (rs.mergeSort fun r s ↦ r.first ≤ s.first)⟩

def ofChars (cs : List Char) : CharSet := ofRanges (cs.map fun c ↦ ⟨c.toNat, c.toNat⟩)

def union (s t : CharSet) : CharSet :=
  ⟨CharRange.joinAll (s.ranges.merge t.ranges fun r s ↦ r.first ≤ s.first)⟩

def unions (ss : List CharSet) : CharSet := ss.foldl union empty

def complement (s : CharSet) : CharSet := ⟨CharRange.gaps 0 s.ranges⟩

def complementIf (b : Bool) (s : CharSet) : CharSet := if b then s.complement else s

def inter (s t : CharSet) : CharSet := (s.complement.union t.complement).complement

def diff (s t : CharSet) : CharSet := s.inter t.complement

def symmDiff (s t : CharSet) : CharSet := (s.union t).diff (s.inter t)

def isAscii (s : CharSet) : Bool := s.ranges.all (·.last < 0x80)

end CharSet

end TreePattern
