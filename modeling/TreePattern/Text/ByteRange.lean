import TreePattern.Text.CharSet

namespace TreePattern

structure ByteRange where
  first : Nat
  last : Nat
  deriving DecidableEq

namespace ByteRange

/-- The sequences of a leading byte that begins at `mark` and the given number of bytes after it. -/
def sequences : (following mark first last : Nat) → List (List ByteRange)
  | 0, mark, first, last => [[⟨mark + first, mark + last⟩]]
  | n + 1, mark, first, last =>
    let unit := Nat.pow 64 (n + 1)
    let lead (low high : Nat) (first last : Nat) :=
      (sequences n 0x80 first last).map (⟨mark + low, mark + high⟩ :: ·)
    let low := first / unit
    let high := last / unit
    if low = high then lead low low (first % unit) (last % unit)
    else
      let start := if first % unit = 0 then low else low + 1
      let stop := if last % unit = unit - 1 then high + 1 else high
      (if start = low then [] else lead low low (first % unit) (unit - 1)) ++
        (if start < stop then lead start (stop - 1) 0 (unit - 1) else []) ++
        (if stop = high then lead high high 0 (last % unit) else [])

end ByteRange

namespace CharRange

def blocks : List (CharRange × Nat × Nat) :=
  [(⟨0, 0x7f⟩, 0, 0), (⟨0x80, 0x7ff⟩, 1, 0xc0), (⟨0x800, 0xd7ff⟩, 2, 0xe0),
    (⟨0xe000, 0xffff⟩, 2, 0xe0), (⟨0x10000, 0x10ffff⟩, 3, 0xf0)]

def byteSequences (r : CharRange) : List (List ByteRange) :=
  blocks.flatMap fun (block, following, mark) ↦
    let first := max r.first block.first
    let last := min r.last block.last
    if first ≤ last then ByteRange.sequences following mark first last else []

end CharRange

def CharSet.byteSequences (s : CharSet) : List (List ByteRange) :=
  s.ranges.flatMap CharRange.byteSequences

end TreePattern
