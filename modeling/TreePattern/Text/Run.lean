import TreePattern.Text.CharSet
import TreePattern.Text.Hexadecimal

namespace TreePattern

/-- The code points `first`, `first + step`, and so on up to `last`, written in hexadecimal as
`first`, `first-last` or `first-last/step`. -/
structure Run where
  first : Nat
  last : Nat
  step : Nat

namespace Run

def ofText (text : String) : Run :=
  let isHex := Hexadecimal.isDigit
  let cs := text.toList
  let first := Hexadecimal.value (cs.takeWhile isHex)
  match cs.dropWhile isHex with
  | '-' :: cs =>
    let last := Hexadecimal.value (cs.takeWhile isHex)
    match cs.dropWhile isHex with
    | '/' :: cs => ⟨first, last, Hexadecimal.value cs⟩
    | _ => ⟨first, last, 1⟩
  | _ => ⟨first, first, 1⟩

def members (r : Run) : List Nat :=
  (List.range ((r.last - r.first) / r.step + 1)).map fun i ↦ r.first + i * r.step

def ranges (r : Run) : List CharRange :=
  if r.step = 1 then [⟨r.first, r.last⟩] else r.members.map fun n ↦ ⟨n, n⟩

end Run

def CharSet.ofTable (lines : List String) : CharSet :=
  ⟨CharRange.joinAll ((lines.flatMap (·.splitOn " ")).flatMap fun text ↦ (Run.ofText text).ranges)⟩

end TreePattern
