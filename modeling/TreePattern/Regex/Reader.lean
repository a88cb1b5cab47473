import TreePattern.Regex.Footprint
import TreePattern.Regex.Group
import TreePattern.Regex.Located

namespace TreePattern.Regex

namespace Reader

def lazily (cs : List Char) : Bool × List Char :=
  match cs with
  | '?' :: cs => (true, cs)
  | cs => (false, cs)

def count? (f : Flags) (cs : List Char) : Option (Nat × List Char) :=
  let (digits, rest) := spacedAll f CharClass.asciiDigit.contains (skipBlanks (skip f cs))
  let n := digits.foldl (fun n c ↦ 10 * n + (c.toNat - 48)) 0
  if digits = [] ∨ Nat.pow 2 32 ≤ n then none else some (n, skip f (skipBlanks rest))

def counts? (f : Flags) (cs : List Char) : Option ((Nat × Option Nat) × List Char) := do
  let (least, rest) ← count? f cs
  match rest with
  | '\x7d' :: rest => some ((least, some least), rest)
  | ',' :: rest =>
    match skip f rest with
    | '\x7d' :: rest => some ((least, none), rest)
    | rest => do
      let (most, rest) ← count? f rest
      match rest with
      | '\x7d' :: rest => if least ≤ most then some ((least, some most), rest) else none
      | _ => none
  | _ => none

/-- A character as it stands, or with the case ignored all that differ from it only in case. Without
Unicode only ASCII has case. -/
def literal (f : Flags) (c : Char) : Expr :=
  if f.unicode || c.toNat < 0x80 then .ofSet (CharClass.fold f (.single c)) else .literal [c]

def ofAtom (f : Flags) : Atom → Expr
  | .literal c => literal f c
  | .set s => .ofSet s
  | .look l => .look l

def step? (s : State) : List Char → Option (State × List Char)
  | [] => none
  | c :: cs =>
    let times? (least : Nat) (most : Option Nat) (cs : List Char) :=
      let (lazy, rest) := lazily cs
      (s.times? least most lazy).map ((·, rest))
    match c with
    | '(' => groupStart? s cs
    | ')' => s.leave?.map ((·, cs))
    | '|' => some (s.alternate, cs)
    | '[' => (charClass? s.flags cs).map fun (set, rest) ↦
      (s.push ⟨.ofSet set.set, set.depth, true⟩, rest)
    | '?' => times? 0 (some 1) cs
    | '*' => times? 0 none cs
    | '+' => times? 1 none cs
    | '\x7b' => do
      let ((least, most), rest) ← counts? s.flags cs
      times? least most (skip s.flags rest)
    | '\\' => (escape? s.flags cs).map fun (atom, rest) ↦
      (s.pushExpr (ofAtom s.flags atom), rest)
    | '.' => if s.flags.unicode then some (s.pushExpr (.set (CharClass.dot s.flags)), cs) else none
    | '^' =>
      let l := if s.flags.multiLine then .lineStart s.flags.crlf else .textStart
      some (s.pushExpr (.look l), cs)
    | '$' =>
      let l := if s.flags.multiLine then .lineEnd s.flags.crlf else .textEnd
      some (s.pushExpr (.look l), cs)
    | c => some (s.pushExpr (literal s.flags c), cs)

def run : Nat → State → List Char → Option State
  | 0, _, _ => none
  | steps + 1, s, cs =>
    match skip s.flags cs with
    | [] => some s
    | cs => do
      let (s, rest) ← step? s cs
      run steps s rest

/-- An expression is refused when it is nested too deep or its automata do not fit. -/
def read? (text : List Char) : Option Expr := do
  let s ← run (text.length + 1) .start text
  let body := s.body
  if s.outer.isEmpty && body.depth ≤ State.depthLimit && body.expr.fits then some body.expr
  else none

end Reader

end TreePattern.Regex

namespace TreePattern

structure Regex where
  source : String
  expr : Regex.Expr

namespace Regex

def read? (source : String) : Option Regex := (Reader.read? source.toList).map (⟨source, ·⟩)

def isMatch (r : Regex) (text : String) : Bool := r.expr.matchesIn text.toList

end Regex

end TreePattern
