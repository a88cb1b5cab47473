import TreePattern.Regex.Basic

namespace TreePattern.Regex

/-- An expression in a text, where a set of positions is a number whose binary digits tell which are
in it. Sets of characters and assertions are the positions where they hold, and a repetition knows
how many more rounds than the least may matter. -/
inductive Located
  | next (positions : Nat)
  | look (positions : Nat)
  | concat (es : List Located)
  | alt (es : List Located)
  | times (e : Located) (least : Nat) (more : Nat)

def positions {α : Type} (test : α → Bool) (places : List α) : Nat :=
  places.foldr (fun a n ↦ 2 * n + (test a).toNat) 0

def places (text : List Char) : List (Option Char × Option Char) :=
  (none :: text.map some).zip (text.map some ++ [none])

namespace Expr

mutual

def locate (text : List Char) : Expr → Located
  | empty => .concat []
  | literal cs => .concat (cs.map fun c ↦ .next (positions (· == c) text))
  | set s => .next (positions s.contains text)
  | look l => .look (positions (fun (before, after) ↦ l.holds before after) (places text))
  | group _ e => locate text e
  | concat es => .concat (locateAll text es)
  | alt es => .alt (locateAll text es)
  | times e least most _ =>
    let more := match most with
      | some most => most - least
      | none => text.length + 1
    .times (locate text e) least more
termination_by structural e => e

def locateAll (text : List Char) : List Expr → List Located
  | [] => []
  | e :: es => locate text e :: locateAll text es
termination_by structural es => es

end

end Expr

namespace Located

def rounds (f : Nat → Nat) : Nat → Nat → Nat
  | 0, s => s
  | n + 1, s =>
    let t := f s
    if t = s then s else rounds f n t

/-- What up to `n` rounds of `f` reach beyond `seen`, of which `fresh` has not been followed yet. -/
def reach (f : Nat → Nat) : (n fresh seen : Nat) → Nat
  | 0, _, seen => seen
  | n + 1, fresh, seen =>
    let all := seen ||| f fresh
    if all = seen then seen else reach f n (all ^^^ seen) all

mutual

def ends : Located → Nat → Nat
  | next positions, s => (s &&& positions) <<< 1
  | look positions, s => s &&& positions
  | concat es, s => concatEnds es s
  | alt es, s => altEnds es s
  | times e least more, s =>
    let s := rounds (ends e) least s
    reach (ends e) more s s
termination_by structural e => e

def concatEnds : List Located → Nat → Nat
  | [], s => s
  | e :: es, s => concatEnds es (ends e s)
termination_by structural es => es

def altEnds : List Located → Nat → Nat
  | [], _ => 0
  | e :: es, s => ends e s ||| altEnds es s
termination_by structural es => es

end

end Located

def Expr.matchesIn (e : Expr) (text : List Char) : Bool :=
  (e.locate text).ends (Nat.pow 2 (text.length + 1) - 1) != 0

end TreePattern.Regex
