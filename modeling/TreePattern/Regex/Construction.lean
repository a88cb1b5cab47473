import TreePattern.Regex.Basic

namespace TreePattern.Regex.Expr

mutual

def same : Expr → Expr → Bool
  | empty, empty => true
  | literal cs, literal ds => cs == ds
  | set s, set t => s == t
  | look k, look l => k == l
  | group m d, group n e => m == n && same d e
  | concat ds, concat es => sameAll ds es
  | alt ds, alt es => sameAll ds es
  | times d least most greedy, times e least' most' greedy' =>
    same d e && least == least' && most == most' && greedy == greedy'
  | _, _ => false
termination_by structural e => e

def sameAll : List Expr → List Expr → Bool
  | [], [] => true
  | d :: ds, e :: es => same d e && sameAll ds es
  | _, _ => false
termination_by structural es => es

end

mutual

def shortest : Expr → Option Nat
  | empty | look _ => some 0
  | literal cs => some cs.length
  | set s => if s.ranges = [] then none else some 1
  | group _ e => shortest e
  | concat es => shortestAll es
  | alt es => shortestAny es
  | times e least _ _ => (shortest e).map (· * least)
termination_by structural e => e

def shortestAll : List Expr → Option Nat
  | [] => some 0
  | e :: es => do some ((← shortest e) + (← shortestAll es))
termination_by structural es => es

def shortestAny : List Expr → Option Nat
  | [] => none
  | [e] => shortest e
  | e :: es => do some (min (← shortest e) (← shortestAny es))
termination_by structural es => es

end

mutual

def longest : Expr → Option Nat
  | empty | look _ => some 0
  | literal cs => some cs.length
  | set s => if s.ranges = [] then none else some 1
  | group _ e => longest e
  | concat es => longestAll es
  | alt es => longestAny es
  | times e _ most _ => do some ((← longest e) * (← most))
termination_by structural e => e

def longestAll : List Expr → Option Nat
  | [] => some 0
  | e :: es => do some ((← longest e) + (← longestAll es))
termination_by structural es => es

def longestAny : List Expr → Option Nat
  | [] => none
  | [e] => longest e
  | e :: es => do some (max (← longest e) (← longestAny es))
termination_by structural es => es

end

mutual

def size : Expr → Nat
  | empty | literal _ | set _ | look _ => 1
  | group _ e => size e + 1
  | concat es => sizeAll es + 1
  | alt es => sizeAll es + 1
  | times e _ _ _ => size e + 1
termination_by structural e => e

def sizeAll : List Expr → Nat
  | [] => 0
  | e :: es => size e + sizeAll es
termination_by structural es => es

end

def never : Expr := set .empty

def ofSet (s : CharSet) : Expr :=
  match s.ranges with
  | [⟨m, n⟩] => if m = n then literal [Char.ofNat n] else set s
  | _ => set s

def parts : Expr → List Expr
  | empty => []
  | concat es => es
  | e => [e]

def joinLiterals : List Expr → List Expr
  | [] => []
  | literal cs :: es =>
    match joinLiterals es with
    | literal ds :: es => literal (cs ++ ds) :: es
    | es => literal cs :: es
  | e :: es => e :: joinLiterals es

def sequence (es : List Expr) : Expr :=
  match joinLiterals (es.flatMap parts) with
  | [] => empty
  | [e] => e
  | es => concat es

def branches : Expr → List Expr
  | alt es => es
  | e => [e]

def char? : Expr → Option Char
  | literal [c] => some c
  | _ => none

def set? : Expr → Option CharSet
  | set s => some s
  | _ => none

def commonLength : List Expr → List Expr → Nat
  | d :: ds, e :: es => if same d e then commonLength ds es + 1 else 0
  | _, _ => 0

def sharedLength : List Expr → Nat
  | concat ds :: es =>
    let shared (n : Nat) (e : Expr) := match e with
      | concat es => min n (commonLength ds es)
      | _ => 0
    es.foldl shared ds.length
  | _ => 0

/-- Each time that a beginning is shared something is taken from the alternatives. -/
def choose : (steps : Nat) → List Expr → Expr
  | steps, es =>
    match es.flatMap branches with
    | [] => never
    | [e] => e
    | d :: e :: es =>
      let es := d :: e :: es
      match es.mapM char?, es.mapM set? with
      | some cs, _ => ofSet (.ofChars cs)
      | none, some ss => ofSet (.unions ss)
      | none, none =>
        match steps, sharedLength es with
        | 0, _ | _, 0 => alt es
        | steps + 1, n =>
          let rest := choose steps (es.map fun e ↦ sequence (e.parts.drop n))
          sequence (d.parts.take n ++ [rest])

def choice (es : List Expr) : Expr := choose (sizeAll es) es

/-- What matches only the empty text is repeated at most once. -/
def repetition (e : Expr) (least : Nat) (most : Option Nat) (greedy : Bool) : Expr :=
  let (least, most) :=
    if longest e = some 0 then (min least 1, some (min (most.getD 1) 1)) else (least, most)
  if least = 0 ∧ most = some 0 then empty
  else if least = 1 ∧ most = some 1 then e
  else times e least most greedy

mutual

def startsText : Expr → Bool
  | look l => l = .textStart
  | group _ e => startsText e
  | concat es => startsTextFirst es
  | alt es => startsTextAll es
  | times e least _ _ => least != 0 && startsText e
  | _ => false
termination_by structural e => e

def startsTextFirst : List Expr → Bool
  | [] => false
  | e :: es => startsText e || (longest e = some 0 && startsTextFirst es)
termination_by structural es => es

def startsTextAll : List Expr → Bool
  | [] => true
  | e :: es => startsText e && startsTextAll es
termination_by structural es => es

end

mutual

def endsText : Expr → Bool
  | look l => l = .textEnd
  | group _ e => endsText e
  | concat es => (endsTextLast es).1
  | alt es => endsTextAll es
  | times e least _ _ => least != 0 && endsText e
  | _ => false
termination_by structural e => e

/-- Whether a sequence ends where the text does, and whether it matches the empty text alone. -/
def endsTextLast : List Expr → Bool × Bool
  | [] => (false, true)
  | e :: es =>
    let (ends, isEmpty) := endsTextLast es
    (ends || (isEmpty && endsText e), isEmpty && longest e = some 0)
termination_by structural es => es

def endsTextAll : List Expr → Bool
  | [] => true
  | e :: es => endsText e && endsTextAll es
termination_by structural es => es

end

end TreePattern.Regex.Expr
