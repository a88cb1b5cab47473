import TreePattern.Decimal.Shortest

namespace TreePattern

namespace Decimal

def isDigit (c : Char) : Bool := '0' ≤ c && c ≤ '9'

def digitValue (c : Char) : Nat := c.toNat - 48

def value (digits : List Char) : Nat := digits.foldl (fun n c ↦ 10 * n + digitValue c) 0

/-- The magnitude nearest to a decimal. Beyond `10 ^ 400` it is infinite and below `10 ^ -400` zero,
whatever the digits. -/
def magnitude (d : Decimal) : Nat :=
  if d.digits = 0 then 0
  else if 400 < d.exponent + digitCount d.digits then Binary64.infinite
  else if d.exponent + digitCount d.digits < -400 then 0
  else Binary64.nearest (d.digits * Nat.pow 10 d.exponent.toNat) (Nat.pow 10 (-d.exponent).toNat)

def exponent? : List Char → Option Int
  | [] => some 0
  | c :: cs =>
    let (negative, digits) := match cs with
      | '-' :: ds => (true, ds)
      | '+' :: ds => (false, ds)
      | ds => (false, ds)
    if (c == 'e' || c == 'E') && digits != [] && digits.all isDigit then
      some (if negative then -value digits else value digits)
    else none

def numeral? (cs : List Char) : Option Decimal :=
  let whole := cs.takeWhile isDigit
  let rest := cs.dropWhile isDigit
  let (fraction, rest) := match rest with
    | '.' :: rest => (rest.takeWhile isDigit, rest.dropWhile isDigit)
    | rest => ([], rest)
  if whole ++ fraction = [] then none
  else (exponent? rest).map fun e ↦ ⟨value (whole ++ fraction), e - fraction.length⟩

end Decimal

def Binary64.ofText? (text : String) : Option Binary64 :=
  let (negative, cs) := match text.toList with
    | '-' :: cs => (true, cs)
    | '+' :: cs => (false, cs)
    | cs => (false, cs)
  let word := String.ofList (cs.map Char.toLower)
  if word = "inf" ∨ word = "infinity" then some (ofMagnitude negative infinite)
  else if word = "nan" then some (ofMagnitude negative nan.magnitude)
  else (Decimal.numeral? cs).map fun d ↦ ofMagnitude negative d.magnitude

end TreePattern
