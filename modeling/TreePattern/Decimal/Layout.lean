import TreePattern.Decimal.Shortest

namespace TreePattern.Decimal

/-- Numbers from `10 ^ least` to below `10 ^ bound` are written positionally. -/
structure Layout where
  tie : Tie
  least : Int
  bound : Int
  plus : Bool

def significant (n : Nat) : List Char :=
  ((Nat.toDigits 10 n).reverse.dropWhile (· == '0')).reverse

def zeros (n : Nat) : List Char := List.replicate n '0'

def positional (digits : List Char) (e : Int) : List Char :=
  if e < 0 then ['0', '.'] ++ zeros (-e - 1).toNat ++ digits
  else
    let whole := e.toNat + 1
    if digits.length ≤ whole then digits ++ zeros (whole - digits.length) ++ ['.', '0']
    else digits.take whole ++ '.' :: digits.drop whole

def scientific (plus : Bool) (digits : List Char) (e : Int) : List Char :=
  let mantissa := match digits with
    | d :: ds@(_ :: _) => d :: '.' :: ds
    | ds => ds
  let sign := if e < 0 then ['-'] else if plus then ['+'] else []
  mantissa ++ 'e' :: sign ++ Nat.toDigits 10 e.natAbs

def Layout.write (l : Layout) (x : Binary64) : List Char :=
  let sign := if x.negative then ['-'] else []
  if x.magnitude = 0 then sign ++ ['0', '.', '0']
  else
    let d := shortest l.tie x
    let e := d.exponent + digitCount d.digits - 1
    let digits := significant d.digits
    if l.least ≤ e ∧ e < l.bound then sign ++ positional digits e
    else sign ++ scientific l.plus digits e

end TreePattern.Decimal
