import TreePattern.Decimal.Numeral
import TreePattern.Json.Basic

namespace TreePattern.Json

open Decimal (isDigit digitValue)

def fitting (n : Nat) : List Char → Nat × Nat × List Char
  | [] => (n, 0, [])
  | c :: cs =>
    if isDigit c ∧ 10 * n + digitValue c < Nat.pow 2 64 then
      let (m, k, rest) := fitting (10 * n + digitValue c) cs
      (m, k + 1, rest)
    else (n, 0, c :: cs)

def powerOfTen (k : Nat) : Binary64 := Binary64.ofNat (Nat.pow 10 k)

def scaled? (x : Binary64) (e : Int) : Option Binary64 :=
  if x.magnitude = 0 then some x
  else if 308 < e then none
  else if 0 ≤ e then
    let y := x.mul (powerOfTen e.toNat)
    if y.isFinite then some y else none
  else if -308 ≤ e then some (x.div (powerOfTen (-e).toNat))
  else scaled? (x.div (powerOfTen 308)) (e + 308)
termination_by (-e).toNat

def signed (negative : Bool) (x : Binary64) : Binary64 := .ofMagnitude negative x.magnitude

def withExponent (negative : Bool) (digits : Nat) (e : Int) (cs : List Char) :
    Option (Json × List Char) :=
  let result (e : Int) (rest : List Char) :=
    (scaled? (Binary64.ofNat digits) e).map fun x ↦ (float (signed negative x), rest)
  match cs with
  | c :: cs =>
    if c = 'e' ∨ c = 'E' then
      let (down, cs) := match cs with
        | '+' :: cs => (false, cs)
        | '-' :: cs => (true, cs)
        | cs => (false, cs)
      let places := cs.takeWhile isDigit
      let rest := cs.dropWhile isDigit
      let size : Int := Decimal.value places
      if places = [] then none
      else if size < Nat.pow 2 31 then result (if down then e - size else e + size) rest
      else if digits = 0 ∨ down then some (float (signed negative ⟨0⟩), rest)
      else none
    else result e (c :: cs)
  | [] => result e []

/-- A numeral after its sign. Without point and exponent it is an integer if it fits in 64 bits; any
other is a float, whose digits are rounded first and then multiplied or divided by a power of ten,
which rounds again. -/
def numeral (negative : Bool) (cs : List Char) : Option (Json × List Char) :=
  let whole := cs.takeWhile isDigit
  if whole = [] ∨ (1 < whole.length ∧ whole.head? = some '0') then none
  else
    let (n, _, rest) := fitting 0 cs
    let beyond := (rest.takeWhile isDigit).length
    match rest.dropWhile isDigit with
    | '.' :: rest =>
      if (rest.takeWhile isDigit).isEmpty then none
      else
        let (n, k, rest) := fitting n rest
        withExponent negative n (beyond - k) (rest.dropWhile isDigit)
    | rest =>
      let integral := rest.head? ≠ some 'e' ∧ rest.head? ≠ some 'E'
      if integral ∧ beyond = 0 ∧ ¬(negative ∧ (n = 0 ∨ Nat.pow 2 63 < n)) then
        some (int (if negative then -n else n), rest)
      else withExponent negative n beyond rest

end TreePattern.Json
