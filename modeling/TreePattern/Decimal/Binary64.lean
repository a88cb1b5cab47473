namespace TreePattern

/-- A binary64 number as its bit pattern, so that two are equal exactly when all their bits are. -/
structure Binary64 where
  bits : UInt64
  deriving DecidableEq

namespace Binary64

def negative (x : Binary64) : Bool := Nat.pow 2 63 ≤ x.bits.toNat

def magnitude (x : Binary64) : Nat := x.bits.toNat % Nat.pow 2 63

def infinite : Nat := 2047 * Nat.pow 2 52

def isFinite (x : Binary64) : Bool := x.magnitude < infinite

def isNaN (x : Binary64) : Bool := infinite < x.magnitude

def ofMagnitude (negative : Bool) (magnitude : Nat) : Binary64 :=
  ⟨UInt64.ofNat (if negative then Nat.pow 2 63 + magnitude else magnitude)⟩

def nan : Binary64 := ofMagnitude false (infinite + Nat.pow 2 51)

def units (x : Binary64) : Nat :=
  let fraction := x.magnitude % Nat.pow 2 52
  if x.magnitude < Nat.pow 2 52 then fraction else Nat.pow 2 52 + fraction

def exponent (x : Binary64) : Int :=
  if x.magnitude < Nat.pow 2 52 then -1074 else (x.magnitude / Nat.pow 2 52 : Nat) - 1075

/-- The whole number nearest to a quotient, a half going to the even one. -/
def roundEven (num den : Nat) : Nat :=
  let q := num / den
  let r := num % den
  if den < 2 * r || (2 * r == den && q % 2 == 1) then q + 1 else q

def powerLe (k : Int) (num den : Nat) : Bool :=
  den * Nat.pow 2 k.toNat ≤ num * Nat.pow 2 (-k).toNat

/-- The magnitude nearest to a quotient. The unit in the last place is `2 ^ e`, where `e` leaves 53
binary digits before the point or is the least one; units that round up to `2 ^ 53` carry into the
field above them, which is the next power of two. -/
def nearest (num den : Nat) : Nat :=
  if num = 0 then 0
  else
    let k : Int := (Nat.log2 num : Int) - Nat.log2 den
    let e := max (-1074) (if powerLe k num den then k - 52 else k - 53)
    let units := roundEven (num * Nat.pow 2 (-e).toNat) (den * Nat.pow 2 e.toNat)
    min ((e + 1074).toNat * Nat.pow 2 52 + units) infinite

def numerator (x : Binary64) : Nat := x.units * Nat.pow 2 x.exponent.toNat

def denominator (x : Binary64) : Nat := Nat.pow 2 (-x.exponent).toNat

def mul (x y : Binary64) : Binary64 :=
  ofMagnitude (x.negative != y.negative)
    (nearest (x.numerator * y.numerator) (x.denominator * y.denominator))

def div (x y : Binary64) : Binary64 :=
  ofMagnitude (x.negative != y.negative)
    (nearest (x.numerator * y.denominator) (x.denominator * y.numerator))

def ofNat (n : Nat) : Binary64 := ofMagnitude false (nearest n 1)

def ofInt (n : Int) : Binary64 := ofMagnitude (n < 0) (nearest n.natAbs 1)

end Binary64

end TreePattern
