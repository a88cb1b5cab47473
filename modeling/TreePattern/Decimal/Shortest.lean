import TreePattern.Decimal.Binary64

namespace TreePattern

structure Decimal where
  digits : Nat
  exponent : Int
  deriving DecidableEq

namespace Decimal

def digitCount (n : Nat) : Nat := (Nat.toDigits 10 n).length

def leading (num den : Nat) : Int :=
  if den ≤ num then digitCount (num / den) - 1
  else -(digitCount ((den + num - 1) / num - 1) : Int)

structure Grid where
  step : Nat
  quarter : Nat

def grid (x : Binary64) (k : Int) : Grid :=
  let p := x.exponent - 2
  ⟨Nat.pow 10 k.toNat * Nat.pow 2 (-p).toNat, Nat.pow 2 p.toNat * Nat.pow 10 (-k).toNat⟩

/-- Whether the `d`-th grid point rounds to the number. Half a unit lies on either side of it, but
only a quarter below a power of two; the ends round to it when its units are even. -/
def readsBack (x : Binary64) (g : Grid) (d : Nat) : Bool :=
  let below := if x.units = Nat.pow 2 52 ∧ Nat.pow 2 53 ≤ x.magnitude then 1 else 2
  let low := (4 * x.units - below) * g.quarter
  let high := (4 * x.units + 2) * g.quarter
  let point := d * g.step
  if x.units % 2 = 0 then low ≤ point && point ≤ high else low < point && point < high

inductive Tie
  | up
  | even
  deriving DecidableEq

def onGrid? (tie : Tie) (x : Binary64) (k : Int) : Option Decimal :=
  let g := grid x k
  let value := 4 * x.units * g.quarter
  let d := value / g.step
  match readsBack x g d, readsBack x g (d + 1) with
  | false, false => none
  | true, false => some ⟨d, k⟩
  | false, true => some ⟨d + 1, k⟩
  | true, true =>
    let r := 2 * (value % g.step)
    if r < g.step || (r == g.step && tie = .even && d % 2 = 0) then some ⟨d, k⟩ else some ⟨d + 1, k⟩

/-- Of the decimals that read back as the number, those with the fewest digits, and of these the
nearest. Seventeen digits are always enough. -/
def shortest (tie : Tie) (x : Binary64) : Decimal :=
  let e := leading x.numerator x.denominator
  ((List.range 17).findSome? fun (n : Nat) ↦ onGrid? tie x (e - n)).getD ⟨0, 0⟩

end Decimal

end TreePattern
