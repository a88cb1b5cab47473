namespace TreePattern.Hexadecimal

def digit? (c : Char) : Option Nat :=
  if '0' ≤ c ∧ c ≤ '9' then some (c.toNat - 48)
  else if 'a' ≤ c ∧ c ≤ 'f' then some (c.toNat - 87)
  else if 'A' ≤ c ∧ c ≤ 'F' then some (c.toNat - 55)
  else none

def isDigit (c : Char) : Bool := (digit? c).isSome

/-- The number that digits stand for; a character that is no digit counts as zero. -/
def value (digits : List Char) : Nat :=
  digits.foldl (fun n c ↦ 16 * n + (digit? c).getD 0) 0

def write (n : Nat) : List Char := Nat.toDigits 16 n

end TreePattern.Hexadecimal
