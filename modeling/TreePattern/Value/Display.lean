import TreePattern.Decimal.Layout
import TreePattern.Text.Quoted
import TreePattern.Value.Basic

namespace TreePattern.Value

/-- Floats are written positionally from `0.0001` to below `10 ^ 16`, and a tie between two shortest
texts goes to the larger. -/
def floatLayout : Decimal.Layout := ⟨.up, -4, 16, false⟩

example : floatLayout.write (.ofNat (10 ^ 15)) = "1000000000000000.0".toList := by decide +kernel

example : floatLayout.write (.ofNat (10 ^ 16)) = "1e16".toList := by decide +kernel

example : floatLayout.write (Binary64.div (.ofNat 1) (.ofNat 10000)) = "0.0001".toList := by
  decide +kernel

example : floatLayout.write (Binary64.div (.ofNat 3) (.ofNat 200000)) = "1.5e-5".toList := by
  decide +kernel

/-- Here the number lies halfway between the two shortest texts. -/
example : floatLayout.write (Binary64.div (.ofNat 1) (.ofNat (2 ^ 25))) =
    "2.9802322387695313e-8".toList := by
  decide +kernel

def floatText (x : Binary64) : List Char :=
  if x.isFinite then floatLayout.write x
  else if x.isNaN then ['N', 'a', 'N']
  else if x.negative then ['-', 'i', 'n', 'f']
  else ['i', 'n', 'f']

def intText (n : Int) : List Char :=
  if n < 0 then '-' :: Nat.toDigits 10 n.natAbs else Nat.toDigits 10 n.natAbs

def joined : List (List Char) → List Char
  | [] => []
  | [t] => t
  | t :: ts => t ++ ',' :: ' ' :: joined ts

mutual

def chars : Value → List Char
  | null => "null".toList
  | bool true => "true".toList
  | bool false => "false".toList
  | int n => intText n.toInt
  | float x => floatText x
  | str s => Quoted.write s
  | seq items => '[' :: joined (itemChars items) ++ [']']
  | map entries => '\x7b' :: joined (entryChars entries) ++ ['\x7d']
  | set [] => "set()".toList
  | set (v :: items) => '\x7b' :: joined (chars v :: itemChars items) ++ ['\x7d']
termination_by structural v => v

def itemChars : List Value → List (List Char)
  | [] => []
  | v :: vs => chars v :: itemChars vs
termination_by structural vs => vs

def entryChars : List (Value × Value) → List (List Char)
  | [] => []
  | (k, v) :: es => (chars k ++ ':' :: ' ' :: chars v) :: entryChars es
termination_by structural es => es

end

def display (v : Value) : String := String.ofList v.chars

end TreePattern.Value
