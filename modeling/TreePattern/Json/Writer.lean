import TreePattern.Json.Basic

namespace TreePattern.Json

/-- Floats are written positionally from `0.00001` to below `10 ^ 16`, and a tie between two
shortest texts goes to the even digit. -/
def floatLayout : Decimal.Layout := ⟨.even, -5, 16, true⟩

example : floatLayout.write (.ofNat (10 ^ 16)) = "1e+16".toList := by decide +kernel

example : floatLayout.write (Binary64.div (.ofNat 1) (.ofNat 100000)) = "0.00001".toList := by
  decide +kernel

example : floatLayout.write (Binary64.div (.ofNat 1) (.ofNat (2 ^ 25))) =
    "2.9802322387695312e-8".toList := by
  decide +kernel

def escape (c : Char) : List Char :=
  match c with
  | '\x22' => ['\\', '\x22']
  | '\\' => ['\\', '\\']
  | '\x08' => ['\\', 'b']
  | '\x0c' => ['\\', 'f']
  | '\n' => ['\\', 'n']
  | '\r' => ['\\', 'r']
  | '\t' => ['\\', 't']
  | c =>
    if c.toNat < 0x10 then ['\\', 'u', '0', '0', '0'] ++ Hexadecimal.write c.toNat
    else if c.toNat < 0x20 then ['\\', 'u', '0', '0'] ++ Hexadecimal.write c.toNat
    else [c]

def quoted (text : String) : List Char := '\x22' :: text.toList.flatMap escape ++ ['\x22']

def separated : List (List Char) → List Char
  | [] => []
  | [t] => t
  | t :: ts => t ++ ',' :: separated ts

mutual

def chars : Json → List Char
  | null => "null".toList
  | bool true => "true".toList
  | bool false => "false".toList
  | int n => Value.intText n
  | float x => if x.isFinite then floatLayout.write x else "null".toList
  | str s => quoted s
  | arr items => '[' :: separated (itemChars items) ++ [']']
  | obj entries => '\x7b' :: separated (entryChars entries) ++ ['\x7d']
termination_by structural j => j

def itemChars : List Json → List (List Char)
  | [] => []
  | j :: js => chars j :: itemChars js
termination_by structural js => js

def entryChars : List (String × Json) → List (List Char)
  | [] => []
  | (k, j) :: es => (quoted k ++ ':' :: chars j) :: entryChars es
termination_by structural es => es

end

def write (j : Json) : String := String.ofList j.chars

end TreePattern.Json
