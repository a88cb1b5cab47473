import TreePattern.Json.Numeral

namespace TreePattern.Json

abbrev Reader (α : Type) := List Char → Option (α × List Char)

def isSpace (c : Char) : Bool := c == ' ' || c == '\t' || c == '\n' || c == '\r'

def skipSpaces : List Char → List Char := List.dropWhile isSpace

def codeUnit : Reader Nat
  | a :: b :: c :: d :: rest =>
    let digits := [a, b, c, d]
    if digits.all Hexadecimal.isDigit then some (Hexadecimal.value digits, rest) else none
  | _ => none

def escaped : Reader Char
  | '\x22' :: rest => some ('\x22', rest)
  | '\\' :: rest => some ('\\', rest)
  | '/' :: rest => some ('/', rest)
  | 'b' :: rest => some ('\x08', rest)
  | 'f' :: rest => some ('\x0c', rest)
  | 'n' :: rest => some ('\n', rest)
  | 'r' :: rest => some ('\r', rest)
  | 't' :: rest => some ('\t', rest)
  | 'u' :: rest => do
    let (high, rest) ← codeUnit rest
    if 0xdc00 ≤ high ∧ high < 0xe000 then none
    else if 0xd800 ≤ high ∧ high < 0xdc00 then
      match rest with
      | '\\' :: 'u' :: rest => do
        let (low, rest) ← codeUnit rest
        if 0xdc00 ≤ low ∧ low < 0xe000 then
          some (Char.ofNat (0x10000 + (high - 0xd800) * 0x400 + (low - 0xdc00)), rest)
        else none
      | _ => none
    else some (Char.ofNat high, rest)
  | _ => none

def stringBody : Nat → Reader (List Char)
  | 0, _ => none
  | _ + 1, [] => none
  | steps + 1, c :: rest => do
    if c = '\x22' then some ([], rest)
    else
      let (c, rest) ←
        if c = '\\' then escaped rest else if c.toNat < 0x20 then none else some (c, rest)
      let (cs, rest) ← stringBody steps rest
      some (c :: cs, rest)

def string (steps : Nat) : Reader String
  | '\x22' :: rest => (stringBody steps rest).map fun (cs, rest) ↦ (String.ofList cs, rest)
  | _ => none

def entry (steps : Nat) (value : Reader Json) : Reader (String × Json) := fun cs ↦ do
  let (key, rest) ← string steps (skipSpaces cs)
  match skipSpaces rest with
  | ':' :: rest => do
    let (j, rest) ← value rest
    some ((key, j), rest)
  | _ => none

def items {α : Type} (item : Reader α) (close : Char) : Nat → Reader (List α)
  | 0, _ => none
  | steps + 1, cs => do
    let (a, rest) ← item cs
    match skipSpaces rest with
    | ',' :: rest => do
      let (as, rest) ← items item close steps rest
      some (a :: as, rest)
    | c :: rest => if c = close then some ([a], rest) else none
    | [] => none

def bracketed {α : Type} (steps : Nat) (item : Reader α) (close : Char) : Reader (List α) :=
  fun cs ↦ match skipSpaces cs with
  | c :: rest => if c = close then some ([], rest) else items item close steps cs
  | [] => none

/-- A value that nests at most `depth` arrays and objects. Every loop takes at least one character
in each step, so the length of the whole text is enough steps for all of them. -/
def value (steps : Nat) : (depth : Nat) → Reader Json := fun depth cs ↦
  match skipSpaces cs with
  | 'n' :: 'u' :: 'l' :: 'l' :: rest => some (null, rest)
  | 't' :: 'r' :: 'u' :: 'e' :: rest => some (bool true, rest)
  | 'f' :: 'a' :: 'l' :: 's' :: 'e' :: rest => some (bool false, rest)
  | '\x22' :: rest => (string steps ('\x22' :: rest)).map fun (s, rest) ↦ (str s, rest)
  | '-' :: rest => numeral true rest
  | '[' :: rest =>
    match depth with
    | 0 => none
    | depth + 1 =>
      (bracketed steps (value steps depth) ']' rest).map fun (js, rest) ↦ (arr js, rest)
  | '\x7b' :: rest =>
    match depth with
    | 0 => none
    | depth + 1 =>
      (bracketed steps (entry steps (value steps depth)) '\x7d' rest).map fun (es, rest) ↦
        (obj (Table.ofList es), rest)
  | rest => numeral false rest

def read? (text : String) : Option Json :=
  let cs := text.toList
  match value (cs.length + 1) 127 cs with
  | some (j, rest) => if skipSpaces rest = [] then some j else none
  | none => none

end TreePattern.Json
