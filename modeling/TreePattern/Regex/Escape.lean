import TreePattern.Regex.CharClass
import TreePattern.Regex.Property
import TreePattern.Text.Blank

namespace TreePattern.Regex

inductive Atom
  | literal (c : Char)
  | set (s : CharSet)
  | look (l : Look)

namespace Reader

def skipComments : (inComment : Bool) → List Char → List Char
  | _, [] => []
  | true, c :: cs => skipComments (c != '\n') cs
  | false, c :: cs =>
    if c == '#' then skipComments true cs
    else if isBlank c then skipComments false cs
    else c :: cs

def skip (f : Flags) (cs : List Char) : List Char := if f.verbose then skipComments false cs else cs

def spaced (f : Flags) (test : Char → Bool) : (limit : Nat) → List Char → List Char × List Char
  | 0, cs => ([], cs)
  | _, [] => ([], [])
  | limit + 1, c :: cs =>
    if test c then
      let (taken, rest) := spaced f test limit (skip f cs)
      (c :: taken, rest)
    else ([], c :: cs)

def spacedAll (f : Flags) (test : Char → Bool) (cs : List Char) : List Char × List Char :=
  spaced f test cs.length cs

def isEscapable (c : Char) : Bool :=
  c.toNat < 0x80 && !CharClass.asciiLetter.contains c && !CharClass.asciiDigit.contains c &&
    c != '<' && c != '>'

def scalar? (n : Nat) : Option Char :=
  if n < 0xd800 ∨ (0xdfff < n ∧ n < 0x110000) then some (Char.ofNat n) else none

/-- A character by its code: any number in braces, or a fixed number of digits. Two digits are a
byte, which is a character of its own only in ASCII unless Unicode is on. -/
def code? (f : Flags) (digits : Nat) (cs : List Char) : Option (Atom × List Char) :=
  match skip f cs with
  | '\x7b' :: cs =>
    match spacedAll f Hexadecimal.isDigit (skip f cs) with
    | (d :: ds, '\x7d' :: rest) =>
      (scalar? (Hexadecimal.value (d :: ds))).map fun c ↦ (.literal c, rest)
    | _ => none
  | cs => do
    let (ds, rest) := spaced f Hexadecimal.isDigit digits cs
    let c ← scalar? (Hexadecimal.value ds)
    if ds.length = digits ∧ (f.unicode ∨ digits ≠ 2 ∨ c.toNat < 0x80) then some (.literal c, rest)
    else none

def property? (f : Flags) (negated : Bool) (cs : List Char) : Option (Atom × List Char) :=
  let result (found : Option (CharSet × Bool)) (rest : List Char) :=
    found.map fun (s, unequal) ↦
      (Atom.set (CharSet.complementIf (negated != unequal) (CharClass.fold f s)), rest)
  if !f.unicode then none
  else
    match skip f cs with
    | '\x7b' :: cs =>
      match spacedAll f (· != '\x7d') (skip f cs) with
      | (name, _ :: rest) => result (Property.ofText? name) rest
      | (_, []) => none
    | c :: rest =>
      if c = '\\' then none else result ((Property.named? [c]).map ((·, false))) rest
    | [] => none

/-- A word boundary, which names one of its sides in braces or stands alone; a brace before anything
but a letter or hyphen opens a repetition. -/
def boundary? (f : Flags) (cs : List Char) : Option (Atom × List Char) :=
  let isNameChar (c : Char) := CharClass.asciiLetter.contains c || c == '-'
  let alone := some (Atom.look (.boundary f.unicode), cs)
  match cs with
  | '\x7b' :: cs =>
    match spacedAll f isNameChar (skip f cs) with
    | ([], rest) => if rest = [] then none else alone
    | (name, '\x7d' :: rest) =>
      match String.ofList name with
      | "start" => some (.look (.wordStart f.unicode), rest)
      | "end" => some (.look (.wordEnd f.unicode), rest)
      | "start-half" => some (.look (.wordStartHalf f.unicode), rest)
      | "end-half" => some (.look (.wordEndHalf f.unicode), rest)
      | _ => none
    | _ => none
  | _ => alone

def escape? (f : Flags) : List Char → Option (Atom × List Char)
  | [] => none
  | c :: cs =>
    let literal (c : Char) := some (Atom.literal c, cs)
    if isEscapable c then literal c
    else
      match c with
      | 'x' => code? f 2 cs
      | 'u' => code? f 4 cs
      | 'U' => code? f 8 cs
      | 'p' => property? f false cs
      | 'P' => property? f true cs
      | 'a' => literal '\x07'
      | 'f' => literal '\x0c'
      | 't' => literal '\t'
      | 'n' => literal '\n'
      | 'r' => literal '\r'
      | 'v' => literal '\x0b'
      | 'A' => some (.look .textStart, cs)
      | 'z' => some (.look .textEnd, cs)
      | 'b' => boundary? f cs
      | 'B' => some (.look (.noBoundary f.unicode), cs)
      | '<' => some (.look (.wordStart f.unicode), cs)
      | '>' => some (.look (.wordEnd f.unicode), cs)
      | c => do
        let s ← CharClass.ofLetter? f c
        let s ← CharClass.allowed? f s
        some (.set s, cs)

end Reader

end TreePattern.Regex
