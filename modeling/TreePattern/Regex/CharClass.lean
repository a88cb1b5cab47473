import TreePattern.Regex.Basic
import TreePattern.Text.CaseFold
import TreePattern.Text.Invisible

namespace TreePattern.Regex

structure Flags where
  ignoreCase : Bool
  multiLine : Bool
  dotAll : Bool
  crlf : Bool
  unicode : Bool
  verbose : Bool
  swapGreed : Bool

def Flags.start : Flags := ⟨false, false, false, false, true, false, false⟩

namespace CharClass

def ascii : CharSet := .range 0 0x7f

def fold (f : Flags) (s : CharSet) : CharSet :=
  if f.ignoreCase then
    if f.unicode then CaseFold.closure s else (CaseFold.closure s).inter ascii
  else s

/-- Without Unicode a class holds ASCII characters alone. -/
def allowed? (f : Flags) (s : CharSet) : Option CharSet :=
  if f.unicode || s.isAscii then some s else none

def asciiDigit : CharSet := .range 0x30 0x39

def asciiLetter : CharSet := ⟨[⟨0x41, 0x5a⟩, ⟨0x61, 0x7a⟩]⟩

def asciiSpace : CharSet := ⟨[⟨0x9, 0xd⟩, ⟨0x20, 0x20⟩]⟩

def dot (f : Flags) : CharSet :=
  if f.dotAll then .full
  else (CharSet.ofChars (if f.crlf then ['\n', '\r'] else ['\n'])).complement

/-- The classes of `\d`, `\s` and `\w`, and with capital letters their complements. -/
def ofLetter? (f : Flags) (c : Char) : Option CharSet :=
  let digit := if f.unicode then Category.decimalNumber.set else asciiDigit
  let space := if f.unicode then CharSet.whiteSpace else asciiSpace
  let word := if f.unicode then CharSet.word else asciiWord
  match c with
  | 'd' => some digit
  | 'D' => some digit.complement
  | 's' => some space
  | 'S' => some space.complement
  | 'w' => some word
  | 'W' => some word.complement
  | _ => none

def ofName? (name : String) : Option CharSet :=
  match name with
  | "alnum" => some (asciiLetter.union asciiDigit)
  | "alpha" => some asciiLetter
  | "ascii" => some ascii
  | "blank" => some (.ofChars ['\t', ' '])
  | "cntrl" => some ⟨[⟨0, 0x1f⟩, ⟨0x7f, 0x7f⟩]⟩
  | "digit" => some asciiDigit
  | "graph" => some (.range 0x21 0x7e)
  | "lower" => some (.range 0x61 0x7a)
  | "print" => some (.range 0x20 0x7e)
  | "punct" => some ⟨[⟨0x21, 0x2f⟩, ⟨0x3a, 0x40⟩, ⟨0x5b, 0x60⟩, ⟨0x7b, 0x7e⟩]⟩
  | "space" => some asciiSpace
  | "upper" => some (.range 0x41 0x5a)
  | "word" => some asciiWord
  | "xdigit" => some ⟨[⟨0x30, 0x39⟩, ⟨0x41, 0x46⟩, ⟨0x61, 0x66⟩]⟩
  | _ => none

end CharClass

end TreePattern.Regex
