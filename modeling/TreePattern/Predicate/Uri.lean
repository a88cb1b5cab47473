import TreePattern.Predicate.Basic
import TreePattern.Text.Cut

namespace TreePattern

structure Uri where
  schemes : List String
  lowPort : Nat
  highPort : Nat

namespace Uri

def ofSchemes (schemes : List String) : Uri := ⟨schemes, 1, 65535⟩

def secure : Uri := ofSchemes ["https"]

def isLetter (c : Char) : Bool := ('a' ≤ c && c ≤ 'z') || ('A' ≤ c && c ≤ 'Z')

def isDigit (c : Char) : Bool := '0' ≤ c && c ≤ '9'

def isScheme : List Char → Bool
  | [] => false
  | c :: cs => isLetter c &&
    cs.all fun c ↦ isLetter c || isDigit c || c == '+' || c == '-' || c == '.'

/-- A number of at most 16 bits, with a plus sign or without. -/
def port? (cs : List Char) : Option Nat :=
  let digits := match cs with
    | '+' :: ds => ds
    | ds => ds
  if digits = [] ∨ ¬digits.all isDigit then none
  else
    let n := digits.foldl (fun n c ↦ 10 * n + (c.toNat - 48)) 0
    if n < 65536 then some n else none

def endsAuthority (c : Char) : Bool := c == '/' || c == '?' || c == '#'

def acceptsPort (u : Uri) : List Char → Bool
  | [] => true
  | ':' :: [] => true
  | ':' :: port => (port? port).any fun n ↦ u.lowPort ≤ n && n ≤ u.highPort
  | _ => false

def acceptsHost (u : Uri) : List Char → Bool
  | '[' :: cs =>
    match cutFirst? ']' cs with
    | some (_, rest) => u.acceptsPort rest
    | none => false
  | cs => u.acceptsPort (cs.dropWhile (· != ':'))

/-- User information ends at the last `@`. -/
def acceptsAuthority (u : Uri) (cs : List Char) : Bool :=
  match cutLast? '@' cs with
  | some (_, host) => u.acceptsHost host
  | none => u.acceptsHost cs

def acceptsText (u : Uri) (cs : List Char) : Bool :=
  match cutFirst? ':' cs with
  | none => false
  | some (scheme, rest) =>
    isScheme scheme && u.schemes.contains (String.ofList scheme) &&
      match rest with
      | '/' :: '/' :: rest => u.acceptsAuthority (rest.takeWhile fun c ↦ !endsAuthority c)
      | _ => true

def predicate (u : Uri) : Predicate := .ofText u.acceptsText

end Uri

end TreePattern
