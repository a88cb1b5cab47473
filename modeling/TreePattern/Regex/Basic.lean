import TreePattern.Text.Word

namespace TreePattern.Regex

/-- What must hold between two characters. `crlf` tells whether a carriage return parts lines too,
`unicode` whether words are made of letters of all scripts. -/
inductive Look
  | textStart
  | textEnd
  | lineStart (crlf : Bool)
  | lineEnd (crlf : Bool)
  | boundary (unicode : Bool)
  | noBoundary (unicode : Bool)
  | wordStart (unicode : Bool)
  | wordEnd (unicode : Bool)
  | wordStartHalf (unicode : Bool)
  | wordEndHalf (unicode : Bool)
  deriving DecidableEq

inductive Expr
  | empty
  | literal (cs : List Char)
  | set (s : CharSet)
  | look (l : Look)
  | group (number : Nat) (e : Expr)
  | concat (es : List Expr)
  | alt (es : List Expr)
  | times (e : Expr) (least : Nat) (most : Option Nat) (greedy : Bool)

instance : Inhabited Expr := ⟨.empty⟩

def asciiWord : CharSet := ⟨[⟨0x30, 0x39⟩, ⟨0x41, 0x5a⟩, ⟨0x5f, 0x5f⟩, ⟨0x61, 0x7a⟩]⟩

def isWord (unicode : Bool) (c : Option Char) : Bool :=
  c.any fun c ↦ if c.toNat < 0x80 then asciiWord.contains c else unicode && CharSet.word.contains c

def Look.holds (l : Look) (before after : Option Char) : Bool :=
  match l with
  | textStart => before.isNone
  | textEnd => after.isNone
  | lineStart false => before.isNone || before == some '\n'
  | lineStart true =>
    before.isNone || before == some '\n' || (before == some '\r' && after != some '\n')
  | lineEnd false => after.isNone || after == some '\n'
  | lineEnd true =>
    after.isNone || after == some '\r' || (after == some '\n' && before != some '\r')
  | boundary u => isWord u before != isWord u after
  | noBoundary u => isWord u before == isWord u after
  | wordStart u => !isWord u before && isWord u after
  | wordEnd u => isWord u before && !isWord u after
  | wordStartHalf u => !isWord u before
  | wordEndHalf u => !isWord u after

end TreePattern.Regex
