import TreePattern.Text.Printable

namespace TreePattern.Quoted

def escape (c : Char) : List Char :=
  match c with
  | '\x00' => ['\\', '0']
  | '\t' => ['\\', 't']
  | '\r' => ['\\', 'r']
  | '\n' => ['\\', 'n']
  | '\\' => ['\\', '\\']
  | '\x22' => ['\\', '\x22']
  | c => if isPrintable c then [c] else ['\\', 'u', '\x7b'] ++ Hexadecimal.write c.toNat ++ ['\x7d']

def write (text : String) : List Char :=
  '\x22' :: text.toList.flatMap escape ++ ['\x22']

end TreePattern.Quoted
