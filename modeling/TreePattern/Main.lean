import TreePattern.CommandLine.Run

namespace TreePattern.CommandLine

def usage : String :=
  "usage: treepattern [-t NAME=KIND[|KIND]] [-p NAME=JSON] [--commit NAME]\n" ++
  "         [--uri NAME=SCHEME[,SCHEME]] [--builtin-types] [-v] [--] PATTERN [FILE]"

def fileText (path : String) : IO (Except String String) := do
  try
    return .ok (← IO.FS.readFile path)
  catch
    | .noFileOrDirectory .. => return .error "No such file or directory (os error 2)"
    | .permissionDenied .. => return .error "Permission denied (os error 13)"
    | .inappropriateType .. => return .error "Is a directory (os error 21)"
    | e => return .error (toString e)

def inputText : IO (Except String String) := do
  try
    return .ok (← (← IO.getStdin).readToEnd)
  catch _ => return .error "stream did not contain valid UTF-8"

end TreePattern.CommandLine

open TreePattern.CommandLine in
def main (args : List String) : IO UInt32 := do
  match Options.ofArguments? args with
  | none =>
    IO.eprintln usage
    return 2
  | some o =>
    let text ← match o.file with
      | some path => fileText path
      | none => pure (.ok "")
    let input ← if o.file.isNone then inputText else pure (.ok "")
    let report := execute o input fun _ ↦ text
    for line in report.output do
      IO.println line
    for line in report.errors do
      IO.eprintln line
    return report.status.toUInt32
