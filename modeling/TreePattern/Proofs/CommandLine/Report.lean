import TreePattern.Proofs.CommandLine.Definitions
import TreePattern.Proofs.Matching.Requests

namespace TreePattern.CommandLine

section

variable (o : Options) (input : Except String String) (read : String → Except String String)

end

variable {o : Options} {input : Except String String} {read : String → Except String String}
  {p : Problem} {r : Report}

end TreePattern.CommandLine
