import TreePattern.Matching.Code

namespace TreePattern

/-- A table of definitions that grows, and by name the patterns compiled against it and the matches
under way, which keep what they were made from. -/
structure Session where
  definitions : Definitions
  patterns : List (String × Compiled)
  matchings : List (String × Machine)

namespace Session

inductive Command
  | define (name : String) (definition : Definition)
  | look
  | get (name : String)
  | compile (name source : String)
  | start (name pattern : String) (root : Value)
  | next (name : String)
  | count (name : String)
  | drop (name : String)

inductive Answer
  | table (definitions : Definitions)
  | definition (d : Option Definition)
  | compiled (c : Except PatternError Compiled)
  | started
  | noPattern
  | pulled (item : Option (Except Mismatch Bindings))
  | counted (valid invalid : Nat)
  | dropped (found : Bool)
  | noMatching
  | fault (f : Fault)

def empty : Session := ⟨.empty, [], []⟩

def count : (most valid invalid : Nat) → Machine → Except Fault (Nat × Nat × Machine)
  | 0, valid, invalid, m => .ok (valid, invalid, m)
  | most + 1, valid, invalid, m =>
    match m.next with
    | .item _ m => count most (valid + 1) invalid m
    | .failed _ m => count most valid (invalid + 1) m
    | .ended m => .ok (valid, invalid, m)
    | .fault f => .error f

def keep (s : Session) (name : String) (m : Machine) : Session :=
  { s with matchings := Table.put s.matchings name m }

def step (s : Session) : Command → Answer × Session
  | .define name definition =>
    let d := s.definitions.insert name definition
    (.table d, { s with definitions := d })
  | .look => (.table s.definitions, s)
  | .get name => (.definition (s.definitions.get? name), s)
  | .compile name source =>
    match Compiled.compile s.definitions source with
    | .ok c => (.compiled (.ok c), { s with patterns := Table.put s.patterns name c })
    | .error e => (.compiled (.error e), s)
  | .start name pattern root =>
    match Table.get? s.patterns pattern with
    | some c => (.started, s.keep name (c.machine root))
    | none => (.noPattern, s)
  | .next name =>
    match Table.get? s.matchings name with
    | none => (.noMatching, s)
    | some m =>
      match m.next with
      | .item b m => (.pulled (some (.ok b)), s.keep name m)
      | .failed e m => (.pulled (some (.error e)), s.keep name m)
      | .ended m => (.pulled none, s.keep name m)
      | .fault f => (.fault f, s)
  | .count name =>
    match Table.get? s.matchings name with
    | none => (.noMatching, s)
    | some m =>
      match count 5000 0 0 m with
      | .ok (valid, invalid, m) => (.counted valid invalid, s.keep name m)
      | .error f => (.fault f, s)
  | .drop name =>
    (.dropped (Table.find? s.matchings name).isSome,
      { s with matchings := Table.erase s.matchings name })

def run (s : Session) : List Command → List Answer
  | [] => []
  | c :: cs =>
    let (a, s) := s.step c
    a :: s.run cs

end Session

end TreePattern
