import TreePattern.Matching.Candidates

namespace TreePattern

namespace Items

/-- The results of one branch and then those of the next, unless the first ends in an error. -/
def andThen : Items → Items → Items
  | [], later => later
  | .ok b :: items, later => .ok b :: andThen items later
  | .error e :: _, _ => [.error e]

def ofEach (f : Candidate → Items) : Candidates → Items
  | [] => []
  | .ok c :: cs => andThen (f c) (ofEach f cs)
  | .error e :: _ => [.error e]

end Items

def walkTests (n : Node) (next : Items) : List TypeTest → Items
  | [] => next
  | t :: ts =>
    if t.predicate.accepts n.toValue then walkTests n next ts
    else if t.skippable then []
    else [.error (rejection t.name n)]

def filterTests (tests : List TypeTest) (cs : Candidates) : Candidates :=
  tests.foldl (fun cs t ↦ Candidates.filterValues t.name t.predicate t.skippable cs) cs

def capture (name : String) (b : Bindings) (c : Candidate) : Bindings :=
  Table.put b name (c.key, c.value)

def absorb (b : Bindings) (c : Candidate) : Bindings := b.overwrite (c.bindings.getD [])

mutual

def Selector.choices : Selector → Node → Candidates
  | .literal key skippable, n => .lookup n (.str key) skippable
  | .regex regex skippable, n => .filterKeys regex skippable (.all n skippable)
  | .param _ key skippable, n => .lookup n key skippable
  | .subtree pattern skippable, n => (Candidates.all n skippable).flatMap fun
    | .error e => [.error e]
    | .ok c => Candidates.ofKey c (pattern.walk c.key) skippable
termination_by structural s => s

def Tag.walk : Tag → Node → Bindings → (Node → Bindings → Items) → Items
  | .capture name tests, n, b, next => .ofEach (fun c ↦ next c.value (capture name b c))
    (filterTests tests (.all n false))
  | .select selector tests, n, b, next => .ofEach (fun c ↦ next c.value (absorb b c))
    (filterTests tests (selector.choices n))
  | .captureSelect name selector tests, n, b, next =>
    .ofEach (fun c ↦ next c.value (capture name (absorb b c) c))
      (filterTests tests (selector.choices n))
termination_by structural t => t

def walkTags : List Tag → Node → Bindings → (Node → Bindings → Items) → Items
  | [], n, b, next => next n b
  | t :: ts, n, b, next => t.walk n b fun n b ↦ walkTags ts n b next
termination_by structural ts => ts

def Group.walk : Group → Node → Bindings → (Bindings → Items) → Items
  | .mk pattern skippable, n, b, next =>
    .ofEach (fun c ↦ next (absorb b c)) (.ofGroup n (pattern.walk n) skippable)
termination_by structural g => g

def walkGroups : List Group → Node → Bindings → Items
  | [], _, b => [.ok b]
  | g :: gs, n, b => g.walk n b fun b ↦ walkGroups gs n b
termination_by structural gs => gs

/-- What a pattern means on a node, by plain recursion: the first error that is met is the last
result. -/
def Pattern.walk : Pattern → Node → Items
  | .mk tests tags groups, n => walkTests n (walkTags tags n [] (walkGroups groups)) tests
termination_by structural p => p

end

end TreePattern
