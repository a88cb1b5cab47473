namespace TreePattern.Table

variable {α β : Type} [BEq α]

def find? (t : List (α × β)) (k : α) : Option (α × β) := t.find? fun e ↦ k == e.1

def get? (t : List (α × β)) (k : α) : Option β := (find? t k).map (·.2)

/-- A key that is put again keeps its place and its first form and takes the new value. -/
def put : List (α × β) → α → β → List (α × β)
  | [], k, v => [(k, v)]
  | e :: t, k, v => if k == e.1 then (e.1, v) :: t else e :: put t k v

def putAll (t : List (α × β)) (entries : List (α × β)) : List (α × β) :=
  entries.foldl (fun t e ↦ put t e.1 e.2) t

def ofList (entries : List (α × β)) : List (α × β) := putAll [] entries

def erase (t : List (α × β)) (k : α) : List (α × β) := t.filter fun e ↦ !(k == e.1)

def keys (t : List (α × β)) : List α := t.map (·.1)

end TreePattern.Table
