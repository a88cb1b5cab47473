import TreePattern.Matching.Fault

namespace TreePattern

/-- A list that is worked out no further than it is asked for, and may break off with a fault. -/
inductive Supply (α : Type)
  | done
  | fault (f : Fault)
  | more (a : α) (rest : Unit → Supply α)

namespace Supply

variable {α β γ : Type}

def toList : Supply α → Except Fault (List α)
  | done => .ok []
  | fault f => .error f
  | more a rest => (rest ()).toList.map (a :: ·)

def ofList : List α → Supply α
  | [] => done
  | a :: as => more a fun _ ↦ ofList as

def single (a : α) : Supply α := more a fun _ ↦ done

def map (f : α → β) : Supply α → Supply β
  | done => done
  | fault e => fault e
  | more a rest => more (f a) fun _ ↦ (rest ()).map f

def filterMap (f : α → Option β) : Supply α → Supply β
  | done => done
  | fault e => fault e
  | more a rest =>
    match f a with
    | some b => more b fun _ ↦ (rest ()).filterMap f
    | none => (rest ()).filterMap f

def append (s : Supply α) (later : Unit → Supply α) : Supply α :=
  match s with
  | done => later ()
  | fault e => fault e
  | more a rest => more a fun _ ↦ (rest ()).append later

def flatMap (f : α → Supply β) : Supply α → Supply β
  | done => done
  | fault e => fault e
  | more a rest =>
    match f a with
    | done => (rest ()).flatMap f
    | fault e => fault e
    | more b others => more b fun _ ↦ (others ()).append fun _ ↦ (rest ()).flatMap f

@[simp]
theorem toList_ofList (as : List α) : (ofList as).toList = .ok as := by
  induction as with
  | nil => rfl
  | cons a as ih => simp only [ofList, toList, ih]; rfl

theorem toList_map (f : α → β) (s : Supply α) :
    (s.map f).toList = s.toList.map (List.map f) := by
  induction s with
  | done | fault => rfl
  | more a rest ih => simp only [map, toList, ih]; cases (rest ()).toList <;> rfl

theorem toList_filterMap (f : α → Option β) (s : Supply α) :
    (s.filterMap f).toList = s.toList.map (List.filterMap f) := by
  induction s with
  | done | fault => rfl
  | more a rest ih =>
    cases h : f a <;> simp only [filterMap, toList, h, ih] <;>
      cases (rest ()).toList <;> simp [Except.map, h]

theorem toList_append (s : Supply α) (later : Unit → Supply α) :
    (s.append later).toList = do return (← s.toList) ++ (← (later ()).toList) := by
  induction s with
  | done => simp only [append, toList]; cases (later ()).toList <;> rfl
  | fault => rfl
  | more a rest ih =>
    simp only [append, toList, ih]
    cases (rest ()).toList <;> cases (later ()).toList <;> rfl

theorem flatMap_more (f : α → Supply β) (a : α) (rest : Unit → Supply α) :
    (more a rest).flatMap f = (f a).append fun _ ↦ (rest ()).flatMap f := by
  cases h : f a <;> simp only [flatMap, append, h]

end Supply

end TreePattern
