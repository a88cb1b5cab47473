import TreePattern.Matching.Action

namespace TreePattern

/-- A place in the code: the actions up to it, the last first, and those ahead. -/
structure Cursor where
  passed : List Action
  ahead : List Action

namespace Cursor

def advance? (c : Cursor) : Option (Action × Cursor) :=
  match c.ahead with
  | [] => none
  | a :: ahead => some (a, ⟨a :: c.passed, ahead⟩)

def back? (c : Cursor) : Option Cursor :=
  match c.passed with
  | a :: b :: passed => some ⟨b :: passed, a :: c.ahead⟩
  | _ => none

def atClose (c : Cursor) : Bool := c.passed.head?.any Action.isClose

def rewind? : (passed ahead : List Action) → Option Cursor
  | a :: b :: passed, ahead =>
    if b.isClose then back? ⟨b :: passed, a :: ahead⟩ else rewind? (b :: passed) (a :: ahead)
  | _, _ => none

end Cursor

end TreePattern
