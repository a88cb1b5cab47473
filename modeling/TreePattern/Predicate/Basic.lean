import TreePattern.Kind

namespace TreePattern

structure Predicate where
  accepts : Value → Bool

namespace Predicate

def ofKind (kind : Kind) : Predicate := ⟨fun v ↦ Kind.of v == kind⟩

def ofKinds (kinds : List Kind) : Predicate := ⟨fun v ↦ kinds.contains (Kind.of v)⟩

def ofText (test : List Char → Bool) : Predicate := ⟨fun v ↦ v.str?.any fun s ↦ test s.toList⟩

end Predicate

end TreePattern
