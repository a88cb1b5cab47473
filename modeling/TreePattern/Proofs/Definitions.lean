import TreePattern.Definitions
import TreePattern.Proofs.Table

namespace TreePattern.Definitions

variable {d d' : Definitions} {names : List String}

def named? (d : Definitions) (name : String) : Option (String × Definition) :=
  (d.get? name).map fun definition ↦ (name, definition)

theorem get?_filterMap_named (d : Definitions) (names : List String) (name : String) :
    Table.get? (names.filterMap d.named?) name = if name ∈ names then d.get? name else none := by
  induction names with
  | nil => rfl
  | cons other names ih =>
    cases hd : d.get? other with
    | none =>
      rw [List.filterMap_cons_none (by simp [named?, hd]), ih]
      by_cases h : name = other
      · simp [h, hd]
      · simp [h]
    | some definition =>
      rw [List.filterMap_cons_some (b := (other, definition)) (by simp [named?, hd])]
      by_cases h : name = other
      · simp [h, hd, Table.get?, Table.find?]
      · simpa [h, Table.get?, Table.find?] using ih

theorem get?_restrict (d : Definitions) (names : List String) (name : String) :
    (d.restrict names).get? name = if name ∈ names then d.get? name else none := by
  calc (d.restrict names).get? name
      = (Table.get? (names.filterMap d.named?).reverse name).or none := Table.get?_putAll _ _ _
    _ = Table.get? (names.reverse.filterMap d.named?) name := by
      rw [Option.or_none, List.filterMap_reverse]
    _ = if name ∈ names then d.get? name else none := by
      rw [get?_filterMap_named]
      simp only [List.mem_reverse]

theorem keys_filterMap_named (h : ∀ name ∈ names, (d.get? name).isSome = true) :
    Table.keys (names.filterMap d.named?) = names := by
  induction names with
  | nil => rfl
  | cons name names ih =>
    obtain ⟨definition, hd⟩ := Option.isSome_iff_exists.mp (h name List.mem_cons_self)
    rw [List.filterMap_cons_some (b := (name, definition)) (by simp [named?, hd])]
    exact congrArg (name :: ·) (ih fun name hm ↦ h name (List.mem_cons_of_mem _ hm))

/-- No name is dropped that is defined. -/
theorem names_restrict (hn : names.Nodup) (h : ∀ name ∈ names, (d.get? name).isSome = true) :
    (d.restrict names).names = names := by
  have hk := keys_filterMap_named h
  have hp : Table.putAll [] (names.filterMap d.named?) = names.filterMap d.named? :=
    Table.putAll_of_nodup (hk.symm ▸ hn)
  exact (congrArg Table.keys hp).trans hk

theorem restrict_congr (h : ∀ name ∈ names, d'.get? name = d.get? name) :
    d'.restrict names = d.restrict names := by
  rw [restrict, restrict, List.filterMap_congr fun name hm ↦ by rw [h name hm]]

end TreePattern.Definitions
