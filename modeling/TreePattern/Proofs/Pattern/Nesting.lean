import TreePattern.Pattern.Basic

namespace TreePattern

theorem testCode_eq_flatMap (tests : List TypeTest) :
    testCode tests = tests.flatMap fun t ↦ [t.instr] := List.map_eq_flatMap

theorem tagCode_eq_flatMap (tags : List Tag) : tagCode tags = tags.flatMap Tag.code := by
  induction tags with
  | nil => rfl
  | cons t tags ih => rw [tagCode, ih, List.flatMap_cons]

theorem groupCode_eq_flatMap (groups : List Group) :
    groupCode groups = groups.flatMap Group.code := by
  induction groups with
  | nil => rfl
  | cons g groups ih => rw [groupCode, ih, List.flatMap_cons]

def Selector.inner : Selector → List Pattern
  | .subtree p _ => [p]
  | .literal _ _ | .regex _ _ | .param _ _ _ => []

def Tag.inner : Tag → List Pattern
  | .capture _ _ => []
  | .select s _ | .captureSelect _ s _ => s.inner

def Group.inner : Group → List Pattern
  | .mk p _ => [p]

namespace Pattern

def inner : Pattern → List Pattern
  | .mk _ tags groups => tags.flatMap Tag.inner ++ groups.flatMap Group.inner

section

variable {tests : List TypeTest} {tags : List Tag} {groups : List Group} {q : Pattern}

theorem mem_inner_of_tag {t : Tag} (ht : t ∈ tags) (hq : q ∈ t.inner) :
    q ∈ (mk tests tags groups).inner :=
  List.mem_append_left _ (List.mem_flatMap.mpr ⟨t, ht, hq⟩)

theorem mem_inner_of_group {g : Group} (hg : g ∈ groups) (hq : q ∈ g.inner) :
    q ∈ (mk tests tags groups).inner :=
  List.mem_append_right _ (List.mem_flatMap.mpr ⟨g, hg, hq⟩)

end

variable {P : Pattern → Prop}

mutual

theorem of_inner_selector (h : ∀ p : Pattern, (∀ q ∈ p.inner, P q) → P p) :
    ∀ s : Selector, ∀ q ∈ s.inner, P q
  | .subtree p _ => fun _ hq ↦ List.mem_singleton.mp hq ▸ of_inner h p
  | .literal _ _ | .regex _ _ | .param _ _ _ => by simp [Selector.inner]
termination_by structural s => s

theorem of_inner_tag (h : ∀ p : Pattern, (∀ q ∈ p.inner, P q) → P p) :
    ∀ t : Tag, ∀ q ∈ t.inner, P q
  | .capture _ _ => by simp [Tag.inner]
  | .select s _ | .captureSelect _ s _ => of_inner_selector h s
termination_by structural t => t

theorem of_inner_tags (h : ∀ p : Pattern, (∀ q ∈ p.inner, P q) → P p) :
    ∀ ts : List Tag, ∀ q ∈ ts.flatMap Tag.inner, P q
  | [] => by simp
  | t :: ts => fun q hq ↦
    (List.mem_append.mp hq).elim (of_inner_tag h t q) (of_inner_tags h ts q)
termination_by structural ts => ts

theorem of_inner_group (h : ∀ p : Pattern, (∀ q ∈ p.inner, P q) → P p) :
    ∀ g : Group, ∀ q ∈ g.inner, P q
  | .mk p _ => fun _ hq ↦ List.mem_singleton.mp hq ▸ of_inner h p
termination_by structural g => g

theorem of_inner_groups (h : ∀ p : Pattern, (∀ q ∈ p.inner, P q) → P p) :
    ∀ gs : List Group, ∀ q ∈ gs.flatMap Group.inner, P q
  | [] => by simp
  | g :: gs => fun q hq ↦
    (List.mem_append.mp hq).elim (of_inner_group h g q) (of_inner_groups h gs q)
termination_by structural gs => gs

/-- What holds of a pattern as soon as it holds of those directly inside holds of all. -/
theorem of_inner (h : ∀ p : Pattern, (∀ q ∈ p.inner, P q) → P p) : ∀ p : Pattern, P p
  | .mk _ tags groups => h _ fun q hq ↦
    (List.mem_append.mp hq).elim (of_inner_tags h tags q) (of_inner_groups h groups q)
termination_by structural p => p

end

end Pattern

end TreePattern
