import Mathlib.Computability.RegularExpressions
import TreePattern.Proofs.Matching.Segment
import TreePattern.Proofs.Pattern.Viability

namespace TreePattern

open RegularExpression

namespace Instr

inductive Form
  | arrow
  | ident
  | selector
  | test
  | group
  | close
  deriving DecidableEq

def form : Instr → Form
  | arrow => .arrow
  | ident _ => .ident
  | stringKey _ _ | regexKey _ _ | param _ _ _ | keySubtree _ _ => .selector
  | test _ _ _ => .test
  | valueSubtree _ _ => .group
  | close => .close

/-- The code that an instruction holds. -/
def subtree? : Instr → Option (List Instr)
  | keySubtree code _ | valueSubtree code _ => some code
  | arrow | ident _ | stringKey _ _ | regexKey _ _ | param _ _ _ | test _ _ _ | close => none

def testShape : RegularExpression Form := star (char .test)

def tagShape : RegularExpression Form :=
  char Form.arrow * (char Form.ident * (1 + char Form.selector) + char Form.selector) * testShape *
    char Form.close

def groupShape : RegularExpression Form := char Form.group * char Form.close

def shape : RegularExpression Form := testShape * star tagShape * star groupShape

/-- Code that has the shape of a pattern, like that of every subtree in it. -/
inductive Shaped : List Instr → Prop
  | mk {code : List Instr} : code.map form ∈ shape.matches' →
      (∀ i ∈ code, ∀ inner ∈ i.subtree?, Shaped inner) → Shaped code

end Instr

open Instr

theorem flatMap_mem_star {α : Type} {r : RegularExpression Form} {f : α → List Form}
    (h : ∀ a, f a ∈ r.matches') (as : List α) : as.flatMap f ∈ (star r).matches' := by
  rw [matches'_star, List.flatMap_def]
  refine Language.join_mem_kstar fun word hword ↦ ?_
  obtain ⟨a, _, rfl⟩ := List.mem_map.mp hword
  exact h a

theorem form_testCode (tests : List TypeTest) :
    (testCode tests).map form ∈ testShape.matches' := by
  rw [testCode_eq_flatMap, List.map_flatMap]
  exact flatMap_mem_star (fun _ ↦ rfl) tests

theorem Selector.form_instr (s : Selector) : s.instr.form = .selector := by
  cases s <;> rfl

theorem Tag.form_code (t : Tag) : t.code.map form ∈ tagShape.matches' := by
  have htag (front : List Instr) (tests : List TypeTest)
      (h : front.map form ∈
        (char Form.ident * (1 + char Form.selector) + char Form.selector).matches') :
      (Instr.arrow :: (front ++ (testCode tests ++ [Instr.close]))).map form ∈
        tagShape.matches' := by
    have hcode : (Instr.arrow :: (front ++ (testCode tests ++ [Instr.close]))).map form =
        [.arrow] ++ front.map form ++ (testCode tests).map form ++ [.close] := by simp [form]
    rw [hcode]
    exact ⟨_, ⟨_, ⟨_, rfl, _, h, rfl⟩, _, form_testCode tests, rfl⟩, _, rfl, rfl⟩
  cases t with
  | capture name tests =>
    exact htag [.ident name] tests (.inl ⟨[.ident], rfl, [], .inl rfl, rfl⟩)
  | select s tests => exact htag [s.instr] tests (.inr (congrArg ([·]) s.form_instr))
  | captureSelect name s tests =>
    have hs : [s.instr.form] = [.selector] := congrArg ([·]) s.form_instr
    exact htag [.ident name, s.instr] tests (.inl ⟨[.ident], rfl, [s.instr.form], .inr hs, rfl⟩)

theorem Group.form_code (g : Group) : g.code.map form ∈ groupShape.matches' := by
  cases g
  exact ⟨[.group], rfl, [.close], rfl, rfl⟩

theorem Pattern.form_code (p : Pattern) : p.code.map form ∈ shape.matches' := by
  rcases p with ⟨tests, tags, groups⟩
  have htags : (tagCode tags).map form ∈ (star tagShape).matches' := by
    rw [tagCode_eq_flatMap, List.map_flatMap]
    exact flatMap_mem_star Tag.form_code tags
  have hgroups : (groupCode groups).map form ∈ (star groupShape).matches' := by
    rw [groupCode_eq_flatMap, List.map_flatMap]
    exact flatMap_mem_star Group.form_code groups
  rw [Pattern.code, List.map_append, List.map_append]
  exact ⟨_, ⟨_, form_testCode tests, _, htags, rfl⟩, _, hgroups, rfl⟩

/-- Without a name or a selector there is no tag. -/
example : [.arrow, .test, .close] ∉ shape.matches' := by decide

section Subtrees

variable {i : Instr} {inner : List Instr}

theorem subtree?_testCode {tests : List TypeTest} (h : i ∈ testCode tests) :
    i.subtree? = none := by
  obtain ⟨t, _, rfl⟩ := List.mem_map.mp h
  rfl

theorem Selector.subtree?_instr {s : Selector} (h : inner ∈ s.instr.subtree?) :
    ∃ q ∈ s.inner, inner = q.code := by
  cases s with
  | literal | regex | param => cases h
  | subtree q skippable =>
    obtain rfl := Option.some.inj h
    exact ⟨q, List.mem_singleton_self q, rfl⟩

theorem Segment.subtree?_body {s : Segment} (hi : i ∈ s.body) (h : inner ∈ i.subtree?) :
    ∃ q ∈ s.inner, inner = q.code := by
  have htest {tests : List TypeTest} (hi : i ∈ testCode tests) : False := by
    rw [subtree?_testCode hi] at h
    cases h
  rcases s with t | ⟨q, skippable⟩
  · cases t with
    | capture name tests =>
      simp only [body, Tag.body, List.mem_cons] at hi
      rcases hi with rfl | rfl | hi
      · cases h
      · cases h
      · exact (htest hi).elim
    | select s tests =>
      simp only [body, Tag.body, List.mem_cons] at hi
      rcases hi with rfl | rfl | hi
      · cases h
      · exact s.subtree?_instr h
      · exact (htest hi).elim
    | captureSelect name s tests =>
      simp only [body, Tag.body, List.mem_cons] at hi
      rcases hi with rfl | rfl | rfl | hi
      · cases h
      · cases h
      · exact s.subtree?_instr h
      · exact (htest hi).elim
  · obtain rfl := List.mem_singleton.mp hi
    obtain rfl := Option.some.inj h
    exact ⟨q, List.mem_singleton_self q, rfl⟩

theorem Pattern.subtree?_code {p : Pattern} (hi : i ∈ p.code) (h : inner ∈ i.subtree?) :
    ∃ q ∈ p.inner, inner = q.code := by
  rw [code_eq] at hi
  rcases List.mem_append.mp hi with hi | hi
  · rw [subtree?_testCode hi] at h
    cases h
  · obtain ⟨s, hs, hi⟩ := List.mem_flatMap.mp hi
    rcases List.mem_append.mp hi with hi | hi
    · obtain ⟨q, hq, hinner⟩ := Segment.subtree?_body hi h
      exact ⟨q, mem_inner hs hq, hinner⟩
    · obtain rfl := List.mem_singleton.mp hi
      cases h

end Subtrees

theorem Pattern.shaped (p : Pattern) : Shaped p.code := by
  induction p using Pattern.of_inner with
  | h p ih =>
    refine .mk p.form_code fun i hi inner hinner ↦ ?_
    obtain ⟨q, hq, rfl⟩ := subtree?_code hi hinner
    exact ih q hq

namespace Pattern

variable {d : Definitions} {read : Reader Pattern} {cs : List Char} {f : Failure}

/-- What a reader leaves when it fails is the front of some code, whatever a subtree leaves. -/
def Reader.Leaves {α : Type} (r : Reader α) (code : α → List Instr) : Prop :=
  ∀ cs f, r cs = .error f → ∃ a, f.compiled <+: code a

theorem ident_leaves (h : ident cs = .error f) : f.compiled = [] := by
  unfold ident at h
  split at h <;> cases h
  rfl

theorem quoted_leaves {delimiter : Char} {unfinished badEscape : Cause}
    (h : quoted delimiter unfinished badEscape cs = .error f) : f.compiled = [] := by
  unfold quoted at h
  split at h <;> cases h <;> rfl

theorem param_leaves (h : param d cs = .error f) : f.compiled = [] := by
  rcases bind_eq_error.mp h with h | ⟨_, _, h⟩
  · exact ident_leaves h
  · rcases bind_eq_error.mp h with h | ⟨_, _, h⟩
    · exact (lookUp_eq_error h).2.1
    · cases h

theorem typeTest_leaves (h : typeTest d cs = .error f) : f.compiled = [] := by
  unfold typeTest at h
  dsimp only at h
  split at h
  · rcases bind_eq_error.mp h with h | ⟨_, _, h⟩
    · exact ident_leaves h
    · rcases bind_eq_error.mp h with h | ⟨_, _, h⟩
      · exact (lookUp_eq_error h).2.1
      · cases h
  · cases h
    rfl

theorem enclosed_leaves {close : Char} (h : enclosed read close cs = .error f) :
    f.compiled = [] := by
  rcases bind_eq_error.mp h with h | ⟨_, _, h⟩
  · obtain ⟨g, _, rfl⟩ := nested_eq_error.mp h
    rfl
  · dsimp only at h
    split at h
    · split at h <;> cases h
      rfl
    · cases h
      rfl

theorem selector_leaves (h : selector d read cs = .error f) : f.compiled = [] := by
  unfold selector at h
  split at h
  · rcases bind_eq_error.mp h with h | ⟨_, _, h⟩
    · exact quoted_leaves h
    · cases h
  · rcases bind_eq_error.mp h with h | ⟨_, _, h⟩
    · exact quoted_leaves h
    · dsimp only at h
      split at h <;> cases h
      rfl
  · exact param_leaves h
  · rcases bind_eq_error.mp h with h | ⟨_, _, h⟩
    · exact enclosed_leaves h
    · cases h
  · cases h
    rfl

theorem Reader.Leaves.after {α : Type} {r : Reader α} {code : α → List Instr} (hr : r.Leaves code)
    {front : List Instr} (h : after front (r cs) = .error f) :
    ∃ a, f.compiled <+: front ++ code a := by
  obtain ⟨g, hg, rfl⟩ := after_eq_error.mp h
  obtain ⟨a, hp⟩ := hr _ _ hg
  exact ⟨a, (List.prefix_append_right_inj front).mpr hp⟩

section

variable {α : Type} {opening : List Char} {item : Reader α} {code : α → List Instr}

theorem manyWithin_leaves (hi : item.Leaves code) (steps : Nat) :
    (manyWithin opening item code steps).Leaves fun as ↦ as.flatMap code := by
  induction steps with
  | zero =>
    intro cs f h
    cases h
    exact ⟨[], List.nil_prefix⟩
  | succ steps ih =>
    intro cs f h
    unfold manyWithin at h
    dsimp only at h
    split at h
    · rcases bind_eq_error.mp h with h | ⟨⟨a, rest⟩, _, h⟩
      · obtain ⟨a, hp⟩ := hi _ _ h
        exact ⟨[a], hp.trans (List.prefix_append _ _)⟩
      · rcases bind_eq_error.mp h with h | ⟨_, _, h⟩
        · obtain ⟨as, hp⟩ := ih.after h
          exact ⟨a :: as, hp⟩
        · cases h
    · cases h

theorem many_leaves (hi : item.Leaves code) :
    (many opening item code).Leaves fun as ↦ as.flatMap code :=
  fun cs ↦ manyWithin_leaves hi (cs.length + 1) cs

end

theorem typeTests_leaves : (typeTests d).Leaves testCode := by
  simp only [Reader.Leaves, testCode_eq_flatMap]
  refine many_leaves fun cs f h ↦ ⟨⟨"", .ofKind .map, false⟩, ?_⟩
  rw [typeTest_leaves h]
  exact List.nil_prefix

theorem after_typeTests_leaves {front : List Instr}
    (h : Pattern.after front (typeTests d cs) = .error f) :
    ∃ tests, f.compiled <+: front ++ (testCode tests ++ [.close]) := by
  obtain ⟨tests, hp⟩ := typeTests_leaves.after h
  exact ⟨tests, hp.trans ⟨[.close], List.append_assoc ..⟩⟩

theorem tag_leaves (h : tag d read cs = .error f) : ∃ t : Tag, .arrow :: f.compiled <+: t.code := by
  have harrow (t : Tag) {code : List Instr} (ht : t.code = .arrow :: code)
      (hp : f.compiled <+: code) : ∃ t : Tag, .arrow :: f.compiled <+: t.code :=
    ⟨t, ht ▸ List.cons_prefix_cons.mpr ⟨rfl, hp⟩⟩
  have hnothing (hf : f.compiled = []) : ∃ t : Tag, .arrow :: f.compiled <+: t.code :=
    harrow (.capture "" []) rfl (hf ▸ List.nil_prefix)
  simp only [tag] at h
  split at h
  · rcases bind_eq_error.mp h with h | ⟨⟨name, rest⟩, _, h⟩
    · exact hnothing (ident_leaves h)
    · dsimp only at h
      split at h
      · rcases bind_eq_error.mp h with h | ⟨⟨s, rest'⟩, _, h⟩
        · obtain ⟨g, hg, rfl⟩ := after_eq_error.mp h
          refine harrow (.capture name []) rfl ?_
          rw [selector_leaves hg]
          exact ⟨[.close], rfl⟩
        · rcases bind_eq_error.mp h with h | ⟨_, _, h⟩
          · obtain ⟨tests, hp⟩ := after_typeTests_leaves h
            exact harrow (.captureSelect name s tests) rfl hp
          · cases h
      · rcases bind_eq_error.mp h with h | ⟨_, _, h⟩
        · obtain ⟨tests, hp⟩ := after_typeTests_leaves h
          exact harrow (.capture name tests) rfl hp
        · cases h
  · rcases bind_eq_error.mp h with h | ⟨⟨s, rest⟩, _, h⟩
    · exact hnothing (selector_leaves h)
    · rcases bind_eq_error.mp h with h | ⟨_, _, h⟩
      · obtain ⟨tests, hp⟩ := after_typeTests_leaves h
        exact harrow (.select s tests) rfl hp
      · cases h

theorem tags_leaves : (tags d read).Leaves tagCode := by
  simp only [Reader.Leaves, tagCode_eq_flatMap]
  refine many_leaves fun cs f h ↦ ?_
  obtain ⟨g, hg, rfl⟩ := after_eq_error.mp h
  exact tag_leaves hg

theorem groups_leaves : (groups read).Leaves groupCode := by
  simp only [Reader.Leaves, groupCode_eq_flatMap]
  refine many_leaves fun cs f h ↦ ⟨.mk (.mk [] [] []) false, ?_⟩
  rcases bind_eq_error.mp h with h | ⟨_, _, h⟩
  · rw [enclosed_leaves h]
    exact List.nil_prefix
  · cases h

theorem pattern_leaves (depth : Nat) : Reader.Leaves (pattern d depth) Pattern.code := by
  intro cs f h
  cases depth with
  | zero =>
    cases h
    exact ⟨.mk [] [] [], List.nil_prefix⟩
  | succ depth =>
    unfold pattern at h
    rcases bind_eq_error.mp h with h | ⟨⟨tests, rest⟩, _, h⟩
    · obtain ⟨tests, hp⟩ := typeTests_leaves _ _ h
      refine ⟨.mk tests [] [], hp.trans ?_⟩
      simp [Pattern.code, tagCode, groupCode]
    · rcases bind_eq_error.mp h with h | ⟨⟨path, rest'⟩, _, h⟩
      · obtain ⟨path, hp⟩ := tags_leaves.after h
        refine ⟨.mk tests path [], hp.trans ?_⟩
        simp [Pattern.code, groupCode]
      · rcases bind_eq_error.mp h with h | ⟨_, _, h⟩
        · obtain ⟨gs, hp⟩ := groups_leaves.after h
          exact ⟨.mk tests path gs, hp⟩
        · cases h

theorem whole_leaves (h : whole d cs = .error f) : ∃ p : Pattern, f.compiled <+: p.code := by
  unfold whole at h
  rcases bind_eq_error.mp h with h | ⟨⟨p, rest⟩, _, h⟩
  · exact pattern_leaves _ _ _ h
  · dsimp only at h
    split at h
    · cases h
    · obtain ⟨g, hg, rfl⟩ := after_eq_error.mp h
      cases hg
      exact ⟨p, by simp⟩

/-- A text is read as code of the shape of a pattern, in all its subtrees too, or else what had been
compiled is the front of such code. -/
theorem shaped_of_read (d : Definitions) (source : String) :
    match Pattern.read d source with
    | .ok p => Shaped p.code
    | .error e => ∃ code, Shaped code ∧ e.compiled <+: code := by
  cases h : Pattern.read d source with
  | ok p => exact p.shaped
  | error e =>
    obtain ⟨f, hf, rfl⟩ := mapError_eq_error.mp h
    obtain ⟨p, hp⟩ := whole_leaves hf
    exact ⟨p.code, p.shaped, hp⟩

end Pattern

end TreePattern
