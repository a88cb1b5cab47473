import TreePattern.Proofs.Matching.Backtracking

namespace TreePattern

namespace Action

/-- The first action of a segment, which puts a level on the path. -/
def opens : Action → Bool
  | arrow | valueSubtree _ _ => true
  | ident _ | lookup _ _ | regexKey _ _ | test _ _ _ | keySubtree _ _ | close => false

def entersKey : Action → Bool
  | ident _ | lookup _ _ | regexKey _ _ | keySubtree _ _ | valueSubtree _ _ => true
  | arrow | test _ _ _ | close => false

end Action

namespace Cursor

/-- How often `close` has been passed. -/
def closed (c : Cursor) : Nat := c.passed.countP Action.isClose

/-- What has been passed since the last `close`, the last action first. -/
def current (c : Cursor) : List Action := c.passed.takeWhile fun a ↦ !a.isClose

end Cursor

variable {i : Instr} {rest : List Instr}

theorem action_testCode {tests : List TypeTest} (h : i ∈ testCode tests) :
    i.action.opens = false ∧ i.action.entersKey = false := by
  obtain ⟨t, _, rfl⟩ := List.mem_map.mp h
  exact ⟨rfl, rfl⟩

theorem Selector.action_instr (s : Selector) :
    s.instr.action.opens = false ∧ s.instr.action.entersKey = true := by
  cases s <;> exact ⟨rfl, rfl⟩

theorem Tag.body_cons (t : Tag) :
    ∃ rest, t.body = .arrow :: rest ∧ ∀ j ∈ rest, j.action.opens = false := by
  have htests (tests : List TypeTest) : ∀ j ∈ testCode tests, j.action.opens = false :=
    fun _ hj ↦ (action_testCode hj).1
  have hselect (s : Selector) (tests : List TypeTest) :
      ∀ j ∈ s.instr :: testCode tests, j.action.opens = false :=
    List.forall_mem_cons.mpr ⟨s.action_instr.1, htests tests⟩
  cases t with
  | capture name tests => exact ⟨_, rfl, List.forall_mem_cons.mpr ⟨rfl, htests tests⟩⟩
  | select s tests => exact ⟨_, rfl, hselect s tests⟩
  | captureSelect name s tests =>
    exact ⟨_, rfl, List.forall_mem_cons.mpr ⟨rfl, hselect s tests⟩⟩

theorem Segment.body_cons {s : Segment} (h : s.body = i :: rest) :
    (∃ t, s = .tag t ∧ i = .arrow ∧ ∀ j ∈ rest, j.action.opens = false) ∨
      ∃ q skippable, s = .group (.mk q skippable) ∧ i = .valueSubtree q.code skippable ∧
        rest = [] := by
  rcases s with t | ⟨q, skippable⟩
  · obtain ⟨rest', hbody, hrest⟩ := t.body_cons
    obtain ⟨rfl, rfl⟩ := List.cons.inj (hbody.symm.trans h)
    exact .inl ⟨t, rfl, rfl, hrest⟩
  · obtain ⟨rfl, rfl⟩ := List.cons.inj h
    exact .inr ⟨q, skippable, rfl, rfl, rfl⟩

theorem Instr.countP_actions (code : List Instr) :
    (actions code).countP Action.isClose = code.countP Instr.isClose := by
  induction code with
  | nil => rfl
  | cons i code ih => rw [actions, List.countP_cons, List.countP_cons, i.isClose_action, ih]

theorem Segment.opens_first {s : Segment} (h : s.body = i :: rest) : i.action.opens = true := by
  obtain ⟨t, -, rfl, -⟩ | ⟨q, skippable, -, rfl, -⟩ := body_cons h <;> rfl

theorem Segment.entersKey_body (s : Segment) :
    (Instr.actions s.body).any Action.entersKey = true := by
  rcases s with t | ⟨q, skippable⟩
  · cases t with
    | capture | captureSelect =>
      simp [body, Tag.body, Instr.actions, Instr.action, Action.entersKey]
    | select s tests => simp [body, Tag.body, Instr.actions, s.action_instr.2]
  · rfl

theorem Segment.not_close {s : Segment} {a : Action} (h : a ∈ Instr.actions s.body) :
    a.isClose = false := by
  obtain ⟨i, hi, rfl⟩ := Instr.mem_actions h
  rw [Instr.isClose_action, isClose_body hi]

theorem Segment.actions_code (s : Segment) :
    Instr.actions s.code = Instr.actions s.body ++ [.close] := by
  rw [code, Instr.actions_append]
  rfl

namespace Pattern

/-- What has been passed behind the segments given, of which the last comes first. -/
def passed (p : Pattern) : List Segment → List Action
  | [] => (Instr.actions (testCode p.tests)).reverse
  | s :: behind => .close :: ((Instr.actions s.body).reverse ++ p.passed behind)

variable {p : Pattern} {behind : List Segment}

theorem reverse_passed (p : Pattern) (behind : List Segment) : (p.passed behind).reverse =
    Instr.actions (testCode p.tests ++ behind.reverse.flatMap Segment.code) := by
  induction behind with
  | nil => simp [passed]
  | cons s behind ih => simp [passed, ih, Instr.actions_append, s.actions_code]

theorem actions_code (p : Pattern) {ahead : List Segment}
    (h : p.segments = behind.reverse ++ ahead) :
    (p.passed behind).reverse ++ Instr.actions (ahead.flatMap Segment.code) =
      Instr.actions p.code := by
  rw [reverse_passed, ← Instr.actions_append, p.code_eq, h, List.flatMap_append, List.append_assoc]

/-- What has been passed since the last segment are tests of the root, if there is none. -/
theorem mem_current_passed {ahead : List Action} {a : Action}
    (h : a ∈ Cursor.current ⟨p.passed behind, ahead⟩) :
    a.opens = false ∧ a.entersKey = false := by
  cases behind with
  | nil =>
    have ha := List.mem_reverse.mp (List.takeWhile_subset _ h)
    obtain ⟨i, hi, rfl⟩ := Instr.mem_actions ha
    exact action_testCode hi
  | cons s behind => cases h

theorem passed_body (p : Pattern) (s : Segment) (behind : List Segment) :
    ∃ a rest, (Instr.actions s.body).reverse ++ p.passed behind = a :: rest := by
  refine List.exists_cons_of_ne_nil fun h ↦ ?_
  have hkey := s.entersKey_body
  rw [List.reverse_eq_nil_iff.mp (List.append_eq_nil_iff.mp h).1] at hkey
  cases hkey

theorem closed_tests (tests : List TypeTest) :
    (Instr.actions (testCode tests)).countP Action.isClose = 0 := by
  rw [Instr.countP_actions, List.countP_eq_zero]
  intro i hi
  rw [isClose_testCode hi]
  exact Bool.false_ne_true

theorem closed_body {s : Segment} {code more : List Instr} (h : s.body = code ++ more) :
    (Instr.actions code).countP Action.isClose = 0 := by
  rw [Instr.countP_actions, List.countP_eq_zero]
  intro i hi
  have hbody : i ∈ s.body := by
    rw [h]
    exact List.mem_append_left more hi
  rw [Segment.isClose_body hbody]
  exact Bool.false_ne_true

theorem closed_passed (p : Pattern) (behind : List Segment) :
    (p.passed behind).countP Action.isClose = behind.length := by
  induction behind with
  | nil => rw [passed, List.countP_reverse, closed_tests, List.length_nil]
  | cons s behind ih =>
    have hs := closed_body (List.append_nil s.body).symm
    rw [passed, List.countP_cons_of_pos rfl, List.countP_append, List.countP_reverse, hs, ih,
      List.length_cons, Nat.zero_add]

theorem current_within (p : Pattern) (behind : List Segment) (ahead : List Action) {s : Segment}
    {code more : List Instr} (h : s.body = code ++ more) :
    Cursor.current ⟨(Instr.actions code).reverse ++ p.passed behind, ahead⟩ =
      (Instr.actions code).reverse ++ Cursor.current ⟨p.passed behind, ahead⟩ := by
  refine List.takeWhile_append_of_pos fun a ha ↦ ?_
  have hclose := List.countP_eq_zero.mp (closed_body h) a (List.mem_reverse.mp ha)
  simpa using hclose

end Pattern

end TreePattern
