import TreePattern.Proofs.Except
import TreePattern.Proofs.Matching.Origin
import TreePattern.Proofs.Matching.Place
import TreePattern.Proofs.Matching.Requests

namespace TreePattern

namespace Machine

/-- The level so many steps above the root has chosen an entry for its segment. -/
def ChoseAt (p : Pattern) (m : Machine) (k : Nat) : Prop :=
  ∃ s l, p.segments[k]? = some s ∧ m.path.reverse[k + 1]? = some l ∧ l.Chose (s.entries l.parent)

/-- A machine whose path fits its place in the code of a pattern. -/
structure InStep (p : Pattern) (m : Machine) : Prop where
  place : m.cursor.passed.reverse ++ m.cursor.ahead = Instr.actions p.code
  height : m.path.length =
    1 + m.cursor.closed + if m.cursor.current.any Action.opens then 1 else 0
  phase : m.inKey = true ↔ m.upcoming.isSome ∧ m.cursor.current.any Action.entersKey
  parents : m.path.IsChain fun l below ↦ l.parent = below.value
  chosen : ∀ k, k + 2 < m.path.length → m.ChoseAt p k

end Machine

/-- The levels of the segments behind, the last of them first, above that of the root: each starts
at the value chosen below it and has made a choice of its own. -/
inductive Tower (n : Node) : List Segment → List Level → Prop
  | root : Tower n [] [.root n]
  | level {s : Segment} {behind : List Segment} {l below : Level} {path : List Level} :
    Tower n behind (below :: path) → l.parent = below.value → l.Among (s.entries l.parent) →
      l.Chose (s.entries l.parent) → Tower n (s :: behind) (l :: below :: path)

namespace Tower

variable {n : Node} {behind : List Segment} {path : List Level}

theorem length_eq (h : Tower n behind path) : path.length = behind.length + 1 := by
  induction h with
  | root => rfl
  | level _ _ _ _ ih => rw [List.length_cons, ih, List.length_cons]

theorem isChain (h : Tower n behind path) :
    path.IsChain fun l below ↦ l.parent = below.value := by
  induction h with
  | root => exact .singleton _
  | level _ hparent _ _ ih => exact .cons_cons hparent ih

theorem chosen (h : Tower n behind path) {k : Nat} (hk : k + 1 < path.length) :
    ∃ s l, behind.reverse[k]? = some s ∧ path.reverse[k + 1]? = some l ∧
      l.Chose (s.entries l.parent) := by
  induction h with
  | root => simp at hk
  | @level s behind l below path h _ _ hl ih =>
    have hlen := h.length_eq
    have hreverse : (l :: below :: path).reverse = (below :: path).reverse ++ [l] :=
      List.reverse_cons
    rw [List.reverse_cons, hreverse]
    rcases Nat.lt_or_ge (k + 1) (below :: path).length with hlt | hge
    · obtain ⟨s', l', hs', hl', hc⟩ := ih hlt
      have hs : k < behind.reverse.length := by
        rw [hlen] at hlt
        rw [List.length_reverse]
        omega
      have hl : k + 1 < (below :: path).reverse.length := by rwa [List.length_reverse]
      rw [List.getElem?_append_left hs, List.getElem?_append_left hl]
      exact ⟨s', l', hs', hl', hc⟩
    · have hb : k = behind.length := by
        rw [List.length_cons] at hk
        omega
      refine ⟨s, l, ?_, ?_, hl⟩
      · simp [hb]
      · simp [hb, ← hlen]

end Tower

namespace Machine

open Pattern

/-- Where a machine stands that matches a pattern against a node. -/
inductive Stands (p : Pattern) (n : Node) : Machine → Prop
  | ended {m : Machine} : m.path = [] → Stands p n m
  | testing {budget : Nat} {before after : List TypeTest} {t : TypeTest} :
    p.tests = before ++ t :: after → Stands p n
      ⟨budget, ⟨(Instr.actions (testCode before)).reverse,
        Instr.actions (testCode (t :: after)) ++ Instr.actions (p.segments.flatMap Segment.code)⟩,
        [.root n], false, false⟩
  | between {budget : Nat} {behind ahead : List Segment} {path : List Level} :
    p.segments = behind.reverse ++ ahead → Tower n behind path → Stands p n
      ⟨budget, ⟨p.passed behind, Instr.actions (ahead.flatMap Segment.code)⟩, path, false, false⟩
  | within {budget : Nat} {behind ahead : List Segment} {s : Segment} {i : Instr}
      {front back : List Instr} {l below : Level} {path : List Level} :
    p.segments = behind.reverse ++ s :: ahead → s.body = i :: front ++ back →
      Tower n behind (below :: path) → l.parent = below.value → l.Among (s.entries l.parent) →
      Stands p n
        ⟨budget, ⟨(Instr.actions (i :: front)).reverse ++ p.passed behind,
          Instr.actions back ++ .close :: Instr.actions (ahead.flatMap Segment.code)⟩,
          l :: below :: path, (Instr.actions (i :: front)).any Action.entersKey, false⟩

variable {p : Pattern} {n : Node} {m m' : Machine} {l below : Level} {path : List Level}

section Execution

variable {i : Instr} {es : List Entry}

theorem update_eq_ok {g : Level → Except Fault Level} (hp : m.path = l :: path)
    (h : m.update g = .ok m') :
    ∃ l', g l = .ok l' ∧ m' = { m with path := l' :: path, inKey := true } := by
  cases hl : g l with
  | error f => simp [update, top?, hp, lift, hl, bind, Except.bind, Except.mapError] at h
  | ok l' =>
    simp only [update, top?, hp, lift, hl, bind, Except.bind, Except.mapError] at h
    exact ⟨l', rfl, (Except.ok.inj h).symm⟩

theorem chosen_eq_ok (hp : m.path = l :: path) {l' : Level} (h : m.chosen? = .ok l') : l' = l := by
  simp only [chosen?, top?, hp, bind, Except.bind] at h
  split at h
  · cases h
  · exact (Except.ok.inj h).symm

theorem choose_eq (hp : m.path = l :: path) : m.choose = match l.pending false with
    | .more (.ok c) rest => .ok { m with path := l.choose c rest :: path, inKey := false }
    | .more (.error e) _ => .error (.mismatch e)
    | .done => .ok m.backtrack
    | .fault f => .error (.fault f) := by
  rcases m with ⟨budget, cursor, _, inKey, yielded⟩
  obtain rfl := hp
  rfl

theorem execute_opening {s : Segment} {rest : List Instr} (hs : s.body = i :: rest)
    (hp : m.path = below :: path) (hk : m.inKey = false) (h : m.execute i.action = .ok m') :
    ∃ l, m' = { m with path := l :: below :: path, inKey := i.action.entersKey } ∧
      l.parent = below.value ∧ l.Among (s.entries l.parent) := by
  rw [execute, if_neg (by simp [hk])] at h
  obtain ⟨t, rfl, rfl, -⟩ | ⟨q, skippable, rfl, rfl, -⟩ := Segment.body_cons hs
  · obtain ⟨l', hl', h⟩ := bind_eq_ok.mp h
    obtain rfl := chosen_eq_ok hp hl'
    obtain rfl := Except.ok.inj h
    exact ⟨_, congrArg (Machine.mk _ _ · _ _) (congrArg _ hp), rfl, Level.among_child l'.value⟩
  · obtain ⟨l', hl', h⟩ := bind_eq_ok.mp h
    obtain rfl := chosen_eq_ok hp hl'
    obtain ⟨group, hgroup, h⟩ := bind_eq_ok.mp h
    obtain rfl := Except.ok.inj hgroup
    obtain rfl := Except.ok.inj h
    refine ⟨_, congrArg (Machine.mk _ _ · _ _) (congrArg _ hp), rfl, fun _ ↦ ?_⟩
    exact Choices.among_ofGroup l'.value _ skippable

theorem execute_eq_select {a : Action}
    (h : ∀ m : Machine, m.insideKey a = m.select a ∧ m.outsideKey a = m.select a) :
    m.execute a = m.select a := by
  rw [execute, (h m).1, (h m).2, ite_self]

theorem select_inner {a : Action} (hp : m.path = l :: path)
    (hl : l.Among (l.parent.entries?.getD [])) (h : m.select a = .ok m') :
    ∃ l', m' = { m with path := l' :: path, inKey := true } ∧ l'.parent = l.parent ∧
      l'.Among (l.parent.entries?.getD []) := by
  cases a with
  | lookup key skippable =>
    rw [select] at h
    obtain ⟨l', hl', rfl⟩ := update_eq_ok hp h
    exact ⟨l', rfl, Level.among_install hl'⟩
  | regexKey regex skippable =>
    rw [select] at h
    obtain ⟨l', hl', rfl⟩ := update_eq_ok hp h
    obtain rfl := Except.ok.inj hl'
    exact ⟨_, rfl, rfl, hl.refine (fun _ hcs ↦ hcs.filter _ _ _) skippable⟩
  | keySubtree run skippable =>
    rw [select] at h
    obtain ⟨l', hl', rfl⟩ := update_eq_ok hp h
    obtain rfl := Except.ok.inj hl'
    exact ⟨_, rfl, rfl, hl.refine (fun _ hcs ↦ hcs.matchKeys _ _) skippable⟩
  | arrow | ident | test | valueSubtree | close => cases h

theorem execute_inner (ho : i.action.opens = false) (hc : i.isClose = false)
    (hp : m.path = l :: below :: path) (hl : l.Among (l.parent.entries?.getD []))
    (h : m.execute i.action = .ok m') :
    ∃ l', m' = { m with path := l' :: below :: path, inKey := m.inKey || i.action.entersKey } ∧
      l'.parent = l.parent ∧ l'.Among (l.parent.entries?.getD []) := by
  cases i with
  | arrow | valueSubtree => cases ho
  | close => cases hc
  | ident name =>
    rw [execute] at h
    split at h
    · cases h
    · rw [Instr.action, outsideKey] at h
      obtain ⟨l', hl', rfl⟩ := update_eq_ok hp h
      obtain rfl := Except.ok.inj hl'
      exact ⟨_, congrArg (Machine.mk _ _ _ · _) (Bool.or_true _).symm, rfl, hl⟩
  | stringKey | param | regexKey | keySubtree =>
    rw [execute_eq_select fun _ ↦ ⟨rfl, rfl⟩] at h
    obtain ⟨l', rfl, hl'⟩ := select_inner hp hl h
    exact ⟨l', congrArg (Machine.mk _ _ _ · _) (Bool.or_true _).symm, hl'⟩
  | test name predicate skippable =>
    rw [execute] at h
    split at h
    · next hk =>
      rw [Instr.action, insideKey] at h
      obtain ⟨l', hl', rfl⟩ := update_eq_ok hp h
      obtain rfl := Except.ok.inj hl'
      rw [hk]
      exact ⟨_, rfl, rfl, hl.refine (fun _ hcs ↦ hcs.filter _ _ _) false⟩
    · simp [Instr.action, outsideKey, testRoot, hp] at h

end Execution

section Backtracking

variable {budget : Nat} {inKey : Bool} {s : Segment} {behind ahead : List Segment}

theorem backtrack_first (p : Pattern) (s : Segment) (ahead : List Action) :
    (backtrack ⟨budget, ⟨.close :: ((Instr.actions s.body).reverse ++ p.passed []), ahead⟩,
      l :: path, inKey, false⟩).path = [] := by
  have hclose : ∀ a ∈ (Instr.actions s.body).reverse ++ p.passed [], a.isClose = false := by
    intro a ha
    rcases List.mem_append.mp ha with ha | ha
    · exact Segment.not_close (List.mem_reverse.mp ha)
    · obtain ⟨i, hi, rfl⟩ := Instr.mem_actions (List.mem_reverse.mp ha)
      rw [Instr.isClose_action, isClose_testCode hi]
  rw [backtrack]
  dsimp only
  rw [Cursor.rewind_fresh hclose]

theorem backtrack_further (p : Pattern) (s s' : Segment) (behind ahead : List Segment) :
    backtrack ⟨budget, ⟨.close :: ((Instr.actions s.body).reverse ++ p.passed (s' :: behind)),
      Instr.actions (ahead.flatMap Segment.code)⟩, l :: path, inKey, false⟩ =
      ⟨budget, ⟨(Instr.actions s'.body).reverse ++ p.passed behind,
        .close :: Instr.actions ((s :: ahead).flatMap Segment.code)⟩, path, true, false⟩ := by
  have hclose : ∀ a ∈ (Instr.actions s.body).reverse, a.isClose = false :=
    fun a ha ↦ Segment.not_close (List.mem_reverse.mp ha)
  obtain ⟨a, rest, hrest⟩ := p.passed_body s' behind
  rw [Pattern.passed, hrest, backtrack]
  dsimp only
  rw [Cursor.rewind_closed hclose, List.flatMap_cons, Instr.actions_append, s.actions_code]
  simp

theorem Stands.reopened (hs : p.segments = (s :: behind).reverse ++ ahead)
    (h : Tower n (s :: behind) path) :
    Stands p n ⟨budget, ⟨(Instr.actions s.body).reverse ++ p.passed behind,
      .close :: Instr.actions (ahead.flatMap Segment.code)⟩, path, true, false⟩ := by
  obtain ⟨i, front, hbody⟩ := List.exists_cons_of_ne_nil s.body_ne_nil
  cases h with
  | level h hparent hl _ =>
    have hs : p.segments = behind.reverse ++ s :: ahead := by simpa using hs
    have hback : s.body = i :: front ++ [] := by rw [hbody, List.append_nil]
    have hstands : Stands p n ⟨budget, _, _, _, _⟩ := .within hs hback h hparent hl
    rw [← hbody, s.entersKey_body] at hstands
    exact hstands

theorem Stands.backtracked (hs : p.segments = behind.reverse ++ s :: ahead)
    (h : Tower n behind path) :
    Stands p n (backtrack ⟨budget, ⟨.close :: ((Instr.actions s.body).reverse ++ p.passed behind),
      Instr.actions (ahead.flatMap Segment.code)⟩, l :: path, inKey, false⟩) := by
  cases behind with
  | nil => exact .ended (backtrack_first p s _)
  | cons s' behind =>
    rw [backtrack_further]
    exact .reopened hs h

end Backtracking

theorem execute_of_step (h : m.step = .ok m') {a : Action} {ahead : List Action}
    (ha : m.cursor.ahead = a :: ahead) :
    execute { m with cursor := ⟨a :: m.cursor.passed, ahead⟩ } a = .ok m' := by
  have hc : m.cursor.advance? = some (a, ⟨a :: m.cursor.passed, ahead⟩) := by
    rw [Cursor.advance?, ha]
  rw [step_of_advance (path_of_step_ok h) hc] at h
  split at h
  · next he => rw [he, Except.ok.inj h]
  · cases h
  · cases h

/-- Why a step does not go on: a result, of which a match comes at the end of the code only, or a
fault. -/
theorem step_eq_error {r : Pull} (h : m.step = .error r) :
    (r = .ended m ∧ m.path = []) ∨ (∃ e, r = .failed e m.clear) ∨
      (∃ b, r = .item b { m with yielded := true } ∧ m.cursor.ahead = []) ∨ ∃ f, r = .fault f := by
  by_cases hp : m.path = []
  · rw [step_of_path_nil hp] at h
    exact .inl ⟨(Except.error.inj h).symm, hp⟩
  cases hc : m.cursor.advance? with
  | none =>
    have hahead : m.cursor.ahead = [] := by
      unfold Cursor.advance? at hc
      split at hc
      · assumption
      · cases hc
    obtain ⟨l, path, hp⟩ := List.exists_cons_of_ne_nil hp
    rw [step_at_end hp hc] at h
    split at h
    · exact .inr (.inr (.inr ⟨_, (Except.error.inj h).symm⟩))
    · exact .inr (.inr (.inl ⟨_, (Except.error.inj h).symm, hahead⟩))
  | some q =>
    rw [step_of_advance hp hc] at h
    split at h
    · cases h
    · exact .inr (.inl ⟨_, (Except.error.inj h).symm⟩)
    · exact .inr (.inr (.inr ⟨_, (Except.error.inj h).symm⟩))

namespace Stands

variable {budget : Nat} {behind ahead : List Segment} {s : Segment}

theorem step_testing {before after : List TypeTest} {t : TypeTest}
    (ht : p.tests = before ++ t :: after)
    (hs : step ⟨budget, ⟨(Instr.actions (testCode before)).reverse,
      Instr.actions (testCode (t :: after)) ++ Instr.actions (p.segments.flatMap Segment.code)⟩,
      [.root n], false, false⟩ = .ok m') : Stands p n m' := by
  have hpassed : t.instr.action :: (Instr.actions (testCode before)).reverse =
      (Instr.actions (testCode (before ++ [t]))).reverse := by
    simp [testCode, Instr.actions_append, Instr.actions]
  have htest : step ⟨budget, ⟨(Instr.actions (testCode before)).reverse, t.instr.action ::
      (Instr.actions (testCode after) ++ Instr.actions (p.segments.flatMap Segment.code))⟩,
      [.root n], false, false⟩ = _ := step_root_test t
  have h := htest.symm.trans hs
  split at h
  · obtain rfl := Except.ok.inj h
    rw [hpassed]
    have ht : p.tests = (before ++ [t]) ++ after := by simpa using ht
    cases after with
    | nil =>
      rw [List.append_nil] at ht
      rw [← ht]
      exact .between rfl .root
    | cons u after => exact .testing ht
  · split at h
    · obtain rfl := Except.ok.inj h
      exact .ended rfl
    · cases h

theorem step_between (hseg : p.segments = behind.reverse ++ ahead) (h : Tower n behind path)
    (hs : step ⟨budget, ⟨p.passed behind, Instr.actions (ahead.flatMap Segment.code)⟩, path,
      false, false⟩ = .ok m') : Stands p n m' := by
  obtain ⟨l, path', rfl⟩ := List.exists_cons_of_ne_nil (path_of_step_ok hs)
  cases ahead with
  | nil =>
    rw [step_at_end rfl rfl] at hs
    split at hs <;> cases hs
  | cons s ahead =>
    obtain ⟨i, rest, hbody⟩ := List.exists_cons_of_ne_nil s.body_ne_nil
    have hahead : Instr.actions ((s :: ahead).flatMap Segment.code) = i.action ::
        (Instr.actions rest ++ .close :: Instr.actions (ahead.flatMap Segment.code)) := by
      rw [List.flatMap_cons, Instr.actions_append, s.actions_code, hbody]
      simp [Instr.actions]
    have he := execute_of_step hs hahead
    obtain ⟨l', rfl, hparent, hl'⟩ := execute_opening hbody rfl rfl he
    have hstands : Stands p n ⟨budget, _, _, _, _⟩ :=
      .within hseg (show s.body = i :: [] ++ rest from hbody) h hparent hl'
    simpa [Instr.actions] using hstands

theorem step_inner {i j : Instr} {front back : List Instr}
    (hseg : p.segments = behind.reverse ++ s :: ahead) (hbody : s.body = i :: front ++ j :: back)
    (h : Tower n behind (below :: path)) (hparent : l.parent = below.value)
    (hl : l.Among (s.entries l.parent))
    (hs : step ⟨budget, ⟨(Instr.actions (i :: front)).reverse ++ p.passed behind,
      Instr.actions (j :: back) ++ .close :: Instr.actions (ahead.flatMap Segment.code)⟩,
      l :: below :: path, (Instr.actions (i :: front)).any Action.entersKey, false⟩ = .ok m') :
    Stands p n m' := by
  have hj : j ∈ front ++ j :: back := List.mem_append_right _ List.mem_cons_self
  have hmem : j ∈ s.body := by
    rw [hbody]
    exact List.mem_cons_of_mem i hj
  have hclose : j.isClose = false := Segment.isClose_body hmem
  obtain ⟨t, rfl, -, hopens⟩ | ⟨_, _, -, -, hnil⟩ := Segment.body_cons hbody
  · have he := execute_of_step hs rfl
    obtain ⟨l', rfl, hparent', hl'⟩ := execute_inner (hopens j hj) hclose rfl hl he
    have hbody : (Segment.tag t).body = i :: (front ++ [j]) ++ back := by simpa using hbody
    have hstands : Stands p n ⟨budget, _, _, _, _⟩ :=
      .within hseg hbody h (hparent'.trans hparent) (hparent' ▸ hl')
    simpa [Instr.actions, Instr.actions_append, Bool.or_assoc] using hstands
  · exact absurd hnil (List.append_ne_nil_of_right_ne_nil front (List.cons_ne_nil j back))

theorem step_close {i : Instr} {front : List Instr}
    (hseg : p.segments = behind.reverse ++ s :: ahead) (hbody : s.body = i :: front)
    (h : Tower n behind (below :: path)) (hparent : l.parent = below.value)
    (hl : l.Among (s.entries l.parent))
    (hs : step ⟨budget, ⟨(Instr.actions (i :: front)).reverse ++ p.passed behind,
      .close :: Instr.actions (ahead.flatMap Segment.code)⟩,
      l :: below :: path, (Instr.actions (i :: front)).any Action.entersKey, false⟩ = .ok m') :
    Stands p n m' := by
  have he := execute_of_step hs rfl
  rw [← hbody, execute] at he
  split at he
  · have he := (choose_eq rfl).symm.trans he
    split at he
    · next c rest hc =>
      obtain rfl := Except.ok.inj he
      obtain ⟨hrest, hchose⟩ := hl.choose hc
      have hseg : p.segments = (s :: behind).reverse ++ ahead := by simpa using hseg
      exact .between hseg (.level h hparent hrest hchose)
    · cases he
    · obtain rfl := Except.ok.inj he
      exact .backtracked hseg h
    · cases he
  · cases he

/-- One step keeps the path of a machine in step with its place. -/
theorem step (h : Stands p n m) (hs : m.step = .ok m') : Stands p n m' := by
  cases h with
  | ended hp => exact absurd hp (path_of_step_ok hs)
  | testing ht => exact step_testing ht hs
  | between hseg htower => exact step_between hseg htower hs
  | @within _ _ _ _ _ _ back _ _ _ hseg hbody htower hparent hl =>
    cases back with
    | nil => exact step_close hseg (by simpa using hbody) htower hparent hl hs
    | cons j back => exact step_inner hseg hbody htower hparent hl hs

theorem resume (hseg : p.segments = behind.reverse ++ ahead) (h : Tower n behind path) :
    Stands p n (Machine.resume ⟨budget,
      ⟨p.passed behind, Instr.actions (ahead.flatMap Segment.code)⟩, path, false, true⟩) := by
  cases behind with
  | nil =>
    have hclose : Cursor.atClose
        ⟨p.passed [], Instr.actions (ahead.flatMap Segment.code)⟩ = false := by
      cases hpassed : p.passed [] with
      | nil => rfl
      | cons a passed =>
        have hcount := p.closed_passed []
        rw [hpassed, List.length_nil, List.countP_eq_zero] at hcount
        exact Bool.eq_false_iff.mpr (hcount a List.mem_cons_self)
    rw [Machine.resume, if_pos rfl, if_neg (by simp [hclose])]
    exact .ended rfl
  | cons s behind =>
    obtain ⟨a, rest, hrest⟩ := p.passed_body s behind
    have hstands : Stands p n ⟨budget, _, _, _, _⟩ := .reopened hseg h
    rw [hrest] at hstands
    rw [Pattern.passed, hrest]
    exact hstands

theorem moves (h : Stands p n m) (hm : Moves m m') : Stands p n m' := by
  cases hm with
  | step hs => exact h.step hs
  | request hs hseen =>
    obtain ⟨rfl, hp⟩ | ⟨e, rfl⟩ | ⟨b, rfl, hahead⟩ | ⟨f, rfl⟩ := step_eq_error hs
    · obtain ⟨-, rfl⟩ := Prod.mk.inj (Except.ok.inj hseen)
      exact .ended (resume_path_nil hp)
    · obtain ⟨-, rfl⟩ := Prod.mk.inj (Except.ok.inj hseen)
      exact .ended (resume_path_nil rfl)
    · obtain ⟨-, rfl⟩ := Prod.mk.inj (Except.ok.inj hseen)
      cases h with
      | ended hp => exact .ended (resume_path_nil hp)
      | testing ht => cases hahead
      | between hseg htower => exact resume hseg htower
      | within => simp at hahead
    · cases hseen

theorem start (p : Pattern) (n : Node) : Stands p n (.ofCode p.code n) := by
  rw [ofCode, Machine.start, p.code_eq]
  generalize Instr.codeBreadth n.weight _ = budget
  rw [Instr.actions_append]
  cases ht : p.tests with
  | nil =>
    have hstands : Stands p n ⟨budget, ⟨p.passed [], _⟩, _, _, _⟩ := .between rfl .root
    rw [Pattern.passed, ht] at hstands
    exact hstands
  | cons t after => exact .testing (show p.tests = [] ++ t :: after from ht)

theorem of_reaches (h : Reaches (.ofCode p.code n) m) : Stands p n m := by
  induction h with
  | refl => exact start p n
  | tail _ hm ih => exact ih.moves hm

end Stands

section Place

variable {behind ahead : List Segment} {k : Nat}

theorem choseAt_of_tower (hseg : p.segments = behind.reverse ++ ahead) (h : Tower n behind path)
    {above : List Level} (hp : m.path = above ++ path) (hk : k + 1 < path.length) :
    m.ChoseAt p k := by
  obtain ⟨s, l, hs, hl, hchose⟩ := h.chosen hk
  obtain ⟨hks, -⟩ := List.getElem?_eq_some_iff.mp hs
  obtain ⟨hkl, -⟩ := List.getElem?_eq_some_iff.mp hl
  refine ⟨s, l, ?_, ?_, hchose⟩
  · rw [hseg, List.getElem?_append_left hks, hs]
  · rw [hp, List.reverse_append, List.getElem?_append_left hkl, hl]

theorem inStep_outside (hplace : m.cursor.passed.reverse ++ m.cursor.ahead = Instr.actions p.code)
    (hcurrent : ∀ a ∈ m.cursor.current, a.opens = false ∧ a.entersKey = false)
    (hkey : m.inKey = false) (hseg : p.segments = behind.reverse ++ ahead)
    (h : Tower n behind m.path) (hclosed : m.cursor.closed = behind.length) : m.InStep p where
  place := hplace
  height := by
    have hopens : m.cursor.current.any Action.opens = false :=
      List.any_eq_false.mpr fun a ha ↦ Bool.eq_false_iff.mp (hcurrent a ha).1
    rw [h.length_eq, hclosed, hopens, if_neg Bool.false_ne_true]
    omega
  phase := by
    have henters : m.cursor.current.any Action.entersKey = false :=
      List.any_eq_false.mpr fun a ha ↦ Bool.eq_false_iff.mp (hcurrent a ha).2
    rw [hkey, henters]
    simp
  parents := h.isChain
  chosen k hk := choseAt_of_tower hseg h (List.nil_append m.path).symm (Nat.lt_of_succ_lt hk)

theorem inStep_within {budget : Nat} {s : Segment} {i : Instr} {front back : List Instr}
    (hseg : p.segments = behind.reverse ++ s :: ahead) (hbody : s.body = i :: front ++ back)
    (h : Tower n behind (below :: path)) (hparent : l.parent = below.value) :
    InStep p ⟨budget, ⟨(Instr.actions (i :: front)).reverse ++ p.passed behind,
      Instr.actions back ++ .close :: Instr.actions (ahead.flatMap Segment.code)⟩,
      l :: below :: path, (Instr.actions (i :: front)).any Action.entersKey, false⟩ where
  place := by
    have hcode := actions_code p hseg
    rw [List.flatMap_cons, Instr.actions_append, s.actions_code, hbody, Instr.actions_append]
      at hcode
    simpa using hcode
  height := by
    have hclosed : (Instr.actions (i :: front)).countP Action.isClose = 0 := closed_body hbody
    have hopens : (Instr.actions (i :: front)).any Action.opens = true := by
      rw [Instr.actions, List.any_cons, Segment.opens_first hbody, Bool.true_or]
    rw [current_within p behind _ hbody, List.any_append, List.any_reverse, hopens, Bool.true_or,
      if_pos rfl, Cursor.closed, List.countP_append, List.countP_reverse, hclosed, closed_passed,
      List.length_cons, h.length_eq]
    omega
  phase := by
    have hany : (Cursor.current ⟨p.passed behind, Instr.actions back ++
        .close :: Instr.actions (ahead.flatMap Segment.code)⟩).any Action.entersKey = false :=
      List.any_eq_false.mpr fun a ha ↦ Bool.eq_false_iff.mp (mem_current_passed ha).2
    rw [current_within p behind _ hbody, List.any_append, List.any_reverse, hany, Bool.or_false]
    cases back <;> simp [upcoming, Instr.actions]
  parents := .cons_cons hparent h.isChain
  chosen k hk := choseAt_of_tower hseg h (List.singleton_append.symm) (Nat.lt_of_succ_lt_succ hk)

theorem Stands.inStep (h : Stands p n m) (hp : m.path ≠ []) : m.InStep p := by
  cases h with
  | ended he => exact absurd he hp
  | @testing _ before after t ht =>
    refine inStep_outside ?_ (fun a ha ↦ ?_) rfl (List.nil_append _).symm .root ?_
    · rw [p.code_eq, ht, Instr.actions_append, List.reverse_reverse, ← List.append_assoc]
      simp [testCode, Instr.actions_append]
    · have ha := List.mem_reverse.mp (List.takeWhile_subset _ ha)
      obtain ⟨i, hi, rfl⟩ := Instr.mem_actions ha
      exact action_testCode hi
    · rw [Cursor.closed, List.countP_reverse, closed_tests, List.length_nil]
  | between hseg htower =>
    exact inStep_outside (actions_code p hseg) (fun _ ↦ mem_current_passed) rfl hseg htower
      (closed_passed p _)
  | within hseg hbody htower hparent => exact inStep_within hseg hbody htower hparent

end Place

theorem Stands.yields (h : Stands p n m) {b : Bindings} (hs : m.step = .error (.item b m')) :
    m'.InStep p ∧ m'.path.length = 1 + p.code.countP Instr.isClose ∧
      ∀ k, k + 1 < m'.path.length → m'.ChoseAt p k := by
  have hin := h.inStep fun hp ↦ by
    rw [step_of_path_nil hp] at hs
    cases hs
  obtain ⟨hr, -⟩ | ⟨e, hr⟩ | ⟨b', hr, hahead⟩ | ⟨f, hr⟩ := step_eq_error hs
  · cases hr
  · cases hr
  · cases hr
    refine ⟨⟨hin.place, hin.height, hin.phase, hin.parents, hin.chosen⟩, ?_⟩
    cases h with
    | ended hp =>
      rw [step_of_path_nil hp] at hs
      cases hs
    | testing => cases hahead
    | @between _ behind ahead path hseg htower =>
      have hclosed : behind.length = p.code.countP Instr.isClose := by
        rw [← closed_passed p behind, ← Instr.countP_actions, ← hin.place, hahead, List.append_nil,
          List.countP_reverse]
      refine ⟨?_, fun k hk ↦ choseAt_of_tower hseg htower (List.nil_append path).symm hk⟩
      rw [htower.length_eq, hclosed, Nat.add_comm]
    | within => simp at hahead
  · cases hr

theorem step_exhausted {budget : Nat} {passed ahead : List Action}
    (h : l.pending false = .done) :
    Machine.step ⟨budget, ⟨passed, .close :: ahead⟩, l :: path, true, false⟩ =
      .ok (backtrack ⟨budget, ⟨.close :: passed, ahead⟩, l :: path, true, false⟩) := by
  rw [step_of_advance (List.cons_ne_nil _ _) rfl, execute, if_pos rfl, insideKey, choose_eq rfl, h]

theorem Stands.backtracks (h : Stands p n m) (hp : m.path = l :: path)
    (hclose : m.upcoming = some .close) (hdone : l.pending false = .done) :
    ∃ m', m.step = .ok m' ∧
      (path.length = 1 ∧ m'.path = [] ∨
        1 < path.length ∧ m'.path = path ∧ m'.upcoming = some .close ∧
          m'.cursor.closed + 2 = path.length ∧ m'.InStep p) := by
  cases h with
  | ended he => cases hp.symm.trans he
  | testing => cases hclose
  | @between _ _ ahead _ hseg htower =>
    cases ahead with
    | nil => cases hclose
    | cons s ahead =>
      obtain ⟨i, rest, hbody⟩ := List.exists_cons_of_ne_nil s.body_ne_nil
      rw [upcoming, List.flatMap_cons, Instr.actions_append, s.actions_code, hbody] at hclose
      have hopens := Segment.opens_first hbody
      rw [Option.some.inj hclose] at hopens
      cases hopens
  | @within _ behind ahead s i front back l' below path' hseg hbody htower hparent hl =>
    obtain ⟨rfl, rfl⟩ := List.cons.inj hp
    cases back with
    | cons j back =>
      have hj : j.action ∈ Instr.actions s.body := by
        rw [hbody, Instr.actions_append]
        exact List.mem_append_right _ List.mem_cons_self
      have hnot := Segment.not_close hj
      rw [Option.some.inj hclose] at hnot
      cases hnot
    | nil =>
      rw [List.append_nil] at hbody
      rw [← hbody, s.entersKey_body]
      refine ⟨_, step_exhausted hdone, ?_⟩
      cases behind with
      | nil =>
        cases htower
        exact .inl ⟨rfl, backtrack_first p s _⟩
      | cons s' behind =>
        have hlen : (below :: path').length = behind.length + 2 := htower.length_eq
        have hclosed : (Instr.actions s'.body).countP Action.isClose = 0 :=
          closed_body (List.append_nil s'.body).symm
        right
        rw [backtrack_further]
        refine ⟨by omega, rfl, rfl, ?_, (reopened hseg htower).inStep (List.cons_ne_nil _ _)⟩
        rw [Cursor.closed, List.countP_append, List.countP_reverse, hclosed, closed_passed, hlen]
        omega

/-- In every machine that requests bring about, until it has ended, path and place are in step: the
levels are those of the segments passed and of the one that the machine is within, each starts at
the value chosen below it, and all but the top have chosen one of the entries that their segment has
there. A match is yielded when all segments have chosen, and the way back from an exhausted level
leads to just before the `close` of the one below it, or ends the match. -/
theorem inStep_of_reaches (p : Pattern) (n : Node) (m : Machine)
    (h : Reaches (.ofCode p.code n) m) (hp : m.path ≠ []) :
    m.InStep p ∧
      (∀ b m', m.step = .error (.item b m') →
        m'.InStep p ∧ m'.path.length = 1 + p.code.countP Instr.isClose ∧
          ∀ k, k + 1 < m'.path.length → m'.ChoseAt p k) ∧
      ∀ l path, m.path = l :: path → m.upcoming = some .close → l.pending false = .done →
        ∃ m', m.step = .ok m' ∧
          (path.length = 1 ∧ m'.path = [] ∨
            1 < path.length ∧ m'.path = path ∧ m'.upcoming = some .close ∧
              m'.cursor.closed + 2 = path.length ∧ m'.InStep p) := by
  have hstands := Stands.of_reaches h
  exact ⟨hstands.inStep hp, fun _ _ ↦ hstands.yields, fun _ _ ↦ hstands.backtracks⟩

/-- A match of `->X->Y` with a sequence in a sequence: its first result, and the way back from the
level above the only item of the inner sequence. -/
theorem inStep_around_match : ∃ (m m' m'' : Machine) (b : Bindings),
    Reaches (.ofCode (Pattern.mk [] [.capture "X" [], .capture "Y" []] []).code
      (.stored (.seq [.seq [.null]]))) m ∧
    m.step = .error (.item b m') ∧ m'.path.length = 3 ∧
      (∀ k, k + 1 < m'.path.length →
        m'.ChoseAt (.mk [] [.capture "X" [], .capture "Y" []] []) k) ∧
    m'.resume.InStep (.mk [] [.capture "X" [], .capture "Y" []] []) ∧
    m'.resume.step = .ok m'' ∧ m''.path.length = 2 ∧ m''.upcoming = some .close ∧
      m''.InStep (.mk [] [.capture "X" [], .capture "Y" []] []) := by
  have h : Reaches _ _ :=
    ((((((Relation.ReflTransGen.refl
      (a := ofCode (Pattern.mk [] [.capture "X" [], .capture "Y" []] []).code
        (.stored (.seq [.seq [.null]])))).tail (.step rfl)).tail (.step rfl)).tail
      (.step rfl)).tail (.step rfl)).tail (.step rfl)).tail (.step rfl)
  have hafter := h.tail (.request rfl rfl)
  obtain ⟨-, hyield, -⟩ := inStep_of_reaches _ _ _ h (List.cons_ne_nil _ _)
  obtain ⟨-, hlen, hchose⟩ := hyield _ _ rfl
  obtain ⟨hin, -, hback⟩ := inStep_of_reaches _ _ _ hafter (List.cons_ne_nil _ _)
  obtain ⟨m'', hm'', ⟨h1, -⟩ | ⟨-, hpath, hup, -, hin''⟩⟩ := hback _ _ rfl rfl rfl
  · cases h1
  · exact ⟨_, _, m'', _, h, rfl, hlen, hchose, hin, hm'', congrArg _ hpath, hup, hin''⟩

end Machine

end TreePattern
