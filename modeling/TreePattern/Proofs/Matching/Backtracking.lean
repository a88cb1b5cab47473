import TreePattern.Proofs.Matching.Opening

namespace TreePattern

/-- What has been passed at the boundary of a segment: it ends in a `close`, or holds none. -/
inductive Settled : List Action → Prop
  | fresh {passed : List Action} : (∀ a ∈ passed, a.isClose = false) → Settled passed
  | closed (a : Action) (passed : List Action) : Settled (.close :: a :: passed)

theorem Instr.isClose_action (i : Instr) : i.action.isClose = i.isClose := by
  cases i <;> rfl

theorem Instr.mem_actions {a : Action} {code : List Instr} (h : a ∈ actions code) :
    ∃ i ∈ code, a = i.action := by
  induction code with
  | nil => simp [actions] at h
  | cons i code ih =>
    rcases List.mem_cons.mp h with rfl | h
    · exact ⟨i, List.mem_cons_self, rfl⟩
    · obtain ⟨j, hj, rfl⟩ := ih h
      exact ⟨j, List.mem_cons_of_mem i hj, rfl⟩

theorem isClose_testCode {tests : List TypeTest} {i : Instr} (h : i ∈ testCode tests) :
    i.isClose = false := by
  obtain ⟨t, _, rfl⟩ := List.mem_map.mp h
  rfl

theorem Selector.isClose_instr (s : Selector) : s.instr.isClose = false := by
  cases s <;> rfl

theorem Segment.isClose_body {s : Segment} {i : Instr} (h : i ∈ s.body) : i.isClose = false := by
  cases s with
  | group g =>
    cases g
    obtain rfl := List.mem_singleton.mp h
    rfl
  | tag t =>
    cases t with
    | capture name tests =>
      simp only [body, Tag.body, List.mem_cons] at h
      rcases h with rfl | rfl | h
      · rfl
      · rfl
      · exact isClose_testCode h
    | select s tests =>
      simp only [body, Tag.body, List.mem_cons] at h
      rcases h with rfl | rfl | h
      · rfl
      · exact s.isClose_instr
      · exact isClose_testCode h
    | captureSelect name s tests =>
      simp only [body, Tag.body, List.mem_cons] at h
      rcases h with rfl | rfl | rfl | h
      · rfl
      · rfl
      · exact s.isClose_instr
      · exact isClose_testCode h

theorem Segment.body_ne_nil (s : Segment) : s.body ≠ [] := by
  rcases s with t | ⟨q, skippable⟩
  · cases t <;> exact List.cons_ne_nil _ _
  · exact List.cons_ne_nil _ _

namespace Cursor

theorem rewind_append {body rest : List Action} (hb : ∀ a ∈ body, a.isClose = false)
    {f : List Action → Option Cursor} (hr : ∀ a ahead, rewind? (a :: rest) ahead = f (a :: ahead))
    (a : Action) (ahead : List Action) :
    rewind? (a :: (body ++ rest)) ahead = f (body.reverse ++ a :: ahead) := by
  induction body generalizing a ahead with
  | nil => exact hr a ahead
  | cons c body ih =>
    obtain ⟨hc, hb⟩ := List.forall_mem_cons.mp hb
    simp [rewind?, hc, ih hb]

theorem rewind_closed {body : List Action} (hb : ∀ a ∈ body, a.isClose = false) (a b : Action)
    (passed ahead : List Action) :
    rewind? (a :: (body ++ .close :: b :: passed)) ahead =
      some ⟨b :: passed, .close :: (body.reverse ++ a :: ahead)⟩ :=
  rewind_append hb (f := fun ahead ↦ some ⟨b :: passed, .close :: ahead⟩) (fun _ _ ↦ rfl) a ahead

theorem rewind_fresh {body : List Action} (hb : ∀ a ∈ body, a.isClose = false) (a : Action)
    (ahead : List Action) : rewind? (a :: body) ahead = none := by
  have hr (a : Action) (ahead : List Action) : rewind? [a] ahead = none := rfl
  have h := rewind_append hb (f := fun _ ↦ none) hr a ahead
  rwa [List.append_nil] at h

end Cursor

namespace Machine

abbrev atBoundary (budget : Nat) (passed ahead : List Action) (path : List Level) : Machine :=
  ⟨budget, ⟨passed, ahead⟩, path, false, false⟩

def reopen (budget : Nat) : (passed ahead : List Action) → List Level → Machine
  | .close :: a :: passed, ahead, path =>
    ⟨budget, ⟨a :: passed, .close :: ahead⟩, path, true, false⟩
  | passed, ahead, _ => ⟨budget, ⟨passed, ahead⟩, [], false, false⟩

variable {budget n cost : Nat} {passed ahead : List Action} {path : List Level} {later : Items}

theorem Yields.of_path_nil {m m' : Machine} (h : Yields m n later) (hm : m.path = [])
    (hm' : m'.path = []) : Yields m' n later := by
  obtain rfl := h.eq_nil hm
  have hn := h.length_lt
  cases n with
  | zero => omega
  | succ n => exact .ended hm'

theorem reopen_fresh (h : ∀ a ∈ passed, a.isClose = false) :
    (reopen budget passed ahead path).path = [] := by
  unfold reopen
  split
  · exact absurd (h .close List.mem_cons_self) (by decide)
  · rfl

theorem yields_backtrack {body : List Action} (hb : ∀ a ∈ body, a.isClose = false)
    (hp : Settled passed) {l : Level} {inKey : Bool}
    (h : Yields (reopen budget passed (body ++ .close :: ahead) path) n later) :
    Yields (backtrack
      ⟨budget, ⟨.close :: (body.reverse ++ passed), ahead⟩, l :: path, inKey, false⟩) n later := by
  have hr : ∀ a ∈ body.reverse, a.isClose = false := fun a ha ↦ hb a (List.mem_reverse.mp ha)
  cases hp with
  | closed a passed =>
    rw [backtrack]
    dsimp only
    rw [Cursor.rewind_closed hr, List.reverse_reverse]
    exact h
  | fresh hf =>
    have hrf : ∀ a ∈ body.reverse ++ passed, a.isClose = false := fun a ha ↦
      (List.mem_append.mp ha).elim (hr a) (hf a)
    rw [backtrack]
    dsimp only
    rw [Cursor.rewind_fresh hrf]
    exact h.of_path_nil (reopen_fresh hf) rfl

theorem yields_resume (hp : Settled passed) {inKey : Bool}
    (h : Yields (reopen budget passed ahead path) n later) :
    Yields (resume ⟨budget, ⟨passed, ahead⟩, path, inKey, true⟩) n later := by
  cases hp with
  | closed a passed => exact h
  | fresh hf =>
    have hc : Cursor.atClose ⟨passed, ahead⟩ = false := by
      cases passed with
      | nil => rfl
      | cons a passed => exact hf a List.mem_cons_self
    rw [resume, if_pos rfl, if_neg (by simp [hc])]
    exact h.of_path_nil (reopen_fresh hf) rfl

def pathBindings (path : List Level) : Bindings := path.reverse.foldl Level.bind []

theorem pathBindings_cons (l : Level) (path : List Level) :
    pathBindings (l :: path) = l.bind (pathBindings path) := by
  simp [pathBindings]

/-- From the top of any path whose value has at most some weight, the code ahead yields certain
results at some cost, and after them whatever the machine yields when it goes back. -/
def Continues (budget weight : Nat) (ahead : List Action) (cost : Nat)
    (f : Node → Bindings → Items) : Prop :=
  ∀ (passed : List Action) (l : Level) (path : List Level) (n : Nat) (later : Items),
    Settled passed → l.blank = false → l.value.weight ≤ weight →
    Yields (reopen budget passed ahead (l :: path)) n later →
    Yields (atBoundary budget passed ahead (l :: path)) (n + cost)
      ((f l.value (pathBindings (l :: path))).andThen later)

theorem continues_nil (budget weight : Nat) :
    Continues budget weight [] 1 fun _ b ↦ [.ok b] := by
  intro passed l path n later hp hl _ h
  refine .item ?_ (yields_resume hp h)
  rw [step_at_end rfl rfl, hl, if_neg Bool.false_ne_true]
  rfl

variable {weight : Nat} {f : Node → Bindings → Items}

/-- A level tries its candidates one after the other and then gives way to the one below it. -/
theorem choose_run (hf : Continues budget weight ahead cost f) {a : Action}
    {cs : Candidates} {take : Bindings → Candidate → Bindings}
    (hback : ∀ l, Yields (backtrack
      ⟨budget, ⟨.close :: a :: passed, ahead⟩, l :: path, true, false⟩) n later)
    {l : Level} (hl : l.Ready cs take) (hw : ∀ c, .ok c ∈ cs → c.value.weight ≤ weight) :
    Yields ⟨budget, ⟨a :: passed, .close :: ahead⟩, l :: path, true, false⟩
      (n + (cs.length + 1 + cs.length * cost))
      ((Items.ofEach (fun c ↦ f c.value (take (pathBindings path) c)) cs).andThen later) := by
  -- what comes later for one candidate is the run of the level that holds those after it
  induction cs generalizing l with
  | nil =>
    have hd := Supply.eq_done_of_toList hl.holds
    refine Yields.mono (n := n + 1) (.step ?_ (hback l)) (by omega)
    rw [step_of_advance (by simp) rfl]
    simp [execute, insideKey, choose, top?, hd, bind, Except.bind, pure, Except.pure]
  | cons i cs ih =>
    obtain ⟨rest, hm, hr⟩ := Supply.eq_more_of_toList hl.holds
    cases i with
    | error e =>
      refine Yields.mono (n := 2) (.failed ?_) (by simp only [List.length_cons]; omega)
      rw [step_of_advance (by simp) rfl]
      simp [execute, insideKey, choose, top?, hm, bind, Except.bind]
    | ok c =>
      have hc : (l.choose c rest).Ready cs take :=
        ⟨hr, hl.named, fun d hd ↦ hl.takes d (List.mem_cons_of_mem _ hd)⟩
      have hcs := ih hc fun d hd ↦ hw d (List.mem_cons_of_mem _ hd)
      have hgo := hf (.close :: a :: passed) (l.choose c rest) path _ _ (.closed a passed)
        hl.named (hw c List.mem_cons_self) hcs
      rw [pathBindings_cons, hl.takes c List.mem_cons_self, ← Items.andThen_assoc] at hgo
      refine Yields.mono (.step ?_ hgo) (by simp only [List.length_cons, Nat.add_mul]; omega)
      rw [step_of_advance (by simp) rfl]
      simp [execute, insideKey, choose, top?, hm, bind, Except.bind, pure, Except.pure]

/-- A segment in front: every candidate of it is followed through the code behind. -/
theorem Continues.cons (hf : Continues budget weight ahead cost f) {body : List Instr}
    {cs : Node → Candidates} {take : Bindings → Candidate → Bindings} {most : Nat}
    (ho : Opens body cs take) (hb : ∀ i ∈ body, i.isClose = false) (hne : body ≠ [])
    (hcs : ∀ v, v.weight ≤ weight → (cs v).length ≤ most ∧
      ∀ c, .ok c ∈ cs v → c.value.weight ≤ weight) :
    Continues budget weight (Instr.actions body ++ .close :: ahead)
      (body.length + (most + 1 + most * cost))
      fun v b ↦ .ofEach (fun c ↦ f c.value (take b c)) (cs v) := by
  intro passed l path n later hp hl hw h
  obtain ⟨hlen, hval⟩ := hcs l.value hw
  obtain ⟨l', hl', hs⟩ := ho budget passed (.close :: ahead) l path hl
  have hba : ∀ a ∈ Instr.actions body, a.isClose = false := by
    intro a ha
    obtain ⟨i, hi, rfl⟩ := Instr.mem_actions ha
    rw [Instr.isClose_action, hb i hi]
  obtain ⟨a, rest, har⟩ : ∃ a rest, (Instr.actions body).reverse ++ passed = a :: rest := by
    cases body with
    | nil => exact absurd rfl hne
    | cons i body =>
      rw [Instr.actions, List.reverse_cons, List.append_assoc]
      cases (Instr.actions body).reverse with
      | nil => exact ⟨_, _, rfl⟩
      | cons a rest => exact ⟨_, _, rfl⟩
  have hback (l₁ : Level) : Yields (backtrack
      ⟨budget, ⟨.close :: a :: rest, ahead⟩, l₁ :: l :: path, true, false⟩) n later := by
    rw [← har]
    exact yields_backtrack hba hp h
  have hc := choose_run hf hback hl' hval
  rw [← har] at hc
  refine (hc.prepend hs).mono ?_
  have hm := Nat.mul_le_mul_right cost hlen
  omega

end Machine

end TreePattern
