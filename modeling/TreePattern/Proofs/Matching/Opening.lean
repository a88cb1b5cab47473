import TreePattern.Proofs.Matching.Segment
import TreePattern.Proofs.Matching.Run

namespace TreePattern

/-- A machine of the pattern yields what the pattern means, whatever a request may cost it. -/
def Pattern.Runs (p : Pattern) : Prop :=
  ∀ (budget : Nat) (n : Node), Machine.Yields (.start budget (Instr.actions p.code) n)
    (Instr.codeBreadth n.weight p.code) (p.walk n)

theorem Pattern.Runs.toList {p : Pattern} (h : p.Runs) (n : Node) :
    (Results.ofCode p.code n).toList = .ok (p.walk n) := by
  have hy : Machine.Yields (Machine.ofCode p.code n).resume _ _ := h _ n
  exact hy.toList_results le_rfl hy.length_lt

def Level.take : (name : Option String) → Bindings → Candidate → Bindings
  | some name, b, c => capture name (absorb b c) c
  | none, b, c => absorb b c

/-- A level that is left to choose among some candidates. -/
structure Level.Ready (l : Level) (cs : Candidates) (take : Bindings → Candidate → Bindings) :
    Prop where
  holds : l.Holds cs
  named : l.blank = false
  takes : ∀ c, .ok c ∈ cs → ∀ rest b, (l.choose c rest).bind b = take b c

section

variable {l : Level} {cs : Candidates} {take : Bindings → Candidate → Bindings}

theorem absorb_of_none {c : Candidate} (h : c.bindings = none) (b : Bindings) :
    absorb b c = b := by
  rw [absorb, h]
  rfl

theorem Level.bind_choose {c : Candidate} (h : l.subtree = true ∨ c.bindings = none)
    (rest : Unit → Choices) (b : Bindings) : (l.choose c rest).bind b = Level.take l.name b c := by
  have hb : (if l.subtree then absorb b c else b) = absorb b c := by
    rcases h with h | h
    · rw [h, if_pos rfl]
    · rw [absorb_of_none h, ite_self]
  cases hn : l.name <;> rw [Level.take, ← hb] <;> simp [bind, choose, hn, absorb, capture]

theorem Level.Ready.refine (h : l.Ready cs take) (t : TypeTest) :
    (l.refine false (Choices.filterValues t.name t.predicate t.skippable)).Ready
      (Candidates.filterValues t.name t.predicate t.skippable cs) take where
  holds := by
    have hl : (l.pending false).toList = .ok cs := h.holds
    change (Choices.filterValues _ _ _ (l.pending false)).toList = _
    rw [Choices.toList_filterValues, hl]
    rfl
  named := rfl
  takes c hc := h.takes c (Candidates.mem_filterMap_kept hc)

end

namespace Machine

variable {l : Level} {inKey : Bool}

section

variable {budget : Nat} {passed ahead : List Action} {path : List Level}

theorem step_arrow (hl : l.blank = false) :
    step ⟨budget, ⟨passed, .arrow :: ahead⟩, l :: path, false, false⟩ =
      .ok ⟨budget, ⟨.arrow :: passed, ahead⟩, .child l.value :: l :: path, false, false⟩ := by
  rw [step_of_advance (by simp) rfl]
  simp [execute, outsideKey, chosen?, top?, hl, bind, Except.bind, pure, Except.pure]

theorem step_ident (name : String) :
    step ⟨budget, ⟨passed, .ident name :: ahead⟩, l :: path, false, false⟩ =
      .ok ⟨budget, ⟨.ident name :: passed, ahead⟩,
        { l with name := some name, blank := false } :: path, true, false⟩ := by
  rw [step_of_advance (by simp) rfl]
  rfl

theorem step_test (t : TypeTest) :
    step ⟨budget, ⟨passed, t.instr.action :: ahead⟩, l :: path, true, false⟩ =
      .ok ⟨budget, ⟨t.instr.action :: passed, ahead⟩,
        l.refine false (Choices.filterValues t.name t.predicate t.skippable) :: path,
        true, false⟩ := by
  rw [step_of_advance (by simp) rfl]
  rfl

theorem step_select {a : Action} {m : Machine}
    (h : select ⟨budget, ⟨a :: passed, ahead⟩, l :: path, inKey, false⟩ a = .ok m) :
    step ⟨budget, ⟨passed, a :: ahead⟩, l :: path, inKey, false⟩ = .ok m := by
  rw [step_of_advance (by simp) rfl]
  have he : execute ⟨budget, ⟨a :: passed, ahead⟩, l :: path, inKey, false⟩ a = .ok m := by
    cases a with
    | lookup | regexKey | keySubtree => cases inKey <;> exact h
    | arrow | ident | test | valueSubtree | close => cases h
  simp only [he]

end

variable (budget : Nat) (passed ahead : List Action) (path : List Level)

theorem tests_run {cs : Candidates} {take : Bindings → Candidate → Bindings}
    (tests : List TypeTest) (h : l.Ready cs take) :
    ∃ l', l'.Ready (filterTests tests cs) take ∧
      Steps (testCode tests).length
        ⟨budget, ⟨passed, Instr.actions (testCode tests) ++ ahead⟩, l :: path, true, false⟩
        ⟨budget, ⟨(Instr.actions (testCode tests)).reverse ++ passed, ahead⟩, l' :: path,
          true, false⟩ := by
  induction tests generalizing l cs passed with
  | nil => exact ⟨l, h, .zero _⟩
  | cons t tests ih =>
    obtain ⟨l', hl', hr⟩ := ih (t.instr.action :: passed) (h.refine t)
    refine ⟨l', hl', .cons (step_test t) ?_⟩
    simpa [testCode, Instr.actions] using hr

theorem lookup_run (key : Value) (skippable : Bool) (hl : l.candidates = none) :
    ∃ l', l'.Ready (Candidates.lookup l.parent key skippable) (Level.take l.name) ∧
      step ⟨budget, ⟨passed, .lookup key skippable :: ahead⟩, l :: path, inKey, false⟩ =
        .ok ⟨budget, ⟨.lookup key skippable :: passed, ahead⟩, l' :: path, true, false⟩ := by
  refine ⟨{ l with
    candidates := some fun _ ↦ .ofList (Candidates.lookup l.parent key skippable)
    blank := false }, ⟨Supply.toList_ofList _, rfl, fun c hc rest b ↦ ?_⟩, step_select ?_⟩
  · exact Level.bind_choose (.inr (Candidates.mem_lookup hc).1) rest b
  · simp [select, update, top?, lift, Level.install?, hl, bind, Except.bind, Except.mapError,
      pure, Except.pure]

theorem selector_run (s : Selector) (hs : ∀ q ∈ s.inner, q.Runs) (hl : l.candidates = none) :
    ∃ l', l'.Ready (s.choices l.parent) (Level.take l.name) ∧
      step ⟨budget, ⟨passed, s.instr.action :: ahead⟩, l :: path, inKey, false⟩ =
        .ok ⟨budget, ⟨s.instr.action :: passed, ahead⟩, l' :: path, true, false⟩ := by
  have hp (skippable : Bool) :
      l.pending skippable = .ofList (Candidates.all l.parent skippable) := by
    rw [Level.pending, hl]
  cases s with
  | literal key skippable => exact lookup_run budget passed ahead path (.str key) skippable hl
  | param name key skippable => exact lookup_run budget passed ahead path key skippable hl
  | regex regex skippable =>
    refine ⟨l.refine skippable (Choices.filterKeys regex skippable),
      ⟨?_, rfl, fun c hc rest b ↦ ?_⟩, step_select rfl⟩
    · change (Choices.filterKeys _ _ (l.pending skippable)).toList = _
      rw [Choices.toList_filterKeys, hp, Supply.toList_ofList]
      rfl
    · exact Level.bind_choose (.inr (Candidates.mem_all (Candidates.mem_filterMap_kept hc)).1)
        rest b
  | subtree q skippable =>
    have hq : q.Runs := hs q (List.mem_singleton_self q)
    let run (n : Node) := Machine.run (Instr.codeBreadth n.weight q.code) (Instr.actions q.code) n
    refine ⟨{ l.refine skippable (Choices.matchKeys run skippable) with subtree := true },
      ⟨?_, rfl, fun c _ rest b ↦ Level.bind_choose (.inl rfl) rest b⟩, step_select rfl⟩
    change (Choices.matchKeys run skippable (l.pending skippable)).toList = _
    rw [hp, Selector.choices_subtree]
    refine Supply.toList_flatMap (Supply.toList_ofList _) fun i _ ↦ ?_
    cases i with
    | error e => rfl
    | ok c => exact Choices.toList_ofKey c skippable (hq.toList c.key)

end Machine

/-- Instructions that put a level on a path: it holds candidates of the value below it. -/
def Opens (code : List Instr) (cs : Node → Candidates)
    (take : Bindings → Candidate → Bindings) : Prop :=
  ∀ (budget : Nat) (passed ahead : List Action) (l : Level) (path : List Level),
    l.blank = false → ∃ l', l'.Ready (cs l.value) take ∧
      Machine.Steps code.length
        ⟨budget, ⟨passed, Instr.actions code ++ ahead⟩, l :: path, false, false⟩
        ⟨budget, ⟨(Instr.actions code).reverse ++ passed, ahead⟩, l' :: l :: path, true, false⟩

theorem Tag.opens (t : Tag) (ht : ∀ q ∈ t.inner, q.Runs) : Opens t.body t.choices t.take := by
  intro budget passed ahead l path hl
  cases t with
  | capture name tests =>
    have hc : Level.Ready { Level.child l.value with name := some name, blank := false }
        (Candidates.all l.value false) (TreePattern.capture name) := by
      refine ⟨Supply.toList_ofList _, rfl, fun c hc rest b ↦ ?_⟩
      have hn := (Candidates.mem_all hc).1
      rw [Level.bind_choose (.inr hn), Level.take, absorb_of_none hn]
    obtain ⟨l', hl', hr⟩ := Machine.tests_run budget (.ident name :: .arrow :: passed) ahead
      (l :: path) tests hc
    refine ⟨l', hl', .cons (Machine.step_arrow hl) (.cons (Machine.step_ident name) ?_)⟩
    simpa [Tag.body, Instr.actions, Instr.action] using hr
  | select s tests =>
    have hc : (Level.child l.value).candidates = none := rfl
    obtain ⟨l₀, hl₀, hs⟩ := Machine.selector_run budget (.arrow :: passed)
      (Instr.actions (testCode tests) ++ ahead) (l :: path) s ht hc
    obtain ⟨l', hl', hr⟩ := Machine.tests_run budget (s.instr.action :: .arrow :: passed) ahead
      (l :: path) tests hl₀
    refine ⟨l', hl', .cons (Machine.step_arrow hl) (.cons hs ?_)⟩
    simpa [Tag.body, Instr.actions, Instr.action] using hr
  | captureSelect name s tests =>
    have hc : { Level.child l.value with name := some name, blank := false }.candidates = none :=
      rfl
    obtain ⟨l₀, hl₀, hs⟩ := Machine.selector_run budget (.ident name :: .arrow :: passed)
      (Instr.actions (testCode tests) ++ ahead) (l :: path) s ht hc
    obtain ⟨l', hl', hr⟩ := Machine.tests_run budget
      (s.instr.action :: .ident name :: .arrow :: passed) ahead (l :: path) tests hl₀
    refine ⟨l', hl', .cons (Machine.step_arrow hl) (.cons (Machine.step_ident name)
      (.cons hs ?_))⟩
    simpa [Tag.body, Instr.actions, Instr.action] using hr

theorem Segment.opens (s : Segment) (hs : ∀ q ∈ s.inner, q.Runs) :
    Opens s.body s.choices s.take := by
  cases s with
  | tag t => exact t.opens hs
  | group g =>
    rcases g with ⟨q, skippable⟩
    have hq : q.Runs := hs q (List.mem_singleton_self q)
    intro budget passed ahead l path hl
    let cs := Choices.ofGroup l.value (Results.ofCode q.code l.value) skippable
    refine ⟨{ Level.child l.value with
        candidates := some fun _ ↦ cs, blank := false, subtree := true },
      ⟨Choices.toList_ofGroup l.value skippable (hq.toList l.value), rfl,
        fun c _ rest b ↦ Level.bind_choose (.inl rfl) rest b⟩, .one ?_⟩
    rw [Machine.step_of_advance (by simp) rfl]
    simp [Machine.execute, Machine.outsideKey, Machine.chosen?, Machine.top?, Machine.lift, hl,
      Level.install?, Level.child, bind, Except.bind, pure, Except.pure, Except.mapError, cs,
      Results.ofCode, Segment.body, Instr.actions, Instr.action]

end TreePattern
