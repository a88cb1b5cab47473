import TreePattern.Proofs.Matching.Meaning

namespace TreePattern

namespace Machine

def upcoming (m : Machine) : Option Action := m.cursor.ahead.head?

def Guarded (m : Machine) (l : Level) : Prop :=
  match m.upcoming with
  | some .close => m.inKey = true
  | some .arrow | some (.valueSubtree _ _) => m.inKey = false ∧ l.blank = false
  | some (.ident _) => m.inKey = false
  | some (.lookup _ _) => l.candidates = none
  | some (.test _ _ _) => m.inKey = false → m.path = [l]
  | some (.regexKey _ _) | some (.keySubtree _ _) => True
  | none => l.blank = false

variable {m : Machine} {l : Level} {path : List Level}

theorem execute_ne_fault (h : ∀ f, m.step ≠ .error (.fault f)) (hp : m.path = l :: path)
    {a : Action} (ha : m.upcoming = some a) :
    ∃ c, ∀ f, execute { m with cursor := c } a ≠ .error (.fault f) := by
  obtain ⟨ahead, hah⟩ : ∃ ahead, m.cursor.ahead = a :: ahead := List.head?_eq_some_iff.mp ha
  have hc : m.cursor.advance? = some (a, ⟨a :: m.cursor.passed, ahead⟩) := by
    rw [Cursor.advance?, hah]
  refine ⟨⟨a :: m.cursor.passed, ahead⟩, fun f hf ↦ h f ?_⟩
  rw [step_of_advance (by simp [hp]) hc, hf]

theorem outside_of_step (h : ∀ f, m.step ≠ .error (.fault f)) (hp : m.path = l :: path)
    {a : Action} (ha : m.upcoming = some a)
    (hbad : ∀ m' : Machine, m'.insideKey a = .error (.fault .misplaced)) : m.inKey = false := by
  obtain ⟨c, hc⟩ := execute_ne_fault h hp ha
  by_contra hk
  exact hc .misplaced (by simp [execute, hk, hbad])

theorem not_blank_of_step (h : ∀ f, m.step ≠ .error (.fault f)) (hp : m.path = l :: path)
    {a : Action} (ha : m.upcoming = some a) (hk : m.inKey = false)
    (hbad : ∀ m' : Machine, m'.chosen? = .error (.fault .blankLevel) →
      m'.outsideKey a = .error (.fault .blankLevel)) : l.blank = false := by
  obtain ⟨c, hc⟩ := execute_ne_fault h hp ha
  by_contra hl
  rw [Bool.not_eq_false] at hl
  have hb : ({ m with cursor := c } : Machine).chosen? = .error (.fault .blankLevel) := by
    simp [chosen?, top?, hp, hl, bind, Except.bind]
  exact hc .blankLevel (by rw [execute, if_neg (by simp [hk]), hbad _ hb])

theorem guarded_of_step (h : ∀ f, m.step ≠ .error (.fault f)) (hp : m.path = l :: path) :
    m.Guarded l := by
  unfold Guarded
  split
  · next ha =>
    obtain ⟨c, hc⟩ := execute_ne_fault h hp ha
    by_contra hk
    exact hc .misplaced (by simp [execute, hk, outsideKey])
  · next ha =>
    have hk := outside_of_step h hp ha fun _ ↦ rfl
    exact ⟨hk, not_blank_of_step h hp ha hk fun m' hb ↦ by rw [outsideKey, hb]; rfl⟩
  · next run skippable ha =>
    have hk := outside_of_step h hp ha fun _ ↦ rfl
    exact ⟨hk, not_blank_of_step h hp ha hk fun m' hb ↦ by rw [outsideKey, hb]; rfl⟩
  · next name ha => exact outside_of_step h hp ha fun _ ↦ rfl
  · next key skippable ha =>
    obtain ⟨c, hc⟩ := execute_ne_fault h hp ha
    by_contra hk
    obtain ⟨g, hg⟩ := Option.ne_none_iff_exists'.mp hk
    refine hc .secondLookup ?_
    simp [execute, insideKey, outsideKey, select, update, top?, hp, lift, Level.install?, hg,
      bind, Except.bind, Except.mapError]
  · next name p skippable ha =>
    obtain ⟨c, hc⟩ := execute_ne_fault h hp ha
    intro hk
    cases path with
    | nil => exact hp
    | cons l' path =>
      exact absurd (by simp [execute, hk, outsideKey, testRoot, hp]) (hc .notAtRoot)
  · trivial
  · trivial
  · next ha =>
    have hc : m.cursor.advance? = none := by
      rw [Cursor.advance?, List.head?_eq_none_iff.mp ha]
    have hs := h .blankLevel
    rw [step_at_end hp hc] at hs
    by_contra hl
    exact hs (if_pos (by simpa using hl))

end Machine

theorem Compiled.answer_eq (c : Compiled) (root : Value) {budget : Nat}
    (h : (c.machine root).budget ≤ budget) (k : Nat) :
    ({ c.machine root with budget := budget } : Machine).answer k =
      .ok (c.pattern.walk (.stored root))[k]? := by
  have hy : Machine.Yields ({ c.machine root with budget := budget } : Machine).resume _ _ :=
    c.pattern.runs budget (.stored root)
  exact hy.answer h k

/-- No machine that requests bring about faults at its next step, and the step finds its phase and
its top level as it needs them. The code of a subtree is the code of a pattern too. -/
theorem Machine.no_fault_of_reaches (p : Pattern) (n : Node) (m : Machine)
    (h : Reaches (.ofCode p.code n) m) :
    (∀ f, m.step ≠ .error (.fault f)) ∧ (∀ l ∈ m.path.head?, m.Guarded l) ∧
      ∀ k f, (ofCode p.code n).answer k ≠ .error f := by
  have hy : Yields (ofCode p.code n).resume _ _ := p.runs _ n
  obtain ⟨items, hm⟩ := hy.of_reaches h
  refine ⟨hm.step_ne_fault, fun l hl ↦ ?_, fun k f hf ↦ ?_⟩
  · obtain ⟨path, hp⟩ := List.head?_eq_some_iff.mp hl
    exact guarded_of_step hm.step_ne_fault hp
  · rw [hy.answer le_rfl k] at hf
    cases hf

theorem Machine.no_fault_after_match : ∃ m : Machine,
    Reaches (.ofCode (Pattern.mk [] [.capture "X" []] []).code (.stored (.seq [.null]))) m ∧
      (∀ f, m.step ≠ .error (.fault f)) ∧ (∀ l ∈ m.path.head?, m.Guarded l) ∧
      ∀ k f, (ofCode (Pattern.mk [] [.capture "X" []] []).code (.stored (.seq [.null]))).answer k ≠
        .error f := by
  have h : Reaches _ _ :=
    ((((Relation.ReflTransGen.refl (a := ofCode (Pattern.mk [] [.capture "X" []] []).code
      (.stored (.seq [.null])))).tail (.step rfl)).tail (.step rfl)).tail (.step rfl)).tail
      (.request rfl rfl)
  exact ⟨_, h, no_fault_of_reaches _ _ _ h⟩

/-- Every match ends for good: after finitely many results there are none for ever, an error is the
last result, and no request needs more steps than it is given. -/
theorem Compiled.answers_end (c : Compiled) (root : Value) :
    ∃ count, (∀ k < count, ∃ i, (c.machine root).answer k = .ok (some i)) ∧
      (∀ k, count ≤ k → (c.machine root).answer k = .ok none) ∧
      (∀ k e, (c.machine root).answer k = .ok (some (.error e)) → k + 1 = count) ∧
      ∀ budget k, (c.machine root).budget ≤ budget →
        ({ c.machine root with budget := budget } : Machine).answer k =
          (c.machine root).answer k := by
  have ha := c.answer_eq root le_rfl
  refine ⟨(c.pattern.walk (.stored root)).length, fun k hk ↦ ?_, fun k hk ↦ ?_, fun k e hk ↦ ?_,
    fun budget k hb ↦ (c.answer_eq root hb k).trans (ha k).symm⟩
  · exact ⟨_, (ha k).trans (congrArg _ (List.getElem?_eq_getElem hk))⟩
  · exact (ha k).trans (congrArg _ (List.getElem?_eq_none hk))
  · exact (c.pattern.stops_walk _).eq_last (Except.ok.inj ((ha k).symm.trans hk))

end TreePattern
