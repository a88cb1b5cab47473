import TreePattern.Proofs.Matching.Backtracking

namespace TreePattern

section

variable {n : Node} {w : Nat} {c : Candidate}

theorem Selector.weight_choices {s : Selector} (h : .ok c ∈ s.choices n) :
    c.value.weight ≤ n.weight := by
  cases s with
  | literal | param =>
    rw [Selector.choices] at h
    exact (Candidates.mem_lookup h).2.2
  | regex =>
    rw [Selector.choices] at h
    exact (Candidates.mem_all (Candidates.mem_filterMap_kept h)).2.2
  | subtree q skippable =>
    rw [Selector.choices_subtree] at h
    obtain ⟨i, hi, hc⟩ := List.mem_flatMap.mp h
    cases i with
    | error e => simp [Candidates.throughKey] at hc
    | ok d =>
      rw [(Candidates.mem_ofKey hc).2]
      exact (Candidates.mem_all hi).2.2

theorem Segment.weight_choices {s : Segment} (h : .ok c ∈ s.choices n) :
    c.value.weight ≤ n.weight := by
  rcases s with t | ⟨q, skippable⟩
  · cases t with
    | capture => exact (Candidates.mem_all (Candidates.mem_filterTests h)).2.2
    | select | captureSelect => exact Selector.weight_choices (Candidates.mem_filterTests h)
  · exact le_of_eq (congrArg Node.weight (Candidates.mem_ofGroup h))

theorem length_walk_lt {q : Pattern} (hq : q.Runs) (hn : n.weight ≤ w) :
    (q.walk n).length < Instr.codeBreadth w q.code :=
  (hq 0 n).length_lt.trans_le (Instr.codeBreadth_mono hn q.code)

theorem Selector.length_choices_le (s : Selector) (hs : ∀ q ∈ s.inner, q.Runs)
    (hn : n.weight ≤ w) : (s.choices n).length + 2 ≤ Instr.breadth w s.instr := by
  cases s with
  | literal key skippable =>
    have h := Candidates.length_lookup_le n (.str key) skippable
    rw [Selector.choices, Selector.instr, Instr.breadth]
    omega
  | param name key skippable =>
    have h := Candidates.length_lookup_le n key skippable
    rw [Selector.choices, Selector.instr, Instr.breadth]
    omega
  | regex regex skippable =>
    have h := (List.length_filterMap_le (Candidates.keptKey? regex skippable) _).trans
      (Candidates.length_all_le n skippable)
    rw [Selector.choices, Selector.instr, Instr.breadth, Candidates.filterKeys]
    omega
  | subtree q skippable =>
    have hq : q.Runs := hs q (List.mem_singleton_self q)
    have hR := Instr.le_codeBreadth w q.code
    have hall := Candidates.length_all_le n skippable
    have heach : ∀ i ∈ Candidates.all n skippable,
        (Candidates.throughKey q.walk skippable i).length ≤ Instr.codeBreadth w q.code := by
      intro i hi
      cases i with
      | error e => exact Nat.le_of_succ_le hR
      | ok c =>
        have hc := length_walk_lt hq ((Candidates.mem_all hi).2.1.trans hn)
        exact (Candidates.length_ofKey_le c _ skippable).trans hc.le
    have hsum := Candidates.length_flatMap_le heach
    have hmul := Nat.mul_le_mul_right (Instr.codeBreadth w q.code) (hall.trans hn)
    rw [Selector.choices_subtree, Selector.instr, Instr.breadth, Nat.add_mul]
    omega

theorem Segment.length_choices_le (s : Segment) (hs : ∀ q ∈ s.inner, q.Runs) (w : Nat) :
    ∃ i ∈ s.code, ∀ n : Node, n.weight ≤ w → (s.choices n).length + 2 ≤ Instr.breadth w i := by
  rcases s with t | ⟨q, skippable⟩
  · cases t with
    | capture name tests =>
      refine ⟨.arrow, by simp [code, body, Tag.body], fun n hn ↦ ?_⟩
      have h := (Candidates.length_filterTests_le tests _).trans (Candidates.length_all_le n false)
      rw [Instr.breadth]
      exact Nat.add_le_add_right (h.trans hn) 2
    | select s tests | captureSelect name s tests =>
      refine ⟨s.instr, by simp [code, body, Tag.body], fun n hn ↦ ?_⟩
      have h := Candidates.length_filterTests_le tests (s.choices n)
      exact (Nat.add_le_add_right h 2).trans (s.length_choices_le hs hn)
  · refine ⟨.valueSubtree q.code skippable, by simp [code, body], fun n hn ↦ ?_⟩
    have hq := length_walk_lt (hs q (List.mem_singleton_self q)) hn
    have h := Candidates.length_ofGroup_le n (q.walk n) skippable
    have hm := Nat.mul_le_mul_right (Instr.codeBreadth w q.code + 1) (show 2 ≤ w + 2 by omega)
    rw [Instr.breadth, choices]
    omega

end

namespace Machine

variable {budget : Nat}

/-- The segments of a pattern are followed depth first, at a cost below the breadth of their
code. -/
theorem continues_segments (w : Nat) (ss : List Segment)
    (hs : ∀ s ∈ ss, ∀ q ∈ s.inner, q.Runs) :
    ∃ cost, cost + 1 ≤ Instr.codeBreadth w (ss.flatMap Segment.code) ∧
      ∀ budget, Continues budget w (Instr.actions (ss.flatMap Segment.code)) cost
        (Segment.walk ss) := by
  -- the segments behind run once for each candidate of the one in front, so the cost multiplies
  induction ss with
  | nil => exact ⟨1, le_rfl, fun budget ↦ continues_nil budget w⟩
  | cons s ss ih =>
    obtain ⟨cost, hcost, hrun⟩ := ih fun s' hs' ↦ hs s' (List.mem_cons_of_mem s hs')
    have hin := hs s List.mem_cons_self
    obtain ⟨i, hi, hlen⟩ := s.length_choices_le hin w
    obtain ⟨most, hmost⟩ := Nat.exists_eq_add_of_le'
      ((Nat.le_add_left 2 w).trans (Instr.le_breadth w i))
    refine ⟨s.body.length + (most + 1 + most * cost), ?_, fun budget ↦ ?_⟩
    · have hroom := Instr.length_add_breadth_mul_le w hi (ss.flatMap Segment.code)
      have htwo := Instr.le_codeBreadth w (ss.flatMap Segment.code)
      have hmul := Nat.mul_le_mul_left most hcost
      have hcode : s.code.length = s.body.length + 1 := by simp [Segment.code]
      rw [hmost, Nat.add_mul] at hroom
      rw [Nat.mul_succ] at hmul
      rw [List.flatMap_cons]
      omega
    · have hcs (v : Node) (hv : v.weight ≤ w) : (s.choices v).length ≤ most ∧
          ∀ c, .ok c ∈ s.choices v → c.value.weight ≤ w := by
        have h := hlen v hv
        exact ⟨by omega, fun c hc ↦ (Segment.weight_choices hc).trans hv⟩
      have hc := (hrun budget).cons (s.opens hin) (fun _ ↦ Segment.isClose_body) s.body_ne_nil hcs
      have hcode : Instr.actions ((s :: ss).flatMap Segment.code) =
          Instr.actions s.body ++ .close :: Instr.actions (ss.flatMap Segment.code) := by
        simp [Segment.code, Instr.actions_append, Instr.actions, Instr.action]
      rw [hcode]
      exact hc

theorem step_root_test {passed ahead : List Action} {l : Level} (t : TypeTest) :
    step (atBoundary budget passed (t.instr.action :: ahead) [l]) =
      if t.predicate.accepts l.value.toValue then
        .ok (atBoundary budget (t.instr.action :: passed) ahead [l])
      else if t.skippable then .ok (atBoundary budget (t.instr.action :: passed) ahead [])
      else .error (.failed (rejection t.name l.value)
        (clear (atBoundary budget passed (t.instr.action :: ahead) [l]))) := by
  rw [step_of_advance (by simp) rfl]
  cases ha : t.predicate.accepts l.value.toValue <;> cases hs : t.skippable <;>
    simp [execute, outsideKey, testRoot, TypeTest.instr, Instr.action, ha, hs, clear]

theorem tests_root {passed ahead : List Action} {l : Level} {k : Nat} {items : Items}
    (tests : List TypeTest)
    (h : Yields (atBoundary budget ((Instr.actions (testCode tests)).reverse ++ passed) ahead [l])
      k items) :
    Yields (atBoundary budget passed (Instr.actions (testCode tests) ++ ahead) [l])
      (k + tests.length) (walkTests l.value items tests) := by
  induction tests generalizing passed with
  | nil => exact h
  | cons t tests ih =>
    have hk := h.length_lt
    have hs : step (atBoundary budget passed
        (t.instr.action :: (Instr.actions (testCode tests) ++ ahead)) [l]) = _ := step_root_test t
    rw [walkTests]
    split
    · next ha =>
      rw [if_pos ha] at hs
      exact .step hs (ih (by simpa [testCode, Instr.actions] using h))
    · next ha =>
      rw [if_neg ha] at hs
      cases hskip : t.skippable with
      | true =>
        rw [hskip, if_pos rfl] at hs
        exact Yields.step (n := k + tests.length) hs (yields_nil_of_pos rfl (by omega))
      | false =>
        rw [hskip, if_neg Bool.false_ne_true] at hs
        exact Yields.mono (n := 2) (.failed hs) (by simp only [List.length_cons]; omega)

end Machine

/-- The machine of a pattern yields what the pattern means, on every node and within its budget. -/
theorem Pattern.runs (p : Pattern) : p.Runs := by
  induction p using Pattern.of_inner with
  | h p ih =>
    intro budget n
    obtain ⟨cost, hcost, hrun⟩ := Machine.continues_segments n.weight p.segments
      fun s hs q hq ↦ ih q (Pattern.mem_inner hs hq)
    let passed := (Instr.actions (testCode p.tests)).reverse
    have hfresh : ∀ a ∈ passed, a.isClose = false := by
      intro a ha
      obtain ⟨i, hi, rfl⟩ := Instr.mem_actions (List.mem_reverse.mp ha)
      rw [Instr.isClose_action, isClose_testCode hi]
    have hend : Machine.Yields (Machine.reopen budget passed
        (Instr.actions (p.segments.flatMap Segment.code)) [.root n]) 1 [] :=
      .ended (Machine.reopen_fresh hfresh)
    have hsegs := hrun budget passed (.root n) [] 1 [] (.fresh hfresh) rfl le_rfl hend
    rw [(Segment.stops_walk _ _ _).andThen_nil] at hsegs
    have hall := Machine.tests_root p.tests ((List.append_nil passed).symm ▸ hsegs)
    have hlen := Instr.length_add_codeBreadth_le n.weight (testCode p.tests)
      (p.segments.flatMap Segment.code)
    have hcount : (testCode p.tests).length = p.tests.length := List.length_map _
    rw [← Instr.actions_append, ← p.code_eq] at hall
    rw [← p.code_eq] at hlen
    rw [p.walk_eq]
    exact hall.mono (by omega)

end TreePattern
