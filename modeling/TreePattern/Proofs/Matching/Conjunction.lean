import TreePattern.Proofs.Matching.Composition
import TreePattern.Proofs.Matching.Requests

namespace TreePattern

def Mismatch.anonymous : Mismatch → Mismatch
  | .rejected _ value => .rejected "" value
  | .notAContainer found => .notAContainer found
  | .missingKey key => .missingKey key
  | .keyMismatch key regex => .keyMismatch key regex

/-- The same tests in any order and number, either all skippable or none. -/
structure SameTests (skippable : Bool) (run run' : List TypeTest) : Prop where
  policy : ∀ t ∈ run, t.skippable = skippable
  mem_iff : ∀ t, t ∈ run ↔ t ∈ run'

theorem SameTests.symm {skippable : Bool} {run run' : List TypeTest}
    (h : SameTests skippable run run') : SameTests skippable run' run where
  policy t ht := h.policy t ((h.mem_iff t).mpr ht)
  mem_iff t := (h.mem_iff t).symm

def Tag.withTests : Tag → List TypeTest → Tag
  | .capture name _, tests => .capture name tests
  | .select s _, tests => .select s tests
  | .captureSelect name s _, tests => .captureSelect name s tests

def Tag.withSelector : Tag → Selector → Tag
  | .capture name tests, s | .captureSelect name _ tests, s => .captureSelect name s tests
  | .select _ tests, s => .select s tests

/-- The second pattern has, in one place, a run of tests that follow each other where the first one
has another: among the tests of the root or of a tag, or in a subtree. -/
inductive Pattern.Exchanged (run run' : List TypeTest) : Pattern → Pattern → Prop
  | root (before after : List TypeTest) (tags : List Tag) (groups : List Group) :
    Exchanged run run' (.mk (before ++ run ++ after) tags groups)
      (.mk (before ++ run' ++ after) tags groups)
  | tag (tests before after : List TypeTest) (earlier later : List Tag) (t : Tag)
      (groups : List Group) :
    Exchanged run run'
      (.mk tests (earlier ++ t.withTests (before ++ run ++ after) :: later) groups)
      (.mk tests (earlier ++ t.withTests (before ++ run' ++ after) :: later) groups)
  | key {p q : Pattern} (skippable : Bool) (tests : List TypeTest) (earlier later : List Tag)
      (t : Tag) (groups : List Group) : Exchanged run run' p q →
    Exchanged run run'
      (.mk tests (earlier ++ t.withSelector (.subtree p skippable) :: later) groups)
      (.mk tests (earlier ++ t.withSelector (.subtree q skippable) :: later) groups)
  | group {p q : Pattern} (skippable : Bool) (tests : List TypeTest) (tags : List Tag)
      (earlier later : List Group) : Exchanged run run' p q →
    Exchanged run run' (.mk tests tags (earlier ++ .mk p skippable :: later))
      (.mk tests tags (earlier ++ .mk q skippable :: later))

namespace Outcomes

variable {α β : Type} (f : Mismatch → Mismatch)

def relabel (os : Outcomes α) : Outcomes α := os.map (·.mapError f)

theorem relabel_cut (os : Outcomes α) : relabel f (cut os) = cut (relabel f os) :=
  cut_map (fun o ↦ by cases o <;> rfl) os

theorem relabel_expand (g : α → Outcomes β) (os : Outcomes α) :
    relabel f (expand g os) = expand (fun a ↦ relabel f (g a)) (relabel f os) := by
  rw [relabel, expand, List.map_flatMap, relabel, expand, List.flatMap_map]
  congr 1
  funext o
  cases o <;> rfl

theorem relabel_map (g : α → β) (os : Outcomes α) :
    relabel f (os.map (·.map g)) = (relabel f os).map (·.map g) := by
  rw [relabel, relabel, List.map_map, List.map_map]
  congr 1
  funext o
  cases o <;> rfl

theorem relabel_id (os : Outcomes α) : relabel id os = os := by
  rw [relabel]
  conv_rhs => rw [← os.map_id]
  congr 1
  funext o
  cases o <;> rfl

end Outcomes

open Outcomes

namespace Candidates

variable {f : Mismatch → Mismatch} {items items' : Items}

theorem valid_relabel (f : Mismatch → Mismatch) (items : Items) :
    valid (relabel f items) = valid items := by
  induction items with
  | nil => rfl
  | cons i items ih =>
    cases i with
    | error e => rfl
    | ok b => exact congrArg (b :: ·) ih

theorem valid_congr (h : relabel f items = relabel f items') : valid items = valid items' := by
  rw [← valid_relabel f items, h, valid_relabel]

theorem relabel_ofKey (h : relabel f items = relabel f items') (c : Candidate) (skippable : Bool) :
    relabel f (ofKey c items skippable) = relabel f (ofKey c items' skippable) := by
  cases skippable with
  | false =>
    have hi := relabel_map f (bound (c.key, c.value)) items
    rw [h, ← relabel_map] at hi
    exact hi
  | true => rw [ofKey, if_pos rfl, ofValid, valid_congr h]; rfl

theorem relabel_ofGroup (h : relabel f items = relabel f items') (n : Node) (skippable : Bool) :
    relabel f (ofGroup n items skippable) = relabel f (ofGroup n items' skippable) := by
  cases skippable with
  | false =>
    have hi := relabel_map f (bound (n, n)) items
    rw [h, ← relabel_map] at hi
    exact hi
  | true => rw [ofGroup, ofGroup, if_pos rfl, if_pos rfl, ofValid, ofValid, valid_congr h]

end Candidates

section

variable {n : Node} {items items' : Items} {run run' tests tests' : List TypeTest}
  {cs cs' : Candidates} {c : Candidate}

theorem walkTests_append (n : Node) (items : Items) (tests tests' : List TypeTest) :
    walkTests n items (tests ++ tests') = walkTests n (walkTests n items tests') tests := by
  induction tests with
  | nil => rfl
  | cons t tests ih => rw [List.cons_append, walkTests, walkTests, ih]

theorem walkTests_of_accepts (h : ∀ t ∈ run, t.predicate.accepts n.toValue = true) :
    walkTests n items run = items := by
  induction run with
  | nil => rfl
  | cons t run ih =>
    rw [walkTests, if_pos (h t List.mem_cons_self)]
    exact ih fun t ht ↦ h t (List.mem_cons_of_mem _ ht)

/-- Where a test of a run fails, nothing comes of it but the rejection by the first that does. -/
theorem walkTests_of_rejects {skippable : Bool} (hp : ∀ t ∈ run, t.skippable = skippable)
    (h : ¬∀ t ∈ run, t.predicate.accepts n.toValue = true) :
    ∃ name, walkTests n items run = if skippable then [] else [.error (rejection name n)] := by
  induction run with
  | nil => exact absurd nofun h
  | cons t run ih =>
    rw [walkTests]
    by_cases ha : t.predicate.accepts n.toValue = true
    · rw [if_pos ha]
      refine ih (fun t ht ↦ hp t (List.mem_cons_of_mem _ ht)) fun hall ↦ h ?_
      exact List.forall_mem_cons.mpr ⟨ha, hall⟩
    · rw [if_neg ha, hp t List.mem_cons_self]
      exact ⟨t.name, rfl⟩

theorem mem_filterTests_iff : .ok c ∈ filterTests run cs ↔
    .ok c ∈ cs ∧ ∀ t ∈ run, t.predicate.accepts c.value.toValue = true := by
  induction run generalizing cs with
  | nil => simp [filterTests]
  | cons t run ih =>
    have hfirst : .ok c ∈ Candidates.filterValues t.name t.predicate t.skippable cs ↔
        .ok c ∈ cs ∧ t.predicate.accepts c.value.toValue = true := by
      constructor
      · intro h
        obtain ⟨i, hi, hk⟩ := List.mem_filterMap.mp h
        cases i with
        | error e => cases hk
        | ok d =>
          rw [Candidates.keptValue?, Candidates.kept?] at hk
          split at hk
          · next ha =>
            obtain rfl := Except.ok.inj (Option.some.inj hk)
            exact ⟨hi, ha⟩
          · split at hk <;> cases hk
      · rintro ⟨hc, ha⟩
        exact List.mem_filterMap.mpr ⟨.ok c, hc, if_pos ha⟩
    have hrest : filterTests (t :: run) cs =
        filterTests run (Candidates.filterValues t.name t.predicate t.skippable cs) := rfl
    rw [hrest, ih, hfirst, List.forall_mem_cons, and_assoc]

end

section

variable {f : Mismatch → Mismatch} {n : Node} {b : Bindings} {items items' : Items}
  {run run' tests tests' : List TypeTest} {cs cs' : Candidates} {skippable : Bool}

theorem relabel_walkTests (h : relabel f items = relabel f items') (n : Node)
    (tests : List TypeTest) :
    relabel f (walkTests n items tests) = relabel f (walkTests n items' tests) := by
  induction tests with
  | nil => exact h
  | cons t tests ih =>
    rw [walkTests, walkTests]
    split
    · exact ih
    · rfl

/-- The names in rejections are no matter where a test that fails is an error. -/
def Blurs (f : Mismatch → Mismatch) (skippable : Bool) : Prop :=
  skippable = false → ∀ name name' n, f (rejection name n) = f (rejection name' n)

theorem relabel_run (hrun : SameTests skippable run run') (hf : Blurs f skippable) (n : Node)
    (items : Items) (before after : List TypeTest) :
    relabel f (walkTests n items (before ++ run ++ after)) =
      relabel f (walkTests n items (before ++ run' ++ after)) := by
  simp only [walkTests_append]
  refine relabel_walkTests ?_ n before
  by_cases hall : ∀ t ∈ run, t.predicate.accepts n.toValue = true
  · have hall' : ∀ t ∈ run', t.predicate.accepts n.toValue = true :=
      fun t ht ↦ hall t ((hrun.mem_iff t).mpr ht)
    rw [walkTests_of_accepts hall, walkTests_of_accepts hall']
  · have hall' : ¬∀ t ∈ run', t.predicate.accepts n.toValue = true :=
      fun h ↦ hall fun t ht ↦ h t ((hrun.mem_iff t).mp ht)
    obtain ⟨name, hname⟩ := walkTests_of_rejects hrun.policy hall
    obtain ⟨name', hname'⟩ := walkTests_of_rejects hrun.symm.policy hall'
    rw [hname, hname']
    cases skippable with
    | false => exact congrArg (fun e ↦ [Except.error e]) (hf rfl name name' n)
    | true => rfl

theorem relabel_filterTests (hcs : relabel f cs = relabel f cs')
    (h : ∀ n items, relabel f (walkTests n items tests) = relabel f (walkTests n items tests')) :
    relabel f (filterTests tests cs) = relabel f (filterTests tests' cs') := by
  simp only [filterTests_eq, relabel_expand, relabel_map, hcs, h]

/-- Segments that take what they choose alike, and choose alike up to errors. -/
def Segment.Relabeled (f : Mismatch → Mismatch) (s s' : Segment) : Prop :=
  s.take = s'.take ∧ ∀ n, relabel f (s.choices n) = relabel f (s'.choices n)

theorem Segment.relabel_walk {s s' : Segment} (h : s.Relabeled f s') (ss ss' : List Segment)
    (n : Node) (b : Bindings) :
    relabel f (walk (ss ++ s :: ss') n b) = relabel f (walk (ss ++ s' :: ss') n b) := by
  induction ss generalizing n b with
  | nil => simp only [List.nil_append, walk_cons, relabel_cut, relabel_expand, h.1, h.2]
  | cons r ss ih => simp only [List.cons_append, walk_cons, relabel_cut, relabel_expand, ih]

theorem Pattern.relabel_tag {t t' : Tag} (h : (Segment.tag t).Relabeled f (.tag t'))
    (tests : List TypeTest) (earlier later : List Tag) (groups : List Group) (n : Node) :
    relabel f ((mk tests (earlier ++ t :: later) groups).walk n) =
      relabel f ((mk tests (earlier ++ t' :: later) groups).walk n) := by
  rw [walk_eq, walk_eq]
  refine relabel_walkTests ?_ n tests
  simpa [segments] using Segment.relabel_walk h (earlier.map .tag)
    (later.map .tag ++ groups.map .group) n []

theorem Pattern.relabel_group {g g' : Group} (h : (Segment.group g).Relabeled f (.group g'))
    (tests : List TypeTest) (tags : List Tag) (earlier later : List Group) (n : Node) :
    relabel f ((mk tests tags (earlier ++ g :: later)).walk n) =
      relabel f ((mk tests tags (earlier ++ g' :: later)).walk n) := by
  rw [walk_eq, walk_eq]
  refine relabel_walkTests ?_ n tests
  have hw := Segment.relabel_walk h (tags.map .tag ++ earlier.map .group) (later.map .group) n []
  rw [List.append_assoc, List.append_assoc] at hw
  simpa [segments] using hw

theorem Tag.relabeled_withTests (t : Tag)
    (h : ∀ n items, relabel f (walkTests n items tests) = relabel f (walkTests n items tests')) :
    (Segment.tag (t.withTests tests)).Relabeled f (.tag (t.withTests tests')) := by
  cases t <;> exact ⟨rfl, fun n ↦ relabel_filterTests rfl h⟩

theorem Selector.relabel_subtree {p q : Pattern}
    (h : ∀ n, relabel f (p.walk n) = relabel f (q.walk n)) (skippable : Bool) (n : Node) :
    relabel f ((Selector.subtree p skippable).choices n) =
      relabel f ((Selector.subtree q skippable).choices n) := by
  rw [choices_subtree, choices_subtree, Candidates.throughKey_eq, Candidates.throughKey_eq,
    relabel_expand, relabel_expand]
  congr 1
  funext c
  exact Candidates.relabel_ofKey (h c.key) c skippable

theorem Tag.relabeled_withSelector (t : Tag) {s s' : Selector}
    (h : ∀ n, relabel f (s.choices n) = relabel f (s'.choices n)) :
    (Segment.tag (t.withSelector s)).Relabeled f (.tag (t.withSelector s')) := by
  cases t <;> exact ⟨rfl, fun n ↦ relabel_filterTests (h n) fun _ _ ↦ rfl⟩

theorem Pattern.relabel_exchanged {p q : Pattern} (hrun : SameTests skippable run run')
    (hf : Blurs f skippable) (h : Exchanged run run' p q) (n : Node) :
    relabel f (p.walk n) = relabel f (q.walk n) := by
  induction h generalizing n with
  | root before after tags groups =>
    rw [walk_eq, walk_eq]
    exact relabel_run hrun hf n _ before after
  | tag tests before after earlier later t groups =>
    refine relabel_tag (t.relabeled_withTests fun n items ↦ ?_) tests earlier later groups n
    exact relabel_run hrun hf n items before after
  | key skip tests earlier later t groups _ ih =>
    exact relabel_tag (t.relabeled_withSelector (Selector.relabel_subtree ih skip))
      tests earlier later groups n
  | @group p q skip tests tags earlier later _ ih =>
    have hg : (Segment.group (.mk p skip)).Relabeled f (.group (.mk q skip)) :=
      ⟨rfl, fun n ↦ Candidates.relabel_ofGroup (ih n) n skip⟩
    exact relabel_group hg tests tags earlier later n

end

namespace Machine

theorem Steps.eq_of_path_nil {m m' : Machine} {k : Nat} (h : Steps k m m') (hp : m.path = []) :
    m' = m := by
  cases h with
  | zero => rfl
  | cons hs _ => exact absurd hp (path_of_step_ok hs)

theorem steps_root_tests_iff (budget : Nat) (run : List TypeTest) (passed ahead : List Action)
    (l : Level) :
    Steps run.length (atBoundary budget passed (Instr.actions (testCode run) ++ ahead) [l])
      (atBoundary budget ((Instr.actions (testCode run)).reverse ++ passed) ahead [l]) ↔
      ∀ t ∈ run, t.predicate.accepts l.value.toValue = true := by
  induction run generalizing passed with
  | nil => exact ⟨fun _ ↦ nofun, fun _ ↦ .zero _⟩
  | cons t run ih =>
    have hstep : step (atBoundary budget passed
        (t.instr.action :: (Instr.actions (testCode run) ++ ahead)) [l]) = _ := step_root_test t
    have hcode : (Instr.actions (testCode (t :: run))).reverse ++ passed =
        (Instr.actions (testCode run)).reverse ++ t.instr.action :: passed := by
      simp [testCode, Instr.actions]
    rw [hcode, List.forall_mem_cons, ← ih (t.instr.action :: passed)]
    constructor
    · intro h
      cases h with
      | cons hs hrest =>
        have hs' := hstep.symm.trans hs
        split at hs'
        · next ha =>
          obtain rfl := Except.ok.inj hs'
          exact ⟨ha, hrest⟩
        · split at hs'
          · obtain rfl := Except.ok.inj hs'
            cases congrArg Machine.path (hrest.eq_of_path_nil rfl)
          · cases hs'
    · rintro ⟨ha, hrest⟩
      rw [if_pos ha] at hstep
      exact .cons hstep hrest

/-- What all predicates of a run accept passes it, and nothing else: at the root the machine gets
past the run, and of the candidates of a level those are left. -/
structure Conjunctive (run : List TypeTest) : Prop where
  root : ∀ (budget : Nat) (passed ahead : List Action) (l : Level),
    Steps run.length (atBoundary budget passed (Instr.actions (testCode run) ++ ahead) [l])
      (atBoundary budget ((Instr.actions (testCode run)).reverse ++ passed) ahead [l]) ↔
      ∀ t ∈ run, t.predicate.accepts l.value.toValue = true
  candidates : ∀ (budget : Nat) (passed ahead : List Action) (path : List Level) (l : Level)
    (cs : Candidates) (take : Bindings → Candidate → Bindings), l.Ready cs take →
    ∃ (l' : Level) (cs' : Candidates), l'.Ready cs' take ∧
      (∀ c, .ok c ∈ cs' ↔
        .ok c ∈ cs ∧ ∀ t ∈ run, t.predicate.accepts c.value.toValue = true) ∧
      Steps (testCode run).length
        ⟨budget, ⟨passed, Instr.actions (testCode run) ++ ahead⟩, l :: path, true, false⟩
        ⟨budget, ⟨(Instr.actions (testCode run)).reverse ++ passed, ahead⟩, l' :: path,
          true, false⟩

theorem conjunctive (run : List TypeTest) : Conjunctive run where
  root budget passed ahead l := steps_root_tests_iff budget run passed ahead l
  candidates budget passed ahead path l cs take hl := by
    obtain ⟨l', hl', hr⟩ := tests_run budget passed ahead path run hl
    exact ⟨l', _, hl', fun c ↦ mem_filterTests_iff, hr⟩

end Machine

/-- Tests that follow each other and are all skippable, or all not, are a conjunction without an
order: exchanged for the same tests in another order or number, they leave a match as it is, up to
the name in a rejection where they are not skippable. -/
theorem Compiled.results_exchanged (c : Compiled) {skippable : Bool} {run run' : List TypeTest}
    {q : Pattern} (hrun : SameTests skippable run run') (h : c.pattern.Exchanged run run' q)
    (root : Value) :
    ∃ items items' : Items, c.results root = .ok items ∧
      (Results.ofCode q.code (.stored root)).toList = .ok items' ∧
      (skippable = true → items' = items) ∧
      relabel Mismatch.anonymous items' = relabel Mismatch.anonymous items ∧
      Machine.Conjunctive run := by
  refine ⟨_, _, c.pattern.runs.toList _, q.runs.toList _, fun hs ↦ ?_, ?_, Machine.conjunctive run⟩
  · have hid := Pattern.relabel_exchanged (f := id) hrun (fun hn ↦ by simp [hs] at hn) h
      (.stored root)
    rw [relabel_id, relabel_id] at hid
    exact hid.symm
  · exact (Pattern.relabel_exchanged hrun (fun _ _ _ _ ↦ rfl) h (.stored root)).symm

def TypeTest.scalar : TypeTest := ⟨"scalar", .ofKinds [.int, .str], false⟩

def TypeTest.integer : TypeTest := ⟨"int", .ofKind .int, false⟩

def Pattern.tested (tests : List TypeTest) : Pattern := .mk [] [.capture "X" tests] []

def Compiled.scalarIntegers : Compiled where
  source := "->X:$scalar:$int"
  pattern := .tested [.scalar, .integer]
  definitions :=
    .ofList [("scalar", .predicate (.ofKinds [.int, .str])), ("int", .predicate (.ofKind .int))]

/-- Two tests, and the same two the other way round with one of them repeated: a null is rejected
by the test that comes first. -/
theorem Compiled.results_exchanged_scalars :
    SameTests false [.scalar, .integer] [.integer, .scalar, .integer] ∧
      scalarIntegers.pattern.Exchanged [.scalar, .integer] [.integer, .scalar, .integer]
        (.tested [.integer, .scalar, .integer]) ∧
      compile scalarIntegers.definitions scalarIntegers.source = .ok scalarIntegers ∧
      ∃ items items' : Items,
        scalarIntegers.results (.seq [.int 1, .null]) = .ok items ∧
        (Results.ofCode (Pattern.tested [.integer, .scalar, .integer]).code
          (.stored (.seq [.int 1, .null]))).toList = .ok items' ∧
        (false = true → items' = items) ∧
        relabel Mismatch.anonymous items' = relabel Mismatch.anonymous items ∧
        Machine.Conjunctive [.scalar, .integer] := by
  have hrun : SameTests false [.scalar, .integer] [.integer, .scalar, .integer] :=
    ⟨by simp [TypeTest.scalar, TypeTest.integer], fun t ↦ by simp; tauto⟩
  have h : scalarIntegers.pattern.Exchanged [.scalar, .integer] [.integer, .scalar, .integer]
      (.tested [.integer, .scalar, .integer]) := .tag [] [] [] [] [] (.capture "X" []) []
  have hc : compile scalarIntegers.definitions scalarIntegers.source = .ok scalarIntegers := by cbv
  exact ⟨hrun, h, hc, results_exchanged _ hrun h _⟩

example :
    (Results.ofCode (Pattern.tested [.scalar, .integer]).code
      (.stored (.seq [.int 1, .null]))).toList =
      .ok [.ok [("X", .index 0, .stored (.int 1))], .error (.rejected "scalar" "null")] ∧
    (Results.ofCode (Pattern.tested [.integer, .scalar, .integer]).code
      (.stored (.seq [.int 1, .null]))).toList =
      .ok [.ok [("X", .index 0, .stored (.int 1))], .error (.rejected "int" "null")] :=
  ⟨rfl, rfl⟩

end TreePattern
