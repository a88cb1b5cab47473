import TreePattern.Proofs.Matching.Composition
import TreePattern.Proofs.Matching.Leniency
import TreePattern.Proofs.Matching.Requests

namespace TreePattern

open Outcomes

/-- Whether an instruction is skippable, if it can be. -/
def Instr.skippable? : Instr → Option Bool
  | .stringKey _ skippable | .regexKey _ skippable | .param _ _ skippable => some skippable
  | .test _ _ skippable => some skippable
  | .keySubtree _ skippable | .valueSubtree _ skippable => some skippable
  | .arrow | .ident _ | .close => none

namespace Outcomes

variable {α β : Type} {os : Outcomes α}

def Errorless (os : Outcomes α) : Prop := ∀ e, .error e ∉ os

theorem errorless_nil : Errorless ([] : Outcomes α) := fun _ ↦ List.not_mem_nil

theorem errorless_map_ok (as : List α) : Errorless (as.map .ok) := by
  intro e he
  obtain ⟨a, _, ha⟩ := List.mem_map.mp he
  cases ha

theorem Errorless.expand {f : α → Outcomes β} (h : Errorless os) (hf : ∀ a, Errorless (f a)) :
    Errorless (expand f os) := by
  intro e he
  obtain ⟨o, ho, he⟩ := List.mem_flatMap.mp he
  cases o with
  | ok a => exact hf a e he
  | error e' => exact h e' ho

theorem Errorless.map {f : α → β} (h : Errorless os) : Errorless (os.map (·.map f)) := by
  intro e he
  obtain ⟨o, ho, he⟩ := List.mem_map.mp he
  cases o with
  | ok a => cases he
  | error e' => exact h e' ho

theorem Errorless.cut (h : Errorless os) : Errorless (cut os) := fun e he ↦ h e (mem_of_mem_cut he)

end Outcomes

namespace Candidates

theorem errorless_all (n : Node) : Errorless (all n true) := by
  unfold all
  split
  · next es _ =>
    have h := errorless_map_ok (es.map plain)
    rwa [List.map_map] at h
  · exact errorless_nil

theorem errorless_lookup (n : Node) (key : Value) : Errorless (lookup n key true) := by
  unfold lookup
  split
  · next e _ => exact errorless_map_ok [plain e]
  · exact errorless_nil

theorem errorless_kept {cs : Candidates} (h : Errorless cs) (test : Candidate → Bool)
    (error : Candidate → Mismatch) : Errorless (cs.filterMap (kept? test true error)) := by
  rw [filterMap_kept]
  refine h.expand fun c ↦ ?_
  unfold sift
  split
  · exact errorless_map_ok [c]
  · exact errorless_nil

theorem errorless_ofValid (e : Entry) (items : Items) : Errorless (ofValid e items) := by
  have h := errorless_map_ok ((valid items).map (bound e))
  rwa [List.map_map] at h

theorem valid_append_error (bs : List Bindings) (e : Mismatch) :
    valid (bs.map .ok ++ [.error e]) = bs := by
  induction bs with
  | nil => rfl
  | cons b bs ih => exact congrArg (b :: ·) ih

theorem errorless_ofGroup (n : Node) (items : Items) : Errorless (ofGroup n items true) := by
  have h := errorless_ofValid (n, n) items
  rw [ofGroup, if_pos rfl]
  split
  · exact errorless_map_ok [bound (n, n) []]
  · exact h

end Candidates

section

variable {tests : List TypeTest} {cs : Candidates}

theorem skippable_of_testCode (h : ∀ i ∈ testCode tests, i.skippable? ≠ some false) :
    ∀ t ∈ tests, t.skippable = true := by
  intro t ht
  have hi : t.instr.skippable? ≠ some false := h _ (List.mem_map_of_mem ht)
  simpa [TypeTest.instr, Instr.skippable?] using hi

theorem errorless_walkTests (ht : ∀ t ∈ tests, t.skippable = true) (n : Node) {items : Items}
    (h : Errorless items) : Errorless (walkTests n items tests) := by
  induction tests with
  | nil => exact h
  | cons t tests ih =>
    have hrest := ih fun t' ht' ↦ ht t' (List.mem_cons_of_mem _ ht')
    rw [walkTests, ht t List.mem_cons_self]
    split
    · exact hrest
    · exact errorless_nil

theorem errorless_filterTests (ht : ∀ t ∈ tests, t.skippable = true) (h : Errorless cs) :
    Errorless (filterTests tests cs) := by
  rw [filterTests_eq]
  refine h.expand fun c ↦ ?_
  have hroot : Errorless (walkTests c.value [.ok []] tests) :=
    errorless_walkTests ht c.value (errorless_map_ok [[]])
  exact hroot.map

end

def Selector.skippable : Selector → Bool
  | .literal _ skippable | .regex _ skippable | .param _ _ skippable => skippable
  | .subtree _ skippable => skippable

theorem Selector.skippable?_instr (s : Selector) : s.instr.skippable? = some s.skippable := by
  cases s <;> rfl

theorem Selector.errorless_choices {s : Selector} (h : s.skippable = true) (n : Node) :
    Errorless (s.choices n) := by
  cases s with
  | literal key skippable =>
    obtain rfl : skippable = true := h
    exact Candidates.errorless_lookup n (.str key)
  | param name key skippable =>
    obtain rfl : skippable = true := h
    exact Candidates.errorless_lookup n key
  | regex regex skippable =>
    obtain rfl : skippable = true := h
    exact Candidates.errorless_kept (Candidates.errorless_all n) _ _
  | subtree q skippable =>
    obtain rfl : skippable = true := h
    rw [choices_subtree, Candidates.throughKey_eq]
    exact (Candidates.errorless_all n).expand fun c ↦ Candidates.errorless_ofValid _ _

namespace Segment

theorem errorless_choices {s : Segment} (h : ∀ i ∈ s.body, i.skippable? ≠ some false)
    (hsel : ∀ t, s = .tag t → t.selector?.isSome) (n : Node) : Errorless (s.choices n) := by
  rcases s with t | ⟨q, skippable⟩
  · obtain ⟨s, hs⟩ := Option.isSome_iff_exists.mp (hsel t rfl)
    obtain ⟨hinstr, htests⟩ := Tag.mem_body_of_selector hs
    have ht := skippable_of_testCode fun i hi ↦ h i (htests i hi)
    have hskip : s.skippable = true := by simpa [s.skippable?_instr] using h _ hinstr
    have hcs : t.choices n = _ := Tag.choices_of_selector hs n
    rw [choices, hcs]
    exact errorless_filterTests ht (Selector.errorless_choices hskip n)
  · have hi := h (.valueSubtree q.code skippable) (List.mem_singleton_self _)
    obtain rfl : skippable = true := by simpa [Instr.skippable?] using hi
    exact Candidates.errorless_ofGroup n (q.walk n)

theorem errorless_walk {ss : List Segment} (h : ∀ s ∈ ss, ∀ n, Errorless (s.choices n)) (n : Node)
    (b : Bindings) : Errorless (walk ss n b) := by
  induction ss generalizing n b with
  | nil => exact errorless_map_ok [b]
  | cons s ss ih =>
    have hrest := ih fun s' hs' ↦ h s' (List.mem_cons_of_mem _ hs')
    rw [walk_cons]
    exact ((h s List.mem_cons_self n).expand fun c ↦ hrest c.value (s.take b c)).cut

end Segment

theorem Pattern.mem_path {p : Pattern} {t : Tag} (h : .tag t ∈ p.segments) : t ∈ p.path := by
  rcases p with ⟨tests, tags, groups⟩
  simpa [segments, path] using h

theorem Pattern.errorless_walk {p : Pattern} (h : ∀ i ∈ p.code, i.skippable? ≠ some false)
    (hsel : ∀ t ∈ p.path, t.selector?.isSome) (n : Node) : Errorless (p.walk n) := by
  rw [p.code_eq] at h
  have htests := skippable_of_testCode fun i hi ↦ h i (List.mem_append_left _ hi)
  have hsegments : ∀ s ∈ p.segments, ∀ n, Errorless (s.choices n) := by
    intro s hs
    refine Segment.errorless_choices (fun i hi ↦ h i (List.mem_append_right _ ?_)) ?_
    · exact List.mem_flatMap.mpr ⟨s, hs, List.mem_append_left _ hi⟩
    · rintro t rfl
      exact hsel t (mem_path hs)
  rw [walk_eq]
  exact errorless_walkTests htests n (Segment.errorless_walk hsegments n [])

/-- Skippable elements never raise: where every instruction of a pattern that can be skippable is,
those inside its subtrees apart, and every tag has a selector, all results are bindings. -/
theorem Compiled.results_skippable (c : Compiled)
    (h : ∀ i ∈ c.code, i.skippable? ≠ some false)
    (hsel : ∀ t ∈ c.pattern.path, t.selector?.isSome) (root : Value) :
    (∃ bs : List Bindings, c.results root = .ok (bs.map .ok)) ∧
      ∀ k e, (c.machine root).answer k ≠ .ok (some (.error e)) := by
  have hwalk : Errorless (c.pattern.walk (.stored root)) := c.pattern.errorless_walk h hsel _
  obtain ⟨bs, hbs⟩ := exists_eq_map_ok hwalk
  refine ⟨⟨bs, (c.pattern.runs.toList _).trans (congrArg _ hbs)⟩, fun k e hk ↦ ?_⟩
  rw [c.answer_eq root le_rfl] at hk
  exact hwalk e (List.mem_of_getElem? (Except.ok.inj hk))

def Compiled.lenient : Compiled where
  source := "->X[->Y]?(->Z)?"
  pattern := .mk [] [.captureSelect "X" (.subtree (.mk [] [.capture "Y" []] []) true) []]
    [.mk (.mk [] [.capture "Z" []] []) true]
  definitions := .empty

theorem Compiled.results_skippable_lenient :
    (∀ i ∈ lenient.code, i.skippable? ≠ some false) ∧
      (∀ t ∈ lenient.pattern.path, t.selector?.isSome) ∧
      (∃ bs : List Bindings, lenient.results (.map [(.int 1, .int 2)]) = .ok (bs.map .ok)) ∧
      ∀ k e, (lenient.machine (.map [(.int 1, .int 2)])).answer k ≠ .ok (some (.error e)) := by
  have h : ∀ i ∈ lenient.code, i.skippable? ≠ some false :=
    List.forall_iff_forall_mem.mp ⟨nofun, nofun, nofun, nofun, nofun, nofun⟩
  have hsel : ∀ t ∈ lenient.pattern.path, t.selector?.isSome := by
    intro t ht
    obtain rfl := List.mem_singleton.mp ht
    rfl
  exact ⟨h, hsel, lenient.results_skippable h hsel _⟩

namespace Tag

variable {t : Tag} {q : Pattern}

/-- What a tag makes of an entry whose key a skippable subtree is matched against, where `found` is
what is found in each key: an entry for each match before the first error that passes the tests. -/
def offered (t : Tag) (found : Node → Items) (e : Entry) : Candidates :=
  filterTests t.tests (.ofValid e (found e.1))

/-- The results that come of an entry, where some segments follow the tag. -/
def contribution (t : Tag) (found : Node → Items) (rest : List Segment) (b : Bindings) (e : Entry) :
    Items :=
  expand (fun c ↦ Segment.walk rest c.value (t.take b c)) (t.offered found e)

theorem choices_skippable_key (h : t.selector? = some (.subtree q true)) (n : Node) :
    t.choices n = (n.entries?.getD []).flatMap (t.offered q.walk) := by
  have hall : Candidates.all n true = (n.entries?.getD []).map (.ok ∘ Candidates.plain) := by
    rw [Candidates.all]
    cases n.entries? <;> rfl
  rw [choices_of_selector h, Selector.choices_subtree, hall, List.flatMap_map, filterTests_eq,
    expand, List.flatMap_assoc]
  refine List.flatMap_congr fun e _ ↦ ?_
  exact (filterTests_eq _ _).symm

theorem offered_eq_nil_iff {found : Node → Items} {e : Entry} {ms : List Bindings} {m : Mismatch}
    (h : found e.1 = ms.map .ok ++ [.error m]) :
    t.offered found e = [] ↔ ms = [] ∨ walkTests e.2 [.ok []] t.tests = [] := by
  have hflat : t.offered found e = ms.flatMap fun b ↦
      (walkTests e.2 [.ok []] t.tests).map (·.map fun _ ↦ Candidates.bound e b) := by
    rw [offered, h, Candidates.ofValid, Candidates.valid_append_error, filterTests_eq, expand,
      List.flatMap_map]
    rfl
  simp only [hflat, List.flatMap_eq_nil_iff, List.map_eq_nil_iff]
  cases ms with
  | nil => simp
  | cons b ms =>
    constructor
    · intro hall
      exact .inr (hall b List.mem_cons_self)
    · rintro (hms | htests) _ _
      · cases hms
      · exact htests

end Tag

/-- An entry whose key a skippable subtree fails on is left out only when it fails there before any
match, or when a test of the tag passes over the value: every match before the error is taken, and
gone on from like any other. -/
theorem Pattern.results_skippable_key {tests : List TypeTest} {before after : List Tag} {t : Tag}
    {groups : List Group} {q : Pattern} (ht : t.selector? = some (.subtree q true)) (n : Node) :
    ∃ found : Node → Items, (∀ k, (Results.ofCode q.code k).toList = .ok (found k)) ∧
      (∀ e ms m, found e.1 = ms.map .ok ++ [.error m] →
        (t.offered found e = [] ↔ ms = [] ∨ walkTests e.2 [.ok []] t.tests = [])) ∧
      (Results.ofCode (Pattern.mk tests before []).code n).toList =
        .ok (((Pattern.mk tests before []).arrivals n).map (·.map Prod.snd)) ∧
      (Results.ofCode (Pattern.mk tests (before ++ t :: after) groups).code n).toList =
        .ok (cut (expand (fun a ↦ (a.1.entries?.getD []).flatMap
          (t.contribution found (after.map .tag ++ groups.map .group) a.2))
          ((Pattern.mk tests before []).arrivals n))) := by
  let p := Pattern.mk tests before []
  let r := Pattern.mk tests (before ++ t :: after) groups
  let rest := after.map Segment.tag ++ groups.map .group
  have hs : r.segments = p.segments ++ .tag t :: rest := by simp [r, p, rest, segments]
  refine ⟨q.walk, q.runs.toList, fun e ms m ↦ Tag.offered_eq_nil_iff, ?_, ?_⟩
  · rw [← walk_eq_arrivals]
    exact p.runs.toList n
  · refine (r.runs.toList n).trans (congrArg _ ?_)
    have hwalk := walk_of_segments_append (p := p) (r := r) rfl hs n
    rw [hwalk]
    refine cut_expand_of_cut fun a _ ↦ ?_
    rw [Segment.walk_cons, cut_cut, Segment.choices, Tag.choices_skippable_key ht, expand,
      List.flatMap_assoc]
    rfl

def Value.mixedKey : Value := .map [(.seq [.int 1, .null], .int 0)]

def Tag.integerKeys : Tag := .select (.subtree (.integers false) true) []

theorem Pattern.results_integerKeys :
    Tag.integerKeys.selector? = some (.subtree (.integers false) true) ∧
      ∃ found : Node → Items,
        (∀ k, (Results.ofCode (Pattern.integers false).code k).toList = .ok (found k)) ∧
        (∀ e ms m, found e.1 = ms.map .ok ++ [.error m] →
          (Tag.integerKeys.offered found e = [] ↔
            ms = [] ∨ walkTests e.2 [.ok []] Tag.integerKeys.tests = [])) ∧
        (Results.ofCode (Pattern.mk [] [] []).code (.stored .mixedKey)).toList =
          .ok (((Pattern.mk [] [] []).arrivals (.stored .mixedKey)).map (·.map Prod.snd)) ∧
        (Results.ofCode (Pattern.mk [] ([] ++ Tag.integerKeys :: []) []).code
          (.stored .mixedKey)).toList =
          .ok (cut (expand (fun a ↦ (a.1.entries?.getD []).flatMap
            (Tag.integerKeys.contribution found ([].map .tag ++ [].map .group) a.2))
            ((Pattern.mk [] [] []).arrivals (.stored .mixedKey)))) := by
  have ht : Tag.integerKeys.selector? = some (.subtree (.integers false) true) := rfl
  exact ⟨ht, results_skippable_key ht _⟩

def Compiled.integerKeys : Compiled where
  source := "->[->X:$int]?"
  pattern := .mk [] [.integerKeys] []
  definitions := .ofList [("int", .predicate (.ofKind .int))]

/-- An entry whose key fails late is not left out: the match before the error is a result. -/
theorem Compiled.results_key_failing_late :
    compile integerKeys.definitions integerKeys.source = .ok integerKeys ∧
      (Results.ofCode (Pattern.integers false).code (.stored (.seq [.int 1, .null]))).toList =
        .ok [.ok [("X", .index 0, .stored (.int 1))], .error (.rejected "int" "null")] ∧
      integerKeys.results .mixedKey = .ok [.ok [("X", .index 0, .stored (.int 1))]] := by
  have h : compile integerKeys.definitions integerKeys.source = .ok integerKeys := by cbv
  exact ⟨h, rfl, rfl⟩

end TreePattern
