import Mathlib.Data.List.Forall2
import TreePattern.Proofs.Matching.Meaning
import TreePattern.Proofs.Matching.Outcomes

namespace TreePattern

/-- The same instruction with more of its elements skippable. Groups stay as they are, and so does
what is inside a subtree that is skippable already: the errors there end its results. -/
inductive Instr.Loosened : Instr → Instr → Prop
  | same (i : Instr) : Loosened i i
  | stringKey (key : String) : Loosened (.stringKey key false) (.stringKey key true)
  | regexKey (regex : Regex) : Loosened (.regexKey regex false) (.regexKey regex true)
  | param (name : String) (key : Value) : Loosened (.param name key false) (.param name key true)
  | test (name : String) (p : Predicate) : Loosened (.test name p false) (.test name p true)
  | keySubtree {code code' : List Instr} (skippable : Bool) :
      List.Forall₂ Loosened code code' →
      Loosened (.keySubtree code false) (.keySubtree code' skippable)
  | valueSubtree {code code' : List Instr} :
      List.Forall₂ Loosened code code' →
      Loosened (.valueSubtree code false) (.valueSubtree code' false)

namespace Outcomes

/-- The second row is the first one, gone on with in some way from the first error. -/
inductive Prolonged {α : Type} : Outcomes α → Outcomes α → Prop
  | nil : Prolonged [] []
  | ok {os os' : Outcomes α} (a : α) : Prolonged os os' → Prolonged (.ok a :: os) (.ok a :: os')
  | error (e : Mismatch) (os os' : Outcomes α) : Prolonged (.error e :: os) os'

variable {α β : Type} {os os' later later' : Outcomes α}

theorem Prolonged.refl (os : Outcomes α) : Prolonged os os := by
  induction os with
  | nil => exact .nil
  | cons o os ih =>
    cases o with
    | ok a => exact .ok a ih
    | error e => exact .error e os _

theorem Prolonged.append (h : Prolonged os os') (h' : Prolonged later later') :
    Prolonged (os ++ later) (os' ++ later') := by
  induction h with
  | nil => exact h'
  | ok a _ ih => exact .ok a ih
  | error e os os' => exact .error e _ _

theorem Prolonged.expand {f g : α → Outcomes β} (h : Prolonged os os')
    (hf : ∀ a, Prolonged (f a) (g a)) : Prolonged (expand f os) (expand g os') := by
  induction h with
  | nil => exact .nil
  | ok a _ ih =>
    rw [expand_ok, expand_ok]
    exact (hf a).append ih
  | error e os os' =>
    rw [expand_error]
    exact .error e _ _

theorem Prolonged.cut (h : Prolonged os os') : Prolonged (cut os) (cut os') := by
  induction h with
  | nil => exact .nil
  | ok a _ ih => exact .ok a ih
  | error e os os' => exact .error e _ _

theorem Prolonged.eq_of_ok (h : Prolonged os os') (hok : ∀ e, .error e ∉ os) : os' = os := by
  induction h with
  | nil => rfl
  | ok a _ ih => rw [ih fun e he ↦ hok e (List.mem_cons_of_mem _ he)]
  | error e os os' => exact absurd List.mem_cons_self (hok e)

theorem Prolonged.valid {items items' : Items} (h : Prolonged items items') :
    Candidates.valid items <+: Candidates.valid items' := by
  induction h with
  | nil => exact List.prefix_rfl
  | ok a _ ih => exact (List.prefix_cons_inj a).mpr ih
  | error e os os' => exact List.nil_prefix

end Outcomes

open Outcomes

namespace Candidates

variable {skip skip' : Bool} {items items' : Items} {cs cs' : Candidates}

theorem prolonged_fallback (h : skip = true → skip' = true) (e : Mismatch) :
    Prolonged (α := Candidate) (if skip then [] else [.error e])
      (if skip' then [] else [.error e]) := by
  cases skip with
  | false => exact .error _ _ _
  | true =>
    rw [h rfl]
    exact .nil

theorem prolonged_all (h : skip = true → skip' = true) (n : Node) :
    Prolonged (all n skip) (all n skip') := by
  unfold all
  split
  · exact .refl _
  · exact prolonged_fallback h _

theorem prolonged_lookup (h : skip = true → skip' = true) (n : Node) (key : Value) :
    Prolonged (lookup n key skip) (lookup n key skip') := by
  unfold lookup
  split
  · exact .refl _
  · exact prolonged_fallback h _

theorem prolonged_kept (h : skip = true → skip' = true) (test : Candidate → Bool)
    (error : Candidate → Mismatch) (hcs : Prolonged cs cs') :
    Prolonged (cs.filterMap (kept? test skip error)) (cs'.filterMap (kept? test skip' error)) := by
  rw [filterMap_kept, filterMap_kept]
  refine hcs.expand fun c ↦ ?_
  unfold sift
  split
  · exact .refl _
  · exact prolonged_fallback h _

theorem prolonged_ofItems (e : Entry) (h : Prolonged items items') :
    Prolonged (ofItems e items) (ofItems e items') := by
  induction h with
  | nil => exact .nil
  | ok b _ ih => exact .ok _ ih
  | error m os os' => exact .error m _ _

/-- What comes before the errors of a match is there still when the errors are left out. -/
theorem prolonged_ofValid (e : Entry) (h : Prolonged items items') :
    Prolonged (ofItems e items) (ofValid e items') := by
  induction h with
  | nil => exact .nil
  | ok b _ ih => exact .ok _ ih
  | error m os os' => exact .error m _ _

end Candidates

/-- However the code of a pattern is loosened, it is the code of a pattern, and one whose results
are the first one's up to its error. -/
def Pattern.Loosens (p : Pattern) : Prop :=
  ∀ code, List.Forall₂ Instr.Loosened p.code code →
    ∃ p' : Pattern, code = p'.code ∧ ∀ n, Prolonged (p.walk n) (p'.walk n)

def TypeTest.Loosened (t t' : TypeTest) : Prop :=
  ∃ skip, (t.skippable = true → skip = true) ∧ t' = { t with skippable := skip }

/-- Segments that take what they choose alike, and of which the second chooses at least what the
first one does before its error. -/
def Segment.Prolonged (s s' : Segment) : Prop :=
  s'.take = s.take ∧ ∀ n, Outcomes.Prolonged (s.choices n) (s'.choices n)

variable {code : List Instr} {tests tests' : List TypeTest}

theorem exists_append_of_forall₂ {α β : Type} {R : α → β → Prop} {as bs : List α} {cs : List β}
    (h : List.Forall₂ R (as ++ bs) cs) :
    ∃ cs₁ cs₂, List.Forall₂ R as cs₁ ∧ List.Forall₂ R bs cs₂ ∧ cs = cs₁ ++ cs₂ := by
  induction as generalizing cs with
  | nil => exact ⟨[], cs, .nil, h, rfl⟩
  | cons a as ih =>
    obtain ⟨c, cs', hc, hcs, rfl⟩ := List.forall₂_cons_left_iff.mp h
    obtain ⟨cs₁, cs₂, h₁, h₂, rfl⟩ := ih hcs
    exact ⟨c :: cs₁, cs₂, .cons hc h₁, h₂, rfl⟩

theorem flatMap_loosened {α : Type} {f : α → List Instr} {R : α → α → Prop} {as : List α}
    (ha : ∀ a ∈ as, ∀ code, List.Forall₂ Instr.Loosened (f a) code → ∃ a', code = f a' ∧ R a a')
    (h : List.Forall₂ Instr.Loosened (as.flatMap f) code) :
    ∃ as', code = as'.flatMap f ∧ List.Forall₂ R as as' := by
  induction as generalizing code with
  | nil =>
    obtain rfl := List.forall₂_nil_left_iff.mp h
    exact ⟨[], rfl, .nil⟩
  | cons a as ih =>
    obtain ⟨hfirst, hrest⟩ := List.forall_mem_cons.mp ha
    obtain ⟨b, c, hb, hc, rfl⟩ := exists_append_of_forall₂ h
    obtain ⟨a', rfl, hr⟩ := hfirst _ hb
    obtain ⟨as', rfl, hrs⟩ := ih hrest hc
    exact ⟨a' :: as', rfl, .cons hr hrs⟩

theorem TypeTest.loosened {t : TypeTest} (h : List.Forall₂ Instr.Loosened [t.instr] code) :
    ∃ t' : TypeTest, code = [t'.instr] ∧ t.Loosened t' := by
  rcases t with ⟨name, p, skip⟩
  obtain ⟨i, rest, hi, hrest, rfl⟩ := List.forall₂_cons_left_iff.mp h
  obtain rfl := List.forall₂_nil_left_iff.mp hrest
  cases hi with
  | same => exact ⟨⟨name, p, skip⟩, rfl, skip, id, rfl⟩
  | test => exact ⟨⟨name, p, true⟩, rfl, true, fun _ ↦ rfl, rfl⟩

theorem testCode_loosened (h : List.Forall₂ Instr.Loosened (testCode tests) code) :
    ∃ tests', code = testCode tests' ∧ List.Forall₂ TypeTest.Loosened tests tests' := by
  simp only [testCode_eq_flatMap] at h ⊢
  exact flatMap_loosened (fun _ _ _ ↦ TypeTest.loosened) h

theorem prolonged_filterTests (h : List.Forall₂ TypeTest.Loosened tests tests')
    {cs cs' : Candidates} (hcs : Outcomes.Prolonged cs cs') :
    Outcomes.Prolonged (filterTests tests cs) (filterTests tests' cs') := by
  induction h generalizing cs cs' with
  | nil => exact hcs
  | cons ht _ ih =>
    obtain ⟨skip, hskip, rfl⟩ := ht
    exact ih (Candidates.prolonged_kept hskip _ _ hcs)

theorem prolonged_walkTests (h : List.Forall₂ TypeTest.Loosened tests tests') (n : Node)
    {items items' : Items} (hi : Outcomes.Prolonged items items') :
    Outcomes.Prolonged (walkTests n items tests) (walkTests n items' tests') := by
  induction h with
  | nil => exact hi
  | @cons t _ _ _ ht _ ih =>
    obtain ⟨skip, hskip, rfl⟩ := ht
    rw [walkTests, walkTests]
    split
    · exact ih
    · cases hs : t.skippable with
      | false => exact .error _ _ _
      | true =>
        rw [hskip hs]
        exact .nil

theorem Selector.loosened {s : Selector} (hs : ∀ q ∈ s.inner, q.Loosens) {i : Instr}
    (h : s.instr.Loosened i) :
    ∃ s' : Selector, i = s'.instr ∧ ∀ n, Outcomes.Prolonged (s.choices n) (s'.choices n) := by
  cases s with
  | literal key skip =>
    cases h with
    | same => exact ⟨.literal key skip, rfl, fun n ↦ .refl _⟩
    | stringKey =>
      have hn (n : Node) := Candidates.prolonged_lookup (fun _ : false = true ↦ rfl) n (.str key)
      exact ⟨.literal key true, rfl, hn⟩
  | param name key skip =>
    cases h with
    | same => exact ⟨.param name key skip, rfl, fun n ↦ .refl _⟩
    | param =>
      have hn (n : Node) := Candidates.prolonged_lookup (fun _ : false = true ↦ rfl) n key
      exact ⟨.param name key true, rfl, hn⟩
  | regex regex skip =>
    cases h with
    | same => exact ⟨.regex regex skip, rfl, fun n ↦ .refl _⟩
    | regexKey =>
      have hflag : false = true → true = true := fun _ ↦ rfl
      exact ⟨.regex regex true, rfl, fun n ↦
        Candidates.prolonged_kept hflag _ _ (Candidates.prolonged_all hflag n)⟩
  | subtree q skip =>
    cases h with
    | same => exact ⟨.subtree q skip, rfl, fun n ↦ .refl _⟩
    | keySubtree skip' hcode =>
      obtain ⟨q', rfl, hq⟩ := hs q (List.mem_singleton_self q) _ hcode
      refine ⟨.subtree q' skip', rfl, fun n ↦ ?_⟩
      rw [choices_subtree, choices_subtree, Candidates.throughKey_eq, Candidates.throughKey_eq]
      have hflag : false = true → skip' = true := nofun
      refine (Candidates.prolonged_all hflag n).expand fun c ↦ ?_
      cases skip' with
      | false => exact Candidates.prolonged_ofItems _ (hq c.key)
      | true => exact Candidates.prolonged_ofValid _ (hq c.key)

theorem cons_loosened {i : Instr} {rest : List Instr} (hi : ∀ j, i.Loosened j → j = i)
    (h : List.Forall₂ Instr.Loosened (i :: rest) code) :
    ∃ rest', code = i :: rest' ∧ List.Forall₂ Instr.Loosened rest rest' := by
  obtain ⟨j, rest', hj, hrest, rfl⟩ := List.forall₂_cons_left_iff.mp h
  rw [hi j hj]
  exact ⟨rest', rfl, hrest⟩

theorem eq_arrow {i : Instr} (h : Instr.arrow.Loosened i) : i = .arrow := by cases h; rfl

theorem eq_ident {name : String} {i : Instr} (h : (Instr.ident name).Loosened i) :
    i = .ident name := by cases h; rfl

theorem eq_close {i : Instr} (h : Instr.close.Loosened i) : i = .close := by cases h; rfl

theorem testCode_close_loosened
    (h : List.Forall₂ Instr.Loosened (testCode tests ++ [.close]) code) :
    ∃ tests', code = testCode tests' ++ [.close] ∧
      List.Forall₂ TypeTest.Loosened tests tests' := by
  obtain ⟨a, b, ha, hb, rfl⟩ := exists_append_of_forall₂ h
  obtain ⟨tests', rfl, htests⟩ := testCode_loosened ha
  obtain ⟨rest, rfl, hrest⟩ := cons_loosened (fun _ ↦ eq_close) hb
  obtain rfl := List.forall₂_nil_left_iff.mp hrest
  exact ⟨tests', rfl, htests⟩

theorem Tag.loosened {t : Tag} (ht : ∀ q ∈ t.inner, q.Loosens)
    (h : List.Forall₂ Instr.Loosened t.code code) :
    ∃ t' : Tag, code = t'.code ∧ (Segment.tag t).Prolonged (.tag t') := by
  cases t with
  | capture name tests =>
    obtain ⟨a, rfl, ha⟩ := cons_loosened (fun _ ↦ eq_arrow) h
    obtain ⟨b, rfl, hb⟩ := cons_loosened (fun _ ↦ eq_ident) ha
    obtain ⟨tests', rfl, htests⟩ := testCode_close_loosened hb
    exact ⟨.capture name tests', rfl, rfl, fun n ↦ prolonged_filterTests htests (.refl _)⟩
  | select s tests =>
    obtain ⟨a, rfl, ha⟩ := cons_loosened (fun _ ↦ eq_arrow) h
    obtain ⟨i, b, hi, hb, rfl⟩ := List.forall₂_cons_left_iff.mp ha
    obtain ⟨s', rfl, hs⟩ := Selector.loosened ht hi
    obtain ⟨tests', rfl, htests⟩ := testCode_close_loosened hb
    exact ⟨.select s' tests', rfl, rfl, fun n ↦ prolonged_filterTests htests (hs n)⟩
  | captureSelect name s tests =>
    obtain ⟨a, rfl, ha⟩ := cons_loosened (fun _ ↦ eq_arrow) h
    obtain ⟨b, rfl, hb⟩ := cons_loosened (fun _ ↦ eq_ident) ha
    obtain ⟨i, c, hi, hc, rfl⟩ := List.forall₂_cons_left_iff.mp hb
    obtain ⟨s', rfl, hs⟩ := Selector.loosened ht hi
    obtain ⟨tests', rfl, htests⟩ := testCode_close_loosened hc
    exact ⟨.captureSelect name s' tests', rfl, rfl, fun n ↦ prolonged_filterTests htests (hs n)⟩

theorem Group.loosened {g : Group} (hg : ∀ q ∈ g.inner, q.Loosens)
    (h : List.Forall₂ Instr.Loosened g.code code) :
    ∃ g' : Group, code = g'.code ∧ (Segment.group g).Prolonged (.group g') := by
  rcases g with ⟨q, skip⟩
  obtain ⟨i, a, hi, ha, rfl⟩ := List.forall₂_cons_left_iff.mp h
  obtain ⟨b, rfl, hb⟩ := cons_loosened (fun _ ↦ eq_close) ha
  obtain rfl := List.forall₂_nil_left_iff.mp hb
  cases hi with
  | same => exact ⟨.mk q skip, rfl, rfl, fun n ↦ .refl _⟩
  | valueSubtree hcode =>
    obtain ⟨q', rfl, hq⟩ := hg q (List.mem_singleton_self q) _ hcode
    exact ⟨.mk q' false, rfl, rfl, fun n ↦ Candidates.prolonged_ofItems _ (hq n)⟩

theorem Segment.prolonged_walk {ss ss' : List Segment}
    (h : List.Forall₂ Segment.Prolonged ss ss') (n : Node) (b : Bindings) :
    Outcomes.Prolonged (walk ss n b) (walk ss' n b) := by
  induction h generalizing n b with
  | nil => exact .refl _
  | @cons s s' _ _ hs _ ih =>
    obtain ⟨htake, hchoices⟩ := hs
    rw [walk_cons, walk_cons, htake]
    exact ((hchoices n).expand fun c ↦ ih c.value (s.take b c)).cut

theorem Pattern.loosens (p : Pattern) : p.Loosens := by
  induction p using Pattern.of_inner with
  | h p ih =>
    intro code h
    rcases p with ⟨tests, tags, groups⟩
    rw [Pattern.code, tagCode_eq_flatMap, groupCode_eq_flatMap] at h
    obtain ⟨ab, c, hab, hc, rfl⟩ := exists_append_of_forall₂ h
    obtain ⟨a, b, ha, hb, rfl⟩ := exists_append_of_forall₂ hab
    obtain ⟨tests', rfl, htests⟩ := testCode_loosened ha
    obtain ⟨tags', rfl, htags⟩ := flatMap_loosened
      (fun t ht _ ↦ Tag.loosened fun q hq ↦ ih q (mem_inner_of_tag ht hq)) hb
    obtain ⟨groups', rfl, hgroups⟩ := flatMap_loosened
      (fun g hg _ ↦ Group.loosened fun q hq ↦ ih q (mem_inner_of_group hg hq)) hc
    refine ⟨.mk tests' tags' groups', ?_, fun n ↦ ?_⟩
    · rw [Pattern.code, tagCode_eq_flatMap, groupCode_eq_flatMap]
    · have hsegments : List.Forall₂ Segment.Prolonged (tags.map .tag ++ groups.map .group)
          (tags'.map .tag ++ groups'.map .group) :=
        List.rel_append (List.forall₂_map_left_iff.mpr (List.forall₂_map_right_iff.mpr htags))
          (List.forall₂_map_left_iff.mpr (List.forall₂_map_right_iff.mpr hgroups))
      rw [walk_eq, walk_eq]
      exact prolonged_walkTests htests n (Segment.prolonged_walk hsegments n [])

/-- Elements that are made skippable take back no match and move none: all that was matched before
the error is matched first, and a run without error stays as it is. -/
theorem Compiled.results_loosened (c : Compiled) (code : List Instr)
    (h : List.Forall₂ Instr.Loosened c.code code) (root : Value) :
    ∃ items items' : Items, c.results root = .ok items ∧
      (Results.ofCode code (.stored root)).toList = .ok items' ∧
      Candidates.valid items <+: Candidates.valid items' ∧
      ((∀ e, .error e ∉ items) → items' = items) := by
  obtain ⟨p, rfl, hp⟩ := c.pattern.loosens code h
  exact ⟨_, _, c.pattern.runs.toList _, p.runs.toList _, (hp _).valid, (hp _).eq_of_ok⟩

def Pattern.integers (skippable : Bool) : Pattern :=
  .mk [] [.capture "X" [⟨"int", .ofKind .int, skippable⟩]] []

theorem Compiled.results_loosened_integers :
    List.Forall₂ Instr.Loosened (Pattern.integers false).code (Pattern.integers true).code ∧
      ∃ items items' : Items,
        results ⟨"->X:$int", .integers false, .empty⟩ (.seq [.int 1, .null, .int 2]) = .ok items ∧
        (Results.ofCode (Pattern.integers true).code
          (.stored (.seq [.int 1, .null, .int 2]))).toList = .ok items' ∧
        Candidates.valid items <+: Candidates.valid items' ∧
        ((∀ e, .error e ∉ items) → items' = items) := by
  have h : List.Forall₂ Instr.Loosened (Pattern.integers false).code (Pattern.integers true).code :=
    .cons (.same _) (.cons (.same _) (.cons (.test _ _) (.cons (.same _) .nil)))
  exact ⟨h, results_loosened ⟨"->X:$int", .integers false, .empty⟩ _ h _⟩

end TreePattern
