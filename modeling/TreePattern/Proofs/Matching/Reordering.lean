import TreePattern.Proofs.Matching.Meaning
import TreePattern.Proofs.Matching.Outcomes
import TreePattern.Proofs.Table
import TreePattern.Proofs.Value.Construction
import TreePattern.Proofs.Value.Entries

namespace TreePattern

/-- A predicate that does not tell equal values apart. -/
def Predicate.Respects (p : Predicate) : Prop :=
  ∀ v w : Value, v.Distinct → w.Distinct → v == w → p.accepts v = p.accepts w

/-- No subtree leaves its errors out, no predicate tells equal values apart, and a key, like every
value that is built, has no repetitions. -/
inductive Instr.Steady : Instr → Prop
  | arrow : Steady .arrow
  | ident (name : String) : Steady (.ident name)
  | stringKey (key : String) (skippable : Bool) : Steady (.stringKey key skippable)
  | regexKey (regex : Regex) (skippable : Bool) : Steady (.regexKey regex skippable)
  | param (name : String) {key : Value} (skippable : Bool) :
      key.Distinct → Steady (.param name key skippable)
  | test (name : String) {p : Predicate} (skippable : Bool) :
      p.Respects → Steady (.test name p skippable)
  | keySubtree {code : List Instr} : (∀ i ∈ code, Steady i) → Steady (.keySubtree code false)
  | valueSubtree {code : List Instr} : (∀ i ∈ code, Steady i) → Steady (.valueSubtree code false)
  | close : Steady .close

namespace Outcomes

variable {α β γ δ : Type} {R : α → β → Prop} {S : γ → δ → Prop} {os : Outcomes α}
  {os' : Outcomes β}

inductive Both (R : α → β → Prop) : Except Mismatch α → Except Mismatch β → Prop
  | ok {a : α} {b : β} : R a b → Both R (.ok a) (.ok b)

/-- Unless there is an error in the first row, the second corresponds to it one to one. -/
def Matched (R : α → β → Prop) (os : Outcomes α) (os' : Outcomes β) : Prop :=
  (∀ e, .error e ∉ os) → Corresponds (Both R) os os'

theorem cut_of_ok (h : ∀ e, .error e ∉ os) : cut os = os := by
  induction os with
  | nil => rfl
  | cons o os ih =>
    cases o with
    | ok a => exact congrArg (_ :: ·) (ih fun e he ↦ h e (List.mem_cons_of_mem _ he))
    | error e => exact absurd List.mem_cons_self (h e)

theorem ok_of_cut (h : ∀ e, .error e ∉ cut os) : ∀ e, .error e ∉ os := by
  induction os with
  | nil => exact h
  | cons o os ih =>
    cases o with
    | ok a =>
      intro e he
      rcases List.mem_cons.mp he with he | he
      · cases he
      · exact ih (fun e he ↦ h e (List.mem_cons_of_mem _ he)) e he
    | error e => exact absurd (List.mem_singleton_self _) (h e)

theorem ok_of_corresponds (h : Corresponds (Both R) os os') : ∀ e, .error e ∉ os' := by
  intro e he
  obtain ⟨o, _, ho⟩ := h.symm.exists_right he
  cases ho

theorem Matched.nil : Matched R [] [] := fun _ ↦ .of_forall₂ .nil

theorem Matched.error (e : Mismatch) (os : Outcomes α) (os' : Outcomes β) :
    Matched R (.error e :: os) os' := fun h ↦ absurd List.mem_cons_self (h e)

theorem Matched.single {a : α} {b : β} (h : R a b) : Matched R [.ok a] [.ok b] :=
  fun _ ↦ .of_forall₂ (.cons (.ok h) .nil)

theorem Matched.expand {f : α → Outcomes γ} {g : β → Outcomes δ} (h : Matched R os os')
    (hfg : ∀ a b, R a b → Matched S (f a) (g b)) : Matched S (expand f os) (expand g os') := by
  intro hok
  have hos : ∀ e, .error e ∉ os := fun e he ↦
    hok e (List.mem_flatMap.mpr ⟨_, he, List.mem_singleton_self _⟩)
  refine (h hos).flatMap fun o ho o' _ hoo' ↦ ?_
  cases hoo' with
  | ok hab => exact hfg _ _ hab fun e he ↦ hok e (List.mem_flatMap.mpr ⟨_, ho, he⟩)

theorem Matched.cut (h : Matched R os os') : Matched R (cut os) (cut os') := by
  intro hok
  have hos := ok_of_cut hok
  have hc := h hos
  rw [cut_of_ok hos, cut_of_ok (ok_of_corresponds hc)]
  exact hc

theorem Matched.map {f : α → γ} {g : β → δ} (h : Matched R os os')
    (hfg : ∀ a b, R a b → S (f a) (g b)) :
    Matched S (os.map (·.map f)) (os'.map (·.map g)) := by
  intro hok
  have hos : ∀ e, .error e ∉ os := fun e he ↦ hok e (List.mem_map.mpr ⟨_, he, rfl⟩)
  refine (h hos).map fun o _ o' _ hoo' ↦ ?_
  cases hoo' with
  | ok hab => exact .ok (hfg _ _ hab)

theorem forall₂_of_both {as : List α} {bs : List β}
    (h : List.Forall₂ (Both R) (as.map .ok) (bs.map .ok)) : List.Forall₂ R as bs := by
  rw [List.forall₂_map_left_iff, List.forall₂_map_right_iff] at h
  refine h.imp fun a b hab ↦ ?_
  cases hab with
  | ok hab => exact hab

theorem Matched.exists_ok {as : List α} (h : Matched R (as.map .ok) os') :
    ∃ bs : List β, os' = bs.map .ok ∧ Corresponds R as bs := by
  have hc := h (by simp)
  obtain ⟨bs, rfl⟩ := exists_eq_map_ok (ok_of_corresponds hc)
  obtain ⟨ps, hps, hp⟩ := hc
  obtain ⟨cs, rfl⟩ := exists_eq_map_ok (ok_of_corresponds (.of_forall₂ hps))
  have hinj : Function.Injective (Except.ok : β → Except Mismatch β) := fun _ _ ↦ Except.ok.inj
  exact ⟨bs, rfl, cs, forall₂_of_both hps, (List.map_perm_map_iff hinj).mp hp⟩

end Outcomes

open Outcomes

def Bindings.Alike (b b' : Bindings) : Prop := Table.Rel Entry.Alike b b'

structure Candidate.Alike (c d : Candidate) : Prop where
  key : c.key.Alike d.key
  value : c.value.Alike d.value
  bindings : Option.Rel Bindings.Alike c.bindings d.bindings

namespace Candidates

variable {m n : Node} {e f : Entry} {cs ds : Candidates} {items items' : Items}

theorem alike_plain (h : e.Alike f) : (plain e).Alike (plain f) := ⟨h.1, h.2, .none⟩

theorem alike_bound (h : e.Alike f) {b b' : Bindings} (hb : b.Alike b') :
    (bound e b).Alike (bound f b') := ⟨h.1, h.2, .some hb⟩

theorem matched_all (h : m.Alike n) (skippable : Bool) :
    Matched Candidate.Alike (all m skippable) (all n skippable) := by
  have hes := h.entries
  unfold all
  generalize m.entries? = es, n.entries? = fs at hes ⊢
  cases hes with
  | none =>
    cases skippable with
    | true => exact .nil
    | false => exact .error _ _ _
  | some hc => exact fun _ ↦ hc.map fun e _ f _ hef ↦ .ok (alike_plain hef)

theorem matched_lookup (h : m.Alike n) {key : Value} (hkey : key.Distinct) (skippable : Bool) :
    Matched Candidate.Alike (lookup m key skippable) (lookup n key skippable) := by
  have he := h.entry hkey rfl rfl
  unfold lookup
  generalize m.entry? key = e, n.entry? key = f at he ⊢
  cases he with
  | none =>
    cases skippable with
    | true => exact .nil
    | false => exact .error _ _ _
  | some hef => exact .single (alike_plain hef)

theorem matched_kept {test : Candidate → Bool} (ht : ∀ c d, c.Alike d → test c = test d)
    (skippable : Bool) (error : Candidate → Mismatch) (h : Matched Candidate.Alike cs ds) :
    Matched Candidate.Alike (cs.filterMap (kept? test skippable error))
      (ds.filterMap (kept? test skippable error)) := by
  rw [filterMap_kept, filterMap_kept]
  refine h.expand fun c d hcd ↦ ?_
  unfold sift
  rw [ht c d hcd]
  cases test d with
  | true => exact .single hcd
  | false =>
    cases skippable with
    | true => exact .nil
    | false => exact .error _ _ _

theorem matched_ofItems (h : e.Alike f) (hi : Matched Bindings.Alike items items') :
    Matched Candidate.Alike (ofItems e items) (ofItems f items') :=
  hi.map fun _ _ hb ↦ alike_bound h hb

theorem keyMatches_alike (regex : Regex) (c d : Candidate) (h : c.Alike d) :
    keyMatches regex c = keyMatches regex d := by
  unfold keyMatches
  rw [h.key.same.str?_eq]

end Candidates

namespace Predicate

theorem respects_of_same {p : Predicate}
    (h : ∀ v w : Value, v.Same w → p.accepts v = p.accepts w) : p.Respects := by
  intro v w hv hw hvw
  exact h v w ((Value.beq_iff_same hv hw).mp hvw)

theorem respects_ofKind (kind : Kind) : (ofKind kind).Respects :=
  respects_of_same fun _ _ h ↦ congrArg (· == kind) h.kind_eq

theorem respects_ofKinds (kinds : List Kind) : (ofKinds kinds).Respects :=
  respects_of_same fun _ _ h ↦ congrArg kinds.contains h.kind_eq

theorem respects_ofText (test : List Char → Bool) : (ofText test).Respects :=
  respects_of_same fun _ _ h ↦ congrArg (Option.any fun s : String ↦ test s.toList) h.str?_eq

end Predicate

theorem Predicate.Respects.accepts_eq {p : Predicate} (hp : p.Respects) {m n : Node}
    (h : m.Alike n) : p.accepts m.toValue = p.accepts n.toValue :=
  hp _ _ h.left h.right h.beq

section

variable {tests : List TypeTest} {m n : Node} {b b' : Bindings} {c d : Candidate}

theorem matched_filterTests (ht : ∀ t ∈ tests, t.predicate.Respects) {cs ds : Candidates}
    (h : Matched Candidate.Alike cs ds) :
    Matched Candidate.Alike (filterTests tests cs) (filterTests tests ds) := by
  induction tests generalizing cs ds with
  | nil => exact h
  | cons t tests ih =>
    have hfirst : t.predicate.Respects := ht t List.mem_cons_self
    have hkept := Candidates.matched_kept (fun c d hcd ↦ hfirst.accepts_eq hcd.value) t.skippable
      (fun c ↦ rejection t.name c.value) h
    exact ih (fun t' ht' ↦ ht t' (List.mem_cons_of_mem _ ht')) hkept

theorem matched_walkTests (ht : ∀ t ∈ tests, t.predicate.Respects) (h : m.Alike n)
    {items items' : Items} (hi : Matched Bindings.Alike items items') :
    Matched Bindings.Alike (walkTests m items tests) (walkTests n items' tests) := by
  induction tests with
  | nil => exact hi
  | cons t tests ih =>
    have hfirst : t.predicate.Respects := ht t List.mem_cons_self
    have hrest := ih fun t' ht' ↦ ht t' (List.mem_cons_of_mem _ ht')
    rw [walkTests, walkTests, hfirst.accepts_eq h]
    split
    · exact hrest
    · cases t.skippable with
      | true => exact .nil
      | false => exact .error _ _ _

theorem alike_capture (hb : b.Alike b') (hc : c.Alike d) (name : String) :
    (capture name b c).Alike (capture name b' d) := hb.put name ⟨hc.key, hc.value⟩

theorem alike_absorb (hb : b.Alike b') (hc : c.Alike d) : (absorb b c).Alike (absorb b' d) := by
  have hin := hc.bindings
  unfold absorb
  generalize c.bindings = i, d.bindings = j at hin ⊢
  cases hin with
  | none => exact hb.putAll .nil
  | some h => exact hb.putAll h

theorem Segment.alike_take (s : Segment) (hb : b.Alike b') (hc : c.Alike d) :
    (s.take b c).Alike (s.take b' d) := by
  have ha := alike_absorb hb hc
  rcases s with t | g
  · cases t with
    | capture name tests => exact alike_capture hb hc name
    | select s tests => exact ha
    | captureSelect name s tests => exact alike_capture ha hc name
  · exact ha

/-- On nodes that are equal up to order the results are the same up to order. -/
def Pattern.Matched (p : Pattern) : Prop :=
  ∀ m n : Node, m.Alike n → Outcomes.Matched Bindings.Alike (p.walk m) (p.walk n)

/-- Segments whose candidates are the same up to order on nodes that are. -/
def Segment.Matched (s : Segment) : Prop :=
  ∀ m n : Node, m.Alike n → Outcomes.Matched Candidate.Alike (s.choices m) (s.choices n)

theorem Segment.matched_walk {ss : List Segment} (hs : ∀ s ∈ ss, s.Matched) (h : m.Alike n)
    (hb : b.Alike b') : Outcomes.Matched Bindings.Alike (walk ss m b) (walk ss n b') := by
  induction ss generalizing m n b b' with
  | nil => exact .single hb
  | cons s ss ih =>
    have hrest := fun s' hs' ↦ hs s' (List.mem_cons_of_mem s hs')
    rw [walk_cons, walk_cons]
    refine ((hs s List.mem_cons_self m n h).expand fun c d hcd ↦ ?_).cut
    exact ih hrest hcd.value (s.alike_take hb hcd)

theorem respects_of_steady (h : ∀ i ∈ testCode tests, i.Steady) :
    ∀ t ∈ tests, t.predicate.Respects := by
  intro t ht
  have hi : t.instr.Steady := h _ (List.mem_map_of_mem ht)
  cases hi with
  | test _ _ hp => exact hp

theorem Selector.matched {s : Selector} (hs : s.instr.Steady)
    (hin : ∀ q ∈ s.inner, (∀ i ∈ q.code, i.Steady) → q.Matched) (h : m.Alike n) :
    Outcomes.Matched Candidate.Alike (s.choices m) (s.choices n) := by
  cases s with
  | literal key skippable => exact Candidates.matched_lookup h (.scalar rfl) skippable
  | param name key skippable =>
    cases hs with
    | param _ _ hkey => exact Candidates.matched_lookup h hkey skippable
  | regex regex skippable =>
    exact Candidates.matched_kept (Candidates.keyMatches_alike regex) _ _
      (Candidates.matched_all h skippable)
  | subtree q skippable =>
    cases hs with
    | keySubtree hcode =>
      have hq : q.Matched := hin q (List.mem_singleton_self q) hcode
      rw [choices_subtree, choices_subtree, Candidates.throughKey_eq, Candidates.throughKey_eq]
      refine (Candidates.matched_all h false).expand fun c d hcd ↦ ?_
      exact Candidates.matched_ofItems ⟨hcd.key, hcd.value⟩ (hq _ _ hcd.key)

theorem Segment.matched {s : Segment} (hs : ∀ i ∈ s.body, i.Steady)
    (hin : ∀ q ∈ s.inner, (∀ i ∈ q.code, i.Steady) → q.Matched) : s.Matched := by
  intro m n h
  rcases s with t | ⟨q, skippable⟩
  · cases t with
    | capture name tests =>
      have ht : ∀ t ∈ tests, t.predicate.Respects :=
        respects_of_steady fun i hi ↦ hs i (by simp [body, Tag.body, hi])
      exact matched_filterTests ht (Candidates.matched_all h false)
    | select s tests | captureSelect name s tests =>
      have ht : ∀ t ∈ tests, t.predicate.Respects :=
        respects_of_steady fun i hi ↦ hs i (by simp [body, Tag.body, hi])
      have hi : s.instr.Steady := hs s.instr (by simp [body, Tag.body])
      exact matched_filterTests ht (Selector.matched hi hin h)
  · have hi := hs (.valueSubtree q.code skippable) (List.mem_singleton_self _)
    cases hi with
    | valueSubtree hcode =>
      have hq : q.Matched := hin q (List.mem_singleton_self q) hcode
      exact Candidates.matched_ofItems ⟨h, h⟩ (hq m n h)

end

theorem Pattern.matched_of_steady (p : Pattern) (hp : ∀ i ∈ p.code, i.Steady) : p.Matched := by
  -- by the nesting of patterns, and inside one pattern along its segments
  induction p using Pattern.of_inner with
  | h p ih =>
    intro m n h
    rw [p.code_eq] at hp
    have htests := respects_of_steady fun i hi ↦ hp i (List.mem_append_left _ hi)
    have hsegments : ∀ s ∈ p.segments, s.Matched := fun s hs ↦ by
      have hbody : ∀ i ∈ s.body, i.Steady := fun i hi ↦ hp i (List.mem_append_right _
        (List.mem_flatMap.mpr ⟨s, hs, List.mem_append_left _ hi⟩))
      exact Segment.matched hbody fun q hq ↦ ih q (mem_inner hs hq)
    rw [walk_eq, walk_eq]
    exact matched_walkTests htests h (Segment.matched_walk hsegments h .nil)

/-- The same names, in the same order, with equal keys and equal values. -/
def Bindings.Equal (b b' : Bindings) : Prop := Table.Rel (fun e f ↦ e.1 == f.1 ∧ e.2 == f.2) b b'

theorem Bindings.Alike.equal {b b' : Bindings} (h : b.Alike b') : b.Equal b' :=
  List.Forall₂.imp (fun _ _ he ↦ ⟨he.1, he.2.1.beq, he.2.2.beq⟩) h

/-- Matching sees a tree up to the order of its mappings and sets: where a match has no error on one
of two equal nodes it has none on the other, and the bindings correspond one to one. -/
theorem Compiled.results_reordered (c : Compiled) (hc : ∀ i ∈ c.code, i.Steady) {r r' : Node}
    (hr : r.toValue.Distinct) (hr' : r'.toValue.Distinct) (h : r == r') {bs : List Bindings}
    (hrun : (Results.ofCode c.code r).toList = .ok (bs.map .ok)) :
    ∃ bs' : List Bindings, (Results.ofCode c.code r').toList = .ok (bs'.map .ok) ∧
      Corresponds Bindings.Equal bs bs' := by
  have hwalk : c.pattern.walk r = bs.map .ok :=
    Except.ok.inj ((c.pattern.runs.toList r).symm.trans hrun)
  have hm := c.pattern.matched_of_steady hc r r' (Node.alike_of_beq hr hr' h)
  rw [hwalk] at hm
  obtain ⟨bs', hbs', hcorr⟩ := hm.exists_ok
  refine ⟨bs', ?_, hcorr.imp fun _ _ _ _ ↦ Bindings.Alike.equal⟩
  rw [← hbs']
  exact c.pattern.runs.toList r'

def Node.ofNumbers (entries : List (String × Int64)) : Node :=
  .stored (.ofEntries (entries.map fun e ↦ (.str e.1, .int e.2)))

theorem Node.distinct_ofNumbers (entries : List (String × Int64)) :
    (ofNumbers entries).toValue.Distinct := by
  refine Value.distinct_ofEntries fun e he ↦ ?_
  obtain ⟨_, _, rfl⟩ := List.mem_map.mp he
  exact ⟨.scalar rfl, .scalar rfl⟩

theorem Compiled.results_reordered_swap :
    ∃ (c : Compiled) (bs : List Bindings), (∀ i ∈ c.code, i.Steady) ∧
      (Node.ofNumbers [("a", 1), ("b", 2)]).toValue.Distinct ∧
      (Node.ofNumbers [("b", 2), ("a", 1)]).toValue.Distinct ∧
      (Node.ofNumbers [("a", 1), ("b", 2)] == .ofNumbers [("b", 2), ("a", 1)]) = true ∧
      (Results.ofCode c.code (.ofNumbers [("a", 1), ("b", 2)])).toList = .ok (bs.map .ok) ∧
      bs.length = 2 ∧
      ∃ bs' : List Bindings,
        (Results.ofCode c.code (.ofNumbers [("b", 2), ("a", 1)])).toList = .ok (bs'.map .ok) ∧
        Corresponds Bindings.Equal bs bs' := by
  let c : Compiled := ⟨"->X:$int", .mk [] [.capture "X" [⟨"int", .ofKind .int, false⟩]] [], .empty⟩
  have hc : ∀ i ∈ c.code, i.Steady := by
    have htest : (testCode [⟨"int", .ofKind .int, false⟩]).Forall Instr.Steady :=
      .test _ _ (Predicate.respects_ofKind _)
    exact List.forall_iff_forall_mem.mp ⟨.arrow, .ident _, htest, .close⟩
  have h : (Node.ofNumbers [("a", 1), ("b", 2)] == .ofNumbers [("b", 2), ("a", 1)]) = true := rfl
  have hrun : (Results.ofCode c.code (.ofNumbers [("a", 1), ("b", 2)])).toList =
      .ok (List.map .ok [[("X", .stored (.str "a"), .stored (.int 1))],
        [("X", .stored (.str "b"), .stored (.int 2))]]) := rfl
  have hr := Node.distinct_ofNumbers [("a", 1), ("b", 2)]
  have hr' := Node.distinct_ofNumbers [("b", 2), ("a", 1)]
  exact ⟨c, _, hc, hr, hr', h, hrun, rfl, c.results_reordered hc hr hr' h hrun⟩

end TreePattern
