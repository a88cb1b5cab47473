import TreePattern.Proofs.Matching.Choices
import TreePattern.Proofs.Pattern.Nesting

namespace TreePattern

inductive Segment
  | tag (t : Tag)
  | group (g : Group)

/-- The instructions of a tag before its `close`. -/
def Tag.body : Tag → List Instr
  | .capture name tests => .arrow :: .ident name :: testCode tests
  | .select s tests => .arrow :: s.instr :: testCode tests
  | .captureSelect name s tests => .arrow :: .ident name :: s.instr :: testCode tests

def Tag.choices : Tag → Node → Candidates
  | .capture _ tests, n => filterTests tests (.all n false)
  | .select s tests, n | .captureSelect _ s tests, n => filterTests tests (s.choices n)

def Tag.take : Tag → Bindings → Candidate → Bindings
  | .capture name _, b, c => TreePattern.capture name b c
  | .select _ _, b, c => absorb b c
  | .captureSelect name _ _, b, c => TreePattern.capture name (absorb b c) c

def Tag.selector? : Tag → Option Selector
  | .capture _ _ => none
  | .select s _ | .captureSelect _ s _ => some s

def Tag.tests : Tag → List TypeTest
  | .capture _ tests | .select _ tests | .captureSelect _ _ tests => tests

theorem Tag.choices_of_selector {t : Tag} {s : Selector} (h : t.selector? = some s) (n : Node) :
    t.choices n = filterTests t.tests (s.choices n) := by
  cases t with
  | capture => cases h
  | select | captureSelect =>
    obtain rfl := Option.some.inj h
    rfl

theorem Tag.mem_body_of_selector {t : Tag} {s : Selector} (h : t.selector? = some s) :
    s.instr ∈ t.body ∧ ∀ i ∈ testCode t.tests, i ∈ t.body := by
  cases t with
  | capture => cases h
  | select s tests =>
    obtain rfl := Option.some.inj h
    have htests (i : Instr) (hi : i ∈ testCode tests) : i ∈ [.arrow, s.instr] ++ testCode tests :=
      List.mem_append_right _ hi
    exact ⟨by simp [body], htests⟩
  | captureSelect name s tests =>
    obtain rfl := Option.some.inj h
    have htests (i : Instr) (hi : i ∈ testCode tests) :
        i ∈ [.arrow, .ident name, s.instr] ++ testCode tests := List.mem_append_right _ hi
    exact ⟨by simp [body], htests⟩

namespace Segment

/-- The instructions of a segment before its `close`. -/
def body : Segment → List Instr
  | tag t => t.body
  | group (.mk p skippable) => [.valueSubtree p.code skippable]

def code (s : Segment) : List Instr := s.body ++ [.close]

theorem code_tag (t : Tag) : (tag t).code = t.code := by
  cases t <;> simp [Tag.code, code, body, Tag.body]

theorem code_group (g : Group) : (group g).code = g.code := by
  cases g
  rfl

def choices : Segment → Node → Candidates
  | tag t, n => t.choices n
  | group (.mk p skippable), n => .ofGroup n (p.walk n) skippable

def take : Segment → Bindings → Candidate → Bindings
  | tag t, b, c => t.take b c
  | group _, b, c => absorb b c

def inner : Segment → List Pattern
  | tag t => t.inner
  | group g => g.inner

/-- The results of following segments from a node with some bindings. -/
def walk : List Segment → Node → Bindings → Items
  | [], _, b => [.ok b]
  | s :: ss, n, b => .ofEach (fun c ↦ walk ss c.value (s.take b c)) (s.choices n)

end Segment

namespace Items

theorem andThen_assoc (a b c : Items) : (a.andThen b).andThen c = a.andThen (b.andThen c) := by
  induction a with
  | nil => rfl
  | cons i a ih => cases i <;> simp [andThen, ih]

theorem ofEach_congr {f g : Candidate → Items} {cs : Candidates}
    (h : ∀ c, .ok c ∈ cs → f c = g c) : ofEach f cs = ofEach g cs := by
  induction cs with
  | nil => rfl
  | cons i cs ih =>
    cases i with
    | error e => rfl
    | ok c =>
      rw [ofEach, ofEach, h c List.mem_cons_self, ih fun d hd ↦ h d (List.mem_cons_of_mem _ hd)]

/-- No result comes after an error. -/
def Stops : Items → Prop
  | [] => True
  | .ok _ :: items => Stops items
  | .error _ :: items => items = []

theorem Stops.andThen {a b : Items} (ha : a.Stops) (hb : b.Stops) : (a.andThen b).Stops := by
  induction a with
  | nil => exact hb
  | cons i a ih =>
    cases i with
    | ok => exact ih ha
    | error => rfl

theorem Stops.andThen_nil {a : Items} (ha : a.Stops) : a.andThen [] = a := by
  induction a with
  | nil => rfl
  | cons i a ih =>
    cases i with
    | ok b => rw [Items.andThen, ih ha]
    | error e =>
      obtain rfl : a = [] := ha
      rfl

theorem Stops.eq_last {items : Items} (h : items.Stops) {k : Nat} {e : Mismatch}
    (hk : items[k]? = some (.error e)) : k + 1 = items.length := by
  induction items generalizing k with
  | nil => simp at hk
  | cons i items ih =>
    cases i with
    | ok b =>
      cases k with
      | zero => simp at hk
      | succ k => rw [List.length_cons, ih h hk]
    | error e' =>
      obtain rfl : items = [] := h
      cases k with
      | zero => rfl
      | succ k => simp at hk

theorem stops_ofEach {f : Candidate → Items} (hf : ∀ c, (f c).Stops) (cs : Candidates) :
    (ofEach f cs).Stops := by
  induction cs with
  | nil => trivial
  | cons i cs ih =>
    cases i with
    | ok c => exact (hf c).andThen ih
    | error => rfl

end Items

theorem Segment.stops_walk (ss : List Segment) (n : Node) (b : Bindings) :
    (walk ss n b).Stops := by
  induction ss generalizing n b with
  | nil => trivial
  | cons s ss ih => exact Items.stops_ofEach (fun c ↦ ih c.value (s.take b c)) _

theorem stops_walkTests {n : Node} {next : Items} (h : next.Stops) (tests : List TypeTest) :
    (walkTests n next tests).Stops := by
  induction tests with
  | nil => exact h
  | cons t tests ih =>
    rw [walkTests]
    split
    · exact ih
    · cases t.skippable
      · rfl
      · trivial

theorem Selector.choices_subtree (q : Pattern) (skippable : Bool) (n : Node) :
    (Selector.subtree q skippable).choices n =
      (Candidates.all n skippable).flatMap (Candidates.throughKey q.walk skippable) := by
  rw [Selector.choices]
  congr 1

theorem Tag.walk_eq (t : Tag) (n : Node) (b : Bindings) (next : Node → Bindings → Items) :
    t.walk n b next = .ofEach (fun c ↦ next c.value (t.take b c)) (t.choices n) := by
  cases t <;> rw [Tag.walk] <;> rfl

namespace Pattern

def tests : Pattern → List TypeTest
  | .mk tests _ _ => tests

def segments : Pattern → List Segment
  | .mk _ tags groups => tags.map .tag ++ groups.map .group

theorem mem_inner {p : Pattern} {s : Segment} (hs : s ∈ p.segments) {q : Pattern}
    (hq : q ∈ s.inner) : q ∈ p.inner := by
  rcases p with ⟨tests, tags, groups⟩
  rcases List.mem_append.mp hs with hs | hs
  · obtain ⟨t, ht, rfl⟩ := List.mem_map.mp hs
    exact List.mem_append_left _ (List.mem_flatMap.mpr ⟨t, ht, hq⟩)
  · obtain ⟨g, hg, rfl⟩ := List.mem_map.mp hs
    exact List.mem_append_right _ (List.mem_flatMap.mpr ⟨g, hg, hq⟩)

theorem code_eq (p : Pattern) : p.code = testCode p.tests ++ p.segments.flatMap Segment.code := by
  rcases p with ⟨tests, tags, groups⟩
  simp only [Pattern.code, tagCode_eq_flatMap, groupCode_eq_flatMap, Pattern.tests, segments,
    List.flatMap_append, List.flatMap_map, Segment.code_tag, Segment.code_group, List.append_assoc]

theorem walkGroups_eq (groups : List Group) (n : Node) (b : Bindings) :
    walkGroups groups n b = Segment.walk (groups.map .group) n b := by
  induction groups generalizing b with
  | nil => rfl
  | cons g groups ih =>
    cases g with
    | mk p skippable =>
      rw [walkGroups, Group.walk]
      refine Items.ofEach_congr fun c hc ↦ ?_
      rw [ih, Candidates.mem_ofGroup hc]
      rfl

theorem walkTags_eq (tags : List Tag) (groups : List Group) (n : Node) (b : Bindings) :
    walkTags tags n b (walkGroups groups) =
      Segment.walk (tags.map .tag ++ groups.map .group) n b := by
  induction tags generalizing n b with
  | nil => exact walkGroups_eq groups n b
  | cons t tags ih =>
    rw [walkTags, Tag.walk_eq]
    exact Items.ofEach_congr fun c _ ↦ ih c.value (t.take b c)

theorem walk_eq (p : Pattern) (n : Node) :
    p.walk n = walkTests n (Segment.walk p.segments n []) p.tests := by
  cases p
  rw [Pattern.walk, walkTags_eq]
  rfl

theorem stops_walk (p : Pattern) (n : Node) : (p.walk n).Stops := by
  rw [p.walk_eq]
  exact stops_walkTests (Segment.stops_walk _ n []) _

end Pattern

end TreePattern
