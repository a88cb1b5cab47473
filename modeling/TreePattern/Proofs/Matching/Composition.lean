import TreePattern.Proofs.Matching.Meaning
import TreePattern.Proofs.Matching.Outcomes
import TreePattern.Proofs.Pattern.Concatenation
import TreePattern.Proofs.Table

namespace TreePattern

open Outcomes

abbrev Arrival := Node × Bindings

def Tag.name? : Tag → Option String
  | .capture name _ | .captureSelect name _ _ => some name
  | .select _ _ => none

theorem Tag.get?_take {t : Tag} {name : String} (h : t.name? = some name) (b : Bindings)
    (c : Candidate) : Table.get? (t.take b c) name = some (c.key, c.value) := by
  cases t with
  | capture | captureSelect =>
    obtain rfl := Option.some.inj h
    exact Table.get?_put_self _ _ _
  | select => cases h

namespace Segment

/-- The matches of segments with the values they end at: a segment goes on from each value it
chooses, which for a group is the value it is matched against. -/
def arrivals : List Segment → Node → Bindings → Outcomes Arrival
  | [], n, b => [.ok (n, b)]
  | s :: ss, n, b => cut (expand (fun c ↦ arrivals ss c.value (s.take b c)) (s.choices n))

variable {ss ss' : List Segment} {n : Node} {b m : Bindings}

theorem cut_arrivals (ss : List Segment) (n : Node) (b : Bindings) :
    cut (arrivals ss n b) = arrivals ss n b := by
  cases ss with
  | nil => rfl
  | cons s ss => exact cut_cut _

theorem walk_eq_arrivals (ss : List Segment) (n : Node) (b : Bindings) :
    walk ss n b = (arrivals ss n b).map (·.map Prod.snd) := by
  induction ss generalizing n b with
  | nil => rfl
  | cons s ss ih =>
    rw [walk_cons, arrivals, map_cut, map_expand]
    congr 2
    funext c
    exact ih c.value (s.take b c)

theorem arrivals_append (ss ss' : List Segment) (n : Node) (b : Bindings) :
    arrivals (ss ++ ss') n b =
      cut (expand (fun a ↦ arrivals ss' a.1 a.2) (arrivals ss n b)) := by
  induction ss generalizing n b with
  | nil =>
    have h : expand (fun a ↦ arrivals ss' a.1 a.2) (arrivals [] n b) = arrivals ss' n b :=
      List.append_nil _
    rw [h, cut_arrivals]
    rfl
  | cons s ss ih =>
    let go (c : Candidate) := arrivals ss c.value (s.take b c)
    let go' (a : Arrival) := arrivals ss' a.1 a.2
    have hc (c : Candidate) : cut (arrivals (ss ++ ss') c.value (s.take b c)) =
        cut (expand go' (go c)) := by
      rw [ih, cut_cut]
    calc arrivals (s :: ss ++ ss') n b
        = cut (expand (fun c ↦ expand go' (go c)) (s.choices n)) :=
          cut_expand_of_cut fun c _ ↦ hc c
      _ = cut (expand go' (expand go (s.choices n))) := by rw [expand_expand]
      _ = cut (expand go' (arrivals (s :: ss) n b)) := (cut_expand_cut _ _).symm

theorem nodup_take (s : Segment) (hb : (Table.keys b).Nodup) (c : Candidate) :
    (Table.keys (s.take b c)).Nodup := by
  have ha : (Table.keys (absorb b c)).Nodup := Table.nodup_keys_putAll hb _
  rcases s with t | g
  · cases t with
    | capture name tests => exact Table.nodup_keys_put hb _ _
    | select s tests => exact ha
    | captureSelect name s tests => exact Table.nodup_keys_put ha _ _
  · exact ha

theorem take_overwrite (s : Segment) (hm : (Table.keys m).Nodup) (b : Bindings) (c : Candidate) :
    s.take (b.overwrite m) c = b.overwrite (s.take m c) := by
  have ha : absorb (b.overwrite m) c = b.overwrite (absorb m c) :=
    (Table.putAll_putAll hm b _).symm
  rcases s with t | g
  · cases t with
    | capture name tests => exact (Table.putAll_put hm b name _).symm
    | select s tests => exact ha
    | captureSelect name s tests =>
      have hn : (Table.keys (absorb m c)).Nodup := Table.nodup_keys_putAll hm _
      calc capture name (absorb (b.overwrite m) c) c
          = capture name (b.overwrite (absorb m c)) c := by rw [ha]
        _ = b.overwrite (capture name (absorb m c) c) := (Table.putAll_put hn b name _).symm
  · exact ha

theorem walk_overwrite (ss : List Segment) (hm : (Table.keys m).Nodup) (n : Node) (b : Bindings) :
    walk ss n (b.overwrite m) = (walk ss n m).map (·.map b.overwrite) := by
  induction ss generalizing n m with
  | nil => rfl
  | cons s ss ih =>
    rw [walk_cons, walk_cons, map_cut, map_expand]
    congr 2
    funext c
    rw [s.take_overwrite hm, ih (s.nodup_take hm c)]

theorem walk_eq_overwrite (ss : List Segment) (n : Node) (b : Bindings) :
    walk ss n b = (walk ss n []).map (·.map b.overwrite) := by
  have h : (Table.keys ([] : Bindings)).Nodup := List.Pairwise.nil
  exact walk_overwrite ss h n b

end Segment

theorem walkTests_eq (n : Node) (items : Items) (tests : List TypeTest) :
    walkTests n items tests = expand (fun _ ↦ items) (walkTests n [.ok []] tests) := by
  induction tests with
  | nil => exact (List.append_nil _).symm
  | cons t tests ih =>
    rw [walkTests, walkTests]
    split
    · exact ih
    · cases t.skippable <;> rfl

namespace Pattern

def path : Pattern → List Tag
  | .mk _ tags _ => tags

/-- The results of a pattern with the values that its path ended at. -/
def arrivals (p : Pattern) (n : Node) : Outcomes Arrival :=
  cut (expand (fun _ ↦ Segment.arrivals p.segments n []) (walkTests n [.ok []] p.tests))

variable {p q : Pattern} {n : Node}

theorem cut_arrivals (p : Pattern) (n : Node) : cut (p.arrivals n) = p.arrivals n := cut_cut _

theorem walk_eq_arrivals (p : Pattern) (n : Node) :
    p.walk n = (p.arrivals n).map (·.map Prod.snd) := by
  have h : p.walk n =
      expand (fun _ ↦ Segment.walk p.segments n []) (walkTests n [.ok []] p.tests) :=
    (p.walk_eq n).trans (walkTests_eq n _ p.tests)
  rw [← (p.stops_walk n).cut_eq, h, arrivals, map_cut, map_expand]
  congr 2
  funext _
  exact Segment.walk_eq_arrivals p.segments n []

/-- More segments behind those of a pattern start wherever it arrives. -/
theorem walk_of_segments_append {r : Pattern} {ss : List Segment} (ht : r.tests = p.tests)
    (hs : r.segments = p.segments ++ ss) (n : Node) :
    r.walk n = cut (expand (fun a ↦ Segment.walk ss a.1 a.2) (p.arrivals n)) := by
  have h : r.arrivals n = cut (expand (fun a ↦ Segment.arrivals ss a.1 a.2) (p.arrivals n)) := by
    rw [arrivals, arrivals, ht, hs, cut_expand_cut, expand_expand]
    refine cut_expand_of_cut fun _ _ ↦ ?_
    rw [Segment.cut_arrivals, Segment.arrivals_append]
  rw [walk_eq_arrivals, h, map_cut, map_expand]
  congr 2
  funext a
  exact (Segment.walk_eq_arrivals ss a.1 a.2).symm

theorem arrival_captured {ss : List Segment} {t : Tag} {name : String}
    (hs : p.segments = ss ++ [.tag t]) (hn : t.name? = some name) {a : Arrival}
    (ha : .ok a ∈ p.arrivals n) : ∃ k, Table.get? a.2 name = some (k, a.1) := by
  obtain ⟨_, _, ha⟩ := mem_expand (mem_of_mem_cut ha)
  rw [hs, Segment.arrivals_append] at ha
  obtain ⟨⟨v, b⟩, _, ha⟩ := mem_expand (mem_of_mem_cut ha)
  obtain ⟨c, _, ha⟩ := mem_expand (mem_of_mem_cut ha)
  obtain rfl := Except.ok.inj (List.mem_singleton.mp ha)
  exact ⟨c.key, t.get?_take hn b c⟩

end Pattern

namespace Bindings

/-- Bindings gone on with from the value under a name: what is found there is put over them. -/
def goOn (name : String) (found : Node → Items) (b : Bindings) : Items :=
  match Table.get? b name with
  | some e => (found e.2).map (·.map b.overwrite)
  | none => []

end Bindings

namespace Compiled

variable {d : Definitions} {source source' : String} {p q : Compiled} {tests : List TypeTest}
  {tags tags' : List Tag} {groups : List Group}

/-- A path goes on: behind a path that ends in a capture, a pattern without tests of its root is
matched at each value captured, and its bindings are put over those of the path. -/
theorem results_append {t : Tag} {name : String}
    (hp : compile d source = .ok p) (hq : compile d source' = .ok q)
    (hpath : p.pattern = .mk tests (tags ++ [t]) []) (hname : t.name? = some name)
    (hrest : q.pattern = .mk [] tags' groups) :
    ∃ r, compile d (source ++ source') = .ok r ∧ r.code = p.code ++ q.code ∧
      ∃ found : Node → Items, (∀ n, (Results.ofCode q.code n).toList = .ok (found n)) ∧
        ∀ root, ∃ items : Items, p.results root = .ok items ∧
          (∀ b, .ok b ∈ items → ∃ e, Table.get? b name = some e) ∧
          (∀ b m : Bindings, Table.keys b <+: Table.keys (b.overwrite m)) ∧
          r.results root = .ok (cut (expand (Bindings.goOn name found) items)) := by
  obtain ⟨r, hr, hrp⟩ := compile_append hp hq hpath hrest
  have hps : p.pattern.segments = tags.map .tag ++ [.tag t] := by simp [hpath, Pattern.segments]
  have hrs : r.pattern.segments = p.pattern.segments ++ q.pattern.segments := by
    simp [hrp, hpath, hrest, Pattern.segments]
  have hrt : r.pattern.tests = p.pattern.tests := by rw [hrp, hpath]; rfl
  have hqt : q.pattern.tests = [] := by rw [hrest]; rfl
  have hcode : r.code = p.code ++ q.code := by
    rw [code, code, code, Pattern.code_eq, Pattern.code_eq, Pattern.code_eq, hrt, hrs, hqt,
      List.flatMap_append, List.append_assoc]
    rfl
  refine ⟨r, hr, hcode, q.pattern.walk, q.pattern.runs.toList, fun root ↦
    ⟨_, p.pattern.runs.toList _, fun b hb ↦ ?_, Table.keys_prefix_putAll, ?_⟩⟩
  · rw [Pattern.walk_eq_arrivals] at hb
    obtain ⟨o, ho, hb⟩ := List.mem_map.mp hb
    cases o with
    | error e => cases hb
    | ok a =>
      obtain rfl := Except.ok.inj hb
      obtain ⟨k, hk⟩ := Pattern.arrival_captured hps hname ho
      exact ⟨_, hk⟩
  · refine (r.pattern.runs.toList _).trans (congrArg _ ?_)
    rw [Pattern.walk_of_segments_append hrt hrs, Pattern.walk_eq_arrivals p.pattern, expand_map]
    refine cut_expand_of_cut fun a ha ↦ congrArg cut ?_
    obtain ⟨k, hk⟩ := Pattern.arrival_captured hps hname ha
    have hw : q.pattern.walk a.1 = Segment.walk q.pattern.segments a.1 [] := by
      rw [Pattern.walk_eq, hqt]
      rfl
    rw [Segment.walk_eq_overwrite, ← hw, Function.comp_apply, Bindings.goOn, hk]

def capturing (name : String) : Compiled := ⟨"->" ++ name, .mk [] [.capture name []] [], .empty⟩

theorem results_append_captures :
    compile .empty "->X" = .ok (capturing "X") ∧ compile .empty "->Y" = .ok (capturing "Y") ∧
      ∃ r, compile .empty ("->X" ++ "->Y") = .ok r ∧
        r.code = (capturing "X").code ++ (capturing "Y").code ∧
        ∃ found : Node → Items,
          (∀ n, (Results.ofCode (capturing "Y").code n).toList = .ok (found n)) ∧
          ∀ root, ∃ items : Items, (capturing "X").results root = .ok items ∧
            (∀ b, .ok b ∈ items → ∃ e, Table.get? b "X" = some e) ∧
            (∀ b m : Bindings, Table.keys b <+: Table.keys (b.overwrite m)) ∧
            r.results root = .ok (cut (expand (Bindings.goOn "X" found) items)) := by
  have hp : compile .empty "->X" = .ok (capturing "X") := rfl
  have hq : compile .empty "->Y" = .ok (capturing "Y") := rfl
  have hpath : (capturing "X").pattern = .mk [] ([] ++ [.capture "X" []]) [] := rfl
  exact ⟨hp, hq, results_append hp hq hpath rfl rfl⟩

end Compiled

end TreePattern
