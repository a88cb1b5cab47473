import TreePattern.Proofs.Matching.Composition
import TreePattern.Proofs.Matching.Requests

namespace TreePattern

open Outcomes

mutual

def Selector.captures : Selector → List String
  | .subtree pattern _ => pattern.captures
  | .literal _ _ | .regex _ _ | .param _ _ _ => []
termination_by structural s => s

/-- The names of a key subtree, then the own name. -/
def Tag.captures : Tag → List String
  | .capture name _ => [name]
  | .select selector _ => selector.captures
  | .captureSelect name selector _ => selector.captures ++ [name]
termination_by structural t => t

def tagCaptures : List Tag → List String
  | [] => []
  | t :: ts => t.captures ++ tagCaptures ts
termination_by structural ts => ts

def Group.captures : Group → List String
  | .mk pattern _ => pattern.captures
termination_by structural g => g

def groupCaptures : List Group → List String
  | [] => []
  | g :: gs => g.captures ++ groupCaptures gs
termination_by structural gs => gs

def Pattern.captures : Pattern → List String
  | .mk _ tags groups => (tagCaptures tags ++ groupCaptures groups).eraseDups
termination_by structural p => p

end

mutual

def Selector.prunings : Selector → List Selector
  | .literal key skippable => [.literal key skippable]
  | .regex regex skippable => [.regex regex skippable]
  | .param name key skippable => [.param name key skippable]
  | .subtree pattern skippable => pattern.prunings.map fun q ↦ .subtree q skippable
termination_by structural s => s

def Tag.prunings : Tag → List Tag
  | .capture name tests => [.capture name tests]
  | .select selector tests => selector.prunings.map fun s ↦ .select s tests
  | .captureSelect name selector tests => selector.prunings.map fun s ↦ .captureSelect name s tests
termination_by structural t => t

def tagPrunings : List Tag → List (List Tag)
  | [] => [[]]
  | t :: ts => t.prunings.flatMap fun t' ↦ (tagPrunings ts).map fun ts' ↦ t' :: ts'
termination_by structural ts => ts

/-- A group that is kept, or nothing in the place of a skippable one. -/
def Group.prunings : Group → List (List Group)
  | .mk pattern skippable =>
    (if skippable then [[]] else []) ++ pattern.prunings.map fun q ↦ [.mk q skippable]
termination_by structural g => g

def groupPrunings : List Group → List (List Group)
  | [] => [[]]
  | g :: gs => g.prunings.flatMap fun kept ↦ (groupPrunings gs).map fun gs' ↦ kept ++ gs'
termination_by structural gs => gs

/-- What a pattern becomes when some of its skippable groups are left out, at any depth. -/
def Pattern.prunings : Pattern → List Pattern
  | .mk tests tags groups =>
    (tagPrunings tags).flatMap fun ts ↦ (groupPrunings groups).map fun gs ↦ .mk tests ts gs
termination_by structural p => p

end

inductive Pattern.GroupsRequired : Pattern → Prop
  | mk {tests : List TypeTest} {tags : List Tag} {groups : List Group} :
    (∀ q skippable, .mk q skippable ∈ groups → skippable = false) →
      (∀ q ∈ (Pattern.mk tests tags groups).inner, q.GroupsRequired) →
      GroupsRequired (.mk tests tags groups)

theorem Selector.prunings_eq {s : Selector} (h : ∀ q ∈ s.inner, q.prunings = [q]) :
    s.prunings = [s] := by
  cases s with
  | literal | regex | param => rfl
  | subtree q skippable => rw [prunings, h q (List.mem_singleton_self q), List.map_singleton]

theorem Tag.prunings_eq {t : Tag} (h : ∀ q ∈ t.inner, q.prunings = [q]) : t.prunings = [t] := by
  cases t with
  | capture => rfl
  | select s | captureSelect _ s => rw [prunings, Selector.prunings_eq h, List.map_singleton]

theorem tagPrunings_eq {tags : List Tag} (h : ∀ q ∈ tags.flatMap Tag.inner, q.prunings = [q]) :
    tagPrunings tags = [tags] := by
  induction tags with
  | nil => rfl
  | cons t tags ih =>
    rw [tagPrunings, Tag.prunings_eq fun q hq ↦ h q (List.mem_append_left _ hq),
      ih fun q hq ↦ h q (List.mem_append_right _ hq)]
    rfl

theorem groupPrunings_eq {groups : List Group}
    (hr : ∀ q skippable, .mk q skippable ∈ groups → skippable = false)
    (h : ∀ q ∈ groups.flatMap Group.inner, q.prunings = [q]) : groupPrunings groups = [groups] := by
  induction groups with
  | nil => rfl
  | cons g groups ih =>
    obtain ⟨q, skippable⟩ := g
    obtain rfl : skippable = false := hr q skippable List.mem_cons_self
    rw [groupPrunings, Group.prunings,
      h q (List.mem_append_left _ (List.mem_singleton_self q)),
      ih (fun q skippable hq ↦ hr q skippable (List.mem_cons_of_mem _ hq))
        fun q hq ↦ h q (List.mem_append_right _ hq)]
    rfl

theorem Pattern.prunings_eq (p : Pattern) : p.GroupsRequired → p.prunings = [p] := by
  induction p using Pattern.of_inner with
  | h p ih =>
    rintro ⟨hr, hinner⟩
    have hall (q : Pattern) (hq : q ∈ _) : q.prunings = [q] := ih q hq (hinner q hq)
    rw [prunings, tagPrunings_eq fun q hq ↦ hall q (List.mem_append_left _ hq),
      groupPrunings_eq hr fun q hq ↦ hall q (List.mem_append_right _ hq)]
    rfl

namespace Candidates

variable {c : Candidate} {e : Entry} {items : Items} {m : Bindings}

theorem mem_of_mem_valid (h : m ∈ valid items) : .ok m ∈ items := by
  induction items with
  | nil => cases h
  | cons i items ih =>
    cases i with
    | error e => cases h
    | ok b =>
      rcases List.mem_cons.mp h with rfl | h
      · exact List.mem_cons_self
      · exact List.mem_cons_of_mem _ (ih h)

theorem bindings_of_ofItems (h : .ok c ∈ ofItems e items) :
    ∃ m, .ok m ∈ items ∧ c.bindings = some m := by
  obtain ⟨i, hi, hc⟩ := List.mem_map.mp h
  cases i with
  | error e => cases hc
  | ok m =>
    obtain rfl := Except.ok.inj hc
    exact ⟨m, hi, rfl⟩

theorem bindings_of_ofValid (h : .ok c ∈ ofValid e items) :
    ∃ m, .ok m ∈ items ∧ c.bindings = some m := by
  obtain ⟨m, hm, hc⟩ := List.mem_map.mp h
  obtain rfl := Except.ok.inj hc
  exact ⟨m, mem_of_mem_valid hm, rfl⟩

theorem bindings_of_ofKey {d : Candidate} {skippable : Bool} (h : .ok c ∈ ofKey d items skippable) :
    ∃ m, .ok m ∈ items ∧ c.bindings = some m := by
  cases skippable with
  | false => exact bindings_of_ofItems h
  | true => exact bindings_of_ofValid h

theorem bindings_of_ofGroup {n : Node} {skippable : Bool}
    (h : .ok c ∈ ofGroup n items skippable) :
    (∃ m, .ok m ∈ items ∧ c.bindings = some m) ∨ skippable = true ∧ c.bindings = some [] := by
  cases skippable with
  | false => exact .inl (bindings_of_ofItems h)
  | true =>
    rw [ofGroup, if_pos rfl] at h
    split at h
    · obtain rfl := Except.ok.inj (List.mem_singleton.mp h)
      exact .inr ⟨rfl, rfl⟩
    · exact .inl (bindings_of_ofValid h)

end Candidates

/-- Every match of a pattern binds the names of what is left of it when some of its skippable groups
are left out. -/
def Pattern.BindsCaptures (p : Pattern) : Prop :=
  ∀ n b, .ok b ∈ p.walk n → ∃ q ∈ p.prunings, Table.keys b = q.captures

section

variable {n : Node} {c : Candidate} {b b' : Bindings}

theorem Selector.keys_choices {s : Selector} (hs : ∀ q ∈ s.inner, q.BindsCaptures)
    (h : .ok c ∈ s.choices n) :
    ∃ s' ∈ s.prunings, Table.keys (c.bindings.getD []) = s'.captures := by
  cases s with
  | literal | param =>
    rw [choices] at h
    rw [(Candidates.mem_lookup h).1]
    exact ⟨_, List.mem_singleton_self _, rfl⟩
  | regex =>
    rw [choices] at h
    rw [(Candidates.mem_all (Candidates.mem_filterMap_kept h)).1]
    exact ⟨_, List.mem_singleton_self _, rfl⟩
  | subtree q skippable =>
    rw [choices_subtree, Candidates.throughKey_eq] at h
    obtain ⟨d, _, hc⟩ := mem_expand h
    obtain ⟨m, hm, hbound⟩ := Candidates.bindings_of_ofKey hc
    obtain ⟨q', hq', hkeys⟩ := hs q (List.mem_singleton_self q) _ _ hm
    rw [hbound]
    exact ⟨.subtree q' skippable, List.mem_map_of_mem hq', hkeys⟩

theorem keys_absorb (hb : (Table.keys b).Nodup) (c : Candidate) :
    Table.keys (absorb b c) = (Table.keys b ++ Table.keys (c.bindings.getD [])).eraseDups :=
  Table.keys_putAll hb _

/-- A tag adds its names to those that are bound. -/
theorem Tag.keys_take {t : Tag} (ht : ∀ q ∈ t.inner, q.BindsCaptures)
    (hb : (Table.keys b).Nodup) (h : .ok c ∈ t.choices n) :
    ∃ t' ∈ t.prunings, Table.keys (t.take b c) = (Table.keys b ++ t'.captures).eraseDups := by
  cases t with
  | capture name tests => exact ⟨_, List.mem_singleton_self _, Table.keys_put hb name _⟩
  | select s tests =>
    obtain ⟨s', hs', hkeys⟩ := Selector.keys_choices ht (Candidates.mem_filterTests h)
    refine ⟨.select s' tests, List.mem_map_of_mem hs', ?_⟩
    rw [take, keys_absorb hb, hkeys, captures]
  | captureSelect name s tests =>
    obtain ⟨s', hs', hkeys⟩ := Selector.keys_choices ht (Candidates.mem_filterTests h)
    have ha : (Table.keys (absorb b c)).Nodup := Table.nodup_keys_putAll hb _
    refine ⟨.captureSelect name s' tests, List.mem_map_of_mem hs', ?_⟩
    rw [take, TreePattern.capture, Table.keys_put ha, keys_absorb hb, hkeys,
      Table.eraseDups_eraseDups_append, captures, List.append_assoc]

theorem Group.keys_take {g : Group} (hg : ∀ q ∈ g.inner, q.BindsCaptures)
    (hb : (Table.keys b).Nodup) (h : .ok c ∈ (Segment.group g).choices n) :
    ∃ kept ∈ g.prunings,
      Table.keys (absorb b c) = (Table.keys b ++ groupCaptures kept).eraseDups := by
  obtain ⟨q, skippable⟩ := g
  rcases Candidates.bindings_of_ofGroup h with ⟨m, hm, hbound⟩ | ⟨rfl, hbound⟩
  · obtain ⟨q', hq', hkeys⟩ := hg q (List.mem_singleton_self q) _ _ hm
    refine ⟨[.mk q' skippable], List.mem_append_right _ (List.mem_map_of_mem hq'), ?_⟩
    rw [keys_absorb hb, hbound, Option.getD_some, hkeys, groupCaptures, groupCaptures,
      List.append_nil, captures]
  · refine ⟨[], List.mem_append_left _ (List.mem_singleton_self _), ?_⟩
    rw [keys_absorb hb, hbound]
    rfl

theorem groupCaptures_append (gs gs' : List Group) :
    groupCaptures (gs ++ gs') = groupCaptures gs ++ groupCaptures gs' := by
  induction gs with
  | nil => rfl
  | cons g gs ih => rw [List.cons_append, groupCaptures, groupCaptures, ih, List.append_assoc]

theorem keys_walk_groups {groups : List Group}
    (hg : ∀ q ∈ groups.flatMap Group.inner, q.BindsCaptures) (hb : (Table.keys b).Nodup)
    (h : .ok b' ∈ Segment.walk (groups.map .group) n b) :
    ∃ gs ∈ groupPrunings groups,
      Table.keys b' = (Table.keys b ++ groupCaptures gs).eraseDups := by
  induction groups generalizing n b with
  | nil =>
    obtain rfl := Except.ok.inj (List.mem_singleton.mp h)
    refine ⟨[], List.mem_singleton_self _, ?_⟩
    rw [groupCaptures, List.append_nil, Table.eraseDups_of_nodup hb]
  | cons g groups ih =>
    rw [List.map_cons, Segment.walk_cons] at h
    obtain ⟨c, hc, hwalk⟩ := mem_expand (mem_of_mem_cut h)
    obtain ⟨kept, hkept, hkeys⟩ :=
      Group.keys_take (fun q hq ↦ hg q (List.mem_append_left _ hq)) hb hc
    obtain ⟨gs, hgs, hall⟩ := ih (fun q hq ↦ hg q (List.mem_append_right _ hq))
      (Segment.nodup_take _ hb c) hwalk
    refine ⟨kept ++ gs, List.mem_flatMap.mpr ⟨kept, hkept, List.mem_map_of_mem hgs⟩, ?_⟩
    rw [hall, Segment.take, hkeys, Table.eraseDups_eraseDups_append, groupCaptures_append,
      List.append_assoc]

theorem keys_walk_tags {tags : List Tag} {groups : List Group}
    (ht : ∀ q ∈ tags.flatMap Tag.inner, q.BindsCaptures)
    (hg : ∀ q ∈ groups.flatMap Group.inner, q.BindsCaptures) (hb : (Table.keys b).Nodup)
    (h : .ok b' ∈ Segment.walk (tags.map .tag ++ groups.map .group) n b) :
    ∃ ts ∈ tagPrunings tags, ∃ gs ∈ groupPrunings groups,
      Table.keys b' = (Table.keys b ++ (tagCaptures ts ++ groupCaptures gs)).eraseDups := by
  induction tags generalizing n b with
  | nil => exact ⟨[], List.mem_singleton_self _, keys_walk_groups hg hb h⟩
  | cons t tags ih =>
    rw [List.map_cons, List.cons_append, Segment.walk_cons] at h
    obtain ⟨c, hc, hwalk⟩ := mem_expand (mem_of_mem_cut h)
    obtain ⟨t', ht', hkeys⟩ := Tag.keys_take (fun q hq ↦ ht q (List.mem_append_left _ hq)) hb hc
    obtain ⟨ts, hts, gs, hgs, hall⟩ := ih (fun q hq ↦ ht q (List.mem_append_right _ hq))
      (Segment.nodup_take _ hb c) hwalk
    refine ⟨t' :: ts, List.mem_flatMap.mpr ⟨t', ht', List.mem_map_of_mem hts⟩, gs, hgs, ?_⟩
    rw [hall, Segment.take, hkeys, Table.eraseDups_eraseDups_append, tagCaptures,
      List.append_assoc, List.append_assoc]

end

theorem mem_walkTests {n : Node} {items : Items} {tests : List TypeTest} {b : Bindings}
    (h : .ok b ∈ walkTests n items tests) : .ok b ∈ items := by
  rw [walkTests_eq] at h
  obtain ⟨_, _, hb⟩ := mem_expand h
  exact hb

theorem Pattern.bindsCaptures (p : Pattern) : p.BindsCaptures := by
  induction p using Pattern.of_inner with
  | h p ih =>
    intro n b h
    obtain ⟨tests, tags, groups⟩ := p
    rw [walk_eq] at h
    have hb : (Table.keys ([] : Bindings)).Nodup := List.Pairwise.nil
    obtain ⟨ts, hts, gs, hgs, hkeys⟩ := keys_walk_tags
      (fun q hq ↦ ih q (List.mem_append_left _ hq)) (fun q hq ↦ ih q (List.mem_append_right _ hq))
      hb (mem_walkTests h)
    exact ⟨.mk tests ts gs, List.mem_flatMap.mpr ⟨ts, hts, List.mem_map_of_mem hgs⟩, hkeys⟩

/-- Which names a match binds, and in which order, is fixed by the pattern: they are the names that
stand in it, or in what is left of it without some of its skippable groups. -/
theorem Compiled.keys_of_results (c : Compiled) (root : Value) :
    ∃ items : Items, c.results root = .ok items ∧
      (∀ k, (c.machine root).answer k = .ok items[k]?) ∧
      (c.pattern.GroupsRequired → ∀ b, .ok b ∈ items → Table.keys b = c.pattern.captures) ∧
      ∀ b, .ok b ∈ items → ∃ q ∈ c.pattern.prunings, Table.keys b = q.captures := by
  have hall := c.pattern.bindsCaptures (.stored root)
  refine ⟨_, c.pattern.runs.toList _, c.answer_eq root le_rfl, fun hreq b hb ↦ ?_, hall⟩
  obtain ⟨q, hq, hkeys⟩ := hall b hb
  rw [c.pattern.prunings_eq hreq] at hq
  rw [hkeys, List.mem_singleton.mp hq]

/-- The names of `->X[->K](->Y(->X->Z)?)?` without its group, without the one inside, and whole. -/
example : (Pattern.mk [] [.captureSelect "X" (.subtree (.mk [] [.capture "K" []] []) false) []]
    [.mk (.mk [] [.capture "Y" []] [.mk (.mk [] [.capture "X" [], .capture "Z" []] []) true])
      true]).prunings.map Pattern.captures =
    [["K", "X"], ["K", "X", "Y"], ["K", "X", "Y", "Z"]] := by decide

end TreePattern
