import TreePattern.Matching.Level
import TreePattern.Matching.Walk
import TreePattern.Proofs.Matching.Weight

namespace TreePattern

/-- The candidates a level has still to try. -/
def Level.Holds (l : Level) (cs : Candidates) : Prop := (l.pending false).toList = .ok cs

namespace Supply

variable {α β : Type}

theorem eq_done_of_toList {s : Supply α} (h : s.toList = .ok []) : s = done := by
  cases s with
  | done => rfl
  | fault f => cases h
  | more a rest => cases hr : (rest ()).toList <;> simp [toList, hr, Except.map] at h

theorem eq_more_of_toList {s : Supply α} {a : α} {as : List α} (h : s.toList = .ok (a :: as)) :
    ∃ rest, s = more a rest ∧ (rest ()).toList = .ok as := by
  cases s with
  | done => cases h
  | fault f => cases h
  | more b rest =>
    cases hr : (rest ()).toList with
    | error f => simp [toList, hr, Except.map] at h
    | ok bs =>
      simp only [toList, hr, Except.map, Except.ok.injEq, List.cons.injEq] at h
      obtain ⟨rfl, rfl⟩ := h
      exact ⟨rest, rfl, hr⟩

theorem toList_flatMap {s : Supply α} {f : α → Supply β} {g : α → List β} {as : List α}
    (hs : s.toList = .ok as) (hf : ∀ a ∈ as, (f a).toList = .ok (g a)) :
    (s.flatMap f).toList = .ok (as.flatMap g) := by
  induction as generalizing s with
  | nil =>
    obtain rfl := eq_done_of_toList hs
    rfl
  | cons a as ih =>
    obtain ⟨rest, rfl, hr⟩ := eq_more_of_toList hs
    have ha := hf a List.mem_cons_self
    have has := ih hr fun b hb ↦ hf b (List.mem_cons_of_mem a hb)
    rw [flatMap_more, toList_append, ha, has]
    rfl

end Supply

namespace Choices

variable {results : Results} {items : Items}

theorem toList_valid (h : results.toList = .ok items) :
    (valid results).toList = .ok (Candidates.valid items) := by
  induction items generalizing results with
  | nil =>
    obtain rfl := Supply.eq_done_of_toList h
    rfl
  | cons i items ih =>
    obtain ⟨rest, rfl, hr⟩ := Supply.eq_more_of_toList h
    cases i with
    | error e => rfl
    | ok b =>
      rw [valid, Supply.toList, ih hr]
      rfl

theorem toList_ofValid (e : Entry) (h : results.toList = .ok items) :
    (ofValid e results).toList = .ok (Candidates.ofValid e items) := by
  rw [ofValid, Supply.toList_map, toList_valid h]
  rfl

theorem toList_ofItems (e : Entry) (h : results.toList = .ok items) :
    (ofResults e results).toList = .ok (Candidates.ofItems e items) := by
  rw [toList_ofResults, h]
  rfl

theorem toList_ofKey (c : Candidate) (skippable : Bool) (h : results.toList = .ok items) :
    (ofKey c results skippable).toList = .ok (Candidates.ofKey c items skippable) := by
  cases skippable with
  | false => exact toList_ofItems (c.key, c.value) h
  | true => exact toList_ofValid (c.key, c.value) h

theorem toList_ofGroup (n : Node) (skippable : Bool) (h : results.toList = .ok items) :
    (ofGroup n results skippable).toList = .ok (Candidates.ofGroup n items skippable) := by
  cases skippable with
  | false => exact toList_ofItems (n, n) h
  | true =>
    have hv := toList_ofValid (n, n) h
    simp only [ofGroup, Candidates.ofGroup, ↓reduceIte]
    cases hc : Candidates.ofValid (n, n) items with
    | nil =>
      rw [Supply.eq_done_of_toList (hv.trans (congrArg _ hc))]
      rfl
    | cons c cs =>
      obtain ⟨rest, hm, hr⟩ := Supply.eq_more_of_toList (hv.trans (congrArg _ hc))
      rw [hm, Supply.toList, hr]
      rfl

end Choices

namespace Candidates

/-- What becomes of an entry, or of an error in its place, when its key is matched. -/
def throughKey (walk : Node → Items) (skippable : Bool) : Except Mismatch Candidate → Candidates
  | .error e => [.error e]
  | .ok c => ofKey c (walk c.key) skippable

variable {n : Node} {c : Candidate} {cs : Candidates} {items : Items}

theorem mem_filterMap_kept {test : Candidate → Bool} {skippable : Bool}
    {error : Candidate → Mismatch} (h : .ok c ∈ cs.filterMap (kept? test skippable error)) :
    .ok c ∈ cs := by
  obtain ⟨i, hi, hk⟩ := List.mem_filterMap.mp h
  cases i with
  | error e => simp [kept?] at hk
  | ok c' =>
    simp only [kept?] at hk
    split at hk
    · simp only [Option.some.injEq, Except.ok.injEq] at hk
      exact hk ▸ hi
    · split at hk <;> simp at hk

theorem mem_all {skippable : Bool} (h : .ok c ∈ all n skippable) :
    c.bindings = none ∧ c.key.weight ≤ n.weight ∧ c.value.weight ≤ n.weight := by
  unfold all at h
  split at h
  · next es hes =>
    obtain ⟨e, he, hc⟩ := List.mem_map.mp h
    obtain rfl := Except.ok.inj hc
    exact ⟨rfl, Node.weight_entry_le hes he⟩
  · split at h <;> simp at h

theorem length_all_le (n : Node) (skippable : Bool) : (all n skippable).length ≤ n.weight := by
  have hn := n.weight_pos
  unfold all
  split
  · next es hes => simpa using Node.length_entries_le hes
  · split <;> simp only [List.length_nil, List.length_singleton] <;> omega

theorem mem_lookup {key : Value} {skippable : Bool} (h : .ok c ∈ lookup n key skippable) :
    c.bindings = none ∧ c.key.weight ≤ n.weight ∧ c.value.weight ≤ n.weight := by
  unfold lookup at h
  split at h
  · next e he =>
    obtain ⟨es, hes, hmem⟩ := Node.entry_mem he
    obtain rfl := Except.ok.inj (List.mem_singleton.mp h)
    exact ⟨rfl, Node.weight_entry_le hes hmem⟩
  · split at h <;> simp at h

theorem length_lookup_le (n : Node) (key : Value) (skippable : Bool) :
    (lookup n key skippable).length ≤ n.weight := by
  have hn := n.weight_pos
  unfold lookup
  split
  · simp only [List.length_singleton]; omega
  · split <;> simp only [List.length_nil, List.length_singleton] <;> omega

theorem length_valid_le (items : Items) : (valid items).length ≤ items.length := by
  induction items with
  | nil => simp [valid]
  | cons i items ih => cases i <;> simp [valid, ih]

theorem length_ofKey_le (c : Candidate) (items : Items) (skippable : Bool) :
    (ofKey c items skippable).length ≤ items.length := by
  cases skippable
  · simp [ofKey, ofItems]
  · simpa [ofKey, ofValid] using length_valid_le items

theorem mem_ofItems {e : Entry} (h : .ok c ∈ ofItems e items) : c.key = e.1 ∧ c.value = e.2 := by
  obtain ⟨i, _, hc⟩ := List.mem_map.mp h
  cases i with
  | error m => cases hc
  | ok b =>
    obtain rfl := Except.ok.inj hc
    exact ⟨rfl, rfl⟩

theorem mem_ofValid {e : Entry} (h : .ok c ∈ ofValid e items) : c.key = e.1 ∧ c.value = e.2 := by
  obtain ⟨b, _, hc⟩ := List.mem_map.mp h
  obtain rfl := Except.ok.inj hc
  exact ⟨rfl, rfl⟩

theorem mem_ofKey {d : Candidate} {skippable : Bool} (h : .ok c ∈ ofKey d items skippable) :
    c.key = d.key ∧ c.value = d.value := by
  cases skippable with
  | false => exact mem_ofItems h
  | true => exact mem_ofValid h

theorem length_flatMap_le {f : Except Mismatch Candidate → Candidates} {k : Nat}
    (h : ∀ i ∈ cs, (f i).length ≤ k) : (cs.flatMap f).length ≤ cs.length * k := by
  induction cs with
  | nil => simp
  | cons i cs ih =>
    have hi := h i List.mem_cons_self
    have hcs := ih fun j hj ↦ h j (List.mem_cons_of_mem i hj)
    simp only [List.flatMap_cons, List.length_append, List.length_cons, Nat.succ_mul]
    omega

theorem mem_ofGroup {skippable : Bool} (h : .ok c ∈ ofGroup n items skippable) : c.value = n := by
  cases skippable with
  | false => exact (mem_ofItems h).2
  | true =>
    simp only [ofGroup, ↓reduceIte] at h
    split at h
    · obtain rfl := Except.ok.inj (List.mem_singleton.mp h)
      rfl
    · exact (mem_ofValid h).2

theorem length_ofGroup_le (n : Node) (items : Items) (skippable : Bool) :
    (ofGroup n items skippable).length ≤ items.length + 1 := by
  cases skippable with
  | false => simp [ofGroup, ofItems]
  | true =>
    simp only [ofGroup, ↓reduceIte]
    split
    · simp
    · have h := length_valid_le items
      simp only [ofValid, List.length_map]
      omega

theorem mem_filterTests {tests : List TypeTest} (h : .ok c ∈ filterTests tests cs) :
    .ok c ∈ cs := by
  induction tests generalizing cs with
  | nil => exact h
  | cons t tests ih => exact mem_filterMap_kept (ih h)

theorem length_filterTests_le (tests : List TypeTest) (cs : Candidates) :
    (filterTests tests cs).length ≤ cs.length := by
  induction tests generalizing cs with
  | nil => exact le_rfl
  | cons t tests ih => exact (ih _).trans (List.length_filterMap_le _ _)

end Candidates

end TreePattern
