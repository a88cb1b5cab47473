import TreePattern.Matching.Code
import Mathlib.Tactic.Linarith

namespace TreePattern

theorem Value.weight_pos (v : Value) : 0 < v.weight := by
  cases v <;> simp [Value.weight]

theorem Node.weight_pos (n : Node) : 0 < n.weight := by
  cases n with
  | stored v => exact v.weight_pos
  | index | char => exact Nat.one_pos

namespace Value

theorem length_le_itemWeight (vs : List Value) : vs.length ≤ itemWeight vs := by
  induction vs with
  | nil => simp [itemWeight]
  | cons v vs ih =>
    have h := v.weight_pos
    simp only [List.length_cons, itemWeight]
    omega

theorem weight_le_itemWeight {v : Value} {vs : List Value} (h : v ∈ vs) :
    v.weight ≤ itemWeight vs := by
  induction vs with
  | nil => simp at h
  | cons u vs ih =>
    simp only [itemWeight]
    rcases List.mem_cons.mp h with rfl | h
    · omega
    · have h' := ih h
      omega

theorem length_le_entryWeight (es : List (Value × Value)) : es.length ≤ entryWeight es := by
  induction es with
  | nil => simp [entryWeight]
  | cons e es ih =>
    have h := e.1.weight_pos
    simp only [List.length_cons, entryWeight]
    omega

theorem weight_le_entryWeight {e : Value × Value} {es : List (Value × Value)} (h : e ∈ es) :
    e.1.weight ≤ entryWeight es ∧ e.2.weight ≤ entryWeight es := by
  induction es with
  | nil => simp at h
  | cons u es ih =>
    simp only [entryWeight]
    rcases List.mem_cons.mp h with rfl | h
    · omega
    · have h' := ih h
      omega

end Value

namespace Node

theorem mem_indexed {ns : List Node} {e : Entry} (h : e ∈ indexed ns) :
    ∃ i, ∃ n ∈ ns, e = (index i, n) := by
  obtain ⟨i, hi, rfl⟩ := List.mem_mapIdx.mp h
  exact ⟨i, ns[i], List.getElem_mem hi, rfl⟩

theorem length_entries_le {n : Node} {es : List Entry} (h : n.entries? = some es) :
    es.length ≤ n.weight := by
  unfold entries? at h
  split at h
  · next es' =>
    obtain rfl := Option.some.inj h
    have hl := Value.length_le_entryWeight es'
    simp only [List.length_map, weight, Value.weight]
    omega
  · next vs =>
    obtain rfl := Option.some.inj h
    have hl := Value.length_le_itemWeight vs
    simp only [indexed, List.length_mapIdx, List.length_map, weight, Value.weight]
    omega
  · next vs =>
    obtain rfl := Option.some.inj h
    have hl := Value.length_le_itemWeight vs
    simp only [List.length_map, weight, Value.weight]
    omega
  · next s =>
    obtain rfl := Option.some.inj h
    simp only [indexed, List.length_mapIdx, List.length_map, String.length_toList, weight,
      Value.weight]
    omega
  · obtain rfl := Option.some.inj h
    exact le_rfl
  · cases h

theorem weight_entry_le {n : Node} {es : List Entry} (h : n.entries? = some es) {e : Entry}
    (he : e ∈ es) : e.1.weight ≤ n.weight ∧ e.2.weight ≤ n.weight := by
  have hn := n.weight_pos
  unfold entries? at h
  split at h
  · next es' =>
    obtain rfl := Option.some.inj h
    obtain ⟨u, hu, rfl⟩ := List.mem_map.mp he
    have hw := Value.weight_le_entryWeight hu
    simp only [weight, Value.weight]
    omega
  · next vs =>
    obtain rfl := Option.some.inj h
    obtain ⟨i, u, hu, rfl⟩ := mem_indexed he
    obtain ⟨v, hv, rfl⟩ := List.mem_map.mp hu
    have hw := Value.weight_le_itemWeight hv
    exact ⟨hn, by simp only [weight, Value.weight]; omega⟩
  · next vs =>
    obtain rfl := Option.some.inj h
    obtain ⟨v, hv, rfl⟩ := List.mem_map.mp he
    have hw := Value.weight_le_itemWeight hv
    simp only [weight, Value.weight]
    omega
  · next s =>
    obtain rfl := Option.some.inj h
    obtain ⟨i, u, hu, rfl⟩ := mem_indexed he
    obtain ⟨c, _, rfl⟩ := List.mem_map.mp hu
    exact ⟨hn, hn⟩
  · obtain rfl := Option.some.inj h
    obtain rfl := List.mem_singleton.mp he
    exact ⟨hn, hn⟩
  · cases h

theorem offset_lt {j : Int64} {length i : Nat} (h : offset? j length = some i) : i < length := by
  unfold offset? at h
  split at h
  · next hl =>
    obtain ⟨hi, h⟩ := Option.ite_none_right_eq_some.mp h
    obtain rfl := Option.some.inj h
    have h₀ := Int64.le_iff_toInt_le.mp hi.1
    have h₁ := Int64.lt_iff_toInt_lt.mp hi.2
    rw [Int64.toInt_ofNat_of_lt hl] at h₁
    rw [Int64.toInt_zero] at h₀
    omega
  · cases h

theorem entry_mem {n : Node} {k : Value} {e : Entry} (h : n.entry? k = some e) :
    ∃ es, n.entries? = some es ∧ e ∈ es := by
  unfold entry? at h
  split at h
  · next es k =>
    obtain ⟨u, hu, rfl⟩ := Option.map_eq_some_iff.mp h
    exact ⟨_, rfl, List.mem_map_of_mem (List.mem_of_find?_eq_some hu)⟩
  · next vs j =>
    obtain ⟨i, _, h⟩ := Option.bind_eq_some_iff.mp h
    obtain ⟨v, hv, h⟩ := Option.bind_eq_some_iff.mp h
    obtain rfl := Option.some.inj h
    obtain ⟨hi, rfl⟩ := List.getElem?_eq_some_iff.mp hv
    exact ⟨_, rfl, List.mem_mapIdx.mpr ⟨i, by simpa using hi, by simp⟩⟩
  · next s j =>
    obtain ⟨i, _, h⟩ := Option.bind_eq_some_iff.mp h
    obtain ⟨c, hc, h⟩ := Option.bind_eq_some_iff.mp h
    obtain rfl := Option.some.inj h
    obtain ⟨hi, rfl⟩ := List.getElem?_eq_some_iff.mp hc
    exact ⟨_, rfl, List.mem_mapIdx.mpr ⟨i, by simpa using hi, by simp⟩⟩
  · next c j =>
    obtain ⟨i, hi, rfl⟩ := Option.map_eq_some_iff.mp h
    have h₀ : i = 0 := by
      have hl := offset_lt hi
      omega
    exact ⟨_, rfl, by simp [h₀]⟩
  · cases h

end Node

namespace Instr

mutual

theorem breadth_mono {v w : Nat} (h : v ≤ w) : ∀ i : Instr, breadth v i ≤ breadth w i
  | .keySubtree code _ => by
    rw [breadth, breadth]
    exact Nat.mul_le_mul (by omega) (codeBreadth_mono h code)
  | .valueSubtree code _ => by
    rw [breadth, breadth]
    exact Nat.mul_le_mul (by omega) (Nat.add_le_add_right (codeBreadth_mono h code) 1)
  | .arrow | .ident _ | .stringKey _ _ | .regexKey _ _ | .param _ _ _ | .test _ _ _ | .close => by
    simp only [breadth]
    omega

theorem codeBreadth_mono {v w : Nat} (h : v ≤ w) :
    ∀ code : List Instr, codeBreadth v code ≤ codeBreadth w code
  | [] => le_rfl
  | i :: code => by
    rw [codeBreadth, codeBreadth]
    exact Nat.mul_le_mul (breadth_mono h i) (codeBreadth_mono h code)

end

mutual

theorem le_breadth (w : Nat) : ∀ i : Instr, w + 2 ≤ breadth w i
  | .keySubtree code _ => by
    rw [breadth]
    exact Nat.le_mul_of_pos_right _ (by have h := le_codeBreadth w code; omega)
  | .valueSubtree code _ => by
    rw [breadth]
    exact Nat.le_mul_of_pos_right _ (by omega)
  | .arrow | .ident _ | .stringKey _ _ | .regexKey _ _ | .param _ _ _ | .test _ _ _ | .close => by
    simp only [breadth, le_refl]

theorem le_codeBreadth (w : Nat) : ∀ code : List Instr, 2 ≤ codeBreadth w code
  | [] => le_rfl
  | i :: code => by
    rw [codeBreadth]
    exact (le_codeBreadth w code).trans
      (Nat.le_mul_of_pos_left _ (by have h := le_breadth w i; omega))

end

theorem length_add_codeBreadth_le (w : Nat) (a b : List Instr) :
    a.length + codeBreadth w b ≤ codeBreadth w (a ++ b) := by
  induction a with
  | nil => simp
  | cons i a ih =>
    have hi := le_breadth w i
    have hx := le_codeBreadth w (a ++ b)
    have h := Nat.mul_le_mul_right (codeBreadth w (a ++ b)) (show 2 ≤ breadth w i by omega)
    simp only [List.cons_append, List.length_cons, codeBreadth]
    omega

/-- The breadth of an instruction multiplies that of the code behind, with room for each of the
instructions beside it. -/
theorem length_add_breadth_mul_le (w : Nat) {i : Instr} {a : List Instr} (hi : i ∈ a)
    (b : List Instr) :
    a.length + breadth w i * codeBreadth w b ≤ codeBreadth w (a ++ b) + 1 := by
  induction a with
  | nil => simp at hi
  | cons j a ih =>
    have hj := le_breadth w j
    have hx := le_codeBreadth w (a ++ b)
    simp only [List.cons_append, List.length_cons, codeBreadth]
    rcases List.mem_cons.mp hi with rfl | hi
    · have h := Nat.mul_le_mul_left (breadth w i) (length_add_codeBreadth_le w a b)
      have ha := Nat.mul_le_mul_right a.length (show 1 ≤ breadth w i by omega)
      rw [Nat.mul_add] at h
      omega
    · have h := ih hi
      have h' := Nat.mul_le_mul_right (codeBreadth w (a ++ b)) (show 2 ≤ breadth w j by omega)
      omega

theorem actions_append (a b : List Instr) : actions (a ++ b) = actions a ++ actions b := by
  induction a with
  | nil => rfl
  | cons i a ih => simp only [List.cons_append, actions, ih]

end Instr

end TreePattern
