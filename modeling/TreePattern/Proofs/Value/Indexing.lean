import TreePattern.Proofs.Value.Construction
import TreePattern.Proofs.Value.Entries

namespace TreePattern

namespace Node

def isSequence : Node → Bool
  | stored (.seq _) | stored (.str _) | char _ => true
  | _ => false

def isMapping : Node → Bool
  | stored (.map _) => true
  | _ => false

variable {n : Node} {es : List Entry} {length : Nat}

/-- A negative index is added to a length without overflow, also the least one and to no length. -/
theorem toInt_ofNat_add (hl : length < 2 ^ 63) {i : Int64} (hi : i < 0) :
    (Int64.ofNat length + i).toInt = length + i.toInt := by
  have hneg : i.toInt < 0 := by simpa using Int64.lt_iff_toInt_lt.mp hi
  have hleast := i.le_toInt
  rw [Int64.toInt_add, Int64.toInt_ofNat_of_lt hl]
  exact Int.bmod_eq_of_le (by omega) (by omega)

theorem offset?_eq (hl : length < 2 ^ 63) (i : Int64) : offset? i length =
    if 0 ≤ i.toInt ∧ i.toInt < length then some i.toInt.toNat
    else if -length ≤ i.toInt ∧ i.toInt < 0 then some (length + i.toInt).toNat
    else none := by
  have hsize : (Int64.ofNat length).toInt = length := Int64.toInt_ofNat_of_lt hl
  have hsign : i < 0 ↔ i.toInt < 0 := by simp [Int64.lt_iff_toInt_lt]
  rw [offset?, if_pos (show length < Nat.pow 2 63 from hl)]
  simp only [Int64.le_iff_toInt_le, Int64.lt_iff_toInt_lt, Int64.toInt_zero, hsize]
  by_cases hi : i < 0
  · have hneg := hsign.mp hi
    rw [if_pos hneg, toInt_ofNat_add hl hi, if_neg (show ¬(0 ≤ i.toInt ∧ _) by omega)]
    exact if_congr (by omega) rfl rfl
  · have hnonneg : ¬i.toInt < 0 := fun h ↦ hi (hsign.mpr h)
    rw [if_neg hnonneg, if_neg (show ¬(_ ∧ i.toInt < 0) by omega)]

@[simp]
theorem length_indexed (ns : List Node) : (indexed ns).length = ns.length := List.length_mapIdx

theorem getElem?_indexed {α : Type} (as : List α) (f : α → Node) (i : Nat) :
    (indexed (as.map f))[i]? = as[i]?.bind fun a ↦ some (index i, f a) := by
  rw [indexed, List.getElem?_mapIdx, List.getElem?_map]
  cases as[i]? <;> rfl

theorem entry?_int (hn : n.isSequence) (hes : n.entries? = some es) (i : Int64) :
    n.entry? (.int i) = (offset? i es.length).bind fun j ↦ es[j]? := by
  rcases n with v | _ | c
  · cases v with
    | seq vs =>
      obtain rfl := Option.some.inj hes
      simp only [getElem?_indexed, length_indexed, List.length_map]
      rfl
    | str s =>
      obtain rfl := Option.some.inj hes
      simp only [getElem?_indexed, length_indexed, List.length_map]
      rfl
    | null | bool | int | float | map | set => cases hn
  · cases hn
  · obtain rfl := Option.some.inj hes
    have hchar : entry? (char c) (.int i) = (offset? i 1).map fun j ↦ (index j, char c) := rfl
    rw [hchar, List.length_singleton]
    cases h : offset? i 1 with
    | none => rfl
    | some j =>
      obtain rfl : j = 0 := Nat.lt_one_iff.mp (offset_lt h)
      rfl

theorem index_beq_iff {i j : Nat} (hi : i < 2 ^ 63) (hj : j < 2 ^ 63) :
    (index i == index j) = true ↔ i = j := by
  have hvalue {i : Nat} (hi : i < 2 ^ 63) : (index i).toValue = .int (Int64.ofNat i) := by
    rw [toValue, if_pos (show i < Nat.pow 2 63 from hi)]
  have hbeq : (index i == index j) = ((index i).toValue == (index j).toValue) := rfl
  rw [hbeq, hvalue hi, hvalue hj, Value.scalar_beq_iff rfl, Value.int.injEq, ← Int64.toInt_inj,
    Int64.toInt_ofNat_of_lt hi, Int64.toInt_ofNat_of_lt hj, Int.natCast_inj]

theorem pairwise_indexed {ns : List Node} (hl : ns.length < 2 ^ 63) :
    (indexed ns).Pairwise fun e f ↦ ¬e.1 == f.1 := by
  refine List.pairwise_iff_getElem.mpr fun i j hi hj hij ↦ ?_
  have hj' : j < ns.length := by simpa [indexed] using hj
  simp only [indexed, List.getElem_mapIdx]
  rw [index_beq_iff (by omega) (by omega)]
  exact hij.ne

theorem pairwise_entries (hn : n.toValue.Distinct) (hes : n.entries? = some es)
    (hl : es.length < 2 ^ 63) : es.Pairwise fun e f ↦ ¬e.1 == f.1 := by
  rcases n with v | _ | c
  · cases v with
    | seq vs | str vs =>
      obtain rfl := Option.some.inj hes
      exact pairwise_indexed (by simpa [indexed] using hl)
    | map vs | set vs =>
      obtain rfl := Option.some.inj hes
      exact List.pairwise_map.mpr hn.unrepeated
    | null | bool | int | float => cases hes
  · cases hes
  · obtain rfl := Option.some.inj hes
    exact List.pairwise_singleton _ _

theorem entry?_mapping (hn : n.toValue.Distinct) (hm : n.isMapping) (hes : n.entries? = some es)
    {k : Value} (hk : k.Distinct) (e : Entry) :
    n.entry? k = some e ↔ e ∈ es ∧ e.1 == stored k := by
  rcases n with v | _ | c
  · cases v with
    | map fs =>
      obtain rfl := Option.some.inj hes
      have hkey {f : Value × Value} (hf : f ∈ fs) : (stored f.1 == stored k) = true ↔ k.Same f.1 :=
        (Value.beq_iff_same (hn.part (Value.key_mem_parts hf)) hk).trans ⟨.symm, .symm⟩
      have hmap : entry? (stored (.map fs)) k =
          (Table.find? fs k).map fun f ↦ (stored f.1, stored f.2) := rfl
      rw [hmap, Option.map_eq_some_iff, List.mem_map]
      constructor
      · rintro ⟨f, hfound, rfl⟩
        obtain ⟨hf, hs⟩ := (Value.find?_eq_some_iff hk hn).mp hfound
        exact ⟨⟨f, hf, rfl⟩, (hkey hf).mpr hs⟩
      · rintro ⟨⟨f, hf, rfl⟩, hbeq⟩
        exact ⟨f, (Value.find?_eq_some_iff hk hn).mpr ⟨hf, (hkey hf).mp hbeq⟩, rfl⟩
    | null | bool | int | float | str | seq | set => cases hm
  · cases hm
  · cases hm

theorem entry?_eq_none {k : Value} (hm : ¬n.isMapping) (hs : n.isSequence → k.int? = none) :
    n.entry? k = none := by
  unfold entry?
  split
  · exact absurd rfl hm
  · cases hs rfl
  · cases hs rfl
  · cases hs rfl
  · rfl

/-- What is looked up in a node is found among the entries it lists: by an index that is counted
from the front, or from the end when negative, where the sum does not overflow, or by the key that
is equal. -/
structure Indexes (n : Node) (es : List Entry) : Prop where
  place : n.isSequence → ∀ i : Int64, n.entry? (.int i) =
    if 0 ≤ i.toInt ∧ i.toInt < es.length then es[i.toInt.toNat]?
    else if -es.length ≤ i.toInt ∧ i.toInt < 0 then es[(es.length + i.toInt).toNat]?
    else none
  sum : ∀ i : Int64, i < 0 → (Int64.ofNat es.length + i).toInt = es.length + i.toInt
  key : n.isMapping → ∀ k : Value, k.Distinct → ∀ e, n.entry? k = some e ↔
    e ∈ es ∧ e.1 == stored k
  keys : es.Pairwise fun e f ↦ ¬e.1 == f.1

/-- Looking up agrees with listing the entries, and finds nothing in other nodes or under other
keys. -/
theorem indexes_entries (n : Node) (hn : n.toValue.Distinct) :
    (∀ es, n.entries? = some es → es.length < 2 ^ 63 → n.Indexes es) ∧
      ∀ k : Value, ¬n.isMapping → (n.isSequence → k.int? = none) → n.entry? k = none := by
  refine ⟨fun es hes hl ↦ ⟨fun hs i ↦ ?_, fun i ↦ toInt_ofNat_add hl, fun hm k ↦
    entry?_mapping hn hm hes, pairwise_entries hn hes hl⟩, fun k ↦ entry?_eq_none⟩
  rw [entry?_int hs hes, offset?_eq hl]
  split
  · rfl
  · split <;> rfl

def mixed : Node := .stored (.ofEntries [(.int (-1), .null), (.str "a", .bool true)])

theorem indexes_entries_mixed : mixed.toValue.Distinct ∧
    (∃ es, mixed.entries? = some es ∧ es.length = 2 ∧ mixed.Indexes es) ∧
    ∀ k : Value, ¬mixed.isMapping → (mixed.isSequence → k.int? = none) →
      mixed.entry? k = none := by
  have hd : mixed.toValue.Distinct := by
    refine Value.distinct_ofEntries fun e he ↦ ?_
    rcases List.mem_cons.mp he with rfl | he
    · exact ⟨.scalar rfl, .scalar rfl⟩
    · obtain rfl := List.mem_singleton.mp he
      exact ⟨.scalar rfl, .scalar rfl⟩
  have hes : mixed.entries? = some [(stored (.int (-1)), stored .null),
      (stored (.str "a"), stored (.bool true))] := rfl
  obtain ⟨hlisted, hother⟩ := indexes_entries mixed hd
  exact ⟨hd, ⟨_, hes, rfl, hlisted _ hes (by decide)⟩, hother⟩

end Node

end TreePattern
