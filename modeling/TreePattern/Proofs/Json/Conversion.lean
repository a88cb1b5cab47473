import TreePattern.Json.Basic
import TreePattern.Proofs.Table
import TreePattern.Proofs.Value.Construction

namespace TreePattern

/-- Integers fit in 64 bits with a sign, floats are finite and no object has a key twice. -/
inductive Json.Document : Json → Prop
  | null : Document .null
  | bool (b : Bool) : Document (.bool b)
  | int {n : Int} : Int64.minValue.toInt ≤ n → n ≤ Int64.maxValue.toInt → Document (.int n)
  | float {x : Binary64} : x.isFinite → Document (.float x)
  | str (s : String) : Document (.str s)
  | arr {js : List Json} : (∀ j ∈ js, Document j) → Document (.arr js)
  | obj {es : List (String × Json)} : (Table.keys es).Nodup → (∀ e ∈ es, Document e.2) →
      Document (.obj es)

namespace Value

/-- At the top there is no set, no float that is not finite and no key but strings. -/
def JsonLike : Value → Prop
  | float x => x.isFinite
  | map es => ∀ e ∈ es, ∃ s, e.1 = str s
  | set _ => False
  | _ => True

def JsonShaped (v : Value) : Prop := v.Throughout JsonLike

variable {u v w : Value}

theorem Same.exists_part (h : v.Same w) (hu : u ∈ w.parts) : ∃ t ∈ v.parts, t.Same u := by
  cases v with
  | null | bool | int | float | str =>
    obtain rfl := (scalar_same_iff rfl).mp h
    cases hu
  | seq vs =>
    obtain ⟨ws, rfl, hw⟩ := seq_same_iff.mp h
    exact (Corresponds.of_forall₂ hw).symm.exists_right hu
  | set vs =>
    obtain ⟨ws, rfl, hw⟩ := set_same_iff.mp h
    exact hw.symm.exists_right hu
  | map es =>
    obtain ⟨fs, rfl, hw⟩ := map_same_iff.mp h
    obtain ⟨f, hf, hu⟩ := List.mem_flatMap.mp hu
    obtain ⟨e, he, hef⟩ := hw.symm.exists_right hf
    have hu : u = f.1 ∨ u = f.2 := by simpa using hu
    rcases hu with rfl | rfl
    · exact ⟨e.1, key_mem_parts he, hef.1⟩
    · exact ⟨e.2, value_mem_parts he, hef.2⟩

theorem Same.throughout {P : Value → Prop} (hP : ∀ {v w : Value}, v.Same w → P v → P w)
    (h : v.Same w) (hv : v.Throughout P) : w.Throughout P := by
  induction w using of_parts generalizing v with
  | h w ih =>
    refine ⟨hP h hv.here, fun u hu ↦ ?_⟩
    obtain ⟨t, ht, htu⟩ := h.exists_part hu
    exact ih u hu htu (hv.part ht)

theorem Same.jsonLike (h : v.Same w) (hv : v.JsonLike) : w.JsonLike := by
  cases v with
  | null | bool | int | float | str =>
    obtain rfl := (scalar_same_iff rfl).mp h
    exact hv
  | seq vs =>
    obtain ⟨ws, rfl, -⟩ := seq_same_iff.mp h
    trivial
  | set vs => cases hv
  | map es =>
    obtain ⟨fs, rfl, hw⟩ := map_same_iff.mp h
    intro f hf
    obtain ⟨e, he, hef⟩ := hw.symm.exists_right hf
    obtain ⟨s, hs⟩ := hv e he
    have hkey := hef.1
    rw [hs, scalar_same_iff rfl] at hkey
    exact ⟨s, hkey.symm⟩

end Value

namespace Json

variable {j : Json} {v : Value}

theorem itemValues_eq_map (js : List Json) : itemValues js = js.map toValue := by
  induction js with
  | nil => rfl
  | cons j js ih => rw [itemValues, ih, List.map_cons]

theorem entryValues_eq_map (es : List (String × Json)) :
    entryValues es = es.map (Prod.map .str toValue) := by
  induction es with
  | nil => rfl
  | cons e es ih => rw [entryValues, ih, List.map_cons]; rfl

theorem ofItems_eq_map (vs : List Value) : ofItems vs = vs.map ofValue := by
  induction vs with
  | nil => rfl
  | cons v vs ih => rw [ofItems, ih, List.map_cons]

theorem ofEntries_eq_map (es : List (Value × Value)) :
    ofEntries es = es.map (Prod.map keyText ofValue) := by
  induction es with
  | nil => rfl
  | cons e es ih => rw [ofEntries, ih, List.map_cons]; rfl

theorem toValue_obj {es : List (String × Json)} (h : (Table.keys es).Nodup) :
    (obj es).toValue = .map (es.map (Prod.map .str toValue)) := by
  have hstr (a b : String) : (Value.str a == Value.str b) = (a == b) := rfl
  have hes : Table.ofList es = es := Table.ofList_of_nodup h
  rw [toValue, entryValues_eq_map]
  calc Value.map (Table.ofList (es.map (Prod.map .str toValue)))
      = .map ((Table.ofList es).map (Prod.map .str toValue)) :=
        congrArg Value.map (Table.putAll_map hstr toValue [] es)
    _ = .map (es.map (Prod.map .str toValue)) := by rw [hes]

/-- Where no two keys have the same text, no entry of a mapping is lost. -/
theorem ofValue_map {es : List (Value × Value)} (h : (es.map fun e ↦ keyText e.1).Nodup) :
    ofValue (.map es) = obj (es.map (Prod.map keyText ofValue)) := by
  have hkeys : (Table.keys (es.map (Prod.map keyText ofValue))).Nodup := by
    rwa [Table.keys, List.map_map]
  rw [ofValue, ofEntries_eq_map, Table.ofList_of_nodup hkeys]

theorem ofValue_toValue (h : j.Document) : ofValue j.toValue = j := by
  induction h with
  | null | bool | str => rfl
  | @int n hl hu =>
    have hn : (Int64.ofInt n).toInt = n := Int64.toInt_ofInt_of_le hl (Int.lt_add_one_of_le hu)
    rw [toValue, intValue, if_pos ⟨hl, hu⟩, ofValue, hn]
  | float hx => exact if_pos hx
  | @arr js _ ih =>
    have hjs : (js.map toValue).map ofValue = js := by
      rw [List.map_map]
      exact (List.map_congr_left ih).trans (List.map_id js)
    rw [toValue, itemValues_eq_map, ofValue, ofItems_eq_map, hjs]
  | @obj es hkeys _ ih =>
    have hes : (es.map (Prod.map .str toValue)).map (Prod.map keyText ofValue) = es := by
      rw [List.map_map]
      refine (List.map_congr_left fun e he ↦ ?_).trans (List.map_id es)
      exact Prod.ext rfl (ih e he)
    rw [toValue_obj hkeys, ofValue, ofEntries_eq_map, hes, Table.ofList_of_nodup hkeys]

theorem document_ofValue (v : Value) : (ofValue v).Document := by
  induction v using Value.of_parts with
  | h v ih =>
    cases v with
    | null => exact .null
    | bool b => exact .bool b
    | int n => exact .int n.le_toInt n.toInt_le
    | float x =>
      rw [ofValue]
      split
      · next hx => exact .float hx
      · exact .null
    | str s => exact .str s
    | seq vs | set vs =>
      rw [ofValue, ofItems_eq_map]
      exact .arr (List.forall_mem_map.mpr ih)
    | map es =>
      refine .obj (Table.nodup_keys_ofList _) fun e he ↦ ?_
      obtain ⟨f, hf, hef⟩ := Table.mem_putAll he
      rw [List.nil_append, ofEntries_eq_map] at hf
      obtain ⟨g, hg, rfl⟩ := List.mem_map.mp hf
      rw [hef]
      exact ih g.2 (Value.value_mem_parts hg)

theorem distinct_toValue (h : j.Document) : j.toValue.Distinct := by
  induction h with
  | null | bool | str | float => exact .scalar rfl
  | int hl hu =>
    rw [toValue, intValue, if_pos ⟨hl, hu⟩]
    exact .scalar rfl
  | @arr js _ ih =>
    rw [toValue, itemValues_eq_map]
    exact ⟨trivial, List.forall_mem_map.mpr ih⟩
  | @obj es _ _ ih =>
    rw [toValue, entryValues_eq_map]
    exact Value.distinct_ofEntries (List.forall_mem_map.mpr fun e he ↦ ⟨.scalar rfl, ih e he⟩)

theorem jsonShaped_toValue (h : j.Document) : j.toValue.JsonShaped := by
  induction h with
  | null | bool | str => exact .scalar rfl trivial
  | int hl hu =>
    rw [toValue, intValue, if_pos ⟨hl, hu⟩]
    exact .scalar rfl trivial
  | float hx => exact .scalar rfl hx
  | @arr js _ ih =>
    rw [toValue, itemValues_eq_map]
    exact ⟨trivial, List.forall_mem_map.mpr ih⟩
  | @obj es hkeys _ ih =>
    rw [toValue_obj hkeys]
    refine ⟨List.forall_mem_map.mpr fun e _ ↦ ⟨e.1, rfl⟩, fun u hu ↦ ?_⟩
    obtain ⟨f, hf, hu⟩ := List.mem_flatMap.mp hu
    obtain ⟨e, he, rfl⟩ := List.mem_map.mp hf
    have hu : u = .str e.1 ∨ u = e.2.toValue := by simpa using hu
    rcases hu with rfl | rfl
    · exact .scalar rfl trivial
    · exact ih e he

theorem toValue_ofValue (hv : v.Distinct) (hs : v.JsonShaped) : (ofValue v).toValue = v := by
  induction v using Value.of_parts with
  | h v ih =>
    cases v with
    | null | bool | str => rfl
    | int n =>
      rw [ofValue, toValue, intValue, if_pos ⟨n.le_toInt, n.toInt_le⟩, Int64.ofInt_toInt]
    | float x =>
      have hx : x.isFinite := hs.here
      rw [ofValue, if_pos hx, toValue]
    | set vs => exact hs.here.elim
    | seq vs =>
      have hvs : (vs.map ofValue).map toValue = vs := by
        rw [List.map_map]
        refine (List.map_congr_left fun u hu ↦ ?_).trans (List.map_id vs)
        exact ih u hu (hv.part hu) (hs.part hu)
      rw [ofValue, ofItems_eq_map, toValue, itemValues_eq_map, hvs]
    | map es =>
      have hkey : ∀ e ∈ es, .str (keyText e.1) = e.1 := fun e he ↦ by
        obtain ⟨s, hs⟩ := hs.here e he
        rw [hs, keyText]
      have htexts : (es.map fun e ↦ keyText e.1).Nodup := by
        refine List.pairwise_map.mpr (hv.unrepeated.imp_of_mem fun he hf hne htext ↦ hne ?_)
        rw [← hkey _ he, ← hkey _ hf, htext]
        exact (Value.scalar_beq_iff rfl).mpr rfl
      have hes : (es.map (Prod.map keyText ofValue)).map (Prod.map .str toValue) = es := by
        rw [List.map_map]
        refine (List.map_congr_left fun e he ↦ ?_).trans (List.map_id es)
        have hpart := Value.value_mem_parts he
        exact Prod.ext (hkey e he) (ih e.2 hpart (hv.part hpart) (hs.part hpart))
      have hkeys : (Table.keys (es.map (Prod.map keyText ofValue))).Nodup := by
        rwa [Table.keys, List.map_map]
      rw [ofValue_map htexts, toValue_obj hkeys, hes]

/-- A value comes back from its document if and only if it is shaped as documents are, and then its
entries are in the order they had. -/
theorem toValue_ofValue_iff (hv : v.Distinct) :
    (((ofValue v).toValue == v) = true ↔ v.JsonShaped) ∧
      (v.JsonShaped → (ofValue v).toValue = v) := by
  have hd := document_ofValue v
  have hback := distinct_toValue hd
  refine ⟨⟨fun h ↦ ?_, fun hs ↦ ?_⟩, toValue_ofValue hv⟩
  · -- what comes back from a document is shaped so, and with it every value that is equal
    have hsame : (ofValue v).toValue.Same v := (Value.beq_iff_same hback hv).mp h
    exact hsame.throughout Value.Same.jsonLike (jsonShaped_toValue hd)
  · rw [toValue_ofValue hv hs]
    exact (Value.beq_iff_same hv hv).mpr (.refl v)

def ones : Json :=
  obj [("b", arr [int 1, float (.ofNat 1), float (.ofMagnitude true 0)]), ("a", null)]

theorem document_ones : ones.Document := by
  refine .obj (by decide) (List.forall_mem_cons.mpr ⟨.arr fun j hj ↦ ?_,
    List.forall_mem_singleton.mpr .null⟩)
  simp only [List.mem_cons, List.not_mem_nil, or_false] at hj
  rcases hj with rfl | rfl | rfl
  · exact .int (by decide) (by decide)
  · exact .float (by decide +kernel)
  · exact .float (by decide +kernel)

def homonyms : Value := .ofEntries [(.int 1, .null), (.str "1", .null)]

theorem distinct_homonyms : homonyms.Distinct :=
  Value.distinct_ofEntries
    (List.forall_mem_cons.mpr ⟨⟨.scalar rfl, .scalar rfl⟩,
      List.forall_mem_singleton.mpr ⟨.scalar rfl, .scalar rfl⟩⟩)

theorem toValue_ofValue_iff_ones :
    (ones.toValue.Distinct ∧ ones.toValue.JsonShaped ∧
      ((ofValue ones.toValue).toValue == ones.toValue) = true ∧
      (ofValue ones.toValue).toValue = ones.toValue) ∧
    homonyms.Distinct ∧ ¬homonyms.JsonShaped ∧
      ((ofValue homonyms).toValue == homonyms) = false := by
  have hd := distinct_toValue document_ones
  have hs := jsonShaped_toValue document_ones
  have hnot : ¬homonyms.JsonShaped := fun h ↦ by
    obtain ⟨s, hs⟩ := h.here (.int 1, .null) List.mem_cons_self
    cases hs
  obtain ⟨hiff, hback⟩ := toValue_ofValue_iff hd
  have hfails := (toValue_ofValue_iff distinct_homonyms).1.not.mpr hnot
  exact ⟨⟨hd, hs, hiff.mpr hs, hback hs⟩, distinct_homonyms, hnot, Bool.not_eq_true _ ▸ hfails⟩

/-- A document comes back from its value, and what any value becomes is a document. -/
theorem rendering_stable :
    (∀ j : Json, j.Document → ofValue j.toValue = j) ∧
      ∀ v : Value, (ofValue v).Document ∧ ofValue (ofValue v).toValue = ofValue v := by
  refine ⟨fun j hj ↦ ofValue_toValue hj, fun v ↦ ?_⟩
  have hv := document_ofValue v
  exact ⟨hv, ofValue_toValue hv⟩

theorem rendering_stable_ones :
    ones.Document ∧ ofValue ones.toValue = ones ∧
      ofValue homonyms = obj [("1", null)] ∧ (ofValue homonyms).Document := by
  have hhomonyms : ofValue homonyms = obj [("1", null)] := rfl
  exact ⟨document_ones, rendering_stable.1 ones document_ones, hhomonyms,
    (rendering_stable.2 homonyms).1⟩

end Json

end TreePattern
