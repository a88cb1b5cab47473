import TreePattern.Proofs.Value.Equality

namespace TreePattern

namespace Value

variable {v w k : Value} {es fs : List (Value × Value)}

theorem Distinct.keys (h : (map fs).Distinct) : fs.Pairwise fun f g ↦ ¬f.1.Same g.1 := by
  refine h.unrepeated.imp_of_mem fun hf hg hne hs ↦ hne ?_
  exact (beq_iff_same (h.part (key_mem_parts hf)) (h.part (key_mem_parts hg))).mpr hs

/-- In a mapping the entry that is found is the one whose key is the same. -/
theorem find?_eq_some_iff {e : Value × Value} (hk : k.Distinct) (hes : (map es).Distinct) :
    Table.find? es k = some e ↔ e ∈ es ∧ k.Same e.1 := by
  have hkey {f : Value × Value} (hf : f ∈ es) : (k == f.1) = true ↔ k.Same f.1 :=
    beq_iff_same hk (hes.part (key_mem_parts hf))
  constructor
  · intro h
    have he : e ∈ es := List.mem_of_find?_eq_some h
    have hke : k == e.1 := List.find?_some (p := fun e : Value × Value ↦ k == e.1) h
    exact ⟨he, (hkey he).mp hke⟩
  · rintro ⟨he, hs⟩
    refine find?_eq_of_unique he ((hkey he).mpr hs) fun f hf hkf ↦ ?_
    exact eq_of_same_key hes.keys hf he (((hkey hf).mp hkf).symm.trans hs)

theorem find?_sameEntry (hk : k.Distinct) (hes : (map es).Distinct) (hfs : (map fs).Distinct)
    (h : Corresponds SameEntry es fs) :
    Option.Rel (fun e f ↦ e ∈ es ∧ f ∈ fs ∧ SameEntry e f)
      (Table.find? es k) (Table.find? fs k) := by
  cases hfind : Table.find? es k with
  | none =>
    have hnone : Table.find? fs k = none := by
      refine Option.eq_none_iff_forall_ne_some.mpr fun f hfound ↦ ?_
      obtain ⟨hf, hs⟩ := (find?_eq_some_iff hk hfs).mp hfound
      obtain ⟨e, he, hef⟩ := h.symm.exists_right hf
      have hother := (find?_eq_some_iff hk hes).mpr ⟨he, hs.trans hef.1.symm⟩
      rw [hfind] at hother
      cases hother
    rw [hnone]
    exact .none
  | some e =>
    obtain ⟨he, hs⟩ := (find?_eq_some_iff hk hes).mp hfind
    obtain ⟨f, hf, hef⟩ := h.exists_right he
    rw [(find?_eq_some_iff hk hfs).mpr ⟨hf, hs.trans hef.1⟩]
    exact .some ⟨he, hf, hef⟩

end Value

open Value

namespace Node

/-- Nodes that stand for values without repetitions which are the same up to order. -/
structure Alike (m n : Node) : Prop where
  left : m.toValue.Distinct
  right : n.toValue.Distinct
  same : m.toValue.Same n.toValue

theorem alike_of_beq {m n : Node} (hm : m.toValue.Distinct) (hn : n.toValue.Distinct)
    (h : m == n) : m.Alike n := ⟨hm, hn, (beq_iff_same hm hn).mp h⟩

theorem Alike.beq {m n : Node} (h : m.Alike n) : m == n := (beq_iff_same h.left h.right).mpr h.same

theorem Alike.refl {n : Node} (h : n.toValue.Distinct) : n.Alike n := ⟨h, h, .refl _⟩

end Node

def Entry.Alike (e f : Entry) : Prop := e.1.Alike f.1 ∧ e.2.Alike f.2

namespace Node

variable {v w k : Value} {es fs : List (Value × Value)} {m n : Node} {ms ns : List Node}

theorem alike_index (i : Nat) : (index i).Alike (index i) := .refl (.scalar rfl)

theorem alike_char (c : Char) : (char c).Alike (char c) := .refl (.scalar rfl)

theorem forall₂_indexed (h : List.Forall₂ Alike ms ns) :
    List.Forall₂ Entry.Alike (indexed ms) (indexed ns) := by
  refine List.forall₂_iff_get.mpr ⟨by simp [indexed, h.length_eq], fun i hm hn ↦ ?_⟩
  have hi := (List.forall₂_iff_get.mp h).2 i (by simpa [indexed] using hm)
    (by simpa [indexed] using hn)
  simpa [indexed] using ⟨alike_index i, hi⟩

theorem forall₂_chars (s : String) :
    List.Forall₂ Alike (s.toList.map char) (s.toList.map char) := by
  refine List.forall₂_same.mpr fun n hn ↦ ?_
  obtain ⟨c, _, rfl⟩ := List.mem_map.mp hn
  exact alike_char c

theorem entries?_toValue (n : Node) : (stored n.toValue).entries? = n.entries? := by
  cases n with
  | stored | index => rfl
  | char c => simp [toValue, entries?, indexed]

theorem entry?_toValue (n : Node) (k : Value) : entry? (stored n.toValue) k = n.entry? k := by
  cases n with
  | stored | index => rfl
  | char c =>
    cases k with
    | int j =>
      simp only [toValue, entry?, String.toList_singleton, List.length_singleton]
      cases h : offset? j 1 with
      | none => rfl
      | some i =>
        obtain rfl : i = 0 := Nat.lt_one_iff.mp (offset_lt h)
        rfl
    | null | bool | float | str | seq | map | set => rfl

theorem alike_stored {a b : Value} (hv : v.Distinct) (hw : w.Distinct) (ha : a ∈ v.parts)
    (hb : b ∈ w.parts) (h : a.Same b) : (stored a).Alike (stored b) := ⟨hv.part ha, hw.part hb, h⟩

theorem alike_entry {e f : Value × Value} (hes : (Value.map es).Distinct)
    (hfs : (Value.map fs).Distinct) (he : e ∈ es) (hf : f ∈ fs) (h : SameEntry e f) :
    Entry.Alike (stored e.1, stored e.2) (stored f.1, stored f.2) :=
  ⟨alike_stored hes hfs (key_mem_parts he) (key_mem_parts hf) h.1,
    alike_stored hes hfs (value_mem_parts he) (value_mem_parts hf) h.2⟩

theorem entries_alike_of_same (hv : v.Distinct) (hw : w.Distinct) (h : v.Same w) :
    Option.Rel (Corresponds Entry.Alike) (stored v).entries? (stored w).entries? := by
  cases v with
  | null | bool | int | float =>
    obtain rfl := (scalar_same_iff rfl).mp h
    exact .none
  | str s =>
    obtain rfl := (scalar_same_iff rfl).mp h
    exact .some (.of_forall₂ (forall₂_indexed (forall₂_chars s)))
  | seq vs =>
    obtain ⟨ws, rfl, hs⟩ := seq_same_iff.mp h
    have hnodes : List.Forall₂ Alike (vs.map stored) (ws.map stored) := by
      simp only [List.forall₂_map_left_iff, List.forall₂_map_right_iff]
      exact forall₂_imp_of_mem hs fun a ha b hb ↦ alike_stored hv hw ha hb
    exact .some (.of_forall₂ (forall₂_indexed hnodes))
  | set vs =>
    obtain ⟨ws, rfl, hs⟩ := set_same_iff.mp h
    refine .some (hs.map fun a ha b hb hab ↦ ?_)
    have hnode := alike_stored hv hw ha hb hab
    exact ⟨hnode, hnode⟩
  | map es =>
    obtain ⟨fs, rfl, hs⟩ := map_same_iff.mp h
    exact .some (hs.map fun e he f hf hef ↦ alike_entry hv hw he hf hef)

theorem entry_alike_of_same (hv : v.Distinct) (hw : w.Distinct) (hk : k.Distinct) (h : v.Same w)
    {e f : Option Entry} (he : entry? (stored v) k = e) (hf : entry? (stored w) k = f) :
    Option.Rel Entry.Alike e f := by
  subst he hf
  cases v with
  | null | bool | int | float =>
    obtain rfl := (scalar_same_iff rfl).mp h
    exact .none
  | str s =>
    obtain rfl := (scalar_same_iff rfl).mp h
    cases k with
    | int j =>
      have hchars : List.Forall₂ (fun c d ↦ (char c).Alike (char d)) s.toList s.toList :=
        List.forall₂_same.mpr fun c _ ↦ alike_char c
      simp only [Option.bind_eq_bind, entry?]
      cases offset? j s.toList.length with
      | none => exact .none
      | some i =>
        rw [Option.bind_some]
        refine rel_bind (forall₂_getElem? hchars i) fun c d hc ↦ ?_
        have he : Entry.Alike (index i, char c) (index i, char d) := ⟨alike_index i, hc⟩
        exact .some he
    | null | bool | float | str | seq | map | set => exact .none
  | seq vs =>
    obtain ⟨ws, rfl, hs⟩ := seq_same_iff.mp h
    cases k with
    | int j =>
      have hnodes := forall₂_imp_of_mem hs fun a ha b hb ↦ alike_stored hv hw ha hb
      simp only [Option.bind_eq_bind, entry?, hs.length_eq]
      cases offset? j ws.length with
      | none => exact .none
      | some i =>
        rw [Option.bind_some, Option.bind_some]
        refine rel_bind (forall₂_getElem? hnodes i) fun a b hab ↦ ?_
        have he : Entry.Alike (index i, stored a) (index i, stored b) := ⟨alike_index i, hab⟩
        exact .some he
    | null | bool | float | str | seq | map | set => exact .none
  | set vs =>
    obtain ⟨ws, rfl, hs⟩ := set_same_iff.mp h
    cases k <;> exact .none
  | map es =>
    obtain ⟨fs, rfl, hs⟩ := map_same_iff.mp h
    exact rel_map (find?_sameEntry hk hv hw hs) fun e f ⟨he, hf, hef⟩ ↦ alike_entry hv hw he hf hef

theorem Alike.entries (h : m.Alike n) :
    Option.Rel (Corresponds Entry.Alike) m.entries? n.entries? := by
  rw [← entries?_toValue m, ← entries?_toValue n]
  exact entries_alike_of_same h.left h.right h.same

theorem Alike.entry (h : m.Alike n) (hk : k.Distinct) {e f : Option Entry} (he : m.entry? k = e)
    (hf : n.entry? k = f) : Option.Rel Entry.Alike e f := by
  have hm := (entry?_toValue m k).trans he
  have hn := (entry?_toValue n k).trans hf
  exact entry_alike_of_same h.left h.right hk h.same hm hn

end Node

end TreePattern
