import TreePattern.Proofs.Value.Equality

namespace TreePattern.Value

variable {v w : Value} {vs : List Value} {es : List (Value × Value)}

theorem Distinct.insert (hvs : (set vs).Distinct) (hv : v.Distinct) (h : ¬vs.any (v == ·)) :
    (set (vs ++ [v])).Distinct := by
  refine ⟨List.pairwise_append.mpr ⟨hvs.unrepeated, List.pairwise_singleton _ _, ?_⟩, ?_⟩
  · intro a ha b hb hab
    obtain rfl := List.mem_singleton.mp hb
    exact h (List.any_eq_true.mpr ⟨a, ha, ((hvs.part ha).beq_comm hv).mp hab⟩)
  · intro u hu
    rcases List.mem_append.mp hu with hu | hu
    · exact hvs.part hu
    · exact List.mem_singleton.mp hu ▸ hv

theorem distinct_ofItems (h : ∀ v ∈ vs, v.Distinct) : (ofItems vs).Distinct := by
  have hall (seen : List Value) (hseen : (set seen).Distinct) :
      (set (vs.foldl (fun seen v ↦ if seen.any (v == ·) then seen else seen ++ [v])
        seen)).Distinct := by
    induction vs generalizing seen with
    | nil => exact hseen
    | cons v vs ih =>
      have hrest : ∀ u ∈ vs, u.Distinct := fun u hu ↦ h u (List.mem_cons_of_mem v hu)
      refine ih hrest _ ?_
      dsimp only
      split
      · exact hseen
      · next hv => exact hseen.insert (h v List.mem_cons_self) hv
  exact hall [] ⟨List.Pairwise.nil, fun u hu ↦ by cases hu⟩

theorem distinct_map_cons {e : Value × Value} : (map (e :: es)).Distinct ↔
    (e.1.Distinct ∧ e.2.Distinct) ∧ (∀ f ∈ es, ¬e.1 == f.1) ∧ (map es).Distinct := by
  constructor
  · intro h
    obtain ⟨hfirst, hrest⟩ := List.pairwise_cons.mp h.unrepeated
    have hk := h.part (key_mem_parts List.mem_cons_self)
    have hv := h.part (value_mem_parts List.mem_cons_self)
    exact ⟨⟨hk, hv⟩, hfirst, hrest, fun u hu ↦ h.part (List.mem_append_right _ hu)⟩
  · rintro ⟨⟨hk, hv⟩, hfirst, hrest⟩
    refine ⟨List.pairwise_cons.mpr ⟨hfirst, hrest.unrepeated⟩, fun u hu ↦ ?_⟩
    rcases List.mem_append.mp hu with hu | hu
    · have hu : u = e.1 ∨ u = e.2 := by simpa using hu
      rcases hu with rfl | rfl
      · exact hk
      · exact hv
    · exact hrest.part hu

theorem key_of_mem_put {k : Value} {f : Value × Value} (h : f ∈ Table.put es k v) :
    f.1 = k ∨ ∃ e ∈ es, f.1 = e.1 := by
  induction es with
  | nil => exact .inl (congrArg Prod.fst (List.mem_singleton.mp h))
  | cons e es ih =>
    rw [Table.put] at h
    split at h
    · rcases List.mem_cons.mp h with rfl | h
      · exact .inr ⟨e, List.mem_cons_self, rfl⟩
      · exact .inr ⟨f, List.mem_cons_of_mem _ h, rfl⟩
    · rcases List.mem_cons.mp h with rfl | h
      · exact .inr ⟨f, List.mem_cons_self, rfl⟩
      · rcases ih h with h | ⟨g, hg, h⟩
        · exact .inl h
        · exact .inr ⟨g, List.mem_cons_of_mem _ hg, h⟩

theorem Distinct.put {k : Value} (hes : (map es).Distinct) (hk : k.Distinct) (hv : v.Distinct) :
    (map (Table.put es k v)).Distinct := by
  induction es with
  | nil => exact distinct_map_cons.mpr ⟨⟨hk, hv⟩, by simp, hes⟩
  | cons e es ih =>
    obtain ⟨he, hfirst, hrest⟩ := distinct_map_cons.mp hes
    rw [Table.put]
    split
    · exact distinct_map_cons.mpr ⟨⟨he.1, hv⟩, hfirst, hrest⟩
    · next hne =>
      refine distinct_map_cons.mpr ⟨he, fun f hf hef ↦ ?_, ih hrest⟩
      rcases key_of_mem_put hf with hfk | ⟨g, hg, hfg⟩
      · rw [hfk] at hef
        exact hne ((he.1.beq_comm hk).mp hef)
      · rw [hfg] at hef
        exact hfirst g hg hef

theorem distinct_ofEntries (h : ∀ e ∈ es, e.1.Distinct ∧ e.2.Distinct) :
    (ofEntries es).Distinct := by
  have hall (t : List (Value × Value)) (ht : (map t).Distinct) :
      (map (Table.putAll t es)).Distinct := by
    induction es generalizing t with
    | nil => exact ht
    | cons e es ih =>
      have he := h e List.mem_cons_self
      exact ih (fun f hf ↦ h f (List.mem_cons_of_mem e hf)) _ (ht.put he.1 he.2)
  exact hall [] ⟨List.Pairwise.nil, fun u hu ↦ by cases hu⟩

end TreePattern.Value
