import Mathlib.Data.List.Pairwise
import TreePattern.Kind
import TreePattern.Proofs.Correspondence
import TreePattern.Proofs.Matching.Weight

namespace TreePattern

namespace Value

def parts : Value → List Value
  | seq vs | set vs => vs
  | map es => es.flatMap fun e ↦ [e.1, e.2]
  | _ => []

def isScalar : Value → Bool
  | seq _ | map _ | set _ => false
  | _ => true

theorem weight_lt_of_mem_parts {u v : Value} (h : u ∈ v.parts) : u.weight < v.weight := by
  cases v with
  | null | bool | int | float | str => cases h
  | seq vs | set vs =>
    have hw := weight_le_itemWeight (show u ∈ vs from h)
    simp only [weight]
    omega
  | map es =>
    obtain ⟨e, he, hu⟩ := List.mem_flatMap.mp h
    have hw := weight_le_entryWeight he
    have hu : u = e.1 ∨ u = e.2 := by simpa using hu
    simp only [weight]
    rcases hu with rfl | rfl <;> omega

/-- What holds of a value as soon as it holds of those directly inside holds of all. -/
@[elab_as_elim]
theorem of_parts {P : Value → Prop} (h : ∀ v : Value, (∀ u ∈ v.parts, P u) → P v) (v : Value) :
    P v :=
  h v fun u _ ↦ of_parts h u
termination_by v.weight
decreasing_by exact weight_lt_of_mem_parts ‹_›

theorem key_mem_parts {es : List (Value × Value)} {e : Value × Value} (h : e ∈ es) :
    e.1 ∈ (map es).parts := List.mem_flatMap.mpr ⟨e, h, by simp⟩

theorem value_mem_parts {es : List (Value × Value)} {e : Value × Value} (h : e ∈ es) :
    e.2 ∈ (map es).parts := List.mem_flatMap.mpr ⟨e, h, by simp⟩

/-- No mapping has a key twice and no set an item, at the top. -/
def Unrepeated : Value → Prop
  | map es => es.Pairwise fun e f ↦ ¬e.1 == f.1
  | set vs => vs.Pairwise fun v w ↦ ¬v == w
  | _ => True

/-- No mapping has a key twice and no set an item, at any depth. -/
inductive Distinct : Value → Prop
  | intro {v : Value} : v.Unrepeated → (∀ u ∈ v.parts, Distinct u) → Distinct v

theorem Distinct.unrepeated {v : Value} (h : v.Distinct) : v.Unrepeated := by
  cases h with
  | intro hu _ => exact hu

theorem Distinct.part {u v : Value} (h : v.Distinct) (hu : u ∈ v.parts) : u.Distinct := by
  cases h with
  | intro _ hp => exact hp u hu

/-- A property of a value and of all values inside it, at any depth. -/
inductive Throughout (P : Value → Prop) : Value → Prop
  | intro {v : Value} : P v → (∀ u ∈ v.parts, Throughout P u) → Throughout P v

theorem Throughout.here {P : Value → Prop} {v : Value} (h : v.Throughout P) : P v := by
  cases h with
  | intro hv _ => exact hv

theorem Throughout.part {P : Value → Prop} {u v : Value} (h : v.Throughout P) (hu : u ∈ v.parts) :
    u.Throughout P := by
  cases h with
  | intro _ hp => exact hp u hu

theorem Throughout.scalar {P : Value → Prop} {v : Value} (hv : v.isScalar) (h : P v) :
    v.Throughout P := by
  cases v with
  | null | bool | int | float | str => exact ⟨h, fun _ hu ↦ by cases hu⟩
  | seq | map | set => cases hv

/-- The same value up to the order of mapping entries and set items, at any depth. -/
inductive Same : Value → Value → Prop
  | scalar {v : Value} : v.isScalar → Same v v
  | seq {vs ws : List Value} : List.Forall₂ Same vs ws → Same (.seq vs) (.seq ws)
  | map {es fs gs : List (Value × Value)} :
      List.Forall₂ Same (es.map Prod.fst) (gs.map Prod.fst) →
      List.Forall₂ Same (es.map Prod.snd) (gs.map Prod.snd) →
      gs.Perm fs → Same (.map es) (.map fs)
  | set {vs ws us : List Value} : List.Forall₂ Same vs us → us.Perm ws → Same (.set vs) (.set ws)

def SameEntry (e f : Value × Value) : Prop := e.1.Same f.1 ∧ e.2.Same f.2

variable {u v w : Value} {vs ws : List Value} {es fs : List (Value × Value)}

theorem forall₂_sameEntry : List.Forall₂ SameEntry es fs ↔
    List.Forall₂ Same (es.map Prod.fst) (fs.map Prod.fst) ∧
      List.Forall₂ Same (es.map Prod.snd) (fs.map Prod.snd) := by
  constructor
  · intro h
    induction h with
    | nil => exact ⟨.nil, .nil⟩
    | cons he _ ih => exact ⟨.cons he.1 ih.1, .cons he.2 ih.2⟩
  · rintro ⟨hk, hv⟩
    induction es generalizing fs with
    | nil =>
      obtain rfl : fs = [] := List.map_eq_nil_iff.mp (List.forall₂_nil_left_iff.mp hk)
      exact .nil
    | cons e es ih =>
      cases fs with
      | nil => cases hk
      | cons f fs =>
        obtain ⟨hk₁, hk⟩ := List.forall₂_cons.mp hk
        obtain ⟨hv₁, hv⟩ := List.forall₂_cons.mp hv
        exact .cons ⟨hk₁, hv₁⟩ (ih hk hv)

theorem seq_same_iff : (Value.seq vs).Same w ↔ ∃ ws, w = .seq ws ∧ List.Forall₂ Same vs ws := by
  constructor
  · intro h
    cases h with
    | scalar h => cases h
    | seq h => exact ⟨_, rfl, h⟩
  · rintro ⟨ws, rfl, h⟩
    exact .seq h

theorem map_same_iff :
    (Value.map es).Same w ↔ ∃ fs, w = .map fs ∧ Corresponds SameEntry es fs := by
  constructor
  · intro h
    cases h with
    | scalar h => cases h
    | map hk hv hp => exact ⟨_, rfl, _, forall₂_sameEntry.mpr ⟨hk, hv⟩, hp⟩
  · rintro ⟨fs, rfl, gs, h, hp⟩
    obtain ⟨hk, hv⟩ := forall₂_sameEntry.mp h
    exact .map hk hv hp

theorem set_same_iff : (Value.set vs).Same w ↔ ∃ ws, w = .set ws ∧ Corresponds Same vs ws := by
  constructor
  · intro h
    cases h with
    | scalar h => cases h
    | set h hp => exact ⟨_, rfl, _, h, hp⟩
  · rintro ⟨ws, rfl, us, h, hp⟩
    exact .set h hp

theorem scalar_same_iff (hv : v.isScalar) : v.Same w ↔ v = w := by
  constructor
  · intro h
    cases h with
    | scalar => rfl
    | seq | map | set => cases hv
  · rintro rfl
    exact .scalar hv

namespace Same

theorem refl (v : Value) : v.Same v := by
  induction v using of_parts with
  | h v ih =>
    cases v with
    | null | bool | int | float | str => exact .scalar rfl
    | seq vs => exact .seq (List.forall₂_same.mpr ih)
    | set vs => exact .set (List.forall₂_same.mpr ih) .rfl
    | map es =>
      have he : List.Forall₂ SameEntry es es := List.forall₂_same.mpr fun e he ↦
        ⟨ih _ (key_mem_parts he), ih _ (value_mem_parts he)⟩
      exact map_same_iff.mpr ⟨es, rfl, .of_forall₂ he⟩

theorem symm (h : v.Same w) : w.Same v := by
  induction v using of_parts generalizing w with
  | h v ih =>
    cases v with
    | null | bool | int | float | str =>
      obtain rfl := (scalar_same_iff rfl).mp h
      exact h
    | seq vs =>
      obtain ⟨ws, rfl, hw⟩ := seq_same_iff.mp h
      have hflip : List.Forall₂ (flip Same) vs ws := forall₂_imp_of_mem hw fun u hu _ _ ↦ ih u hu
      exact .seq hflip.flip
    | set vs =>
      obtain ⟨ws, rfl, hw⟩ := set_same_iff.mp h
      have hflip : Corresponds (flip Same) vs ws := hw.imp fun u hu _ _ ↦ ih u hu
      exact set_same_iff.mpr ⟨vs, rfl, hflip.symm⟩
    | map es =>
      obtain ⟨fs, rfl, hw⟩ := map_same_iff.mp h
      have hflip : Corresponds (flip SameEntry) es fs := hw.imp fun e he _ _ hef ↦
        ⟨ih _ (key_mem_parts he) hef.1, ih _ (value_mem_parts he) hef.2⟩
      exact map_same_iff.mpr ⟨es, rfl, hflip.symm⟩

theorem trans (h : u.Same v) (h' : v.Same w) : u.Same w := by
  induction u using of_parts generalizing v w with
  | h u ih =>
    cases u with
    | null | bool | int | float | str =>
      obtain rfl := (scalar_same_iff rfl).mp h
      exact h'
    | seq us =>
      obtain ⟨vs, rfl, hv⟩ := seq_same_iff.mp h
      obtain ⟨ws, rfl, hw⟩ := seq_same_iff.mp h'
      exact .seq (forall₂_trans_of_mem hv hw fun a ha _ _ ↦ ih a ha)
    | set us =>
      obtain ⟨vs, rfl, hv⟩ := set_same_iff.mp h
      obtain ⟨ws, rfl, hw⟩ := set_same_iff.mp h'
      exact set_same_iff.mpr ⟨ws, rfl, hv.trans hw fun a ha _ _ ↦ ih a ha⟩
    | map es =>
      obtain ⟨fs, rfl, hv⟩ := map_same_iff.mp h
      obtain ⟨gs, rfl, hw⟩ := map_same_iff.mp h'
      refine map_same_iff.mpr ⟨gs, rfl, hv.trans hw fun e he _ _ hef hfg ↦ ⟨?_, ?_⟩⟩
      · exact ih _ (key_mem_parts he) hef.1 hfg.1
      · exact ih _ (value_mem_parts he) hef.2 hfg.2

theorem kind_eq (h : v.Same w) : Kind.of v = Kind.of w := by
  cases h <;> rfl

theorem str?_eq (h : v.Same w) : v.str? = w.str? := by
  cases h <;> rfl

end Same

theorem itemsEq_iff : itemsEq vs ws = true ↔ List.Forall₂ (· == ·) vs ws := by
  induction vs generalizing ws with
  | nil => cases ws <;> simp [itemsEq]
  | cons v vs ih =>
    cases ws with
    | nil => simp [itemsEq]
    | cons w ws =>
      rw [itemsEq, Bool.and_eq_true, ih, List.forall₂_cons]
      rfl

theorem itemsIn_iff : itemsIn vs ws = true ↔ ∀ v ∈ vs, ∃ w ∈ ws, v == w := by
  induction vs with
  | nil => simp [itemsIn]
  | cons v vs ih =>
    rw [itemsIn, Bool.and_eq_true, ih, List.forall_mem_cons, List.any_eq_true]
    rfl

theorem entriesIn_iff :
    entriesIn es fs = true ↔ ∀ e ∈ es, ∃ f, Table.find? fs e.1 = some f ∧ e.2 == f.2 := by
  induction es with
  | nil => simp [entriesIn]
  | cons e es ih =>
    have hfind : fs.find? (fun f ↦ beq e.1 f.1) = Table.find? fs e.1 := rfl
    rw [entriesIn, Bool.and_eq_true, ih, List.forall_mem_cons, hfind]
    cases Table.find? fs e.1 with
    | none => simp
    | some f => simp only [Option.some.injEq, exists_eq_left']; rfl

theorem scalar_beq_iff (hv : v.isScalar) : (v == w) = true ↔ v = w := by
  cases v with
  | null | bool | int | float | str => cases w <;> simp [BEq.beq, beq]
  | seq | map | set => cases hv

theorem seq_beq_iff :
    (Value.seq vs == w) = true ↔ ∃ ws, w = .seq ws ∧ List.Forall₂ (· == ·) vs ws := by
  cases w <;> simp [BEq.beq, beq, itemsEq_iff]

theorem set_beq_iff : (Value.set vs == w) = true ↔
    ∃ ws, w = .set ws ∧ vs.length = ws.length ∧ ∀ v ∈ vs, ∃ w ∈ ws, v == w := by
  cases w <;> simp [BEq.beq, beq, itemsIn_iff]

theorem map_beq_iff : (Value.map es == w) = true ↔
    ∃ fs, w = .map fs ∧ es.length = fs.length ∧
      ∀ e ∈ es, ∃ f, Table.find? fs e.1 = some f ∧ e.2 == f.2 := by
  cases w <;> simp [BEq.beq, beq, entriesIn_iff]

theorem find?_eq_of_unique {k : Value} {f : Value × Value} (hf : f ∈ fs) (hk : k == f.1)
    (huniq : ∀ g ∈ fs, k == g.1 → g = f) : Table.find? fs k = some f := by
  cases h : Table.find? fs k with
  | none => exact absurd hk (List.find?_eq_none.mp h f hf)
  | some g =>
    have hg : k == g.1 := List.find?_some (p := fun e : Value × Value ↦ k == e.1) h
    rw [huniq g (List.mem_of_find?_eq_some h) hg]

theorem find?_scalar_eq_none {k : Value} (hk : k.isScalar) :
    Table.find? fs k = none ↔ ∀ f ∈ fs, f.1 ≠ k := by
  simp only [Table.find?, List.find?_eq_none, scalar_beq_iff hk, eq_comm (a := k), ne_eq]

theorem find?_scalar_eq_some {k : Value} (hk : k.isScalar) {f : Value × Value} :
    Table.find? fs k = some f ↔
      f.1 = k ∧ ∃ before behind, fs = before ++ f :: behind ∧ ∀ g ∈ before, g.1 ≠ k := by
  have hne (g : Value × Value) : (!(k == g.1)) = true ↔ g.1 ≠ k := by
    rw [Bool.not_eq_true', ← Bool.not_eq_true, scalar_beq_iff hk, eq_comm]
  simp only [Table.find?, List.find?_eq_some_iff_append, scalar_beq_iff hk, hne, eq_comm (a := k)]

theorem eq_of_same_key (h : fs.Pairwise fun e f ↦ ¬e.1.Same f.1) {e f : Value × Value}
    (he : e ∈ fs) (hf : f ∈ fs) (hs : e.1.Same f.1) : e = f := by
  have hsymm : Std.Symm fun e f : Value × Value ↦ ¬e.1.Same f.1 := ⟨fun _ _ hn hs ↦ hn hs.symm⟩
  by_contra hne
  exact h.forall he hf hne hs

/-- On these values `==` is equality up to order. -/
def Agrees (vs : List Value) : Prop := ∀ a ∈ vs, ∀ b ∈ vs, (a == b) = true ↔ a.Same b

theorem set_beq_iff_same (hv : (set vs).Unrepeated) (h : Agrees (vs ++ ws)) :
    (vs.length = ws.length ∧ ∀ v ∈ vs, ∃ w ∈ ws, v == w) ↔ Corresponds Same vs ws := by
  constructor
  · rintro ⟨hlen, hin⟩
    refine .of_partners hlen.ge (fun a ha ↦ ?_) ?_
    · obtain ⟨b, hb, hab⟩ := hin a ha
      have hs := (h a (List.mem_append_left _ ha) b (List.mem_append_right _ hb)).mp hab
      exact ⟨b, hb, hs⟩
    · refine hv.imp_of_mem fun {a a'} ha ha' hne b hab ha'b ↦ hne ?_
      have hs := h a (List.mem_append_left _ ha) a' (List.mem_append_left _ ha')
      exact hs.mpr (hab.trans ha'b.symm)
  · intro hc
    refine ⟨hc.length_eq, fun a ha ↦ ?_⟩
    obtain ⟨b, hb, hab⟩ := hc.exists_right ha
    have hs := h a (List.mem_append_left _ ha) b (List.mem_append_right _ hb)
    exact ⟨b, hb, hs.mpr hab⟩

theorem map_beq_iff_same (hes : (map es).Unrepeated) (hfs : (map fs).Unrepeated)
    (h : Agrees (map (es ++ fs)).parts) :
    (es.length = fs.length ∧ ∀ e ∈ es, ∃ f, Table.find? fs e.1 = some f ∧ e.2 == f.2) ↔
      Corresponds SameEntry es fs := by
  have hkey {e f} (he : e ∈ es ++ fs) (hf : f ∈ es ++ fs) : (e.1 == f.1) = true ↔ e.1.Same f.1 :=
    h e.1 (key_mem_parts he) f.1 (key_mem_parts hf)
  have hvalue {e f} (he : e ∈ es ++ fs) (hf : f ∈ es ++ fs) :
      (e.2 == f.2) = true ↔ e.2.Same f.2 := h e.2 (value_mem_parts he) f.2 (value_mem_parts hf)
  constructor
  · rintro ⟨hlen, hin⟩
    refine .of_partners hlen.ge (fun e he ↦ ?_) ?_
    · obtain ⟨f, hfind, hv⟩ := hin e he
      have hf : f ∈ fs := List.mem_of_find?_eq_some hfind
      have hk : e.1 == f.1 := List.find?_some (p := fun f : Value × Value ↦ e.1 == f.1) hfind
      have he := List.mem_append_left fs he
      have hf' := List.mem_append_right es hf
      exact ⟨f, hf, (hkey he hf').mp hk, (hvalue he hf').mp hv⟩
    · refine hes.imp_of_mem fun he he' hne f hef he'f ↦ hne ?_
      have hs := hkey (List.mem_append_left fs he) (List.mem_append_left fs he')
      exact hs.mpr (hef.1.trans he'f.1.symm)
  · intro hc
    have hkeys : fs.Pairwise fun f g ↦ ¬f.1.Same g.1 := by
      refine hfs.imp_of_mem fun hf hg hne hs ↦ hne ?_
      exact (hkey (List.mem_append_right es hf) (List.mem_append_right es hg)).mpr hs
    refine ⟨hc.length_eq, fun e he ↦ ?_⟩
    obtain ⟨f, hf, hk, hv⟩ := hc.exists_right he
    have he := List.mem_append_left fs he
    have hf' := List.mem_append_right es hf
    have huniq : ∀ g ∈ fs, e.1 == g.1 → g = f := by
      intro g hg hkg
      have hs := (hkey he (List.mem_append_right es hg)).mp hkg
      exact eq_of_same_key hkeys hg hf (hs.symm.trans hk)
    exact ⟨f, find?_eq_of_unique hf ((hkey he hf').mpr hk) huniq, (hvalue he hf').mpr hv⟩

theorem beq_iff_same_of_agrees (hv : v.Unrepeated) (hw : w.Unrepeated)
    (h : Agrees (v.parts ++ w.parts)) : (v == w) = true ↔ v.Same w := by
  cases v with
  | null | bool | int | float | str => rw [scalar_beq_iff rfl, scalar_same_iff rfl]
  | seq vs =>
    rw [seq_beq_iff, seq_same_iff]
    refine exists_congr fun ws ↦ and_congr_right fun hws ↦ ?_
    subst hws
    have hab {a b} (ha : a ∈ vs) (hb : b ∈ ws) :=
      h a (List.mem_append_left _ ha) b (List.mem_append_right _ hb)
    exact ⟨fun hall ↦ forall₂_imp_of_mem hall fun a ha b hb ↦ (hab ha hb).mp,
      fun hall ↦ forall₂_imp_of_mem hall fun a ha b hb ↦ (hab ha hb).mpr⟩
  | set vs =>
    rw [set_beq_iff, set_same_iff]
    refine exists_congr fun ws ↦ and_congr_right fun hws ↦ ?_
    subst hws
    exact set_beq_iff_same hv h
  | map es =>
    rw [map_beq_iff, map_same_iff]
    refine exists_congr fun fs ↦ and_congr_right fun hfs ↦ ?_
    subst hfs
    rw [parts, parts, ← List.flatMap_append] at h
    exact map_beq_iff_same hv hw h

/-- On values without repetitions `==` is equality up to order. -/
theorem beq_iff_same {v w : Value} (hv : v.Distinct) (hw : w.Distinct) :
    (v == w) = true ↔ v.Same w := by
  -- parts of one value are compared with each other too, so the bound is on both weights
  refine beq_iff_same_of_agrees hv.unrepeated hw.unrepeated fun a ha b hb ↦ ?_
  have hpart {u} (hu : u ∈ v.parts ++ w.parts) : u.Distinct ∧ u.weight < max v.weight w.weight := by
    rcases List.mem_append.mp hu with hu | hu
    · exact ⟨hv.part hu, lt_max_of_lt_left (weight_lt_of_mem_parts hu)⟩
    · exact ⟨hw.part hu, lt_max_of_lt_right (weight_lt_of_mem_parts hu)⟩
  have hlt : max a.weight b.weight < max v.weight w.weight := max_lt (hpart ha).2 (hpart hb).2
  exact beq_iff_same (hpart ha).1 (hpart hb).1
termination_by max v.weight w.weight

theorem Distinct.scalar (h : v.isScalar) : v.Distinct := by
  cases v with
  | null | bool | int | float | str => exact ⟨trivial, fun _ hu ↦ by cases hu⟩
  | seq | map | set => cases h

theorem Distinct.beq_comm (hv : v.Distinct) (hw : w.Distinct) : (v == w) = true ↔ (w == v) = true :=
  (beq_iff_same hv hw).trans (Iff.trans ⟨Same.symm, Same.symm⟩ (beq_iff_same hw hv).symm)

end Value

end TreePattern
