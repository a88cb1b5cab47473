import Mathlib.Logic.Relation
import TreePattern.Node
import TreePattern.Proofs.Value.Construction

namespace TreePattern

open Relation

theorem forall₂_replaced {α : Type} {R : α → α → Prop} (hr : ∀ a, R a a) (before after : List α)
    {a b : α} (h : R a b) : List.Forall₂ R (before ++ a :: after) (before ++ b :: after) :=
  List.rel_append (List.forall₂_same.mpr fun c _ ↦ hr c)
    (.cons h (List.forall₂_same.mpr fun c _ ↦ hr c))

/-- Items that each lead somewhere by steps do so together, where a step of one item is a step of
the whole. -/
theorem reflTransGen_items {α β : Type} {R : α → α → Prop} {S : β → β → Prop} {f : List α → β}
    (hf : ∀ before after a b, R a b → S (f (before ++ a :: after)) (f (before ++ b :: after)))
    {as bs : List α} (h : List.Forall₂ (ReflTransGen R) as bs) :
    ReflTransGen S (f as) (f bs) := by
  -- the items that have arrived are put in front one by one
  have hall (arrived : List α) : ReflTransGen S (f (arrived ++ as)) (f (arrived ++ bs)) := by
    induction h generalizing arrived with
    | nil => exact .refl
    | @cons a b as bs hab _ ih =>
      have hfirst : ReflTransGen S (f (arrived ++ a :: as)) (f (arrived ++ b :: as)) :=
        hab.lift (fun c ↦ f (arrived ++ c :: as)) (hf arrived as)
      have hrest := ih (arrived ++ [b])
      rw [List.append_assoc, List.append_assoc] at hrest
      exact hfirst.trans hrest
  exact hall []

namespace Value

/-- One rearrangement, of the value itself or of one inside it. -/
inductive Rearranges : Value → Value → Prop
  | entries {es fs : List (Value × Value)} : es.Perm fs → Rearranges (.map es) (.map fs)
  | items {vs ws : List Value} : vs.Perm ws → Rearranges (.set vs) (.set ws)
  | inSeq (before after : List Value) {v w : Value} : Rearranges v w →
      Rearranges (.seq (before ++ v :: after)) (.seq (before ++ w :: after))
  | inSet (before after : List Value) {v w : Value} : Rearranges v w →
      Rearranges (.set (before ++ v :: after)) (.set (before ++ w :: after))
  | inKey (before after : List (Value × Value)) (v : Value) {k l : Value} : Rearranges k l →
      Rearranges (.map (before ++ (k, v) :: after)) (.map (before ++ (l, v) :: after))
  | inValue (before after : List (Value × Value)) (k : Value) {v w : Value} : Rearranges v w →
      Rearranges (.map (before ++ (k, v) :: after)) (.map (before ++ (k, w) :: after))

inductive RearrangesEntry : Value × Value → Value × Value → Prop
  | key (v : Value) {k l : Value} : Rearranges k l → RearrangesEntry (k, v) (l, v)
  | value (k : Value) {v w : Value} : Rearranges v w → RearrangesEntry (k, v) (k, w)

variable {v w : Value} {vs ws : List Value} {es fs : List (Value × Value)}

theorem SameEntry.refl (e : Value × Value) : SameEntry e e := ⟨.refl _, .refl _⟩

theorem Rearranges.same (h : v.Rearranges w) : v.Same w := by
  induction h with
  | @entries es fs hp =>
    exact map_same_iff.mpr ⟨fs, rfl, es, List.forall₂_same.mpr fun e _ ↦ .refl e, hp⟩
  | items hp => exact .set (List.forall₂_same.mpr fun v _ ↦ .refl v) hp
  | inSeq before after _ ih => exact .seq (forall₂_replaced .refl before after ih)
  | inSet before after _ ih => exact .set (forall₂_replaced .refl before after ih) .rfl
  | inKey before after v _ ih =>
    exact map_same_iff.mpr ⟨_, rfl, .of_forall₂ (forall₂_replaced .refl before after ⟨ih, .refl v⟩)⟩
  | inValue before after k _ ih =>
    exact map_same_iff.mpr ⟨_, rfl, .of_forall₂ (forall₂_replaced .refl before after ⟨.refl k, ih⟩)⟩

theorem reflTransGen_seq (h : List.Forall₂ (ReflTransGen Rearranges) vs ws) :
    ReflTransGen Rearranges (.seq vs) (.seq ws) :=
  reflTransGen_items (fun before after _ _ ↦ .inSeq before after) h

theorem reflTransGen_set (h : Corresponds (ReflTransGen Rearranges) vs ws) :
    ReflTransGen Rearranges (.set vs) (.set ws) := by
  obtain ⟨us, hus, hp⟩ := h
  have hitems : ReflTransGen Rearranges (.set vs) (.set us) :=
    reflTransGen_items (fun before after _ _ ↦ .inSet before after) hus
  exact hitems.tail (.items hp)

theorem reflTransGen_entry {k l : Value} (hk : ReflTransGen Rearranges k l)
    (hv : ReflTransGen Rearranges v w) : ReflTransGen RearrangesEntry (k, v) (l, w) := by
  have hkey : ReflTransGen RearrangesEntry (k, v) (l, v) :=
    hk.lift (fun k ↦ (k, v)) fun _ _ ↦ .key v
  have hvalue : ReflTransGen RearrangesEntry (l, v) (l, w) :=
    hv.lift (fun v ↦ (l, v)) fun _ _ ↦ .value l
  exact hkey.trans hvalue

theorem reflTransGen_map (h : Corresponds (ReflTransGen RearrangesEntry) es fs) :
    ReflTransGen Rearranges (.map es) (.map fs) := by
  obtain ⟨gs, hgs, hp⟩ := h
  have hentries : ReflTransGen Rearranges (.map es) (.map gs) := by
    refine reflTransGen_items (fun before after e f hef ↦ ?_) hgs
    cases hef with
    | key v hk => exact .inKey before after v hk
    | value k hv => exact .inValue before after k hv
  exact hentries.tail (.entries hp)

theorem Same.reflTransGen (h : v.Same w) : ReflTransGen Rearranges v w := by
  induction v using of_parts generalizing w with
  | h v ih =>
    cases v with
    | null | bool | int | float | str =>
      obtain rfl := (scalar_same_iff rfl).mp h
      exact .refl
    | seq vs =>
      obtain ⟨ws, rfl, hw⟩ := seq_same_iff.mp h
      exact reflTransGen_seq (forall₂_imp_of_mem hw fun u hu _ _ ↦ ih u hu)
    | set vs =>
      obtain ⟨ws, rfl, hw⟩ := set_same_iff.mp h
      exact reflTransGen_set (hw.imp fun u hu _ _ ↦ ih u hu)
    | map es =>
      obtain ⟨fs, rfl, hw⟩ := map_same_iff.mp h
      refine reflTransGen_map (hw.imp fun e he _ _ hef ↦ ?_)
      exact reflTransGen_entry (ih _ (key_mem_parts he) hef.1) (ih _ (value_mem_parts he) hef.2)

theorem same_iff_reflTransGen : v.Same w ↔ ReflTransGen Rearranges v w := by
  constructor
  · exact Same.reflTransGen
  · intro h
    induction h with
    | refl => exact .refl v
    | tail _ hstep ih => exact ih.trans hstep.same

abbrev Proper : Type := {v : Value // v.Distinct}

end Value

abbrev Node.Proper : Type := {n : Node // n.toValue.Distinct}

theorem Node.beq_iff_same (m n : Node.Proper) :
    (m.1 == n.1) = true ↔ m.1.toValue.Same n.1.toValue := Value.beq_iff_same m.2 n.2

theorem Node.equivalence_beq : Equivalence fun m n : Node.Proper ↦ (m.1 == n.1) = true where
  refl n := (beq_iff_same n n).mpr (.refl _)
  symm {m n} h := (beq_iff_same n m).mpr ((beq_iff_same m n).mp h).symm
  trans {l m n} h h' :=
    (beq_iff_same l n).mpr (((beq_iff_same l m).mp h).trans ((beq_iff_same m n).mp h'))

def Value.Proper.node (v : Value.Proper) : Node.Proper := ⟨.stored v.1, v.2⟩

/-- Equality of values without repetitions, as all are that are built, is an equivalence, and it is
what rearrangements of mappings and sets at any depth lead to. On nodes it is an equivalence too,
under which every node is equal to the value it stands for, and stored values are equal as the
values they are. -/
theorem Value.beq_equivalence :
    ((∀ es, (∀ e ∈ es, e.1.Distinct ∧ e.2.Distinct) → (ofEntries es).Distinct) ∧
      ∀ vs, (∀ v ∈ vs, v.Distinct) → (ofItems vs).Distinct) ∧
    Equivalence (fun v w : Proper ↦ (v.1 == w.1) = true) ∧
    (∀ v w : Proper, (v.1 == w.1) = true ↔ ReflTransGen Rearranges v.1 w.1) ∧
    Equivalence (fun m n : Node.Proper ↦ (m.1 == n.1) = true) ∧
    (∀ n : Node.Proper, n.1 == .stored n.1.toValue) ∧
    ∀ v w : Value, (Node.stored v == .stored w) = (v == w) := by
  refine ⟨⟨fun _ ↦ distinct_ofEntries, fun _ ↦ distinct_ofItems⟩,
    Node.equivalence_beq.comap Proper.node, fun v w ↦ ?_, Node.equivalence_beq, fun n ↦ ?_,
    fun v w ↦ rfl⟩
  · rw [beq_iff_same v.2 w.2, same_iff_reflTransGen]
  · have hvalue : n.1.toValue == n.1.toValue := (beq_iff_same n.2 n.2).mpr (.refl _)
    exact hvalue

end TreePattern
