import Mathlib.Data.List.Forall2
import Mathlib.Data.List.Perm.Basic

namespace TreePattern

/-- The lists are related item by item, once the second is rearranged. -/
def Corresponds {α β : Type} (R : α → β → Prop) (as : List α) (bs : List β) : Prop :=
  ∃ cs, List.Forall₂ R as cs ∧ cs.Perm bs

variable {α β γ δ : Type} {R : α → β → Prop} {as as' : List α} {bs bs' : List β}

theorem exists_of_forall₂ (h : List.Forall₂ R as bs) {a : α} (ha : a ∈ as) :
    ∃ b ∈ bs, R a b := by
  induction h with
  | nil => cases ha
  | cons hab _ ih =>
    rcases List.mem_cons.mp ha with rfl | ha
    · exact ⟨_, List.mem_cons_self, hab⟩
    · obtain ⟨b, hb, hr⟩ := ih ha
      exact ⟨b, List.mem_cons_of_mem _ hb, hr⟩

theorem forall₂_imp_of_mem {S : α → β → Prop} (h : List.Forall₂ R as bs)
    (hS : ∀ a ∈ as, ∀ b ∈ bs, R a b → S a b) : List.Forall₂ S as bs := by
  induction h with
  | nil => exact .nil
  | cons hab _ ih =>
    have hrest := ih fun a ha b hb ↦ hS a (List.mem_cons_of_mem _ ha) b (List.mem_cons_of_mem _ hb)
    exact .cons (hS _ List.mem_cons_self _ List.mem_cons_self hab) hrest

theorem forall₂_trans_of_mem {S : β → γ → Prop} {T : α → γ → Prop} {cs : List γ}
    (h : List.Forall₂ R as bs) (h' : List.Forall₂ S bs cs)
    (hT : ∀ a ∈ as, ∀ b c, R a b → S b c → T a c) : List.Forall₂ T as cs := by
  induction h generalizing cs with
  | nil =>
    cases h'
    exact .nil
  | cons hab _ ih =>
    cases h' with
    | cons hbc h' =>
      have hrest := ih h' fun a ha ↦ hT a (List.mem_cons_of_mem _ ha)
      exact .cons (hT _ List.mem_cons_self _ _ hab hbc) hrest

theorem rel_bind {S : γ → δ → Prop} {f : α → Option γ} {g : β → Option δ} {a : Option α}
    {b : Option β} (h : Option.Rel R a b) (hfg : ∀ x y, R x y → Option.Rel S (f x) (g y)) :
    Option.Rel S (a.bind f) (b.bind g) := by
  cases h with
  | none => exact .none
  | some hxy => exact hfg _ _ hxy

theorem rel_map {S : γ → δ → Prop} {f : α → γ} {g : β → δ} {a : Option α} {b : Option β}
    (h : Option.Rel R a b) (hfg : ∀ x y, R x y → S (f x) (g y)) :
    Option.Rel S (a.map f) (b.map g) := by
  cases h with
  | none => exact .none
  | some hxy => exact .some (hfg _ _ hxy)

theorem forall₂_getElem? (h : List.Forall₂ R as bs) (i : Nat) : Option.Rel R as[i]? bs[i]? := by
  induction h generalizing i with
  | nil => exact .none
  | cons hab _ ih =>
    cases i with
    | zero => exact .some hab
    | succ i => exact ih i

namespace Corresponds

theorem of_forall₂ (h : List.Forall₂ R as bs) : Corresponds R as bs := ⟨bs, h, .rfl⟩

theorem perm_right (h : Corresponds R as bs) (hp : bs.Perm bs') : Corresponds R as bs' := by
  obtain ⟨cs, hcs, hperm⟩ := h
  exact ⟨cs, hcs, hperm.trans hp⟩

theorem length_eq (h : Corresponds R as bs) : as.length = bs.length := by
  obtain ⟨cs, hcs, hp⟩ := h
  exact hcs.length_eq.trans hp.length_eq

theorem exists_right (h : Corresponds R as bs) {a : α} (ha : a ∈ as) : ∃ b ∈ bs, R a b := by
  obtain ⟨cs, hcs, hp⟩ := h
  obtain ⟨b, hb, hr⟩ := exists_of_forall₂ hcs ha
  exact ⟨b, hp.subset hb, hr⟩

theorem imp {S : α → β → Prop} (h : Corresponds R as bs)
    (hS : ∀ a ∈ as, ∀ b ∈ bs, R a b → S a b) : Corresponds S as bs := by
  obtain ⟨cs, hcs, hp⟩ := h
  exact ⟨cs, forall₂_imp_of_mem hcs fun a ha b hb ↦ hS a ha b (hp.subset hb), hp⟩

theorem symm (h : Corresponds R as bs) : Corresponds (flip R) bs as := by
  obtain ⟨cs, hcs, hp⟩ := h
  have hflip : List.Forall₂ (flip R) cs as := hcs.flip
  exact List.perm_comp_forall₂ hp.symm hflip

theorem trans {S : β → γ → Prop} {T : α → γ → Prop} {cs : List γ} (h : Corresponds R as bs)
    (h' : Corresponds S bs cs) (hT : ∀ a ∈ as, ∀ b c, R a b → S b c → T a c) :
    Corresponds T as cs := by
  obtain ⟨bs', hbs', hp⟩ := h
  obtain ⟨ds, hds, hq⟩ := h'
  obtain ⟨es, hes, hr⟩ := List.perm_comp_forall₂ hp hds
  exact ⟨es, forall₂_trans_of_mem hbs' hes hT, hr.trans hq⟩

theorem append (h : Corresponds R as bs) (h' : Corresponds R as' bs') :
    Corresponds R (as ++ as') (bs ++ bs') := by
  obtain ⟨cs, hcs, hp⟩ := h
  obtain ⟨cs', hcs', hp'⟩ := h'
  exact ⟨cs ++ cs', List.rel_append hcs hcs', hp.append hp'⟩

theorem flatMap {S : γ → δ → Prop} {f : α → List γ} {g : β → List δ} (h : Corresponds R as bs)
    (hfg : ∀ a ∈ as, ∀ b ∈ bs, R a b → Corresponds S (f a) (g b)) :
    Corresponds S (as.flatMap f) (bs.flatMap g) := by
  obtain ⟨cs, hcs, hp⟩ := h
  have hall : Corresponds S (as.flatMap f) (cs.flatMap g) := by
    have hmem : ∀ a ∈ as, ∀ c ∈ cs, R a c → Corresponds S (f a) (g c) :=
      fun a ha c hc ↦ hfg a ha c (hp.subset hc)
    have hrel := forall₂_imp_of_mem hcs hmem
    clear hfg hp hmem hcs
    induction hrel with
    | nil => exact of_forall₂ .nil
    | cons hab _ ih => exact hab.append ih
  exact hall.perm_right (hp.flatMap_right g)

theorem map {S : γ → δ → Prop} {f : α → γ} {g : β → δ} (h : Corresponds R as bs)
    (hfg : ∀ a ∈ as, ∀ b ∈ bs, R a b → S (f a) (g b)) : Corresponds S (as.map f) (bs.map g) := by
  rw [List.map_eq_flatMap, List.map_eq_flatMap]
  exact h.flatMap fun a ha b hb hab ↦ of_forall₂ (.cons (hfg a ha b hb hab) .nil)

/-- Where each item has a partner in a list that is no longer, and no two of them share one, the
partners are the whole list. -/
theorem of_partners (hlen : bs.length ≤ as.length) (h : ∀ a ∈ as, ∃ b ∈ bs, R a b)
    (hshare : as.Pairwise fun a a' ↦ ∀ b, R a b → ¬R a' b) : Corresponds R as bs := by
  induction as generalizing bs with
  | nil =>
    obtain rfl : bs = [] := List.eq_nil_of_length_eq_zero (Nat.le_zero.mp hlen)
    exact of_forall₂ .nil
  | cons a as ih =>
    obtain ⟨hfirst, hlater⟩ := List.pairwise_cons.mp hshare
    obtain ⟨b, hb, hab⟩ := h a List.mem_cons_self
    obtain ⟨before, behind, rfl⟩ := List.append_of_mem hb
    -- no later item needs the partner of the first, so it can be taken out
    have hrest : Corresponds R as (before ++ behind) := by
      refine ih ?_ (fun a' ha' ↦ ?_) hlater
      · simp only [List.length_append, List.length_cons] at hlen ⊢
        omega
      · obtain ⟨b', hb', hr⟩ := h a' (List.mem_cons_of_mem _ ha')
        have hne : b' ≠ b := fun he ↦ hfirst a' ha' b hab (he ▸ hr)
        have hmem : b' ∈ before ++ behind := by
          rcases List.mem_append.mp hb' with hb' | hb'
          · exact List.mem_append_left _ hb'
          · exact List.mem_append_right _ ((List.mem_cons.mp hb').resolve_left hne)
        exact ⟨b', hmem, hr⟩
    obtain ⟨cs, hcs, hp⟩ := hrest
    exact ⟨b :: cs, .cons hab hcs, (hp.cons b).trans List.perm_middle.symm⟩

end Corresponds

end TreePattern
