import Mathlib.Data.List.Forall2
import TreePattern.Table

namespace TreePattern.Table

section

variable {α : Type} [BEq α] [LawfulBEq α]

theorem nodup_eraseDups (as : List α) : as.eraseDups.Nodup := by
  induction hn : as.length using Nat.strongRecOn generalizing as with
  | ind n ih =>
    cases as with
    | nil => simp
    | cons a as =>
      rw [List.eraseDups_cons, List.nodup_cons]
      refine ⟨by simp, ih _ ?_ _ rfl⟩
      have := List.length_filter_le (fun b ↦ !b == a) as
      rw [← hn, List.length_cons]
      omega

theorem eraseDups_of_nodup {as : List α} (h : as.Nodup) : as.eraseDups = as := by
  induction as with
  | nil => rfl
  | cons a as ih =>
    obtain ⟨ha, has⟩ := List.nodup_cons.mp h
    have hf : as.filter (fun b ↦ !b == a) = as := by
      refine List.filter_eq_self.mpr fun b hb ↦ ?_
      simpa using fun he : b = a ↦ ha (he ▸ hb)
    rw [List.eraseDups_cons, hf, ih has]

theorem eraseDups_eraseDups_append (as bs : List α) :
    (as.eraseDups ++ bs).eraseDups = (as ++ bs).eraseDups := by
  have hr : bs.removeAll as.eraseDups = bs.removeAll as := by
    simp only [List.removeAll]
    congr 1
    funext b
    simp
  rw [List.eraseDups_append, List.eraseDups_append, hr, eraseDups_of_nodup (nodup_eraseDups as)]

end

section

variable {α α' β β' : Type} [BEq α] [BEq α'] {t m : List (α × β)} {k : α} {v : β} {e : α × β}

theorem mem_put (h : e ∈ put t k v) : (∃ f ∈ t, e.2 = f.2) ∨ e.2 = v := by
  induction t with
  | nil => exact .inr (congrArg Prod.snd (List.mem_singleton.mp h))
  | cons f t ih =>
    rw [put] at h
    split at h
    · rcases List.mem_cons.mp h with rfl | h
      · exact .inr rfl
      · exact .inl ⟨e, List.mem_cons_of_mem f h, rfl⟩
    · rcases List.mem_cons.mp h with rfl | h
      · exact .inl ⟨e, List.mem_cons_self, rfl⟩
      · exact (ih h).imp_left fun ⟨g, hg, he⟩ ↦ ⟨g, List.mem_cons_of_mem f hg, he⟩

theorem mem_putAll (h : e ∈ putAll t m) : ∃ f ∈ t ++ m, e.2 = f.2 := by
  induction m generalizing t with
  | nil => exact ⟨e, List.mem_append_left _ h, rfl⟩
  | cons g m ih =>
    obtain ⟨f, hf, hef⟩ := ih h
    rcases List.mem_append.mp hf with hf | hf
    · rcases mem_put hf with ⟨f', hf', hff'⟩ | hfg
      · exact ⟨f', List.mem_append_left _ hf', hef.trans hff'⟩
      · exact ⟨g, List.mem_append_right _ List.mem_cons_self, hef.trans hfg⟩
    · exact ⟨f, List.mem_append_right _ (List.mem_cons_of_mem g hf), hef⟩

theorem put_map {f : α → α'} (hf : ∀ a b, (f a == f b) = (a == b)) (g : β → β')
    (t : List (α × β)) (k : α) (v : β) :
    put (t.map (Prod.map f g)) (f k) (g v) = (put t k v).map (Prod.map f g) := by
  induction t with
  | nil => rfl
  | cons e t ih =>
    rw [List.map_cons, put, put, Prod.map_fst, hf]
    split
    · rfl
    · rw [ih, List.map_cons]

/-- Keys that stay apart when they are renamed may be renamed before they are put or after. -/
theorem putAll_map {f : α → α'} (hf : ∀ a b, (f a == f b) = (a == b)) (g : β → β')
    (t m : List (α × β)) :
    putAll (t.map (Prod.map f g)) (m.map (Prod.map f g)) = (putAll t m).map (Prod.map f g) := by
  induction m generalizing t with
  | nil => rfl
  | cons e m ih =>
    calc putAll (put (t.map (Prod.map f g)) (f e.1) (g e.2)) (m.map (Prod.map f g))
        = putAll ((put t e.1 e.2).map (Prod.map f g)) (m.map (Prod.map f g)) := by rw [put_map hf]
      _ = (putAll (put t e.1 e.2) m).map (Prod.map f g) := ih _

end

variable {α β : Type} [BEq α] [LawfulBEq α] {t b m : List (α × β)} {k l : α}

theorem put_cons_self (t : List (α × β)) (k : α) (v w : β) :
    put ((k, w) :: t) k v = (k, v) :: t := by
  rw [put, if_pos (beq_self_eq_true k)]

theorem put_cons_of_ne (h : k ≠ l) (t : List (α × β)) (v w : β) :
    put ((l, w) :: t) k v = (l, w) :: put t k v := by
  rw [put, if_neg (by simpa using h)]

theorem keys_put_of_mem (h : k ∈ keys t) (v : β) : keys (put t k v) = keys t := by
  induction t with
  | nil => simp [keys] at h
  | cons e t ih =>
    obtain ⟨l, w⟩ := e
    by_cases hl : k = l
    · rw [hl, put_cons_self]
      rfl
    · have ht : k ∈ keys t := (List.mem_cons.mp h).resolve_left hl
      rw [put_cons_of_ne hl]
      exact congrArg (l :: ·) (ih ht)

theorem put_of_not_mem (h : k ∉ keys t) (v : β) : put t k v = t ++ [(k, v)] := by
  induction t with
  | nil => rfl
  | cons e t ih =>
    obtain ⟨l, w⟩ := e
    have hl : k ≠ l := fun he ↦ h (he ▸ List.mem_cons_self)
    have ht : k ∉ keys t := fun hk ↦ h (List.mem_cons_of_mem _ hk)
    rw [put_cons_of_ne hl, ih ht]
    rfl

theorem keys_put_of_not_mem (h : k ∉ keys t) (v : β) : keys (put t k v) = keys t ++ [k] := by
  rw [put_of_not_mem h]
  exact List.map_append

theorem mem_keys_put (t : List (α × β)) (k : α) (v : β) : k ∈ keys (put t k v) := by
  by_cases h : k ∈ keys t
  · rwa [keys_put_of_mem h]
  · rw [keys_put_of_not_mem h]
    exact List.mem_append_right _ (List.mem_singleton_self k)

theorem keys_prefix_put (t : List (α × β)) (k : α) (v : β) : keys t <+: keys (put t k v) := by
  by_cases h : k ∈ keys t
  · exact (keys_put_of_mem h v).symm ▸ List.prefix_rfl
  · exact (keys_put_of_not_mem h v).symm ▸ List.prefix_append _ _

theorem keys_prefix_putAll (t m : List (α × β)) : keys t <+: keys (putAll t m) := by
  induction m generalizing t with
  | nil => exact List.prefix_rfl
  | cons e m ih => exact (keys_prefix_put t e.1 e.2).trans (ih _)

theorem nodup_keys_put (h : (keys t).Nodup) (k : α) (v : β) : (keys (put t k v)).Nodup := by
  by_cases hk : k ∈ keys t
  · rwa [keys_put_of_mem hk]
  · rw [keys_put_of_not_mem hk]
    exact List.nodup_append.mpr ⟨h, List.pairwise_singleton _ k, fun a ha c hc he ↦
      hk (List.mem_singleton.mp hc ▸ he ▸ ha)⟩

theorem nodup_keys_putAll (h : (keys t).Nodup) (m : List (α × β)) :
    (keys (putAll t m)).Nodup := by
  induction m generalizing t with
  | nil => exact h
  | cons e m ih => exact ih (nodup_keys_put h e.1 e.2)

/-- The keys are those that were put, each at the place where it was put first. -/
theorem keys_put (h : (keys t).Nodup) (k : α) (v : β) :
    keys (put t k v) = (keys t ++ [k]).eraseDups := by
  rw [List.eraseDups_append, eraseDups_of_nodup h]
  by_cases hk : k ∈ keys t
  · rw [keys_put_of_mem hk]
    simp [List.removeAll, hk]
  · rw [keys_put_of_not_mem hk]
    simp [List.removeAll, hk, List.eraseDups_cons]

theorem keys_putAll (h : (keys t).Nodup) (m : List (α × β)) :
    keys (putAll t m) = (keys t ++ keys m).eraseDups := by
  induction m generalizing t with
  | nil => exact (eraseDups_of_nodup h).symm.trans (by rw [keys, keys, List.map_nil, List.append_nil])
  | cons e m ih =>
    calc keys (putAll (put t e.1 e.2) m)
        = (keys (put t e.1 e.2) ++ keys m).eraseDups := ih (nodup_keys_put h e.1 e.2)
      _ = (keys t ++ [e.1] ++ keys m).eraseDups := by
        rw [keys_put h, eraseDups_eraseDups_append]
      _ = (keys t ++ keys (e :: m)).eraseDups := by rw [List.append_assoc]; rfl

theorem get?_put_self (t : List (α × β)) (k : α) (v : β) : get? (put t k v) k = some v := by
  induction t with
  | nil => simp [put, get?, find?]
  | cons e t ih =>
    obtain ⟨l, w⟩ := e
    by_cases hl : k = l
    · rw [hl, put_cons_self]
      simp [get?, find?]
    · rw [put_cons_of_ne hl, ← ih]
      simp [get?, find?, hl]

theorem get?_put_of_ne (h : l ≠ k) (t : List (α × β)) (v : β) : get? (put t k v) l = get? t l := by
  induction t with
  | nil => simp [put, get?, find?, h]
  | cons e t ih =>
    obtain ⟨j, w⟩ := e
    by_cases hk : k = j
    · subst hk
      simp [put_cons_self, get?, find?, h]
    · rw [put_cons_of_ne hk]
      by_cases hl : l = j
      · simp [get?, find?, hl]
      · simpa [get?, find?, hl] using ih

/-- The last entry under a key is the one that counts. -/
theorem get?_putAll (t m : List (α × β)) (k : α) :
    get? (putAll t m) k = (get? m.reverse k).or (get? t k) := by
  induction m generalizing t with
  | nil => rfl
  | cons e m ih =>
    obtain ⟨l, v⟩ := e
    calc get? (putAll (put t l v) m) k
        = (get? m.reverse k).or (get? (put t l v) k) := ih _
      _ = (get? ((l, v) :: m).reverse k).or (get? t k) := ?_
    by_cases h : k = l
    · subst h
      rw [get?_put_self]
      simp [get?, find?]
      cases m.reverse.find? fun e ↦ k == e.1 <;> simp
    · rw [get?_put_of_ne h]
      simp [get?, find?, h]

theorem get?_erase_self (t : List (α × β)) (k : α) : get? (erase t k) k = none := by
  simp [get?, find?, erase]

theorem get?_erase_of_ne (h : l ≠ k) (t : List (α × β)) : get? (erase t k) l = get? t l := by
  have hp : (fun e : α × β ↦ decide ((!(k == e.1)) = true ∧ (l == e.1) = true)) =
      fun e ↦ l == e.1 := by
    funext e
    by_cases he : l = e.1
    · simp [← he, h.symm]
    · simp [he]
  rw [get?, get?, find?, find?, erase, List.find?_filter, hp]

theorem put_put_self (t : List (α × β)) (k : α) (v w : β) :
    put (put t k w) k v = put t k v := by
  induction t with
  | nil => exact put_cons_self [] k v w
  | cons e t ih =>
    obtain ⟨l, u⟩ := e
    by_cases hl : k = l
    · rw [hl, put_cons_self, put_cons_self, put_cons_self]
    · rw [put_cons_of_ne hl, put_cons_of_ne hl, put_cons_of_ne hl, ih]

theorem put_comm (hk : k ∈ keys t) (h : k ≠ l) (v w : β) :
    put (put t l w) k v = put (put t k v) l w := by
  induction t with
  | nil => simp [keys] at hk
  | cons e t ih =>
    obtain ⟨j, u⟩ := e
    by_cases hj : k = j
    · subst hj
      rw [put_cons_of_ne h.symm, put_cons_self, put_cons_self, put_cons_of_ne h.symm]
    · have ht : k ∈ keys t := (List.mem_cons.mp hk).resolve_left hj
      by_cases hl : l = j
      · subst hl
        rw [put_cons_self, put_cons_of_ne hj, put_cons_of_ne hj, put_cons_self]
      · rw [put_cons_of_ne hl, put_cons_of_ne hj, put_cons_of_ne hj, put_cons_of_ne hl, ih ht]

theorem put_putAll (hk : k ∈ keys t) (hm : k ∉ keys m) (v : β) :
    put (putAll t m) k v = putAll (put t k v) m := by
  induction m generalizing t with
  | nil => rfl
  | cons e m ih =>
    obtain ⟨l, w⟩ := e
    have hl : k ≠ l := fun he ↦ hm (he ▸ List.mem_cons_self)
    have hrest : k ∉ keys m := fun h ↦ hm (List.mem_cons_of_mem _ h)
    have ht : k ∈ keys (put t l w) := (keys_prefix_put t l w).subset hk
    calc put (putAll (put t l w) m) k v
        = putAll (put (put t l w) k v) m := ih ht hrest
      _ = putAll (put (put t k v) l w) m := by rw [put_comm hk hl]

theorem putAll_put (h : (keys m).Nodup) (t : List (α × β)) (k : α) (v : β) :
    putAll t (put m k v) = put (putAll t m) k v := by
  induction m generalizing t with
  | nil => rfl
  | cons e m ih =>
    obtain ⟨l, w⟩ := e
    have hn : l ∉ keys m ∧ (keys m).Nodup := List.nodup_cons.mp h
    by_cases hl : k = l
    · subst hl
      calc putAll t (put ((k, w) :: m) k v)
          = putAll (put t k v) m := by rw [put_cons_self]; rfl
        _ = putAll (put (put t k w) k v) m := by rw [put_put_self]
        _ = put (putAll (put t k w) m) k v := (put_putAll (mem_keys_put t k w) hn.1 v).symm
    · rw [put_cons_of_ne hl]
      exact ih hn.2 (put t l w)

theorem putAll_putAll (h : (keys b).Nodup) (t m : List (α × β)) :
    putAll t (putAll b m) = putAll (putAll t b) m := by
  induction m generalizing b with
  | nil => rfl
  | cons e m ih =>
    calc putAll t (putAll (put b e.1 e.2) m)
        = putAll (putAll t (put b e.1 e.2)) m := ih (nodup_keys_put h e.1 e.2)
      _ = putAll (put (putAll t b) e.1 e.2) m := by rw [putAll_put h]

theorem putAll_of_nodup (h : (keys (t ++ m)).Nodup) : putAll t m = t ++ m := by
  induction m generalizing t with
  | nil => exact (List.append_nil t).symm
  | cons e m ih =>
    obtain ⟨k, v⟩ := e
    have hk : k ∉ keys t := by
      simp only [keys, List.map_append, List.map_cons, List.nodup_append] at h
      exact fun hk ↦ h.2.2 k hk k List.mem_cons_self rfl
    rw [List.append_cons] at h ⊢
    calc putAll (put t k v) m = putAll (t ++ [(k, v)]) m := by rw [put_of_not_mem hk]
      _ = t ++ [(k, v)] ++ m := ih h

theorem ofList_of_nodup (h : (keys m).Nodup) : ofList m = m := putAll_of_nodup h

theorem nodup_keys_ofList (m : List (α × β)) : (keys (ofList m)).Nodup :=
  nodup_keys_putAll (t := []) List.nodup_nil m

/-- Tables with the same keys in the same order and with related values under them. -/
def Rel {γ : Type} (R : β → γ → Prop) (t : List (α × β)) (t' : List (α × γ)) : Prop :=
  List.Forall₂ (fun e f ↦ e.1 = f.1 ∧ R e.2 f.2) t t'

section

variable {γ : Type} {R : β → γ → Prop} {t' m' : List (α × γ)}

theorem Rel.put (h : Rel R t t') (k : α) {v : β} {w : γ} (hvw : R v w) :
    Rel R (put t k v) (put t' k w) := by
  induction h with
  | nil => exact .cons ⟨rfl, hvw⟩ .nil
  | @cons e f t t' hef ht ih =>
    obtain ⟨l, u⟩ := e
    obtain ⟨l', u'⟩ := f
    obtain ⟨rfl, hu⟩ := hef
    by_cases hl : k = l
    · rw [hl, put_cons_self, put_cons_self]
      exact .cons ⟨rfl, hvw⟩ ht
    · rw [put_cons_of_ne hl, put_cons_of_ne hl]
      exact .cons ⟨rfl, hu⟩ ih

theorem Rel.putAll (h : Rel R t t') (hm : Rel R m m') : Rel R (putAll t m) (putAll t' m') := by
  induction hm generalizing t t' with
  | nil => exact h
  | @cons e f m m' hef _ ih =>
    obtain ⟨k, v⟩ := e
    obtain ⟨k', v'⟩ := f
    obtain ⟨rfl, hv⟩ := hef
    exact ih (h.put k hv)

end

end TreePattern.Table
