import TreePattern.Proofs.Matching.Segment

namespace TreePattern

namespace Supply

variable {α β : Type} {P : α → Prop} {Q : β → Prop} {s : Supply α}

/-- All that a supply gives has some property. -/
def All (P : α → Prop) : Supply α → Prop
  | done | fault _ => True
  | more a rest => P a ∧ (rest ()).All P

theorem all_ofList {as : List α} (h : ∀ a ∈ as, P a) : (ofList as).All P := by
  induction as with
  | nil => trivial
  | cons a as ih => exact ⟨h a List.mem_cons_self, ih fun b hb ↦ h b (List.mem_cons_of_mem a hb)⟩

theorem all_map {f : α → β} (hf : ∀ a, Q (f a)) (s : Supply α) : (s.map f).All Q := by
  induction s with
  | done | fault => trivial
  | more a rest ih => exact ⟨hf a, ih ()⟩

theorem All.filterMap {f : α → Option β} (h : s.All P) (hf : ∀ a b, P a → f a = some b → Q b) :
    (s.filterMap f).All Q := by
  induction s with
  | done | fault => trivial
  | more a rest ih =>
    have hrest := ih () h.2
    rw [Supply.filterMap]
    split
    · next b hb => exact ⟨hf a b h.1 hb, hrest⟩
    · exact hrest

theorem All.append {later : Unit → Supply α} (h : s.All P) (hl : (later ()).All P) :
    (s.append later).All P := by
  induction s with
  | done => exact hl
  | fault => trivial
  | more a rest ih => exact ⟨h.1, ih () h.2⟩

theorem All.flatMap {f : α → Supply β} (h : s.All P) (hf : ∀ a, P a → (f a).All Q) :
    (s.flatMap f).All Q := by
  induction s with
  | done | fault => trivial
  | more a rest ih =>
    rw [flatMap_more]
    exact (hf a h.1).append (ih () h.2)

end Supply

/-- The entries among which a segment chooses: for a group the node itself, as key and value. -/
def Segment.entries : Segment → Node → List Entry
  | tag _, n => n.entries?.getD []
  | group _, n => [(n, n)]

variable {es : List Entry}

namespace Choices

/-- Whatever is chosen is one of some entries. -/
def Among (es : List Entry) (cs : Choices) : Prop :=
  cs.All fun i ↦ ∀ c, i = .ok c → (c.key, c.value) ∈ es

variable {cs : Choices}

theorem among_all (n : Node) (skippable : Bool) :
    Among (n.entries?.getD []) (.ofList (Candidates.all n skippable)) := by
  refine Supply.all_ofList fun i hi c hc ↦ ?_
  subst hc
  unfold Candidates.all at hi
  split at hi
  · next es hes =>
    obtain ⟨e, he, hc⟩ := List.mem_map.mp hi
    obtain rfl := Except.ok.inj hc
    rw [hes]
    exact he
  · split at hi <;> simp at hi

theorem among_lookup (n : Node) (key : Value) (skippable : Bool) :
    Among (n.entries?.getD []) (.ofList (Candidates.lookup n key skippable)) := by
  refine Supply.all_ofList fun i hi c hc ↦ ?_
  subst hc
  unfold Candidates.lookup at hi
  split at hi
  · next e he =>
    obtain ⟨es, hes, hmem⟩ := Node.entry_mem he
    obtain rfl := Except.ok.inj (List.mem_singleton.mp hi)
    rw [hes]
    exact hmem
  · split at hi <;> simp at hi

theorem Among.filter (h : Among es cs) (test : Candidate → Bool) (skippable : Bool)
    (error : Candidate → Mismatch) :
    Among es (cs.filterMap (Candidates.kept? test skippable error)) := by
  refine Supply.All.filterMap h fun i j hi hk c hc ↦ ?_
  subst hc
  cases i with
  | error e => cases hk
  | ok c' =>
    rw [Candidates.kept?] at hk
    split at hk
    · cases hk
      exact hi c rfl
    · split at hk <;> cases hk

theorem among_ofResults {e : Entry} (he : e ∈ es) (results : Results) :
    Among es (ofResults e results) := by
  refine Supply.all_map (fun i c hc ↦ ?_) results
  cases i with
  | error m => cases hc
  | ok b =>
    cases hc
    exact he

theorem among_ofValid {e : Entry} (he : e ∈ es) (results : Results) :
    Among es (ofValid e results) := by
  refine Supply.all_map (fun b c hc ↦ ?_) (valid results)
  cases hc
  exact he

theorem Among.matchKeys (h : Among es cs) (run : Node → Results) (skippable : Bool) :
    Among es (matchKeys run skippable cs) := by
  refine Supply.All.flatMap h fun i hi ↦ ?_
  cases i with
  | error e => exact ⟨nofun, trivial⟩
  | ok c =>
    cases skippable with
    | false => exact among_ofResults (hi c rfl) (run c.key)
    | true => exact among_ofValid (hi c rfl) (run c.key)

theorem among_ofGroup (n : Node) (results : Results) (skippable : Bool) :
    Among [(n, n)] (ofGroup n results skippable) := by
  have hn : (n, n) ∈ [(n, n)] := List.mem_singleton_self _
  cases skippable with
  | false => exact among_ofResults hn results
  | true =>
    have hvalid := among_ofValid hn results
    rw [ofGroup, if_pos rfl]
    split
    · refine ⟨fun c hc ↦ ?_, trivial⟩
      cases hc
      exact hn
    · exact hvalid

end Choices

namespace Level

variable {l : Level}

/-- Whatever a level may still choose is one of some entries. -/
def Among (l : Level) (es : List Entry) : Prop :=
  ∀ skippable, Choices.Among es (l.pending skippable)

def Chose (l : Level) (es : List Entry) : Prop :=
  ∃ key, l.key = some key ∧ (key, l.value) ∈ es

theorem among_child (n : Node) : (child n).Among (n.entries?.getD []) :=
  fun skippable ↦ Choices.among_all n skippable

theorem among_install {key : Value} {skippable : Bool} {l' : Level}
    (h : l.install? (fun _ ↦ .ofList (Candidates.lookup l.parent key skippable)) = .ok l') :
    l'.parent = l.parent ∧ l'.Among (l.parent.entries?.getD []) := by
  unfold install? at h
  split at h
  · obtain rfl := Except.ok.inj h
    exact ⟨rfl, fun _ ↦ Choices.among_lookup l.parent key skippable⟩
  · cases h

theorem Among.refine (h : l.Among es) {f : Choices → Choices}
    (hf : ∀ cs, Choices.Among es cs → Choices.Among es (f cs)) (skippable : Bool) :
    (l.refine skippable f).Among es := fun _ ↦ hf _ (h skippable)

theorem Among.choose {c : Candidate} {rest : Unit → Choices} (h : l.Among es)
    (hl : l.pending false = .more (.ok c) rest) :
    (l.choose c rest).Among es ∧ (l.choose c rest).Chose es := by
  have hall := h false
  rw [hl] at hall
  exact ⟨fun _ ↦ hall.2, c.key, rfl, hall.1 c rfl⟩

end Level

end TreePattern
