import TreePattern.Proofs.Definitions
import TreePattern.Proofs.Pattern.Concatenation

namespace TreePattern

open Token
open Table (nodup_eraseDups)

/-- The names behind dollar signs, where a question mark may stand between. -/
def Token.references : List Token → List String
  | .dollar :: .ident name _ :: ts => name :: references ts
  | .dollar :: .question :: .ident name _ :: ts => name :: references ts
  | _ :: ts => references ts
  | [] => []

namespace Instr

mutual

/-- The definitions that an instruction carries, those of subtrees included. -/
def uses : Instr → List (String × Definition)
  | param name key _ => [(name, .key key)]
  | test name predicate _ => [(name, .predicate predicate)]
  | keySubtree code _ => codeUses code
  | valueSubtree code _ => codeUses code
  | arrow | ident _ | stringKey _ _ | regexKey _ _ | close => []
termination_by structural i => i

def codeUses : List Instr → List (String × Definition)
  | [] => []
  | i :: is => uses i ++ codeUses is
termination_by structural is => is

end

mutual

theorem names_eq : ∀ i : Instr, names i = (uses i).map (·.1)
  | param _ _ _ | test _ _ _ => rfl
  | keySubtree code _ | valueSubtree code _ => codeNames_eq code
  | arrow | ident _ | stringKey _ _ | regexKey _ _ | close => rfl
termination_by structural i => i

theorem codeNames_eq : ∀ code : List Instr, codeNames code = (codeUses code).map (·.1)
  | [] => rfl
  | i :: is => by rw [codeNames, codeUses, List.map_append, names_eq i, codeNames_eq is]
termination_by structural is => is

end

@[simp]
theorem codeUses_append (a b : List Instr) : codeUses (a ++ b) = codeUses a ++ codeUses b := by
  induction a with
  | nil => rfl
  | cons i a ih => rw [List.cons_append, codeUses, codeUses, ih, List.append_assoc]

end Instr

open Instr

/-- Definitions in which each of some names stands for what is listed with it. -/
def Definitions.Supplies (d : Definitions) (uses : List (String × Definition)) : Prop :=
  ∀ e ∈ uses, d.get? e.1 = some e.2

/-- What is derived from some tokens under a table of definitions rests on what is used of it: those
are the names in the tokens, the table supplies them, and any table that does is as good. -/
structure Rests (derives : Definitions → Prop) (d : Definitions) (uses : List (String × Definition))
    (ts : List Token) : Prop where
  references : ∀ us, references (ts ++ us) = uses.map (·.1) ++ references us
  supplies : d.Supplies uses
  derives_of : ∀ d' : Definitions, d'.Supplies uses → derives d'

section

variable {P Q R : Definitions → Prop} {d : Definitions} {a b : List (String × Definition)}
  {ts us : List Token}

theorem Rests.append (h : Rests P d a ts) (h' : Rests Q d b us) (hr : ∀ d, P d → Q d → R d) :
    Rests R d (a ++ b) (ts ++ us) where
  references vs := by
    rw [List.append_assoc, h.references, h'.references, List.map_append, List.append_assoc]
  supplies := List.forall_mem_append.mpr ⟨h.supplies, h'.supplies⟩
  derives_of d' hd :=
    have hab := List.forall_mem_append.mp hd
    hr d' (h.derives_of d' hab.1) (h'.derives_of d' hab.2)

theorem rests_silent (hp : ∀ d, P d) (h : ∀ t ∈ ts, t ≠ dollar) : Rests P d [] ts where
  references us := by
    induction ts with
    | nil => rfl
    | cons t ts ih =>
      obtain ⟨ht, hts⟩ := List.forall_mem_cons.mp h
      rw [List.cons_append, ← ih hts]
      cases t with
      | dollar => exact absurd rfl ht
      | _ => rfl
  supplies := fun _ he ↦ nomatch he
  derives_of d' _ := hp d'

theorem Rests.enclosed (h : Rests P d a ts) (before after : List Token)
    (hb : ∀ t ∈ before, t ≠ dollar) (ha : ∀ t ∈ after, t ≠ dollar) (hr : ∀ d, P d → R d) :
    Rests R d a (before ++ (ts ++ after)) := by
  have htail : Rests P d (a ++ []) (ts ++ after) :=
    h.append (rests_silent (fun _ ↦ trivial) ha) fun _ hp _ ↦ hp
  have hall : Rests R d ([] ++ (a ++ [])) (before ++ (ts ++ after)) :=
    (rests_silent (fun _ ↦ trivial) hb).append htail fun d _ hp ↦ hr d hp
  simpa using hall

end

variable {d : Definitions} {i : Instr} {code : List Instr} {ts : List Token}

theorem mark_ne_dollar (skip : Bool) : ∀ t ∈ mark skip, t ≠ dollar := by
  cases skip <;> simp [mark]

theorem DerivesEach.rests {α : Type} {derives : Definitions → α → List Instr → List Token → Prop}
    {as : List α} (h : DerivesEach (derives d) as code ts)
    (hr : ∀ a ∈ as, ∀ code ts, derives d a code ts →
      Rests (fun d ↦ derives d a code ts) d (codeUses code) ts) :
    Rests (fun d ↦ DerivesEach (derives d) as code ts) d (codeUses code) ts := by
  induction h with
  | nil => exact rests_silent (fun _ ↦ .nil) (by simp)
  | cons ha _ ih =>
    obtain ⟨hfirst, hrest⟩ := List.forall_mem_cons.mp hr
    rw [codeUses_append]
    exact (hfirst _ _ ha).append (ih hrest) fun _ ↦ .cons

theorem TypeTest.Derives.rests {t : TypeTest} (h : t.Derives d code ts) :
    Rests (fun d ↦ t.Derives d code ts) d (codeUses code) ts := by
  cases h with
  | @mk name p skip valid hp =>
    refine ⟨fun us ↦ ?_, List.forall_mem_singleton.mpr hp, fun d' hd ↦ ?_⟩
    · cases skip <;> rfl
    · exact .mk valid (hd _ (List.mem_singleton_self _))

theorem rests_typeTests {tests : List TypeTest}
    (h : DerivesEach (TypeTest.Derives d) tests code ts) :
    Rests (fun d ↦ DerivesEach (TypeTest.Derives d) tests code ts) d (codeUses code) ts :=
  h.rests fun _ _ _ _ ↦ TypeTest.Derives.rests

def Pattern.Resolved (d : Definitions) (p : Pattern) : Prop :=
  ∀ code ts, p.Derives d code ts → Rests (fun d ↦ p.Derives d code ts) d (codeUses code) ts

theorem Selector.Derives.rests {s : Selector} (hs : ∀ q ∈ s.inner, q.Resolved d)
    (h : s.Derives d i ts) : Rests (fun d ↦ s.Derives d i ts) d i.uses ts := by
  cases h with
  | @literal key skip =>
    exact rests_silent (fun _ ↦ .literal) (List.forall_mem_cons.mpr ⟨nofun, mark_ne_dollar skip⟩)
  | @regex source e skip he =>
    exact rests_silent (fun _ ↦ .regex he) (List.forall_mem_cons.mpr ⟨nofun, mark_ne_dollar skip⟩)
  | @param name key before behind valid hk =>
    refine ⟨fun us ↦ ?_, List.forall_mem_singleton.mpr hk, fun d' hd ↦ ?_⟩
    · cases before <;> cases behind <;> rfl
    · exact .param valid (hd _ (List.mem_singleton_self _))
  | @subtree p code skip ts hp =>
    have hq := hs p (List.mem_singleton_self p) _ _ hp
    exact hq.enclosed [openBracket] (closeBracket :: mark skip) (by simp)
      (List.forall_mem_cons.mpr ⟨nofun, mark_ne_dollar skip⟩) fun _ ↦ .subtree

theorem Tag.Derives.rests {t : Tag} (ht : ∀ q ∈ t.inner, q.Resolved d) (h : t.Derives d code ts) :
    Rests (fun d ↦ t.Derives d code ts) d (codeUses code) ts := by
  cases h with
  | @capture name tests code ts valid htests =>
    have hc : codeUses (.arrow :: .ident name :: (code ++ [.close])) = codeUses code := by
      simp [codeUses, uses]
    rw [hc]
    have hr := (rests_typeTests htests).enclosed [arrow, .ident name valid] []
      (by simp) (by simp) fun _ ↦ Tag.Derives.capture valid
    simpa using hr
  | @select s i tests code ts us hs htests =>
    have hc : codeUses (.arrow :: i :: (code ++ [.close])) = i.uses ++ codeUses code := by
      simp [codeUses, uses]
    rw [hc]
    have hr := ((hs.rests ht).append (rests_typeTests htests) fun _ ↦ And.intro).enclosed [arrow] []
      (by simp) (by simp) fun _ h ↦ Tag.Derives.select h.1 h.2
    simpa using hr
  | @captureSelect name s i tests code ts us valid hs htests =>
    have hc : codeUses (.arrow :: .ident name :: i :: (code ++ [.close])) =
        i.uses ++ codeUses code := by
      simp [codeUses, uses]
    rw [hc]
    have hr := ((hs.rests ht).append (rests_typeTests htests) fun _ ↦ And.intro).enclosed
      [arrow, .ident name valid] [] (by simp) (by simp)
      fun _ h ↦ Tag.Derives.captureSelect valid h.1 h.2
    simpa using hr

theorem Group.Derives.rests {g : Group} (hg : ∀ q ∈ g.inner, q.Resolved d)
    (h : g.Derives d code ts) : Rests (fun d ↦ g.Derives d code ts) d (codeUses code) ts := by
  cases h with
  | @mk p code skip ts hp =>
    have hc : codeUses [.valueSubtree code skip, .close] = codeUses code := by
      simp [codeUses, uses]
    rw [hc]
    have hq := hg p (List.mem_singleton_self p) _ _ hp
    exact hq.enclosed [openParen] (closeParen :: mark skip) (by simp)
      (List.forall_mem_cons.mpr ⟨nofun, mark_ne_dollar skip⟩) fun _ ↦ .mk

theorem Pattern.resolved (p : Pattern) : p.Resolved d := by
  induction p using Pattern.of_inner with
  | h p ih =>
    intro code ts h
    cases h with
    | mk htests hpath hgroups =>
      have hp := hpath.rests fun t ht _ _ h ↦ h.rests fun q hq ↦ ih q (mem_inner_of_tag ht hq)
      have hg := hgroups.rests fun g hg _ _ h ↦ h.rests fun q hq ↦ ih q (mem_inner_of_group hg hq)
      have hr := (rests_typeTests htests).append (hp.append hg fun _ ↦ And.intro)
        fun _ ht h ↦ Pattern.Derives.mk ht h.1 h.2
      simpa using hr

namespace Compiled

variable {source : String} {p : Compiled}

theorem mem_namesOf_iff {name : String} :
    name ∈ namesOf code ↔ ∃ e ∈ codeUses code, e.1 = name := by
  rw [namesOf, List.mem_eraseDups, codeNames_eq, List.mem_map]

/-- A table that agrees on what the pattern uses gives the same pattern, whatever else is in it. -/
theorem compile_of_supplies (h : compile d source = .ok p) {d' : Definitions}
    (hd : d'.Supplies (codeUses p.code)) : compile d' source = .ok p := by
  obtain ⟨r, hr, hp⟩ := bind_eq_ok.mp h
  obtain rfl := Except.ok.inj hp
  obtain ⟨ts, hts, hs⟩ := Pattern.read_eq_ok.mp hr
  have hrest := r.resolved r.code ts hts
  have hr' : Pattern.read d' source = .ok r :=
    Pattern.read_eq_ok.mpr ⟨ts, hrest.derives_of d' hd, hs⟩
  have hdefs : d'.restrict (namesOf r.code) = d.restrict (namesOf r.code) := by
    refine Definitions.restrict_congr fun name hn ↦ ?_
    obtain ⟨e, he, rfl⟩ := mem_namesOf_iff.mp hn
    rw [hd e he, hrest.supplies e he]
  exact bind_eq_ok.mpr ⟨r, hr', by rw [hdefs]; rfl⟩

/-- A compiled pattern that needs no definitions but its own. Its parameters are the names behind
the dollar signs of the text, each at its first use, and its definitions the keys and predicates
that its code carries; against these alone, and against any table that agrees with the first on the
parameters, the text is compiled alike. -/
structure SelfContained (d : Definitions) (source : String) (p : Compiled) : Prop where
  derived : ∃ ts, p.pattern.Derives d p.code ts ∧ Spells ts source.toList
  params_eq : ∀ (q : Pattern) (code : List Instr) (ts : List Token), q.Derives d code ts →
    Spells ts source.toList → p.params = (references ts).eraseDups
  nodup : p.params.Nodup
  names_eq : p.definitions.names = p.params
  carried : ∀ e ∈ codeUses p.code, e.1 ∈ p.params ∧ p.definitions.get? e.1 = some e.2
  recompiled : ∀ d' : Definitions,
    d' = p.definitions ∨ (∀ name ∈ p.params, d'.get? name = d.get? name) →
      compile d' source = .ok p

theorem selfContained_of_compile (h : compile d source = .ok p) :
    p.SelfContained d source := by
  obtain ⟨r, hr, hp⟩ := bind_eq_ok.mp h
  obtain rfl := Except.ok.inj hp
  obtain ⟨ts, hts, hs⟩ := Pattern.read_eq_ok.mp hr
  have hsup : d.Supplies (codeUses r.code) := (r.resolved r.code ts hts).supplies
  have hmem : ∀ e ∈ codeUses r.code, e.1 ∈ namesOf r.code := fun e he ↦
    mem_namesOf_iff.mpr ⟨e, he, rfl⟩
  have hown : (d.restrict (namesOf r.code)).Supplies (codeUses r.code) := fun e he ↦ by
    rw [Definitions.get?_restrict, if_pos (hmem e he), hsup e he]
  have hnodup : (namesOf r.code).Nodup := nodup_eraseDups _
  refine ⟨⟨ts, hts, hs⟩, fun q code us hq hu ↦ ?_, hnodup, ?_,
    fun e he ↦ ⟨hmem e he, hown e he⟩, fun d' hd ↦ compile_of_supplies h fun e he ↦ ?_⟩
  · obtain rfl := Pattern.Derives.eq hq hts hu hs
    obtain rfl := q.translated code us hq
    have hnames := (q.resolved q.code us hq).references []
    rw [List.append_nil, references, List.append_nil] at hnames
    rw [hnames, ← codeNames_eq]
    rfl
  · refine Definitions.names_restrict hnodup fun name hn ↦ ?_
    obtain ⟨e, he, rfl⟩ := mem_namesOf_iff.mp hn
    rw [hsup e he]
    rfl
  · rcases hd with rfl | hd
    · exact hown e he
    · exact (hd e.1 (hmem e he)).trans (hsup e he)

def branchDefinitions : Definitions :=
  .ofList [("unused", .key .null), ("dict", .predicate (.ofKind .map)), ("branch", .key (.str "b"))]

def branchPattern : Compiled :=
  ⟨"->$branch?->[->'$'->$branch:$dict](->X:?$dict)",
    .mk [] [.select (.param "branch" (.str "b") true) [],
      .select (.subtree (.mk [] [.select (.literal "$" false) [],
        .select (.param "branch" (.str "b") false) [⟨"dict", .ofKind .map, false⟩]] []) false) []]
      [.mk (.mk [] [.capture "X" [⟨"dict", .ofKind .map, true⟩]] []) false],
    .ofList [("branch", .key (.str "b")), ("dict", .predicate (.ofKind .map))]⟩

theorem selfContained_branch :
    compile branchDefinitions branchPattern.source = .ok branchPattern ∧
      branchPattern.SelfContained branchDefinitions branchPattern.source := by
  have h : compile branchDefinitions branchPattern.source = .ok branchPattern := by cbv
  exact ⟨h, selfContained_of_compile h⟩

end Compiled

end TreePattern
