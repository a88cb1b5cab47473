import TreePattern.Proofs.Except
import TreePattern.Proofs.Pattern.Lexical

namespace TreePattern

namespace Pattern

open Token

theorem after_eq_ok {α : Type} {code : List Instr} {r : Except Failure α} {a : α} :
    after code r = .ok a ↔ r = .ok a := mapError_eq_ok

theorem nested_eq_ok {α : Type} {r : Except Failure α} {a : α} :
    nested r = .ok a ↔ r = .ok a := mapError_eq_ok

theorem lookUp_eq_ok {α : Type} {role : Role} {as? : Definition → Option α} {d : Definitions}
    {name : String} {place : List Char} {a : α} :
    lookUp role as? d name place = .ok a ↔ ∃ x, d.get? name = some x ∧ as? x = some a := by
  unfold lookUp
  split
  · next x hx =>
    rw [hx]
    split <;> simp_all [fail]
  · simp_all [fail]

theorem keyOf_eq_ok {d : Definitions} {name : String} {place : List Char} {key : Value} :
    keyOf d name place = .ok key ↔ d.get? name = some (.key key) := by
  refine lookUp_eq_ok.trans ⟨?_, fun h ↦ ⟨_, h, rfl⟩⟩
  rintro ⟨_ | _, h, hk⟩ <;> cases hk
  exact h

theorem predicateOf_eq_ok {d : Definitions} {name : String} {place : List Char} {p : Predicate} :
    predicateOf d name place = .ok p ↔ d.get? name = some (.predicate p) := by
  refine lookUp_eq_ok.trans ⟨?_, fun h ↦ ⟨_, h, rfl⟩⟩
  rintro ⟨_ | _, h, hp⟩ <;> cases hp
  exact h

/-- What is read is derived from the tokens that are spelled up to the rest. -/
def Reader.Sound {α : Type} (r : Reader α) (derives : α → List Token → Prop) : Prop :=
  ∀ cs a rest, r cs = .ok (a, rest) → ∃ ts, derives a ts ∧ Reads ts cs rest

section

variable {α : Type} {item : Reader α} {code : α → List Instr} {t : Token}
  {derives : α → List Instr → List Token → Prop}

theorem manyWithin_sound (hi : item.Sound fun a ts ↦ derives a (code a) (t :: ts)) (steps : Nat) :
    (manyWithin t.chars item code steps).Sound
      fun as ts ↦ DerivesEach derives as (as.flatMap code) ts := by
  induction steps with
  | zero => exact fun cs as rest h ↦ by cases h
  | succ steps ih =>
    intro cs as rest h
    unfold manyWithin at h
    dsimp only at h
    split at h
    · next rest₁ hc =>
      simp only [bind_eq_ok, after_eq_ok, Prod.exists] at h
      obtain ⟨a, rest₂, ha, as, rest₃, has, h⟩ := h
      cases h
      obtain ⟨ts, hts, hr⟩ := hi _ _ _ ha
      obtain ⟨us, hus, hr'⟩ := ih _ _ _ has
      have ha : Reads (t :: ts) cs rest₂ := (reads_of_opening hc).trans hr
      exact ⟨_, .cons hts hus, ha.trans hr'⟩
    · cases h
      exact ⟨[], .nil, reads_skipBlanks cs⟩

theorem many_sound (hi : item.Sound fun a ts ↦ derives a (code a) (t :: ts)) :
    (many t.chars item code).Sound fun as ts ↦ DerivesEach derives as (as.flatMap code) ts :=
  fun cs ↦ manyWithin_sound hi (cs.length + 1) cs

end

variable {d : Definitions} {read : Reader Pattern}

theorem typeTest_sound :
    Reader.Sound (typeTest d) fun t ts ↦ t.Derives d [t.instr] (colon :: ts) := by
  intro cs t rest h
  rcases hm : skippable cs with ⟨skip, rest₁⟩
  simp only [typeTest, hm] at h
  split at h
  · next rest₂ hd =>
    simp only [bind_eq_ok, Prod.exists] at h
    obtain ⟨name, rest₃, hn, p, hp, h⟩ := h
    cases h
    obtain ⟨valid, hi⟩ := of_ident hn
    have hname : Reads [dollar, .ident name valid] rest₁ rest :=
      (reads_of_skipBlanks hd).trans ((reads_skipBlanks rest₂).trans hi)
    exact ⟨_, .mk valid (predicateOf_eq_ok.mp hp), (reads_of_skippable hm).trans hname⟩
  · cases h

theorem typeTests_sound :
    (typeTests d).Sound
      fun tests ts ↦ DerivesEach (TypeTest.Derives d) tests (testCode tests) ts := by
  simp only [testCode_eq_flatMap]
  exact many_sound (t := colon) typeTest_sound

theorem param_sound :
    Reader.Sound (param d) fun s ts ↦ s.Derives d s.instr (dollar :: ts) := by
  intro cs s rest h
  rcases hm : skippable cs with ⟨before, rest₁⟩
  simp only [param, hm, bind_eq_ok, Prod.exists] at h
  obtain ⟨name, rest₂, hn, h⟩ := h
  rcases hm' : skippable rest₂ with ⟨behind, rest₃⟩
  simp only [hm'] at h
  obtain ⟨key, hk, h⟩ := h
  cases h
  obtain ⟨valid, hi⟩ := of_ident hn
  have hname : Reads (.ident name valid :: mark behind) rest₁ rest :=
    ((reads_skipBlanks rest₁).trans hi).trans (reads_of_skippable hm')
  exact ⟨_, .param valid (keyOf_eq_ok.mp hk), (reads_of_skippable hm).trans hname⟩

theorem enclosed_sound (hr : read.Sound fun p ts ↦ p.Derives d p.code ts) {close : Char} {t : Token}
    (ht : t.chars = [close]) :
    Reader.Sound (enclosed read close)
      fun p ts ↦ ∃ us, p.Derives d p.code us ∧ ts = us ++ [t] := by
  intro cs p rest h
  simp only [enclosed, bind_eq_ok, nested_eq_ok, Prod.exists] at h
  obtain ⟨p, rest₁, hp, h⟩ := h
  split at h
  · next c rest₂ hc =>
    split at h
    · next he =>
      cases h
      obtain ⟨ts, hts, hs⟩ := hr _ _ _ hp
      have hclose : Reads [t] rest₁ rest := reads_of_skipBlanks (by rw [hc, ht, he]; rfl)
      exact ⟨_, ⟨ts, hts, rfl⟩, hs.trans hclose⟩
    · cases h
  · cases h

theorem selector_sound (hr : read.Sound fun p ts ↦ p.Derives d p.code ts) :
    Reader.Sound (selector d read) fun s ts ↦ s.Derives d s.instr ts := by
  intro cs s rest h
  unfold selector at h
  split at h
  · next cs =>
    simp only [bind_eq_ok, Prod.exists] at h
    obtain ⟨key, rest₁, hq, h⟩ := h
    rcases hm : skippable rest₁ with ⟨skip, rest₂⟩
    rw [hm] at h
    cases h
    have hkey := reads_token (literal key) rest₁
    rw [chars, List.cons_append, List.append_assoc, List.singleton_append,
      ← (quoted_eq_ok_iff (by decide)).mp hq] at hkey
    exact ⟨_, .literal, hkey.trans (reads_of_skippable hm)⟩
  · next cs =>
    simp only [bind_eq_ok, Prod.exists] at h
    obtain ⟨source, rest₁, hq, h⟩ := h
    split at h
    · next r he =>
      rcases hm : skippable rest₁ with ⟨skip, rest₂⟩
      rw [hm] at h
      cases h
      obtain ⟨e, -, rfl⟩ := Option.map_eq_some_iff.mp he
      have hsource := reads_token (regex source) rest₁
      rw [chars, List.cons_append, List.append_assoc, List.singleton_append,
        ← (quoted_eq_ok_iff (by decide)).mp hq] at hsource
      exact ⟨_, .regex he, hsource.trans (reads_of_skippable hm)⟩
    · cases h
  · next cs =>
    obtain ⟨ts, hts, hs⟩ := param_sound _ _ _ h
    exact ⟨_, hts, (reads_token dollar cs).trans hs⟩
  · next cs =>
    simp only [bind_eq_ok, Prod.exists] at h
    obtain ⟨p, rest₁, hp, h⟩ := h
    rcases hm : skippable rest₁ with ⟨skip, rest₂⟩
    rw [hm] at h
    cases h
    obtain ⟨_, ⟨ts, hts, rfl⟩, hs⟩ := enclosed_sound hr (t := closeBracket) rfl _ _ _ hp
    refine ⟨_, .subtree hts, ?_⟩
    have := ((reads_token openBracket cs).trans hs).trans (reads_of_skippable hm)
    simpa [chars] using this
  · cases h

theorem tag_sound (hr : read.Sound fun p ts ↦ p.Derives d p.code ts) :
    Reader.Sound (tag d read) fun t ts ↦ t.Derives d t.code (arrow :: ts) := by
  intro cs t rest h
  simp only [tag] at h
  split at h
  · simp only [bind_eq_ok, Prod.exists] at h
    obtain ⟨name, rest₁, hn, h⟩ := h
    obtain ⟨valid, hi⟩ := of_ident hn
    have hname : Reads [.ident name valid] cs (skipBlanks rest₁) :=
      ((reads_skipBlanks cs).trans hi).trans (reads_skipBlanks rest₁)
    split at h
    · simp only [bind_eq_ok, after_eq_ok, Prod.exists] at h
      obtain ⟨s, rest₂, hsel, tests, rest₃, htests, h⟩ := h
      cases h
      obtain ⟨ts, hts, hs⟩ := selector_sound hr _ _ _ hsel
      obtain ⟨us, hus, hs'⟩ := typeTests_sound _ _ _ htests
      exact ⟨_, .captureSelect valid hts hus, hname.trans (hs.trans hs')⟩
    · simp only [bind_eq_ok, after_eq_ok, Prod.exists] at h
      obtain ⟨tests, rest₂, htests, h⟩ := h
      cases h
      obtain ⟨us, hus, hs⟩ := typeTests_sound _ _ _ htests
      exact ⟨_, .capture valid hus, hname.trans hs⟩
  · simp only [bind_eq_ok, after_eq_ok, Prod.exists] at h
    obtain ⟨s, rest₁, hsel, tests, rest₂, htests, h⟩ := h
    cases h
    obtain ⟨ts, hts, hs⟩ := selector_sound hr _ _ _ hsel
    obtain ⟨us, hus, hs'⟩ := typeTests_sound _ _ _ htests
    exact ⟨_, .select hts hus, (reads_skipBlanks cs).trans (hs.trans hs')⟩

theorem tags_sound (hr : read.Sound fun p ts ↦ p.Derives d p.code ts) :
    (tags d read).Sound fun path ts ↦ DerivesEach (Tag.Derives d) path (tagCode path) ts := by
  simp only [tagCode_eq_flatMap]
  exact many_sound (t := arrow) fun cs t rest h ↦ tag_sound hr _ _ _ (after_eq_ok.mp h)

theorem group_sound (hr : read.Sound fun p ts ↦ p.Derives d p.code ts) :
    (group read).Sound fun g ts ↦ g.Derives d g.code (openParen :: ts) := by
  intro cs g rest h
  simp only [group, bind_eq_ok, Prod.exists] at h
  obtain ⟨p, rest₁, hp, h⟩ := h
  rcases hm : skippable rest₁ with ⟨skip, rest₂⟩
  rw [hm] at h
  cases h
  obtain ⟨_, ⟨ts, hts, rfl⟩, hs⟩ := enclosed_sound hr (t := closeParen) rfl _ _ _ hp
  refine ⟨_, .mk hts, ?_⟩
  simpa using hs.trans (reads_of_skippable hm)

theorem groups_sound (hr : read.Sound fun p ts ↦ p.Derives d p.code ts) :
    (groups read).Sound fun gs ts ↦ DerivesEach (Group.Derives d) gs (groupCode gs) ts := by
  simp only [groupCode_eq_flatMap]
  exact many_sound (t := openParen) (group_sound hr)

theorem pattern_sound (depth : Nat) :
    (pattern d depth).Sound fun p ts ↦ p.Derives d p.code ts := by
  induction depth with
  | zero => exact fun cs p rest h ↦ by cases h
  | succ depth ih =>
    intro cs p rest h
    simp only [pattern, bind_eq_ok, after_eq_ok, Prod.exists] at h
    obtain ⟨tests, rest₁, htests, path, rest₂, hpath, gs, rest₃, hgs, h⟩ := h
    cases h
    obtain ⟨ts, hts, hs⟩ := typeTests_sound _ _ _ htests
    obtain ⟨us, hus, hs'⟩ := tags_sound ih _ _ _ hpath
    obtain ⟨vs, hvs, hs''⟩ := groups_sound ih _ _ _ hgs
    exact ⟨_, .mk hts hus hvs, hs.trans (hs'.trans hs'')⟩

theorem whole_sound {cs : List Char} {p : Pattern} (h : whole d cs = .ok p) :
    ∃ ts, p.Derives d p.code ts ∧ Spells ts cs := by
  simp only [whole, bind_eq_ok, Prod.exists] at h
  obtain ⟨p, rest, hp, h⟩ := h
  obtain ⟨ts, hts, hs⟩ := pattern_sound _ _ _ _ hp
  split at h
  · next hr =>
    cases h
    exact ⟨ts, hts, by simpa using hs.spells (spells_nil.mpr hr)⟩
  · rw [after_eq_ok] at h
    cases h

end Pattern

end TreePattern
