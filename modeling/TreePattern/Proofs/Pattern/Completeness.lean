import TreePattern.Proofs.Pattern.Soundness

namespace TreePattern

open Token

/-- Whatever is derived begins with one token. -/
def OpensWith {α : Type} (t : Token) (derives : α → List Instr → List Token → Prop) : Prop :=
  ∀ a code ts, derives a code ts → ∃ us, ts = t :: us

variable {d : Definitions} {i : Instr} {code : List Instr} {ts us : List Token}

theorem TypeTest.opensWith : OpensWith colon (TypeTest.Derives d) := by
  rintro _ _ _ ⟨⟩
  exact ⟨_, rfl⟩

theorem Tag.opensWith : OpensWith arrow (Tag.Derives d) := by
  rintro _ _ _ ⟨⟩ <;> exact ⟨_, rfl⟩

theorem Group.opensWith : OpensWith openParen (Group.Derives d) := by
  rintro _ _ _ ⟨⟩
  exact ⟨_, rfl⟩

theorem DerivesEach.follows {α : Type} {t : Token} {derives : α → List Instr → List Token → Prop}
    (ho : OpensWith t derives) {c : Char} (hc : firstChar [t] = some c) {as : List α}
    (h : DerivesEach derives as code ts) (hf : Follows (rank c + 1) us) :
    Follows (rank c) (ts ++ us) := by
  cases h with
  | nil => exact hf.mono (Nat.le_succ _)
  | cons ha _ =>
    obtain ⟨_, rfl⟩ := ho _ _ _ ha
    exact follows_of_firstChar hc le_rfl

theorem Selector.Derives.firstChar {s : Selector} (h : s.Derives d i ts) :
    ∃ c, firstChar (ts ++ us) = some c ∧ Pattern.isSelectorStart c = true := by
  cases h <;> exact ⟨_, rfl, by decide⟩

namespace Pattern

/-- What is derived from tokens that a text starts with is read if the tokens behind rank high
enough, and they are what is left. -/
def Reader.Complete {α : Type} (r : Reader α) (k : Nat) (derives : α → List Token → Prop) : Prop :=
  ∀ cs a ts us, derives a ts → Follows k us → Spells (ts ++ us) cs →
    ∃ rest, r cs = .ok (a, rest) ∧ Spells us rest

theorem Reader.Complete.mono {α : Type} {r : Reader α} {k l : Nat}
    {derives derives' : α → List Token → Prop} (h : r.Complete k derives) (hk : k ≤ l)
    (hd : ∀ a ts, derives' a ts → derives a ts) : r.Complete l derives' :=
  fun cs a ts us ha hf hs ↦ h cs a ts us (hd a ts ha) (hf.mono hk) hs

section

variable {α : Type} {item : Reader α} {code : α → List Instr} {t : Token} {c : Char} {n : Nat}
  {derives : α → List Instr → List Token → Prop}

theorem manyWithin_complete (ho : OpensWith t derives) (hc : firstChar [t] = some c)
    (hi : item.Complete (rank c) fun a ts ↦ (∃ code, derives a code (t :: ts)) ∧ ts.length < n)
    (steps : Nat) :
    (manyWithin t.chars item code steps).Complete (rank c + 1) fun as ts ↦
      (∃ code, DerivesEach derives as code ts) ∧ ts.length ≤ n ∧ ts.length < steps := by
  induction steps with
  | zero => exact fun cs as ts us h ↦ absurd h.2.2 (Nat.not_lt_zero _)
  | succ steps ih =>
    rintro cs as ts us ⟨⟨_, h⟩, hn, hl⟩ hf hs
    cases h with
    | nil =>
      refine ⟨skipBlanks cs, ?_, spells_skipBlanks.mpr hs⟩
      have hnone : t.chars.isPrefixOf? (skipBlanks cs) = none := by
        refine Option.eq_none_iff_forall_ne_some.mpr fun rest hr ↦ ?_
        obtain ⟨cs', ht⟩ := List.head?_eq_some_iff.mp hc
        have hcs := List.isPrefixOf?_eq_some_iff_append_eq.mp hr
        rw [ht] at hcs
        exact absurd (hs.le_rank hf hcs.symm) (Nat.not_succ_le_self _)
      simp only [manyWithin, hnone]
    | cons ha h =>
      obtain ⟨us', rfl⟩ := ho _ _ _ ha
      rw [List.append_assoc] at hs
      rw [List.length_append, List.length_cons] at hn hl
      obtain ⟨rest₁, hr, hs⟩ := spells_cons.mp hs
      have hopen : t.chars.isPrefixOf? (skipBlanks cs) = some rest₁ :=
        List.isPrefixOf?_eq_some_iff_append_eq.mpr hr.symm
      obtain ⟨rest₂, ha, hs⟩ := hi _ _ _ _ ⟨⟨_, ha⟩, by omega⟩ (h.follows ho hc hf) hs
      obtain ⟨rest₃, has, hs⟩ := ih _ _ _ _ ⟨⟨_, h⟩, by omega, by omega⟩ hf hs
      refine ⟨rest₃, ?_, hs⟩
      simp only [manyWithin, hopen, ha, has, after, Except.mapError, bind, Except.bind]
      rfl

theorem many_complete (ho : OpensWith t derives) (hc : firstChar [t] = some c)
    (hi : item.Complete (rank c) fun a ts ↦ (∃ code, derives a code (t :: ts)) ∧ ts.length < n) :
    (many t.chars item code).Complete (rank c + 1) fun as ts ↦
      (∃ code, DerivesEach derives as code ts) ∧ ts.length ≤ n := by
  intro cs as ts us h hf hs
  have hl := hs.length_le
  rw [List.length_append] at hl
  exact manyWithin_complete ho hc hi _ cs as ts us ⟨h.1, h.2, by omega⟩ hf hs

end

def Within (d : Definitions) (n : Nat) (p : Pattern) (ts : List Token) : Prop :=
  (∃ code, p.Derives d code ts) ∧ ts.length < n

variable {read : Reader Pattern} {cs : List Char} {n : Nat}

theorem startsWith_eq_false {p : Char → Bool} (h : ∀ c ∈ cs.head?, p c = false) :
    startsWith p cs = false := by
  cases cs with
  | nil => rfl
  | cons c cs => exact h c rfl

theorem startsWith_ident {name : String} (h : IsIdentifier name) :
    startsWith isIdentStart (name.toList ++ cs) = true := by
  obtain ⟨c, cs, hn, hc, -⟩ := isIdentifier_iff.mp h
  rw [hn]
  exact hc

theorem rank_of_selectorStart {c : Char} (h : isSelectorStart c = true) : rank c = 2 := by
  simp only [isSelectorStart, Bool.or_eq_true, beq_iff_eq] at h
  rcases h with ((rfl | rfl) | rfl) | rfl <;> decide

theorem not_selectorStart_of_rank {c : Char} (h : 3 ≤ rank c) : isSelectorStart c = false := by
  by_contra hs
  have := rank_of_selectorStart ((Bool.not_eq_false _).mp hs)
  omega

theorem not_identStart_of_selectorStart {c : Char} (h : isSelectorStart c = true) :
    isIdentStart c = false := by
  by_contra hi
  have hr := rank_of_selectorStart h
  rw [rank, if_pos (isIdentChar_of_isIdentStart ((Bool.not_eq_false _).mp hi))] at hr
  omega

theorem firstChar_ident_ne {name : String} (valid : IsIdentifier name) :
    firstChar (.ident name valid :: us) ≠ some '?' := by
  obtain ⟨c, cs, hn, hc, -⟩ := isIdentifier_iff.mp valid
  intro h
  simp only [firstChar, List.head?_cons, Option.bind_some, chars, hn, Option.some.injEq] at h
  subst h
  exact absurd hc (by decide)

theorem firstChar_ne (h : Follows 2 us) : firstChar us ≠ some '?' :=
  fun hq ↦ absurd (h '?' hq) (by decide)

theorem follows_mark {skip : Bool} (h : Follows 2 us) : Follows 1 (mark skip ++ us) := by
  cases skip with
  | true => exact follows_of_firstChar rfl (by decide)
  | false => exact h.mono (by decide)

theorem typeTest_complete :
    Reader.Complete (typeTest d) 1 fun t ts ↦ ∃ code, t.Derives d code (colon :: ts) := by
  rintro cs t ts us ⟨code, h⟩ hf hs
  cases h with
  | mk valid hp =>
    rw [List.append_assoc] at hs
    obtain ⟨rest₁, hm, hs⟩ := skippable_of_spells hs (by simp [firstChar, chars])
    obtain ⟨rest₂, hd, hs⟩ := spells_cons.mp hs
    obtain ⟨rest₃, hi, hs⟩ := spells_cons.mp hs
    have hn := ident_append valid (hs.not_identChar hf)
    refine ⟨rest₃, ?_, hs⟩
    simp only [typeTest, hm, hd, chars, List.cons_append, List.nil_append]
    rw [hi]
    simp only [chars, hn, predicateOf_eq_ok.mpr hp, bind, Except.bind]
    rfl

theorem typeTests_complete :
    (typeTests d).Complete 4
      fun tests ts ↦ ∃ code, DerivesEach (TypeTest.Derives d) tests code ts := by
  intro cs tests ts us h hf hs
  have ht : Reader.Complete (typeTest d) 3 fun t ts' ↦
      (∃ code, t.Derives d code (colon :: ts')) ∧ ts'.length < ts.length :=
    typeTest_complete.mono (by decide) fun _ _ h ↦ h.1
  exact many_complete TypeTest.opensWith rfl ht cs tests ts us ⟨h, le_rfl⟩ hf hs

theorem param_complete :
    Reader.Complete (param d) 2 fun s ts ↦ ∃ i, s.Derives d i (dollar :: ts) := by
  rintro cs s ts us ⟨i, h⟩ hf hs
  cases h with
  | param valid hk =>
    rw [List.append_assoc] at hs
    obtain ⟨rest₁, hm, hs⟩ := skippable_of_spells hs (firstChar_ident_ne valid)
    obtain ⟨rest₂, hi, hs⟩ := spells_cons.mp hs
    have hn := ident_append valid (hs.not_identChar (follows_mark hf))
    obtain ⟨rest₃, hm', hs⟩ := skippable_of_spells hs (firstChar_ne hf)
    refine ⟨rest₃, ?_, hs⟩
    simp only [param, hm]
    rw [hi]
    simp only [chars, hn, hm', keyOf_eq_ok.mpr hk, bind, Except.bind]
    rfl

theorem enclosed_complete (hr : read.Complete 6 (Within d n))
    {close : Char} {t : Token} (ht : t.chars = [close]) (hc : 6 ≤ rank close) :
    Reader.Complete (enclosed read close) 0
      fun p ts ↦ ∃ us, Within d n p us ∧ ts = us ++ [t] := by
  rintro cs p _ us ⟨ts, h, rfl⟩ - hs
  rw [List.append_assoc] at hs
  obtain ⟨rest₁, hp, hs⟩ := hr _ _ _ _ h (follows_of_firstChar (by simp [firstChar, ht]) hc) hs
  obtain ⟨rest₂, hb, hs⟩ := spells_cons.mp hs
  refine ⟨rest₂, ?_, hs⟩
  simp only [enclosed, hp, nested, Except.mapError, bind, Except.bind]
  rw [hb, ht]
  exact if_pos rfl

theorem selector_complete (hr : read.Complete 6 (Within d n)) :
    Reader.Complete (fun cs ↦ selector d read (skipBlanks cs)) 2
      fun s ts ↦ (∃ i, s.Derives d i ts) ∧ ts.length ≤ n := by
  rintro cs s ts us ⟨⟨i, h⟩, hl⟩ hf hs
  cases h with
  | @literal key skip =>
    obtain ⟨rest₁, hc, hs⟩ := spells_cons.mp hs
    have hq : quoted '\x27' .unfinishedString .stringEscape
        (escaped '\x27' key.toList ++ '\x27' :: rest₁) = .ok (key, rest₁) :=
      (quoted_eq_ok_iff (by decide)).mpr rfl
    obtain ⟨rest₂, hm, hs⟩ := skippable_of_spells hs (firstChar_ne hf)
    refine ⟨rest₂, ?_, hs⟩
    simp only [hc, chars, List.cons_append, List.append_assoc, List.nil_append, selector, hq, hm,
      bind, Except.bind]
    rfl
  | @regex source e skip he =>
    obtain ⟨rest₁, hc, hs⟩ := spells_cons.mp hs
    have hq : quoted '/' .unfinishedRegex .regexEscape
        (escaped '/' source.toList ++ '/' :: rest₁) = .ok (source, rest₁) :=
      (quoted_eq_ok_iff (by decide)).mpr rfl
    obtain ⟨rest₂, hm, hs⟩ := skippable_of_spells hs (firstChar_ne hf)
    refine ⟨rest₂, ?_, hs⟩
    simp only [hc, chars, List.cons_append, List.append_assoc, List.nil_append, selector, hq, he,
      hm, bind, Except.bind]
    rfl
  | param valid hk =>
    obtain ⟨rest₁, hc, hs⟩ := spells_cons.mp hs
    obtain ⟨rest₂, hp, hs⟩ := param_complete _ _ _ _ ⟨_, .param valid hk⟩ hf hs
    refine ⟨rest₂, ?_, hs⟩
    simp only [hc, chars, List.cons_append, List.nil_append, selector, hp]
  | @subtree p code skip ts hp =>
    obtain ⟨rest₁, hc, hs⟩ := spells_cons.mp hs
    have hn : ts.length < n := by
      simp only [List.length_cons, List.length_append] at hl
      omega
    obtain ⟨rest₂, he, hs⟩ := enclosed_complete hr (t := closeBracket) rfl (by decide) _ _ _ _
      ⟨ts, ⟨⟨_, hp⟩, hn⟩, rfl⟩ (fun _ _ ↦ Nat.zero_le _) (by simpa using hs)
    obtain ⟨rest₃, hm, hs⟩ := skippable_of_spells hs (firstChar_ne hf)
    refine ⟨rest₃, ?_, hs⟩
    simp only [hc, chars, List.cons_append, List.nil_append, selector, he, hm, bind, Except.bind]
    rfl

theorem tag_complete (hr : read.Complete 6 (Within d n)) :
    Reader.Complete (tag d read) 4
      fun t ts ↦ (∃ code, t.Derives d code (arrow :: ts)) ∧ ts.length ≤ n := by
  rintro cs t ts us ⟨⟨code, h⟩, hl⟩ hf hs
  cases h with
  | @capture name tests code ts valid htests =>
    have hf' := htests.follows TypeTest.opensWith rfl hf
    obtain ⟨rest₁, hc, hs⟩ := spells_cons.mp hs
    have hn := ident_append valid (hs.not_identChar (hf'.mono (by decide)))
    have hb := spells_skipBlanks.mpr hs
    have hsel : startsWith isSelectorStart (skipBlanks rest₁) = false := startsWith_eq_false
      fun c hc ↦ not_selectorStart_of_rank (hf' c (hs.head?_skipBlanks ▸ hc))
    obtain ⟨rest₂, ht, hs⟩ := typeTests_complete _ _ _ _ ⟨_, htests⟩ hf hb
    refine ⟨rest₂, ?_, hs⟩
    simp only [tag, hc, chars, startsWith_ident valid, hn, hsel, ht, after, Except.mapError, bind,
      Except.bind]
    rfl
  | @select s i tests code ts us' hsel htests =>
    rw [List.append_assoc] at hs
    rw [List.length_append] at hl
    have hf' := htests.follows TypeTest.opensWith rfl hf
    obtain ⟨c, hfc, hc⟩ := hsel.firstChar
    have hi : startsWith isIdentStart (skipBlanks cs) = false := startsWith_eq_false
      fun c' hc' ↦ by
        rw [hs.head?_skipBlanks, hfc] at hc'
        cases hc'
        exact not_identStart_of_selectorStart hc
    obtain ⟨rest₁, hrd, hs⟩ := selector_complete hr _ _ _ _ ⟨⟨_, hsel⟩, by omega⟩
      (hf'.mono (by decide)) hs
    obtain ⟨rest₂, ht, hs⟩ := typeTests_complete _ _ _ _ ⟨_, htests⟩ hf hs
    refine ⟨rest₂, ?_, hs⟩
    simp only [tag, hi, hrd, ht, after, Except.mapError, bind, Except.bind]
    rfl
  | @captureSelect name s i tests code ts us' valid hsel htests =>
    rw [List.cons_append, List.append_assoc] at hs
    rw [List.length_cons, List.length_append] at hl
    have hf' := htests.follows TypeTest.opensWith rfl hf
    obtain ⟨rest₁, hc, hs⟩ := spells_cons.mp hs
    obtain ⟨c, hfc, hsc⟩ := hsel.firstChar
    have hn := ident_append valid
      (hs.not_identChar (follows_of_firstChar hfc (by rw [rank_of_selectorStart hsc]; decide)))
    have hss : startsWith isSelectorStart (skipBlanks rest₁) = true := by
      rw [startsWith, hs.head?_skipBlanks, hfc]
      exact hsc
    obtain ⟨rest₂, hrd, hs⟩ := selector_complete hr _ _ _ _ ⟨⟨_, hsel⟩, by omega⟩
      (hf'.mono (by decide)) hs
    obtain ⟨rest₃, ht, hs⟩ := typeTests_complete _ _ _ _ ⟨_, htests⟩ hf hs
    refine ⟨rest₃, ?_, hs⟩
    simp only [tag, hc, chars, startsWith_ident valid, hn, hss, hrd, ht, after, Except.mapError,
      bind, Except.bind]
    rfl

theorem tags_complete (hr : read.Complete 6 (Within d n)) :
    (tags d read).Complete 5 fun path ts ↦
      (∃ code, DerivesEach (Tag.Derives d) path code ts) ∧ ts.length ≤ n := by
  have ht : Reader.Complete (fun cs ↦ after [.arrow] (tag d read cs)) 4 fun t ts ↦
      (∃ code, t.Derives d code (arrow :: ts)) ∧ ts.length < n := by
    intro cs t ts us h hf hs
    obtain ⟨rest, ht, hs⟩ := tag_complete hr cs t ts us ⟨h.1, h.2.le⟩ hf hs
    exact ⟨rest, after_eq_ok.mpr ht, hs⟩
  exact many_complete Tag.opensWith rfl ht

theorem group_complete (hr : read.Complete 6 (Within d n)) :
    (group read).Complete 2
      fun g ts ↦ (∃ code, g.Derives d code (openParen :: ts)) ∧ ts.length < n := by
  rintro cs g ts us ⟨⟨code, h⟩, hl⟩ hf hs
  cases h with
  | @mk p code skip ts hp =>
    have hn : ts.length < n := by
      rw [List.length_append] at hl
      omega
    obtain ⟨rest₁, he, hs⟩ := enclosed_complete hr (t := closeParen) rfl (by decide) _ _ _ _
      ⟨ts, ⟨⟨_, hp⟩, hn⟩, rfl⟩ (fun _ _ ↦ Nat.zero_le _) (by simpa using hs)
    obtain ⟨rest₂, hm, hs⟩ := skippable_of_spells hs (firstChar_ne hf)
    refine ⟨rest₂, ?_, hs⟩
    simp only [group, he, hm, bind, Except.bind]
    rfl

theorem groups_complete (hr : read.Complete 6 (Within d n)) :
    (groups read).Complete 6 fun gs ts ↦
      (∃ code, DerivesEach (Group.Derives d) gs code ts) ∧ ts.length ≤ n :=
  many_complete Group.opensWith rfl ((group_complete hr).mono (by decide) fun _ _ ↦ id)

/-- The patterns in brackets are derived from fewer tokens, which bounds how deep they nest. -/
theorem pattern_complete (depth : Nat) :
    (pattern d depth).Complete 6 (Within d depth) := by
  induction depth with
  | zero => exact fun cs p ts us h ↦ absurd h.2 (Nat.not_lt_zero _)
  | succ depth ih =>
    rintro cs p _ ws ⟨⟨code, h⟩, hn⟩ hf hs
    cases h with
    | @mk tests path gs _ _ _ ts us vs htests hpath hgs =>
      rw [List.append_assoc, List.append_assoc] at hs
      rw [List.length_append, List.length_append] at hn
      -- each part is read up to the first character of the next, which ranks higher
      have hf₅ := hgs.follows Group.opensWith rfl hf
      have hf₄ := hpath.follows Tag.opensWith rfl hf₅
      obtain ⟨rest₁, ht, hs⟩ := typeTests_complete _ _ _ _ ⟨_, htests⟩ hf₄ hs
      obtain ⟨rest₂, hp, hs⟩ := tags_complete ih _ _ _ _ ⟨⟨_, hpath⟩, by omega⟩ hf₅ hs
      obtain ⟨rest₃, hg, hs⟩ := groups_complete ih _ _ _ _ ⟨⟨_, hgs⟩, by omega⟩ hf hs
      refine ⟨rest₃, ?_, hs⟩
      simp only [pattern, ht, hp, hg, after, Except.mapError, bind, Except.bind]
      rfl

theorem whole_complete {p : Pattern} (h : p.Derives d code ts) (hs : Spells ts cs) :
    whole d cs = .ok p := by
  have hl := hs.length_le
  obtain ⟨rest, hp, hr⟩ := pattern_complete (cs.length + 1) cs p ts [] ⟨⟨_, h⟩, by omega⟩
    follows_nil (by simpa using hs)
  simp only [whole, hp, bind, Except.bind, spells_nil.mp hr]

/-- A text is read as a pattern when it spells tokens that the pattern is derived from. -/
theorem read_eq_ok {source : String} {p : Pattern} :
    Pattern.read d source = .ok p ↔ ∃ ts, p.Derives d p.code ts ∧ Spells ts source.toList := by
  rw [Pattern.read, mapError_eq_ok]
  exact ⟨whole_sound, fun ⟨_, h, hs⟩ ↦ whole_complete h hs⟩

/-- The notation is unambiguous. -/
theorem Derives.eq {us : List Token} {code' : List Instr} {p q : Pattern}
    (hp : p.Derives d code ts) (hq : q.Derives d code' us) (h : Spells ts cs)
    (h' : Spells us cs) : p = q :=
  Except.ok.inj ((whole_complete hp h).symm.trans (whole_complete hq h'))

end Pattern

/-- A text compiles when it spells tokens that some pattern is derived from, and to the code that
they are translated to. -/
theorem Compiled.compile_eq_ok_iff (d : Definitions) (source : String) :
    (∀ p, Pattern.read d source = .ok p ↔
        ∃ ts, p.Derives d p.code ts ∧ Spells ts source.toList) ∧
      ∀ code, (Compiled.compile d source).map Compiled.code = .ok code ↔
        ∃ (p : Pattern) (ts : List Token), p.Derives d code ts ∧ Spells ts source.toList := by
  refine ⟨fun p ↦ Pattern.read_eq_ok, fun code ↦ ?_⟩
  constructor
  · intro h
    obtain ⟨c, hc, rfl⟩ := map_eq_ok.mp h
    obtain ⟨p, hp, hc⟩ := bind_eq_ok.mp hc
    cases hc
    obtain ⟨ts, hts, hs⟩ := Pattern.read_eq_ok.mp hp
    exact ⟨p, ts, hts, hs⟩
  · rintro ⟨p, ts, hts, hs⟩
    obtain rfl := p.translated code ts hts
    have hp := Pattern.read_eq_ok.mpr ⟨ts, hts, hs⟩
    exact map_eq_ok.mpr ⟨_, bind_eq_ok.mpr ⟨p, hp, rfl⟩, rfl⟩

end TreePattern
