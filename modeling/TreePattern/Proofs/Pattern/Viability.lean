import TreePattern.Proofs.Pattern.Completeness

namespace TreePattern

open Token

variable {ts us : List Token} {cs mid rest : List Char}

/-- The text up to the rest can be gone on with to one that spells some tokens. -/
def Viable (ts : List Token) (cs rest : List Char) : Prop :=
  ∃ front tail, cs = front ++ rest ∧ Spells ts (front ++ tail)

theorem exists_spells (ts : List Token) : ∃ cs, Spells ts cs := by
  induction ts with
  | nil => exact ⟨[], spells_nil.mpr rfl⟩
  | cons t ts ih =>
    obtain ⟨cs, h⟩ := ih
    exact ⟨_, spells_token t h⟩

theorem Viable.append (h : Viable ts cs rest) (us : List Token) : Viable (ts ++ us) cs rest := by
  obtain ⟨front, tail, rfl, hs⟩ := h
  obtain ⟨ds, hu⟩ := exists_spells us
  exact ⟨front, tail ++ ds, rfl, by simpa using hs.append hu⟩

theorem Reads.viable (h : Reads ts cs rest) (us : List Token) : Viable (ts ++ us) cs rest := by
  obtain ⟨front, rfl, hs⟩ := h
  obtain ⟨ds, hu⟩ := exists_spells us
  exact ⟨front, ds, rfl, hs.append hu⟩

theorem viable_start (ts : List Token) (cs : List Char) : Viable ts cs cs :=
  (Reads.refl cs).viable ts

theorem Reads.trans_viable (h : Reads ts cs mid) (h' : Viable us mid rest) :
    Viable (ts ++ us) cs rest := by
  obtain ⟨front, rfl, hs⟩ := h
  obtain ⟨front', tail, rfl, hs'⟩ := h'
  exact ⟨front ++ front', tail, by simp, by simpa using hs.append hs'⟩

/-- Some identifier is defined as a key, and some as a predicate. -/
def Definitions.Usable (d : Definitions) : Prop :=
  (∃ name key, IsIdentifier name ∧ d.get? name = some (.key key)) ∧
    ∃ name p, IsIdentifier name ∧ d.get? name = some (.predicate p)

namespace Pattern

variable {α : Type} {code : List Instr} {r : Except Failure α} {f : Failure}

theorem after_eq_error :
    after code r = .error f ↔ ∃ g, r = .error g ∧ f = { g with compiled := code ++ g.compiled } := by
  simp only [after, mapError_eq_error, eq_comm (a := f)]

theorem nested_eq_error :
    nested r = .error f ↔ ∃ g, r = .error g ∧ f = { g with compiled := [] } := by
  simp only [nested, mapError_eq_error, eq_comm (a := f)]

theorem ident_eq_error (h : ident cs = .error f) : f = ⟨.unexpectedToken, cs, []⟩ := by
  unfold ident at h
  split at h
  · cases h
  · exact (Except.error.inj h).symm

/-- How a text can fail to be delimited: no delimiter closes it, or a percent sign in it stands
before something else than a delimiter or percent sign. -/
inductive DelimitedError.Explains (delimiter : Char) : DelimitedError → List Char → Prop
  | unfinished (text : List Char) : Explains delimiter .unfinished (escaped delimiter text)
  | badEscape (text rest : List Char) : (∀ c ∈ rest.head?, c ≠ delimiter ∧ c ≠ '%') →
    Explains delimiter (.badEscape ('%' :: rest)) (escaped delimiter text ++ '%' :: rest)

theorem DelimitedError.Explains.behind {delimiter : Char} {e : DelimitedError}
    (h : e.Explains delimiter cs) (text : List Char) :
    e.Explains delimiter (escaped delimiter text ++ cs) := by
  cases h with
  | unfinished text' =>
    rw [escaped, escaped, ← List.flatMap_append]
    exact .unfinished (text ++ text')
  | badEscape text' rest hr =>
    rw [← List.append_assoc, escaped, escaped, ← List.flatMap_append]
    exact .badEscape (text ++ text') rest hr

theorem of_delimited_eq_error {delimiter : Char} {e : DelimitedError}
    (h : delimited delimiter cs = .error e) : e.Explains delimiter cs := by
  fun_induction delimited delimiter cs with
  | case1 => cases h; exact .unfinished []
  | case2 => cases h
  | case3 => cases h; exact .badEscape [] [] (by simp)
  | case4 c hne hp =>
    cases h
    have hc : escaped delimiter [c] = [c] := by simp [escaped, hne, hp]
    exact hc ▸ .unfinished [c]
  | case5 => cases h
  | case6 d cs hd hne ih =>
    have hc : escaped delimiter [d] = ['%', d] := by simp [escaped, hd]
    have hb := (ih (map_eq_error.mp h)).behind [d]
    rwa [hc] at hb
  | case7 d cs hd hne =>
    cases h
    exact .badEscape [] (d :: cs) (by simpa using hd)
  | case8 c d cs hne hp ih =>
    have hc : escaped delimiter [c] = [c] := by simp [escaped, hne, hp]
    have hb := (ih (map_eq_error.mp h)).behind [c]
    rwa [hc] at hb

/-- A text that is not closed fails at the delimiter before it, a bad escape at its percent sign. -/
theorem quoted_eq_error {delimiter : Char} {unfinished badEscape : Cause}
    (h : quoted delimiter unfinished badEscape cs = .error f) :
    f = ⟨unfinished, delimiter :: cs, []⟩ ∧ (∃ text, cs = escaped delimiter text) ∨
      ∃ text rest, f = ⟨badEscape, '%' :: rest, []⟩ ∧ cs = escaped delimiter text ++ '%' :: rest ∧
        ∀ c ∈ rest.head?, c ≠ delimiter ∧ c ≠ '%' := by
  unfold quoted at h
  split at h
  · cases h
  · next hr =>
    obtain ⟨text⟩ := of_delimited_eq_error hr
    exact .inl ⟨(Except.error.inj h).symm, text, rfl⟩
  · next rest hr =>
    obtain ⟨_⟩ | ⟨text, rest, hb⟩ := of_delimited_eq_error hr
    exact .inr ⟨text, rest, (Except.error.inj h).symm, rfl, hb⟩

theorem lookUp_eq_error {role : Role} {as? : Definition → Option α} {d : Definitions}
    {name : String} {place : List Char} (h : lookUp role as? d name place = .error f) :
    f.rest = place ∧ f.compiled = [] ∧ f.cause ≠ .unexpectedToken := by
  unfold lookUp at h
  split at h
  · split at h <;> cases h
    exact ⟨rfl, rfl, nofun⟩
  · cases h
    exact ⟨rfl, rfl, nofun⟩

/-- Unless it is in the escapes of an expression, a failure leaves something that can be gone on with
to what is derived from some tokens, with code that begins with what had been compiled. -/
def Reader.Resumes {α : Type} (r : Reader α) (derives : α → List Instr → List Token → Prop) : Prop :=
  ∀ cs f, r cs = .error f → f.cause ≠ .regexEscape →
    ∃ a code ts, derives a code ts ∧ f.compiled <+: code ∧ Viable ts cs f.rest

theorem Reader.Resumes.after {r : Reader α} {derives : α → List Instr → List Token → Prop}
    (hr : r.Resumes derives) (h : after code (r cs) = .error f) (hcause : f.cause ≠ .regexEscape) :
    ∃ a more ts, derives a more ts ∧ f.compiled <+: code ++ more ∧ Viable ts cs f.rest := by
  obtain ⟨g, hg, rfl⟩ := after_eq_error.mp h
  obtain ⟨a, more, ts, hts, hf, hv⟩ := hr _ _ hg hcause
  exact ⟨a, more, ts, hts, (List.prefix_append_right_inj code).mpr hf, hv⟩

section

variable {item : Reader α} {code : α → List Instr} {t : Token}
  {derives : α → List Instr → List Token → Prop}

theorem manyWithin_resumes (hi : item.Resumes fun a code ts ↦ derives a code (t :: ts))
    (hs : item.Sound fun a ts ↦ derives a (code a) (t :: ts)) (steps : Nat) :
    (manyWithin t.chars item code steps).Resumes (DerivesEach derives) := by
  induction steps with
  | zero =>
    intro cs f h _
    cases h
    exact ⟨[], [], [], .nil, List.nil_prefix, viable_start _ _⟩
  | succ steps ih =>
    intro cs f h hcause
    unfold manyWithin at h
    dsimp only at h
    split at h
    · next rest₁ hc =>
      have hopen : Reads [t] cs rest₁ := reads_of_opening hc
      rcases bind_eq_error.mp h with h | ⟨⟨a, rest₂⟩, ha, h⟩
      · obtain ⟨a, code, ts, hts, hf, hv⟩ := hi _ _ h hcause
        exact ⟨[a], _, _, .cons hts .nil, hf.trans (List.prefix_append _ _),
          (hopen.trans_viable hv).append []⟩
      · obtain ⟨ts, hts, hread⟩ := hs _ _ _ ha
        rcases bind_eq_error.mp h with h | ⟨_, _, h⟩
        · obtain ⟨as, more, us, hus, hf, hv⟩ := ih.after h hcause
          exact ⟨a :: as, _, _, .cons hts hus, hf, (hopen.trans hread).trans_viable hv⟩
        · cases h
    · cases h

theorem many_resumes (hi : item.Resumes fun a code ts ↦ derives a code (t :: ts))
    (hs : item.Sound fun a ts ↦ derives a (code a) (t :: ts)) :
    (many t.chars item code).Resumes (DerivesEach derives) :=
  fun cs ↦ manyWithin_resumes hi hs (cs.length + 1) cs

end

variable {d : Definitions} {read : Reader Pattern}

theorem typeTest_resumes (hd : d.Usable) :
    Reader.Resumes (typeTest d) fun t code ts ↦ t.Derives d code (colon :: ts) := by
  intro cs f h _
  obtain ⟨-, name, p, valid, hp⟩ := hd
  rcases hm : skippable cs with ⟨skip, rest₁⟩
  have hmark := reads_of_skippable hm
  refine ⟨⟨name, p, skip⟩, _, mark skip ++ [dollar, .ident name valid], .mk valid hp, ?_⟩
  simp only [typeTest, hm] at h
  split at h
  · next rest₂ hdollar =>
    have hplace : Reads (mark skip ++ [dollar]) cs (skipBlanks rest₂) :=
      (hmark.trans (reads_of_skipBlanks (t := dollar) hdollar)).skip
    have hv : Viable (mark skip ++ [dollar, .ident name valid]) cs (skipBlanks rest₂) := by
      simpa using hplace.viable [.ident name valid]
    rcases bind_eq_error.mp h with h | ⟨⟨other, rest₃⟩, -, h⟩
    · rw [ident_eq_error h]
      exact ⟨List.nil_prefix, hv⟩
    · rcases bind_eq_error.mp h with h | ⟨_, _, h⟩
      · obtain ⟨hr, hc, -⟩ := lookUp_eq_error h
        rw [hr, hc]
        exact ⟨List.nil_prefix, hv⟩
      · cases h
  · cases h
    exact ⟨List.nil_prefix, hmark.skip.viable _⟩

theorem typeTests_resumes (hd : d.Usable) :
    (typeTests d).Resumes (DerivesEach (TypeTest.Derives d)) :=
  many_resumes (t := colon) (typeTest_resumes hd) typeTest_sound

theorem param_resumes (hd : d.Usable) : Reader.Resumes (param d)
    fun s code ts ↦ ∃ i, s.Derives d i (dollar :: ts) ∧ code = [i] := by
  intro cs f h _
  obtain ⟨⟨name, key, valid, hk⟩, -⟩ := hd
  rcases hm : skippable cs with ⟨before, rest₁⟩
  have hplace : Reads (mark before) cs (skipBlanks rest₁) := (reads_of_skippable hm).skip
  have hs : (Selector.param name key (before || false)).Derives d _
      (dollar :: (mark before ++ .ident name valid :: mark false)) := .param valid hk
  refine ⟨_, _, _, ⟨_, hs, rfl⟩, ?_⟩
  have hv := hplace.viable (.ident name valid :: mark false)
  simp only [param, hm] at h
  rcases bind_eq_error.mp h with h | ⟨⟨other, rest₂⟩, -, h⟩
  · rw [ident_eq_error h]
    exact ⟨List.nil_prefix, hv⟩
  · rcases bind_eq_error.mp h with h | ⟨_, _, h⟩
    · obtain ⟨hr, hc, -⟩ := lookUp_eq_error h
      rw [hr, hc]
      exact ⟨List.nil_prefix, hv⟩
    · cases h

theorem enclosed_resumes (hr : read.Resumes (Pattern.Derives d))
    (hs : read.Sound fun p ts ↦ p.Derives d p.code ts) (close : Char) (t : Token) :
    Reader.Resumes (enclosed read close)
      fun p code ts ↦ code = [] ∧ ∃ code us, p.Derives d code us ∧ ts = us ++ [t] := by
  intro cs f h hcause
  rcases bind_eq_error.mp h with h | ⟨⟨p, rest⟩, hp, h⟩
  · obtain ⟨g, hg, rfl⟩ := nested_eq_error.mp h
    obtain ⟨p, code, ts, hts, -, hv⟩ := hr _ _ hg hcause
    exact ⟨p, [], _, ⟨rfl, code, ts, hts, rfl⟩, List.nil_prefix, hv.append [t]⟩
  · obtain ⟨ts, hts, hread⟩ := hs _ _ _ (nested_eq_ok.mp hp)
    refine ⟨p, [], _, ⟨rfl, p.code, ts, hts, rfl⟩, ?_⟩
    have hv := hread.skip.viable [t]
    dsimp only at h
    split at h
    · next c rest' hc =>
      split at h
      · cases h
      · cases h
        exact ⟨List.nil_prefix, hc ▸ hv⟩
    · next hc =>
      cases h
      exact ⟨List.nil_prefix, hc ▸ hv⟩

theorem selector_resumes (hd : d.Usable) (hr : read.Resumes (Pattern.Derives d))
    (hs : read.Sound fun p ts ↦ p.Derives d p.code ts) :
    Reader.Resumes (selector d read) fun s code ts ↦ ∃ i, s.Derives d i ts ∧ code = [i] := by
  intro cs f h hcause
  have hstart : ∃ a code ts, (∃ i, Selector.Derives d a i ts ∧ code = [i]) ∧ [] <+: code ∧
      Viable ts cs cs :=
    ⟨.literal "" false, _, _, ⟨_, .literal, rfl⟩, List.nil_prefix, viable_start _ _⟩
  unfold selector at h
  split at h
  · next cs =>
    rcases bind_eq_error.mp h with h | ⟨_, _, h⟩
    · rcases quoted_eq_error h with ⟨rfl, -⟩ | ⟨text, rest, rfl, rfl, -⟩
      · exact hstart
      · refine ⟨.literal (String.ofList text) false, _, _, ⟨_, .literal, rfl⟩, List.nil_prefix,
          '\x27' :: escaped '\x27' text, ['\x27'], rfl, ?_⟩
        simpa [chars, mark] using spells_token (literal (String.ofList text)) (spells_nil.mpr rfl)
    · cases h
  · next cs =>
    rcases bind_eq_error.mp h with h | ⟨_, _, h⟩
    · rcases quoted_eq_error h with ⟨rfl, -⟩ | ⟨_, _, rfl, -⟩
      · exact hstart
      · exact absurd rfl hcause
    · dsimp only at h
      split at h
      · cases h
      · cases h
        exact hstart
  · next cs =>
    obtain ⟨s, code, ts, hts, hf, hv⟩ := param_resumes hd _ _ h hcause
    exact ⟨s, code, _, hts, hf, (reads_token dollar cs).trans_viable hv⟩
  · next cs =>
    rcases bind_eq_error.mp h with h | ⟨_, _, h⟩
    · obtain ⟨p, code, _, ⟨rfl, inner, us, hus, rfl⟩, hf, hv⟩ :=
        enclosed_resumes hr hs ']' closeBracket _ _ h hcause
      refine ⟨.subtree p false, _, _, ⟨_, .subtree hus, rfl⟩, hf.trans List.nil_prefix, ?_⟩
      simpa [chars] using (reads_token openBracket cs).trans_viable (hv.append (mark false))
    · cases h
  · cases h
    exact hstart

theorem after_typeTests_resumes (hd : d.Usable) (h : after code (typeTests d cs) = .error f)
    (hcause : f.cause ≠ .regexEscape) :
    ∃ tests more ts, DerivesEach (TypeTest.Derives d) tests more ts ∧
      f.compiled <+: code ++ (more ++ [.close]) ∧ Viable ts cs f.rest := by
  obtain ⟨tests, more, ts, hts, hf, hv⟩ := (typeTests_resumes hd).after h hcause
  exact ⟨tests, more, ts, hts, hf.trans ⟨[.close], List.append_assoc ..⟩, hv⟩

theorem tag_resumes (hd : d.Usable) (hr : read.Resumes (Pattern.Derives d))
    (hs : read.Sound fun p ts ↦ p.Derives d p.code ts) :
    Reader.Resumes (tag d read)
      fun t code ts ↦ t.Derives d (.arrow :: code) (arrow :: ts) := by
  intro cs f h hcause
  have hblank := reads_skipBlanks cs
  simp only [tag] at h
  split at h
  · next hstart =>
    rcases bind_eq_error.mp h with h | ⟨⟨name, rest₁⟩, hn, h⟩
    · rw [ident, if_pos hstart] at h
      cases h
    · obtain ⟨valid, hi⟩ := of_ident hn
      have hname : Reads [.ident name valid] cs (skipBlanks rest₁) := (hblank.trans hi).skip
      dsimp only at h
      split at h
      · rcases bind_eq_error.mp h with h | ⟨⟨s, rest₂⟩, hsel, h⟩
        · obtain ⟨s, _, ts, ⟨i, hts, rfl⟩, hf, hv⟩ := (selector_resumes hd hr hs).after h hcause
          exact ⟨_, _, _, .captureSelect valid hts .nil, hf.trans ⟨[.close], rfl⟩,
            hname.trans_viable (hv.append [])⟩
        · obtain ⟨ts, hts, hread⟩ := selector_sound hs _ _ _ (after_eq_ok.mp hsel)
          rcases bind_eq_error.mp h with h | ⟨_, _, h⟩
          · obtain ⟨tests, code, us, hus, hf, hv⟩ := after_typeTests_resumes hd h hcause
            exact ⟨_, _, _, .captureSelect valid hts hus, hf,
              hname.trans_viable (hread.trans_viable hv)⟩
          · cases h
      · rcases bind_eq_error.mp h with h | ⟨_, _, h⟩
        · obtain ⟨tests, code, us, hus, hf, hv⟩ := after_typeTests_resumes hd h hcause
          exact ⟨_, _, _, .capture valid hus, hf, hname.trans_viable hv⟩
        · cases h
  · rcases bind_eq_error.mp h with h | ⟨⟨s, rest₁⟩, hsel, h⟩
    · obtain ⟨s, _, ts, ⟨i, hts, rfl⟩, hf, hv⟩ := selector_resumes hd hr hs _ _ h hcause
      exact ⟨_, _, _, .select hts .nil, hf.trans ⟨[.close], rfl⟩,
        hblank.trans_viable (hv.append [])⟩
    · obtain ⟨ts, hts, hread⟩ := selector_sound hs _ _ _ hsel
      rcases bind_eq_error.mp h with h | ⟨_, _, h⟩
      · obtain ⟨tests, code, us, hus, hf, hv⟩ := after_typeTests_resumes hd h hcause
        exact ⟨_, _, _, .select hts hus, hf, hblank.trans_viable (hread.trans_viable hv)⟩
      · cases h

theorem tags_resumes (hd : d.Usable) (hr : read.Resumes (Pattern.Derives d))
    (hs : read.Sound fun p ts ↦ p.Derives d p.code ts) :
    (tags d read).Resumes (DerivesEach (Tag.Derives d)) := by
  refine many_resumes (t := arrow) (fun cs f h hcause ↦ ?_) fun cs t rest h ↦
    tag_sound hs _ _ _ (after_eq_ok.mp h)
  obtain ⟨t, code, ts, hts, hf, hv⟩ := (tag_resumes hd hr hs).after h hcause
  exact ⟨t, _, ts, hts, hf, hv⟩

theorem group_resumes (hr : read.Resumes (Pattern.Derives d))
    (hs : read.Sound fun p ts ↦ p.Derives d p.code ts) :
    (group read).Resumes fun g code ts ↦ g.Derives d code (openParen :: ts) := by
  intro cs f h hcause
  rcases bind_eq_error.mp h with h | ⟨_, _, h⟩
  · obtain ⟨p, _, _, ⟨rfl, code, ts, hts, rfl⟩, hf, hv⟩ :=
      enclosed_resumes hr hs ')' closeParen _ _ h hcause
    refine ⟨.mk p false, _, _, .mk hts, hf.trans List.nil_prefix, ?_⟩
    simpa [mark] using hv
  · cases h

theorem groups_resumes (hr : read.Resumes (Pattern.Derives d))
    (hs : read.Sound fun p ts ↦ p.Derives d p.code ts) :
    (groups read).Resumes (DerivesEach (Group.Derives d)) :=
  many_resumes (t := openParen) (group_resumes hr hs) (group_sound hs)

theorem pattern_resumes (hd : d.Usable) (depth : Nat) :
    (pattern d depth).Resumes (Pattern.Derives d) := by
  induction depth with
  | zero =>
    intro cs f h _
    cases h
    exact ⟨_, _, _, .mk .nil .nil .nil, List.nil_prefix, viable_start _ _⟩
  | succ depth ih =>
    intro cs f h hcause
    have hs := pattern_sound (d := d) depth
    unfold pattern at h
    rcases bind_eq_error.mp h with h | ⟨⟨tests, rest₁⟩, htests, h⟩
    · obtain ⟨tests, code, ts, hts, hf, hv⟩ := typeTests_resumes hd _ _ h hcause
      refine ⟨_, _, _, .mk hts .nil .nil, ?_, hv.append _⟩
      simpa using hf
    · obtain ⟨ts, hts, hread⟩ := typeTests_sound _ _ _ htests
      rcases bind_eq_error.mp h with h | ⟨⟨path, rest₂⟩, hpath, h⟩
      · obtain ⟨path, code, us, hus, hf, hv⟩ := (tags_resumes hd ih hs).after h hcause
        refine ⟨_, _, _, .mk hts hus .nil, ?_, hread.trans_viable (hv.append _)⟩
        simpa using hf
      · obtain ⟨us, hus, hread'⟩ := tags_sound hs _ _ _ (after_eq_ok.mp hpath)
        rcases bind_eq_error.mp h with h | ⟨_, _, h⟩
        · obtain ⟨gs, code, vs, hvs, hf, hv⟩ := (groups_resumes ih hs).after h hcause
          exact ⟨_, _, _, .mk hts hus hvs, hf, hread.trans_viable (hread'.trans_viable hv)⟩
        · cases h

theorem whole_resumes (hd : d.Usable) (h : whole d cs = .error f)
    (hcause : f.cause ≠ .regexEscape) :
    ∃ p code ts, Pattern.Derives d p code ts ∧ f.compiled <+: code ∧ Viable ts cs f.rest := by
  unfold whole at h
  rcases bind_eq_error.mp h with h | ⟨⟨p, rest⟩, hp, h⟩
  · exact pattern_resumes hd _ _ _ h hcause
  · obtain ⟨ts, hts, hread⟩ := pattern_sound _ _ _ _ hp
    dsimp only at h
    split at h
    · cases h
    · next hrest =>
      obtain ⟨g, hg, rfl⟩ := after_eq_error.mp h
      cases hg
      refine ⟨p, p.code, ts, hts, ?_, ?_⟩
      · simp
      · simpa using hread.skip.viable []

end Pattern

theorem Compiled.compile_eq_error {d : Definitions} {source : String} {e : PatternError}
    (h : compile d source = .error e) : ∃ f, Pattern.whole d source.toList = .error f ∧
      ⟨f.cause, source.toList.length - f.rest.length, source, d, f.compiled⟩ = e := by
  rcases bind_eq_error.mp h with h | ⟨_, _, h⟩
  · exact mapError_eq_error.mp h
  · cases h

end TreePattern
