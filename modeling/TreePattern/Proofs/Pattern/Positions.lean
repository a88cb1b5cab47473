import TreePattern.Proofs.Pattern.Viability

namespace TreePattern

open Token

variable {ts us : List Token} {cs mid rest : List Char}

/-- A text of tokens, of which the last ones are given. -/
def EndsWith (us : List Token) (front : List Char) : Prop := ∃ ts, Spells (ts ++ us) front

structure LongestName (name : String) (cs : List Char) : Prop where
  valid : IsIdentifier name
  starts : name.toList <+: cs
  longest : ∀ other, IsIdentifier other → other.toList <+: cs → other.toList <+: name.toList

/-- A delimiter after tokens, which opens a text that ends with the whole. -/
def Unclosed (delimiter : Char) (front rest : List Char) : Prop :=
  EndsWith [] front ∧ ∃ text, rest = delimiter :: escaped delimiter text

/-- A percent sign in a delimited text, which stands before nothing that has to be escaped. -/
def BadEscape (delimiter : Char) (front rest : List Char) : Prop :=
  ∃ before text behind, EndsWith [] before ∧ front = before ++ delimiter :: escaped delimiter text ∧
    rest = '%' :: behind ∧ ∀ c ∈ behind.head?, c ≠ delimiter ∧ c ≠ '%'

/-- A name where one is looked up, behind its dollar sign. -/
def Looked (name : String) (front rest : List Char) : Prop :=
  ∃ skip, EndsWith (dollar :: mark skip) front ∧ LongestName name rest

/-- What has to be before the place of an error and what has to be there. -/
def Flaw (d : Definitions) : Cause → List Char → List Char → Prop
  | .unfinishedString, front, rest => Unclosed '\x27' front rest
  | .unfinishedRegex, front, rest => Unclosed '/' front rest
  | .stringEscape, front, rest => BadEscape '\x27' front rest
  | .regexEscape, front, rest => BadEscape '/' front rest
  | .unexpectedToken, front, rest => EndsWith [] front ∧ ∀ c ∈ rest.head?, isBlank c = false
  | .invalidRegex, front, rest => EndsWith [] front ∧ ∃ source behind,
    rest = (regex source).chars ++ behind ∧ Regex.read? source = none
  | .undefinedName name, front, rest => Looked name front rest ∧ d.get? name = none
  | .wrongDefinition name .key, front, rest =>
    Looked name front rest ∧ ∃ p, d.get? name = some (.predicate p)
  | .wrongDefinition name .predicate, front, rest =>
    Looked name front rest ∧ ∃ key, d.get? name = some (.key key)

theorem EndsWith.behind {front' : List Char} (h : EndsWith us front') {front : List Char}
    (hs : Spells ts front) : EndsWith us (front ++ front') := by
  obtain ⟨ts', h⟩ := h
  exact ⟨ts ++ ts', by simpa using hs.append h⟩

theorem BadEscape.behind {delimiter : Char} {front front' : List Char}
    (h : BadEscape delimiter front' rest) (hs : Spells ts front) :
    BadEscape delimiter (front ++ front') rest := by
  obtain ⟨before, text, behind, hb, rfl, hrest⟩ := h
  exact ⟨front ++ before, text, behind, hb.behind hs, by simp, hrest⟩

theorem Looked.behind {name : String} {front front' : List Char} (h : Looked name front' rest)
    (hs : Spells ts front) : Looked name (front ++ front') rest := by
  obtain ⟨skip, h, hn⟩ := h
  exact ⟨skip, h.behind hs, hn⟩

theorem Flaw.behind {d : Definitions} {cause : Cause} {front front' : List Char}
    (h : Flaw d cause front' rest) (hs : Spells ts front) : Flaw d cause (front ++ front') rest := by
  cases cause with
  | unfinishedString | unfinishedRegex | unexpectedToken | invalidRegex => exact ⟨h.1.behind hs, h.2⟩
  | stringEscape | regexEscape => exact BadEscape.behind h hs
  | undefinedName => exact ⟨h.1.behind hs, h.2⟩
  | wrongDefinition name expected => cases expected <;> exact ⟨h.1.behind hs, h.2⟩

def Points (d : Definitions) (cause : Cause) (cs rest : List Char) : Prop :=
  ∃ front, cs = front ++ rest ∧ Flaw d cause front rest

theorem endsWith_nil : EndsWith [] [] := ⟨[], spells_nil.mpr rfl⟩

theorem Looked.of_reads {name : String} {skip : Bool}
    (hr : Reads (ts ++ dollar :: mark skip) cs rest) (hn : LongestName name rest) :
    ∃ front, cs = front ++ rest ∧ Looked name front rest := by
  obtain ⟨front, rfl, hs⟩ := hr
  exact ⟨front, rfl, skip, ⟨ts, hs⟩, hn⟩

namespace Pattern

variable {α β : Type} {d : Definitions} {r : Except Failure α} {read : Reader Pattern} {n : Nat}

def Blames (d : Definitions) (cs : List Char) (r : Except Failure α) : Prop :=
  ∀ f, r = .error f → Points d f.cause cs f.rest

theorem Blames.ok {a : α} : Blames d cs (.ok a) := fun _ h ↦ by cases h

theorem Blames.bind {k : α → Except Failure β} (hr : Blames d cs r)
    (hk : ∀ a, r = .ok a → Blames d cs (k a)) : Blames d cs (r >>= k) := by
  intro f h
  rcases bind_eq_error.mp h with h | ⟨a, ha, h⟩
  · exact hr f h
  · exact hk a ha f h

theorem Blames.mapError {g : Failure → Failure}
    (hg : ∀ f, (g f).cause = f.cause ∧ (g f).rest = f.rest) (hr : Blames d cs r) :
    Blames d cs (r.mapError g) := by
  intro f h
  obtain ⟨f', hf, rfl⟩ := mapError_eq_error.mp h
  rw [(hg f').1, (hg f').2]
  exact hr f' hf

theorem Blames.after (hr : Blames d cs r) {code : List Instr} : Blames d cs (after code r) :=
  hr.mapError fun _ ↦ ⟨rfl, rfl⟩

theorem Blames.nested (hr : Blames d cs r) : Blames d cs (nested r) :=
  hr.mapError fun _ ↦ ⟨rfl, rfl⟩

theorem Blames.behind (hr : Blames d mid r) (h : Reads ts cs mid) : Blames d cs r := by
  intro f hf
  obtain ⟨front, rfl, hs⟩ := h
  obtain ⟨front', rfl, hflaw⟩ := hr f hf
  exact ⟨front ++ front', (List.append_assoc ..).symm, hflaw.behind hs⟩

def Reader.Blames (d : Definitions) (n : Nat) (r : Reader α) : Prop :=
  ∀ cs, cs.length < n → Pattern.Blames d cs (r cs)

section

variable {item : Reader α} {code : α → List Instr} {t : Token} {derives : α → List Token → Prop}

theorem manyWithin_blames (hi : Reader.Blames d n item)
    (hs : item.Sound fun a ts ↦ derives a (t :: ts)) {steps : Nat} (hn : cs.length ≤ n)
    (hsteps : cs.length < steps) : Blames d cs (manyWithin t.chars item code steps cs) := by
  induction steps generalizing cs with
  | zero => omega
  | succ steps ih =>
    unfold manyWithin
    dsimp only
    split
    · next rest₁ hc =>
      have hopen : Reads [t] cs rest₁ := reads_of_opening hc
      have hl := hopen.length_le
      rw [List.length_singleton] at hl
      refine ((hi rest₁ (by omega)).behind hopen).bind ?_
      rintro ⟨a, rest₂⟩ ha
      obtain ⟨ts, -, hread⟩ := hs _ _ _ ha
      have hl' := hread.length_le
      have hn : rest₂.length ≤ n := by omega
      exact ((ih hn (by omega)).after.behind (hopen.trans hread)).bind fun _ _ ↦ .ok
    · exact .ok

/-- No error comes of the bound on the number of steps. -/
theorem many_blames (hi : Reader.Blames d n item)
    (hs : item.Sound fun a ts ↦ derives a (t :: ts)) (hn : cs.length ≤ n) :
    Blames d cs (many t.chars item code cs) := manyWithin_blames hi hs hn (Nat.lt_succ_self _)

end

theorem unexpected_blames (hb : ∀ c ∈ cs.head?, isBlank c = false) :
    Blames d cs (unexpected cs : Except Failure α) := by
  intro f h
  cases h
  exact ⟨[], rfl, endsWith_nil, hb⟩

theorem ident_blames (hb : ∀ c ∈ cs.head?, isBlank c = false) : Blames d cs (ident cs) := by
  unfold ident
  split
  · exact .ok
  · exact unexpected_blames hb

theorem longestName_of_ident {name : String} (h : ident cs = .ok (name, rest)) :
    LongestName name cs := by
  obtain ⟨valid, -⟩ := of_ident h
  unfold ident at h
  split at h
  · cases h
    refine ⟨valid, ?_, ?_⟩
    · rw [String.toList_ofList]
      exact List.takeWhile_prefix _
    · rintro other ho ⟨behind, hcs⟩
      rw [String.toList_ofList, ← hcs,
        List.takeWhile_append_of_pos (isIdentChar_of_isIdentifier ho)]
      exact List.prefix_append _ _
  · cases h

theorem lookUp_blames {role : Role} {as? : Definition → Option α} {name : String} {skip : Bool}
    (hr : Reads (ts ++ dollar :: mark skip) cs rest) (hn : LongestName name rest)
    (hrole : ∀ front x, Looked name front rest → d.get? name = some x → as? x = none →
      Flaw d (.wrongDefinition name role) front rest) :
    Blames d cs (lookUp role as? d name rest) := by
  obtain ⟨front, rfl, hl⟩ := Looked.of_reads hr hn
  intro f h
  unfold lookUp at h
  split at h
  · next x hx =>
    split at h
    · cases h
    · next hnone =>
      cases h
      exact ⟨front, rfl, hrole front x hl hx hnone⟩
  · next hu =>
    cases h
    exact ⟨front, rfl, hl, hu⟩

theorem keyOf_blames {name : String} {skip : Bool} (hr : Reads (ts ++ dollar :: mark skip) cs rest)
    (hn : LongestName name rest) : Blames d cs (keyOf d name rest) := by
  refine lookUp_blames hr hn fun front x hl hx hnone ↦ ?_
  cases x with
  | key => cases hnone
  | predicate p => exact ⟨hl, p, hx⟩

theorem predicateOf_blames {name : String} {skip : Bool}
    (hr : Reads (ts ++ dollar :: mark skip) cs rest) (hn : LongestName name rest) :
    Blames d cs (predicateOf d name rest) := by
  refine lookUp_blames hr hn fun front x hl hx hnone ↦ ?_
  cases x with
  | key v => exact ⟨hl, v, hx⟩
  | predicate => cases hnone

theorem param_blames (d : Definitions) (cs : List Char) : Blames d ('$' :: cs) (param d cs) := by
  rcases hm : skippable cs with ⟨before, rest₁⟩
  have hplace : Reads ([] ++ dollar :: mark before) ('$' :: cs) (skipBlanks rest₁) :=
    ((reads_token dollar cs).trans (reads_of_skippable hm)).skip
  simp only [param, hm]
  have hi := (ident_blames (isBlank_head?_skipBlanks rest₁)).behind (d := d) hplace
  refine hi.bind ?_
  rintro ⟨name, rest₂⟩ hn
  exact (keyOf_blames hplace (longestName_of_ident hn)).bind fun _ _ ↦ .ok

theorem typeTest_blames (d : Definitions) (cs : List Char) : Blames d cs (typeTest d cs) := by
  rcases hm : skippable cs with ⟨skip, rest₁⟩
  have hmark := reads_of_skippable hm
  simp only [typeTest, hm]
  split
  · next rest₂ hdollar =>
    have hplace : Reads (mark skip ++ dollar :: mark false) cs (skipBlanks rest₂) :=
      (hmark.trans (reads_of_skipBlanks (t := dollar) hdollar)).skip
    have hi := (ident_blames (isBlank_head?_skipBlanks rest₂)).behind (d := d) hplace
    refine hi.bind ?_
    rintro ⟨name, rest₃⟩ hn
    exact (predicateOf_blames hplace (longestName_of_ident hn)).bind fun _ _ ↦ .ok
  · exact (unexpected_blames (isBlank_head?_skipBlanks rest₁)).behind hmark.skip

theorem typeTests_blames (d : Definitions) (cs : List Char) : Blames d cs (typeTests d cs) :=
  many_blames (t := colon) (fun cs _ ↦ typeTest_blames d cs) typeTest_sound le_rfl

theorem enclosed_blames (hr : read.Blames d n) (hs : read.Sound fun p ts ↦ p.Derives d p.code ts)
    {close : Char} (hn : cs.length < n) : Blames d cs (enclosed read close cs) := by
  refine (hr cs hn).nested.bind ?_
  rintro ⟨p, rest⟩ hp
  obtain ⟨ts, -, hread⟩ := hs _ _ _ (nested_eq_ok.mp hp)
  have hb := isBlank_head?_skipBlanks rest
  have hskip := hread.skip
  dsimp only
  generalize skipBlanks rest = rest at hb hskip
  split
  · split
    · exact .ok
    · exact (unexpected_blames hb).behind hskip
  · exact (unexpected_blames hb).behind hskip

theorem quoted_blames {delimiter : Char} {unfinished badEscape : Cause}
    (hu : ∀ front rest, Unclosed delimiter front rest → Flaw d unfinished front rest)
    (hb : ∀ front rest, BadEscape delimiter front rest → Flaw d badEscape front rest)
    (cs : List Char) : Blames d (delimiter :: cs) (quoted delimiter unfinished badEscape cs) := by
  intro f h
  rcases quoted_eq_error h with ⟨rfl, text, rfl⟩ | ⟨text, behind, rfl, rfl, hbad⟩
  · exact ⟨[], rfl, hu _ _ ⟨endsWith_nil, text, rfl⟩⟩
  · exact ⟨delimiter :: escaped delimiter text, rfl,
      hb _ _ ⟨[], text, behind, endsWith_nil, rfl, rfl, hbad⟩⟩

theorem selector_blames (hr : read.Blames d n) (hs : read.Sound fun p ts ↦ p.Derives d p.code ts)
    (hn : cs.length ≤ n) (hb : ∀ c ∈ cs.head?, isBlank c = false) :
    Blames d cs (selector d read cs) := by
  unfold selector
  split
  · next cs =>
    exact (quoted_blames (fun _ _ ↦ id) (fun _ _ ↦ id) cs).bind fun _ _ ↦ .ok
  · next cs =>
    refine (quoted_blames (fun _ _ ↦ id) (fun _ _ ↦ id) cs).bind ?_
    rintro ⟨source, rest⟩ hq
    dsimp only
    split
    · exact .ok
    · next hnone =>
      intro f h
      cases h
      rw [(quoted_eq_ok_iff (by decide)).mp hq]
      exact ⟨[], rfl, endsWith_nil, source, rest, by simp [chars], hnone⟩
  · next cs => exact param_blames d cs
  · next cs =>
    exact ((enclosed_blames hr hs hn).behind (reads_token openBracket cs)).bind fun _ _ ↦ .ok
  · exact unexpected_blames hb

theorem tag_blames (hr : read.Blames d n) (hs : read.Sound fun p ts ↦ p.Derives d p.code ts)
    (hn : cs.length ≤ n) : Blames d cs (tag d read cs) := by
  have hblank := reads_skipBlanks cs
  have hb := isBlank_head?_skipBlanks cs
  simp only [tag]
  split
  · refine ((ident_blames hb).behind hblank).bind ?_
    rintro ⟨name, rest₁⟩ hi
    obtain ⟨valid, hi⟩ := of_ident hi
    have hname : Reads [.ident name valid] cs (skipBlanks rest₁) := (hblank.trans hi).skip
    have hl := hname.length_le
    dsimp only
    split
    · have hn : (skipBlanks rest₁).length ≤ n := by omega
      have hsel := selector_blames hr hs hn (isBlank_head?_skipBlanks rest₁)
      refine (hsel.after.behind hname).bind ?_
      rintro ⟨s, rest₂⟩ hsel
      obtain ⟨ts, -, hread⟩ := selector_sound hs _ _ _ (after_eq_ok.mp hsel)
      exact ((typeTests_blames d rest₂).after.behind (hname.trans hread)).bind fun _ _ ↦ .ok
    · exact ((typeTests_blames d _).after.behind hname).bind fun _ _ ↦ .ok
  · have hl := hblank.length_le
    have hsel := selector_blames hr hs (by omega) hb
    refine (hsel.behind hblank).bind ?_
    rintro ⟨s, rest₁⟩ hsel
    obtain ⟨ts, -, hread⟩ := selector_sound hs _ _ _ hsel
    exact ((typeTests_blames d rest₁).after.behind (hblank.trans hread)).bind fun _ _ ↦ .ok

theorem tags_blames (hr : read.Blames d n) (hs : read.Sound fun p ts ↦ p.Derives d p.code ts)
    (hn : cs.length ≤ n) : Blames d cs (tags d read cs) :=
  many_blames (t := arrow) (fun _ h ↦ (tag_blames hr hs h.le).after)
    (fun _ _ _ h ↦ tag_sound hs _ _ _ (after_eq_ok.mp h)) hn

theorem group_blames (hr : read.Blames d n) (hs : read.Sound fun p ts ↦ p.Derives d p.code ts) :
    (group read).Blames d n :=
  fun _ hn ↦ (enclosed_blames hr hs hn).bind fun _ _ ↦ .ok

theorem groups_blames (hr : read.Blames d n) (hs : read.Sound fun p ts ↦ p.Derives d p.code ts)
    (hn : cs.length ≤ n) : Blames d cs (groups read cs) :=
  many_blames (t := openParen) (group_blames hr hs) (group_sound hs) hn

/-- What is left of a text is short enough for the subtrees to be read. -/
theorem pattern_blames (depth : Nat) : (pattern d depth).Blames d depth := by
  induction depth with
  | zero => exact fun cs hn ↦ absurd hn (Nat.not_lt_zero _)
  | succ depth ih =>
    intro cs hn
    have hs := pattern_sound (d := d) depth
    unfold pattern
    refine (typeTests_blames d cs).bind ?_
    rintro ⟨tests, rest₁⟩ htests
    obtain ⟨ts, -, hread⟩ := typeTests_sound _ _ _ htests
    have hl := hread.length_le
    have hn : rest₁.length ≤ depth := by omega
    refine ((tags_blames ih hs hn).after.behind hread).bind ?_
    rintro ⟨path, rest₂⟩ hpath
    obtain ⟨us, -, hread'⟩ := tags_sound hs _ _ _ (after_eq_ok.mp hpath)
    have hl' := hread'.length_le
    have hn : rest₂.length ≤ depth := by omega
    exact ((groups_blames ih hs hn).after.behind (hread.trans hread')).bind fun _ _ ↦ .ok

theorem whole_blames (d : Definitions) (cs : List Char) : Blames d cs (whole d cs) := by
  refine (pattern_blames _ cs (Nat.lt_succ_self _)).bind ?_
  rintro ⟨p, rest⟩ hp
  obtain ⟨ts, -, hread⟩ := pattern_sound _ _ _ _ hp
  dsimp only
  split
  · exact .ok
  · exact ((unexpected_blames (isBlank_head?_skipBlanks rest)).after).behind hread.skip

end Pattern

namespace Compiled

/-- An error has its place in the text, and there it finds what it names: the opening delimiter of a
text that is not closed, the percent sign of a bad escape, a name that is not defined as it should
be, or an expression that is none. -/
theorem flaw_of_compile {d : Definitions} {source : String} {e : PatternError}
    (h : compile d source = .error e) :
    e.position ≤ source.toList.length ∧
      Flaw d e.cause (source.toList.take e.position) (source.toList.drop e.position) := by
  obtain ⟨f, hf, rfl⟩ := compile_eq_error h
  obtain ⟨front, hsource, hflaw⟩ := Pattern.whole_blames d _ f hf
  have hpos : source.toList.length - f.rest.length = front.length := by simp [hsource]
  simp only [hpos]
  refine ⟨by simp [hsource], ?_⟩
  rwa [hsource, List.take_left, List.drop_left]

def misusedKind : PatternError :=
  ⟨.wrongDefinition "int" .key, 7, "->[->$ int]", .kinds, [.arrow]⟩

theorem flaw_misusedKind :
    compile .kinds misusedKind.source = .error misusedKind ∧
      misusedKind.position ≤ misusedKind.source.toList.length ∧
      Flaw .kinds misusedKind.cause "->[->$ ".toList "int]".toList := by
  have h : compile .kinds misusedKind.source = .error misusedKind := by cbv
  exact ⟨h, flaw_of_compile h⟩

end Compiled

end TreePattern
