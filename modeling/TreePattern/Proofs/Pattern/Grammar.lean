import TreePattern.Pattern.Compiled
import TreePattern.Proofs.Pattern.Nesting

namespace TreePattern

/-- An ASCII letter or underscore, and then letters, digits and underscores. -/
def IsIdentifier (name : String) : Prop :=
  ∃ c cs, name.toList = c :: cs ∧ (c.isAlpha = true ∨ c = '_') ∧
    ∀ x ∈ cs, x.isAlphanum = true ∨ x = '_'

inductive Token
  | arrow
  | colon
  | dollar
  | question
  | openBracket
  | closeBracket
  | openParen
  | closeParen
  | ident (name : String) (valid : IsIdentifier name)
  | literal (text : String)
  | regex (source : String)

/-- A text with a percent sign before every delimiter and percent sign. -/
def escaped (delimiter : Char) (text : List Char) : List Char :=
  text.flatMap fun c ↦ if c = delimiter ∨ c = '%' then ['%', c] else [c]

namespace Token

def chars : Token → List Char
  | arrow => ['-', '>']
  | colon => [':']
  | dollar => ['$']
  | question => ['?']
  | openBracket => ['[']
  | closeBracket => [']']
  | openParen => ['(']
  | closeParen => [')']
  | ident name _ => name.toList
  | literal text => '\x27' :: (escaped '\x27' text.toList ++ ['\x27'])
  | regex source => '/' :: (escaped '/' source.toList ++ ['/'])

def mark (skippable : Bool) : List Token := if skippable then [question] else []

end Token

/-- White space may stand before, between and after the tokens of a text, never inside one. -/
def Spells : List Token → List Char → Prop
  | [], cs => ∀ c ∈ cs, isBlank c = true
  | t :: ts, cs => ∃ blanks rest, (∀ c ∈ blanks, isBlank c = true) ∧
      cs = blanks ++ (t.chars ++ rest) ∧ Spells ts rest

/-- A list is derived from what its members are derived from, one behind the other. -/
inductive DerivesEach {α : Type} (derives : α → List Instr → List Token → Prop) :
    List α → List Instr → List Token → Prop
  | nil : DerivesEach derives [] [] []
  | cons {a : α} {as : List α} {code more : List Instr} {ts us : List Token} :
    derives a code ts → DerivesEach derives as more us →
      DerivesEach derives (a :: as) (code ++ more) (ts ++ us)

open Token

variable (d : Definitions)

inductive TypeTest.Derives : TypeTest → List Instr → List Token → Prop
  | mk {name : String} {p : Predicate} {skip : Bool} (valid : IsIdentifier name) :
    d.get? name = some (.predicate p) →
      TypeTest.Derives ⟨name, p, skip⟩ [.test name p skip]
        (colon :: (mark skip ++ [dollar, ident name valid]))

mutual

inductive Selector.Derives : Selector → Instr → List Token → Prop
  | literal {key : String} {skip : Bool} :
    Selector.Derives (.literal key skip) (.stringKey key skip) (literal key :: mark skip)
  | regex {source : String} {e : Regex.Expr} {skip : Bool} :
    Regex.read? source = some ⟨source, e⟩ →
      Selector.Derives (.regex ⟨source, e⟩ skip) (.regexKey ⟨source, e⟩ skip)
        (regex source :: mark skip)
  | param {name : String} {key : Value} {before behind : Bool} (valid : IsIdentifier name) :
    d.get? name = some (.key key) →
      Selector.Derives (.param name key (before || behind)) (.param name key (before || behind))
        (dollar :: (mark before ++ ident name valid :: mark behind))
  | subtree {p : Pattern} {code : List Instr} {skip : Bool} {ts : List Token} :
    Pattern.Derives p code ts →
      Selector.Derives (.subtree p skip) (.keySubtree code skip)
        (openBracket :: (ts ++ closeBracket :: mark skip))

inductive Tag.Derives : Tag → List Instr → List Token → Prop
  | capture {name : String} {tests : List TypeTest} {code : List Instr} {ts : List Token}
      (valid : IsIdentifier name) :
    DerivesEach (TypeTest.Derives d) tests code ts →
      Tag.Derives (.capture name tests) (.arrow :: .ident name :: (code ++ [.close]))
        (arrow :: ident name valid :: ts)
  | select {s : Selector} {i : Instr} {tests : List TypeTest} {code : List Instr}
      {ts us : List Token} :
    Selector.Derives s i ts → DerivesEach (TypeTest.Derives d) tests code us →
      Tag.Derives (.select s tests) (.arrow :: i :: (code ++ [.close])) (arrow :: (ts ++ us))
  | captureSelect {name : String} {s : Selector} {i : Instr} {tests : List TypeTest}
      {code : List Instr} {ts us : List Token} (valid : IsIdentifier name) :
    Selector.Derives s i ts → DerivesEach (TypeTest.Derives d) tests code us →
      Tag.Derives (.captureSelect name s tests) (.arrow :: .ident name :: i :: (code ++ [.close]))
        (arrow :: ident name valid :: (ts ++ us))

inductive Group.Derives : Group → List Instr → List Token → Prop
  | mk {p : Pattern} {code : List Instr} {skip : Bool} {ts : List Token} :
    Pattern.Derives p code ts →
      Group.Derives (.mk p skip) [.valueSubtree code skip, .close]
        (openParen :: (ts ++ closeParen :: mark skip))

inductive Pattern.Derives : Pattern → List Instr → List Token → Prop
  | mk {tests : List TypeTest} {tags : List Tag} {groups : List Group} {a b c : List Instr}
      {ts us vs : List Token} :
    DerivesEach (TypeTest.Derives d) tests a ts → DerivesEach Tag.Derives tags b us →
      DerivesEach Group.Derives groups c vs →
      Pattern.Derives (.mk tests tags groups) (a ++ b ++ c) (ts ++ (us ++ vs))

end

variable {d} {code : List Instr} {ts : List Token}

theorem DerivesEach.code_eq {α : Type} {derives : α → List Instr → List Token → Prop} {as : List α}
    (h : DerivesEach derives as code ts) {f : α → List Instr}
    (hf : ∀ a ∈ as, ∀ code ts, derives a code ts → code = f a) : code = as.flatMap f := by
  induction h with
  | nil => rfl
  | cons ha _ ih =>
    obtain ⟨hfirst, hrest⟩ := List.forall_mem_cons.mp hf
    rw [List.flatMap_cons, hfirst _ _ ha, ih hrest]

theorem TypeTest.Derives.code_eq {t : TypeTest} (h : t.Derives d code ts) : code = [t.instr] := by
  cases h
  rfl

theorem testCode_of_derives {tests : List TypeTest}
    (h : DerivesEach (TypeTest.Derives d) tests code ts) : code = testCode tests := by
  rw [testCode_eq_flatMap]
  exact h.code_eq fun _ _ _ _ ↦ TypeTest.Derives.code_eq

/-- Whatever tokens a pattern is derived from, they are translated to its code. -/
def Pattern.Translated (d : Definitions) (p : Pattern) : Prop :=
  ∀ code ts, p.Derives d code ts → code = p.code

theorem Selector.Derives.instr_eq {s : Selector} {i : Instr}
    (hs : ∀ q ∈ s.inner, q.Translated d) (h : s.Derives d i ts) : i = s.instr := by
  cases h with
  | literal | regex | param => rfl
  | subtree hp => rw [Selector.instr, hs _ (List.mem_singleton_self _) _ _ hp]

theorem Tag.Derives.code_eq {t : Tag} (ht : ∀ q ∈ t.inner, q.Translated d)
    (h : t.Derives d code ts) : code = t.code := by
  cases h with
  | capture _ htests => rw [Tag.code, testCode_of_derives htests]
  | select hs htests | captureSelect _ hs htests =>
    rw [Tag.code, hs.instr_eq ht, testCode_of_derives htests]

theorem Group.Derives.code_eq {g : Group} (hg : ∀ q ∈ g.inner, q.Translated d)
    (h : g.Derives d code ts) : code = g.code := by
  cases h with
  | mk hp => rw [Group.code, hg _ (List.mem_singleton_self _) _ _ hp]

theorem Pattern.translated (p : Pattern) : p.Translated d := by
  induction p using Pattern.of_inner with
  | h p ih =>
    intro code ts h
    cases h with
    | mk htests hpath hgroups =>
      rw [Pattern.code, testCode_of_derives htests, tagCode_eq_flatMap, groupCode_eq_flatMap,
        hpath.code_eq fun t ht _ _ h ↦ h.code_eq fun q hq ↦ ih q (mem_inner_of_tag ht hq),
        hgroups.code_eq fun g hg _ _ h ↦ h.code_eq fun q hq ↦ ih q (mem_inner_of_group hg hq)]

end TreePattern
