import Mathlib
import TreePattern.Proofs.Pattern.Grammar

namespace TreePattern

variable {t : Token} {ts us : List Token} {cs rest : List Char} {c : Char} {k l : Nat}

namespace Pattern

theorem isIdentStart_iff : isIdentStart c = true ↔ c.isAlpha = true ∨ c = '_' := by
  simp [isIdentStart, Char.isAlpha, Char.isUpper, Char.isLower, Char.le_def, or_comm]

theorem isIdentChar_iff : isIdentChar c = true ↔ c.isAlphanum = true ∨ c = '_' := by
  rw [isIdentChar, Bool.or_eq_true, isIdentStart_iff]
  simp [Char.isAlphanum, Char.isDigit, Char.le_def, or_right_comm]

theorem isIdentifier_iff {name : String} : IsIdentifier name ↔
    ∃ c cs, name.toList = c :: cs ∧ isIdentStart c = true ∧ ∀ x ∈ cs, isIdentChar x = true := by
  simp only [IsIdentifier, isIdentStart_iff, isIdentChar_iff]

theorem isIdentChar_of_isIdentStart (h : isIdentStart c = true) : isIdentChar c = true := by
  rw [isIdentChar, h, Bool.true_or]

theorem isBlank_of_isIdentChar (h : isIdentChar c = true) : isBlank c = false := by
  simp only [isIdentChar, isIdentStart, Bool.or_eq_true, Bool.and_eq_true, decide_eq_true_eq,
    beq_iff_eq, Char.le_def, UInt32.le_iff_toNat_le, Char.toNat_val, Char.reduceToNat] at h
  have hn : 48 ≤ c.toNat ∧ c.toNat ≤ 122 := by
    rcases h with ((h | h) | rfl) | h
    · omega
    · omega
    · decide
    · omega
  simp [isBlank]
  omega

end Pattern

theorem skipBlanks_of_not_blank (h : isBlank c = false) : skipBlanks (c :: cs) = c :: cs := by
  simp [skipBlanks, h]

theorem skipBlanks_skipBlanks (cs : List Char) : skipBlanks (skipBlanks cs) = skipBlanks cs :=
  List.dropWhile_idempotent isBlank cs

theorem isBlank_head?_skipBlanks (cs : List Char) :
    ∀ c ∈ (skipBlanks cs).head?, isBlank c = false := by
  intro c hc
  have h := List.head?_dropWhile_not isBlank cs
  rwa [← skipBlanks, hc] at h

theorem Token.exists_chars (t : Token) :
    ∃ c cs, t.chars = c :: cs ∧ isBlank c = false := by
  cases t with
  | ident name valid =>
    obtain ⟨c, cs, hn, hc, -⟩ := Pattern.isIdentifier_iff.mp valid
    exact ⟨c, cs, hn, Pattern.isBlank_of_isIdentChar (Pattern.isIdentChar_of_isIdentStart hc)⟩
  | _ => exact ⟨_, _, rfl, rfl⟩

theorem Token.skipBlanks_chars (t : Token) : skipBlanks (t.chars ++ rest) = t.chars ++ rest := by
  obtain ⟨c, cs, ht, hc⟩ := t.exists_chars
  rw [ht, List.cons_append, skipBlanks_of_not_blank hc]

theorem spells_nil : Spells [] cs ↔ skipBlanks cs = [] := List.dropWhile_eq_nil_iff.symm

theorem spells_cons :
    Spells (t :: ts) cs ↔ ∃ rest, skipBlanks cs = t.chars ++ rest ∧ Spells ts rest := by
  constructor
  · rintro ⟨blanks, rest, hb, rfl, h⟩
    refine ⟨rest, ?_, h⟩
    rw [skipBlanks, List.dropWhile_append_of_pos hb]
    exact t.skipBlanks_chars
  · rintro ⟨rest, hc, h⟩
    refine ⟨cs.takeWhile isBlank, rest, fun _ ↦ List.mem_takeWhile_imp, ?_, h⟩
    rw [← hc, skipBlanks, List.takeWhile_append_dropWhile]

theorem spells_skipBlanks : Spells ts (skipBlanks cs) ↔ Spells ts cs := by
  cases ts with
  | nil => rw [spells_nil, spells_nil, skipBlanks_skipBlanks]
  | cons t ts => rw [spells_cons, spells_cons, skipBlanks_skipBlanks]

theorem spells_token (t : Token) (h : Spells ts rest) : Spells (t :: ts) (t.chars ++ rest) :=
  spells_cons.mpr ⟨rest, t.skipBlanks_chars, h⟩

/-- Two texts in a row spell the tokens of both. -/
theorem Spells.append {ds : List Char} (h : Spells ts cs) (h' : Spells us ds) :
    Spells (ts ++ us) (cs ++ ds) := by
  induction ts generalizing cs with
  | nil =>
    have hb : skipBlanks (cs ++ ds) = skipBlanks ds := List.dropWhile_append_of_pos h
    rw [List.nil_append, ← spells_skipBlanks, hb]
    exact spells_skipBlanks.mpr h'
  | cons t ts ih =>
    obtain ⟨blanks, rest, hb, rfl, hr⟩ := h
    exact ⟨blanks, rest ++ ds, hb, by simp only [List.append_assoc], ih hr⟩

/-- Some tokens are what the front of a text spells, up to the rest. -/
def Reads (ts : List Token) (cs rest : List Char) : Prop :=
  ∃ front, cs = front ++ rest ∧ Spells ts front

theorem Reads.refl (cs : List Char) : Reads [] cs cs := ⟨[], rfl, spells_nil.mpr rfl⟩

theorem Reads.trans {rest' : List Char} (h : Reads ts cs rest) (h' : Reads us rest rest') :
    Reads (ts ++ us) cs rest' := by
  obtain ⟨front, rfl, hf⟩ := h
  obtain ⟨front', rfl, hf'⟩ := h'
  exact ⟨front ++ front', (List.append_assoc ..).symm, hf.append hf'⟩

theorem reads_skipBlanks (cs : List Char) : Reads [] cs (skipBlanks cs) :=
  ⟨cs.takeWhile isBlank, List.takeWhile_append_dropWhile.symm, fun _ ↦ List.mem_takeWhile_imp⟩

theorem Reads.skip (h : Reads ts cs rest) : Reads ts cs (skipBlanks rest) := by
  simpa using h.trans (reads_skipBlanks rest)

theorem reads_token (t : Token) (rest : List Char) : Reads [t] (t.chars ++ rest) rest :=
  have hend : Spells [] [] := spells_nil.mpr rfl
  ⟨t.chars, rfl, by simpa using spells_token t hend⟩

theorem reads_of_skipBlanks {t : Token} (h : skipBlanks cs = t.chars ++ rest) :
    Reads [t] cs rest := by
  have hb := reads_skipBlanks cs
  rw [h] at hb
  exact hb.trans (reads_token t rest)

theorem reads_of_opening {t : Token} (h : t.chars.isPrefixOf? (skipBlanks cs) = some rest) :
    Reads [t] cs rest :=
  reads_of_skipBlanks (List.isPrefixOf?_eq_some_iff_append_eq.mp h).symm

theorem Reads.spells (h : Reads ts cs rest) (h' : Spells us rest) : Spells (ts ++ us) cs := by
  obtain ⟨front, rfl, hf⟩ := h
  exact hf.append h'

/-- No token is empty. -/
theorem Spells.length_le (h : Spells ts cs) : ts.length ≤ cs.length := by
  induction ts generalizing cs with
  | nil => exact Nat.zero_le _
  | cons t ts ih =>
    obtain ⟨blanks, rest, -, rfl, h⟩ := h
    obtain ⟨c, cs, ht, -⟩ := t.exists_chars
    have := ih h
    simp only [ht, List.length_cons, List.length_append]
    omega

theorem Reads.length_le (h : Reads ts cs rest) : ts.length + rest.length ≤ cs.length := by
  obtain ⟨front, rfl, hs⟩ := h
  have := hs.length_le
  rw [List.length_append]
  omega

/-- The order in which first characters of tokens come: each part of a pattern ends before any
character that ranks higher than those it goes on with. -/
def rank (c : Char) : Nat :=
  if Pattern.isIdentChar c then 0
  else if c = '?' then 1
  else if Pattern.isSelectorStart c then 2
  else if c = ':' then 3
  else if c = '-' then 4
  else if c = '(' then 5
  else 6

def firstChar (ts : List Token) : Option Char := ts.head?.bind fun t ↦ t.chars.head?

def Follows (k : Nat) (us : List Token) : Prop := ∀ c ∈ firstChar us, k ≤ rank c

theorem Follows.mono (h : Follows k us) (hl : l ≤ k) : Follows l us := fun c hc ↦ hl.trans (h c hc)

theorem follows_of_firstChar (h : firstChar us = some c) (hk : k ≤ rank c) : Follows k us := by
  intro c' hc'
  rw [h] at hc'
  cases hc'
  exact hk

theorem follows_nil : Follows k [] := fun _ hc ↦ nomatch hc

theorem Spells.head?_skipBlanks (h : Spells us cs) : (skipBlanks cs).head? = firstChar us := by
  cases us with
  | nil => rw [spells_nil.mp h]; rfl
  | cons t us =>
    obtain ⟨rest, hr, -⟩ := spells_cons.mp h
    obtain ⟨c, cs, ht, -⟩ := t.exists_chars
    simp [firstChar, hr, ht]

theorem Spells.le_rank (h : Spells us cs) (hf : Follows k us) (hc : skipBlanks cs = c :: rest) :
    k ≤ rank c := by
  refine hf c ?_
  rw [← h.head?_skipBlanks, hc]
  rfl

theorem Spells.not_identChar (h : Spells us cs) (hf : Follows 1 us) :
    ∀ c ∈ cs.head?, Pattern.isIdentChar c = false := by
  intro c hc
  by_contra hi
  rw [Bool.not_eq_false] at hi
  obtain ⟨cs, rfl⟩ := List.head?_eq_some_iff.mp hc
  have hr := h.le_rank hf (skipBlanks_of_not_blank (Pattern.isBlank_of_isIdentChar hi))
  rw [rank, if_pos hi] at hr
  omega

namespace Pattern

theorem of_ident {name : String} (h : ident cs = .ok (name, rest)) :
    ∃ valid : IsIdentifier name, Reads [.ident name valid] cs rest := by
  unfold ident at h
  split at h
  · next hs =>
    cases h
    have hc : cs = cs.takeWhile isIdentChar ++ cs.dropWhile isIdentChar :=
      List.takeWhile_append_dropWhile.symm
    cases cs with
    | nil => cases hs
    | cons c cs =>
      have hi : isIdentStart c = true := hs
      have valid : IsIdentifier (String.ofList ((c :: cs).takeWhile isIdentChar)) := by
        refine isIdentifier_iff.mpr ⟨c, cs.takeWhile isIdentChar, ?_, hi,
          fun _ ↦ List.mem_takeWhile_imp⟩
        rw [String.toList_ofList, List.takeWhile_cons_of_pos (isIdentChar_of_isIdentStart hi)]
      refine ⟨valid, ?_⟩
      have hr := reads_token (.ident _ valid) ((c :: cs).dropWhile isIdentChar)
      rwa [Token.chars, String.toList_ofList, ← hc] at hr
  · cases h

theorem isIdentChar_of_isIdentifier {name : String} (h : IsIdentifier name) :
    ∀ c ∈ name.toList, isIdentChar c = true := by
  obtain ⟨c, cs, hn, hc, hcs⟩ := isIdentifier_iff.mp h
  rw [hn]
  exact List.forall_mem_cons.mpr ⟨isIdentChar_of_isIdentStart hc, hcs⟩

theorem ident_append {name : String} (h : IsIdentifier name)
    (hr : ∀ c ∈ rest.head?, isIdentChar c = false) :
    ident (name.toList ++ rest) = .ok (name, rest) := by
  obtain ⟨c, cs, hn, hc, -⟩ := isIdentifier_iff.mp h
  have hall := isIdentChar_of_isIdentifier h
  have hstop : rest.takeWhile isIdentChar = [] ∧ rest.dropWhile isIdentChar = rest := by
    cases rest with
    | nil => exact ⟨rfl, rfl⟩
    | cons d rest => simp [hr d rfl]
  have hs : startsWith isIdentStart (name.toList ++ rest) = true := by rw [hn]; exact hc
  rw [ident, if_pos hs, List.takeWhile_append_of_pos hall, List.dropWhile_append_of_pos hall,
    hstop.1, hstop.2, List.append_nil, String.ofList_toList]

theorem of_delimited {delimiter : Char} {text : List Char}
    (h : delimited delimiter cs = .ok (text, rest)) :
    cs = escaped delimiter text ++ delimiter :: rest := by
  fun_induction delimited delimiter cs generalizing text with
  | case1 => cases h
  | case2 => cases h; rfl
  | case3 => cases h
  | case4 => cases h
  | case5 => cases h; rfl
  | case6 d cs hd hne ih =>
    cases hr : delimited delimiter cs with
    | error e => rw [hr] at h; cases h
    | ok r =>
      rw [hr] at h
      cases h
      simp [ih hr, escaped, hd]
  | case7 => cases h
  | case8 c d cs hne hp ih =>
    cases hr : delimited delimiter (d :: cs) with
    | error e => rw [hr] at h; cases h
    | ok r =>
      rw [hr] at h
      cases h
      simp [ih hr, escaped, hne, hp]

theorem delimited_escaped {delimiter : Char} (hd : delimiter ≠ '%') (text rest : List Char) :
    delimited delimiter (escaped delimiter text ++ delimiter :: rest) = .ok (text, rest) := by
  induction text with
  | nil => cases rest <;> simp [escaped, delimited]
  | cons c text ih =>
    by_cases hc : c = delimiter ∨ c = '%'
    · have he : escaped delimiter (c :: text) = '%' :: c :: escaped delimiter text := by
        simp [escaped, hc]
      rw [he, List.cons_append, List.cons_append, delimited, if_neg (Ne.symm hd), if_pos rfl,
        if_pos hc, ih]
      rfl
    · have he : escaped delimiter (c :: text) = c :: escaped delimiter text := by
        simp [escaped, hc]
      rw [not_or] at hc
      obtain ⟨d, cs, hcs⟩ : ∃ d cs, escaped delimiter text ++ delimiter :: rest = d :: cs :=
        List.exists_cons_of_ne_nil (by simp)
      rw [he, List.cons_append, hcs, delimited, if_neg hc.1, if_neg hc.2, ← hcs, ih]
      rfl

theorem quoted_eq_ok_iff {delimiter : Char} (hd : delimiter ≠ '%') {unfinished badEscape : Cause}
    {text : String} :
    quoted delimiter unfinished badEscape cs = .ok (text, rest) ↔
      cs = escaped delimiter text.toList ++ delimiter :: rest := by
  constructor
  · intro h
    unfold quoted at h
    split at h
    · next hr =>
      cases h
      rw [String.toList_ofList]
      exact of_delimited hr
    · cases h
    · cases h
  · rintro rfl
    simp only [quoted, delimited_escaped hd, String.ofList_toList]

theorem reads_of_skippable {skip : Bool} (h : skippable cs = (skip, rest)) :
    Reads (Token.mark skip) cs rest := by
  unfold skippable at h
  split at h
  · next hc =>
    cases h
    exact reads_of_skipBlanks (t := .question) hc
  · cases h
    exact reads_skipBlanks cs

theorem skippable_of_spells {skip : Bool} (h : Spells (Token.mark skip ++ us) cs)
    (hq : firstChar us ≠ some '?') : ∃ rest, skippable cs = (skip, rest) ∧ Spells us rest := by
  cases skip with
  | true =>
    obtain ⟨rest, hc, hr⟩ := spells_cons.mp h
    exact ⟨rest, by simp [skippable, hc, Token.chars], hr⟩
  | false =>
    have hr : Spells us cs := h
    refine ⟨skipBlanks cs, ?_, spells_skipBlanks.mpr hr⟩
    unfold skippable
    split
    · next hc =>
      have := hr.head?_skipBlanks
      rw [hc] at this
      exact absurd this.symm hq
    · rfl

end Pattern

end TreePattern
