import TreePattern.Proofs.Text.Cut
import TreePattern.Text.Quoted

namespace TreePattern

variable {c d : Char} {r s : List Char} {m n : Nat}

/-- Text that does not go on with a decimal in front of it. -/
def NoDigit (r : List Char) : Prop := ∀ c ∈ r.head?, c.isDigit = false

theorem noDigit_nil : NoDigit [] := fun _ hc ↦ by cases hc

theorem noDigit_cons : NoDigit (c :: r) ↔ c.isDigit = false := by simp [NoDigit]

theorem isDigit_of_mem_decimal (hc : c ∈ Nat.toDigits 10 n) : c.isDigit = true :=
  Nat.isDigit_of_mem_toDigits (by decide) (by decide) hc

theorem decimal_eq_cons (n : Nat) : ∃ c cs, Nat.toDigits 10 n = c :: cs ∧ c.isDigit = true := by
  have hne : Nat.toDigits 10 n ≠ [] := Nat.toDigits_ne_nil
  obtain ⟨c, cs, hc⟩ := List.exists_cons_of_ne_nil hne
  exact ⟨c, cs, hc, isDigit_of_mem_decimal (hc ▸ List.mem_cons_self)⟩

theorem takeWhile_decimal (n : Nat) (hr : NoDigit r) :
    (Nat.toDigits 10 n ++ r).takeWhile Char.isDigit = Nat.toDigits 10 n :=
  (span_append (fun _ ↦ isDigit_of_mem_decimal) hr).1

theorem decimal_append_inj (hr : NoDigit r) (hs : NoDigit s)
    (h : Nat.toDigits 10 m ++ r = Nat.toDigits 10 n ++ s) : m = n ∧ r = s := by
  have hdigits : Nat.toDigits 10 m = Nat.toDigits 10 n := by
    rw [← takeWhile_decimal m hr, h, takeWhile_decimal n hs]
  refine ⟨?_, List.append_cancel_left (hdigits ▸ h)⟩
  calc m = Nat.ofDigitChars 10 (Nat.toDigits 10 m) 0 := Nat.ofDigitChars_ten_toDigits.symm
    _ = Nat.ofDigitChars 10 (Nat.toDigits 10 n) 0 := by rw [hdigits]
    _ = n := Nat.ofDigitChars_ten_toDigits

namespace Hexadecimal

theorem write_eq (n : Nat) :
    write n = if n < 16 then [n.digitChar] else write (n / 16) ++ [(n % 16).digitChar] :=
  Nat.toDigits_eq_if (by decide)

theorem digit?_digitChar : ∀ n < 16, digit? n.digitChar = some n := by decide

theorem value_write (n : Nat) : value (write n) = n := by
  induction n using Nat.strongRecOn with
  | ind n ih =>
    rw [write_eq]
    split
    · next h => simp [value, digit?_digitChar n h]
    · next h =>
      have hfront := ih (n / 16) (by omega)
      have hlast := digit?_digitChar (n % 16) (Nat.mod_lt n (by decide))
      rw [value] at hfront ⊢
      rw [List.foldl_append, hfront, List.foldl_cons, List.foldl_nil, hlast, Option.getD_some]
      omega

theorem brace_not_mem_write (n : Nat) : '\x7d' ∉ write n := by
  induction n using Nat.strongRecOn with
  | ind n ih =>
    have hne (k : Nat) : '\x7d' ≠ k.digitChar := (Nat.digitChar_ne '\x7d' rfl).symm
    rw [write_eq]
    split
    · simp [hne n]
    · next h =>
      have hfront := ih (n / 16) (by omega)
      simp [hfront, hne (n % 16)]

end Hexadecimal

namespace Quoted

def unmark? : List Char → Option (Char × List Char)
  | [] => none
  | '0' :: r => some ('\x00', r)
  | 't' :: r => some ('\t', r)
  | 'r' :: r => some ('\r', r)
  | 'n' :: r => some ('\n', r)
  | 'u' :: r => (cutFirst? '\x7d' r.tail).map fun (digits, r) ↦
      (Char.ofNat (Hexadecimal.value digits), r)
  | c :: r => some (c, r)

/-- The character that stands escaped in front of a text, and what follows it. -/
def unescape? : List Char → Option (Char × List Char)
  | [] => none
  | c :: r => if c = '\\' then unmark? r else some (c, r)

theorem unescape?_escape (c : Char) (r : List Char) : unescape? (escape c ++ r) = some (c, r) := by
  unfold escape
  split
  iterate 6 rfl
  · next _ _ _ _ _ hbackslash _ =>
    split
    · exact if_neg hbackslash
    · have hcut : cutFirst? '\x7d' (Hexadecimal.write c.toNat ++ '\x7d' :: r) =
          some (Hexadecimal.write c.toNat, r) :=
        cutFirst?_eq_some_iff.mpr ⟨Hexadecimal.brace_not_mem_write _, rfl⟩
      simp [unescape?, unmark?, hcut, Hexadecimal.value_write, Char.ofNat_toNat]

theorem escape_append_inj (h : escape c ++ r = escape d ++ s) : c = d ∧ r = s := by
  have hc := unescape?_escape c r
  rw [h, unescape?_escape] at hc
  exact ⟨(Prod.mk.inj (Option.some.inj hc)).1.symm, (Prod.mk.inj (Option.some.inj hc)).2.symm⟩

theorem escape_append_ne (c : Char) (r s : List Char) : escape c ++ r ≠ '\x22' :: s := by
  intro h
  have hc := unescape?_escape c r
  rw [h] at hc
  obtain ⟨rfl, -⟩ := Prod.mk.inj (Option.some.inj hc)
  cases h

theorem body_append_inj {cs ds : List Char}
    (h : cs.flatMap escape ++ '\x22' :: r = ds.flatMap escape ++ '\x22' :: s) :
    cs = ds ∧ r = s := by
  induction cs generalizing ds with
  | nil =>
    cases ds with
    | nil => exact ⟨rfl, (List.cons.inj h).2⟩
    | cons d ds =>
      rw [List.flatMap_cons, List.append_assoc] at h
      exact absurd h.symm (escape_append_ne d _ _)
  | cons c cs ih =>
    cases ds with
    | nil =>
      rw [List.flatMap_cons, List.append_assoc] at h
      exact absurd h (escape_append_ne c _ _)
    | cons d ds =>
      simp only [List.flatMap_cons, List.append_assoc] at h
      obtain ⟨rfl, hrest⟩ := escape_append_inj h
      obtain ⟨rfl, hr⟩ := ih hrest
      exact ⟨rfl, hr⟩

theorem write_append_inj {a b : String} (h : write a ++ r = write b ++ s) : a = b ∧ r = s := by
  simp only [write, List.cons_append, List.append_assoc, List.nil_append] at h
  obtain ⟨hchars, hr⟩ := body_append_inj (List.cons.inj h).2
  exact ⟨String.toList_inj.mp hchars, hr⟩

end Quoted

end TreePattern
