import TreePattern.Proofs.Pattern.Viability

namespace TreePattern

namespace Pattern

section

variable (c : Char) (u u' : List Char)

/-- What is left of two texts that part behind a character: fewer than `n` characters before it in
both, or in the first no more than what is behind it. -/
inductive Front (n : Nat) : List Char → List Char → Prop
  | past {cs cs' : List Char} : cs.length ≤ u.length → Front n cs cs'
  | before {y : List Char} : y.length < n → Front n (y ++ c :: u) (y ++ c :: u')

/-- What two readings return that went on alike up to the character behind which the texts part, and
of which the second fails if the first meets that character where it expects another. -/
inductive Alike {α : Type} (n : Nat) :
    Except Failure (α × List Char) → Except Failure (α × List Char) → Prop
  | past {a : α} {rest : List Char} {r' : Except Failure (α × List Char)} :
    rest.length ≤ u.length → Alike n (.ok (a, rest)) r'
  | before {a : α} {y : List Char} :
    y.length < n → Alike n (.ok (a, y ++ c :: u)) (.ok (a, y ++ c :: u'))
  | error {f : Failure} {r' : Except Failure (α × List Char)} :
    (f.cause = .unexpectedToken → f.rest = c :: u → 0 < n ∧ ∃ f', r' = .error f') →
      Alike n (.error f) r'

end

variable {α β : Type} {c : Char} {u u' cs cs' rest : List Char} {m n : Nat}

theorem Front.fit (h : Front c u u' n cs cs') :
    ∃ m, m ≤ n ∧ m ≤ cs.length + 1 ∧ m ≤ cs'.length + 1 ∧ Front c u u' m cs cs' := by
  cases h with
  | past h => exact ⟨0, Nat.zero_le _, Nat.zero_le _, Nat.zero_le _, .past h⟩
  | @before y h => exact ⟨y.length + 1, h, by simp, by simp, .before (Nat.lt_succ_self _)⟩

/-- Behind a common beginning the texts still part at the character, unless it stood there. -/
theorem Front.drop {front : List Char} (h : Front c u u' n (front ++ rest) cs') :
    rest.length ≤ u.length ∨
      ∃ y, y.length + front.length < n ∧ rest = y ++ c :: u ∧ cs' = front ++ (y ++ c :: u') := by
  generalize hcs : front ++ rest = cs at h
  cases h with
  | past h =>
    left
    rw [← hcs, List.length_append] at h
    omega
  | @before y h =>
    rcases List.append_eq_append_iff.mp hcs with ⟨y', rfl, rfl⟩ | ⟨z, rfl, hz⟩
    · right
      rw [List.length_append] at h
      exact ⟨y', by omega, rfl, by simp⟩
    · cases z with
      | nil =>
        right
        refine ⟨[], by simpa using h, by simpa using hz.symm, by simp⟩
      | cons d z =>
        left
        cases hz
        simp

theorem Front.behind {front : List Char} (h : Front c u u' n (front ++ cs) (front ++ cs')) :
    Front c u u' (n - front.length) cs cs' := by
  rcases h.drop with h | ⟨y, hy, rfl, hcs⟩
  · exact .past h
  · obtain rfl := List.append_cancel_left hcs
    exact .before (by omega)

theorem Front.tail {e : Char} (h : Front c u u' n (e :: cs) (e :: cs')) :
    Front c u u' (n - 1) cs cs' := by
  have h : Front c u u' n ([e] ++ cs) ([e] ++ cs') := h
  exact h.behind

theorem Front.dropWhile (p : Char → Bool) (h : Front c u u' n cs cs') :
    (cs.dropWhile p).length ≤ u.length ∨ ∃ y, y.length < n ∧ cs.dropWhile p = y ++ c :: u ∧
      cs'.dropWhile p = y ++ c :: u' ∧ cs'.takeWhile p = cs.takeWhile p := by
  rw [← List.takeWhile_append_dropWhile (p := p) (l := cs)] at h
  rcases h.drop with h | ⟨y, hy, hcs, rfl⟩
  · exact .inl h
  · have hp : ∀ d ∈ cs.takeWhile p, p d = true := fun _ ↦ List.mem_takeWhile_imp
    have hstop := List.head?_dropWhile_not p cs
    right
    refine ⟨y, by omega, hcs, ?_⟩
    rw [List.dropWhile_append_of_pos hp, List.takeWhile_append_of_pos hp]
    rw [hcs] at hstop
    cases y with
    | nil =>
      have hc : p c = false := by simpa using hstop
      simp [hc]
    | cons d y =>
      have hd : p d = false := by simpa using hstop
      simp [hd]

theorem Front.skipBlanks (h : Front c u u' n cs cs') :
    Front c u u' n (skipBlanks cs) (skipBlanks cs') := by
  rcases h.dropWhile isBlank with h | ⟨y, hy, hcs, hcs', -⟩
  · exact .past h
  · simp only [TreePattern.skipBlanks, hcs, hcs']
    exact .before hy

theorem Alike.mono {r r' : Except Failure (α × List Char)} (h : Alike c u u' m r r') (hn : m ≤ n) :
    Alike c u u' n r r' := by
  cases h with
  | past h => exact .past h
  | before h => exact .before (h.trans_le hn)
  | error h => exact .error fun hc hf ↦ ⟨(h hc hf).1.trans_le hn, (h hc hf).2⟩

theorem Alike.of_zero {r r' r'' : Except Failure (α × List Char)} (h : Alike c u u' 0 r r') :
    Alike c u u' n r r'' := by
  cases h with
  | past h => exact .past h
  | before h => exact absurd h (Nat.not_lt_zero _)
  | error h => exact .error fun hc hf ↦ absurd (h hc hf).1 (Nat.lt_irrefl 0)

theorem Front.ok {a : α} (h : Front c u u' n cs cs') :
    Alike c u u' n (.ok (a, cs)) (.ok (a, cs')) := by
  cases h with
  | past h => exact .past h
  | before h => exact .before h

theorem Front.unexpected (h : Front c u u' n cs cs') :
    Alike (α := α) c u u' n (unexpected cs) (unexpected cs') := by
  refine .error fun _ hf ↦ ⟨?_, _, rfl⟩
  change cs = _ at hf
  cases h with
  | past h => simp [hf] at h
  | before h => exact Nat.zero_lt_of_lt h

/-- It is enough to follow two texts that begin with the same character. -/
theorem Front.elim {r : Except Failure (α × List Char)}
    {g : List Char → Except Failure (α × List Char)} (h : Front c u u' n cs cs')
    (hr : ∀ m ds, m ≤ n → Front c u u' m cs ds → ds.head? = cs.head? → Alike c u u' m r (g ds)) :
    Alike c u u' n r (g cs') := by
  cases h with
  | past h => exact (hr 0 cs (Nat.zero_le n) (.past h) rfl).of_zero
  | @before y h => exact hr n _ le_rfl (.before h) (by cases y <;> rfl)

/-- If the character stands in an opening at its end only, texts that part behind it both begin with
the opening or both do not. -/
theorem opening_prefix_iff {opening y : List Char} (hc : c ∉ opening.dropLast) :
    opening <+: y ++ c :: u ↔ opening <+: y ++ [c] := by
  have hfront : y ++ [c] <+: y ++ c :: u := ⟨u, List.append_assoc ..⟩
  refine ⟨fun h ↦ ?_, fun h ↦ h.trans hfront⟩
  rcases List.prefix_or_prefix_of_prefix h hfront with h | ⟨w, rfl⟩
  · exact h
  · by_cases hw : w = []
    · rw [hw, List.append_nil]
    · rw [List.dropLast_append_of_ne_nil hw] at hc
      exact absurd (by simp) hc

theorem Front.elim_opening {r : Except Failure (α × List Char)}
    {g : List Char → Except Failure (α × List Char)} {opening : List Char}
    (h : Front c u u' n cs cs') (hc : c ∉ opening.dropLast)
    (hr : ∀ m ds, m ≤ n → Front c u u' m cs ds → (opening <+: ds ↔ opening <+: cs) →
      Alike c u u' m r (g ds)) :
    Alike c u u' n r (g cs') := by
  cases h with
  | past h => exact (hr 0 cs (Nat.zero_le n) (.past h) Iff.rfl).of_zero
  | before h =>
    exact hr n _ le_rfl (.before h) ((opening_prefix_iff hc).trans (opening_prefix_iff hc).symm)

theorem Front.elim_succ {r : Except Failure (α × List Char)}
    {g : Nat → List Char → Except Failure (α × List Char)} {steps : Nat}
    (h : Front c u u' n cs cs') (hs : n ≤ steps)
    (hr : ∀ m k ds, m ≤ n → m ≤ k + 1 → Front c u u' m cs ds → Alike c u u' m r (g (k + 1) ds)) :
    Alike c u u' n r (g steps cs') := by
  cases steps with
  | zero =>
    obtain rfl : n = 0 := Nat.le_zero.mp hs
    cases h with
    | past h => exact (hr 0 0 cs le_rfl (Nat.zero_le 1) (.past h)).of_zero
    | before h => exact absurd h (Nat.not_lt_zero _)
  | succ k => exact hr n k cs' le_rfl hs h

theorem Alike.bind {r r' : Except Failure (α × List Char)}
    {k k' : α × List Char → Except Failure (β × List Char)} (h : Alike c u u' m r r') (hn : m ≤ n)
    (hk : ∀ l a cs cs', l ≤ m → Front c u u' l cs cs' → Alike c u u' l (k (a, cs)) (k' (a, cs'))) :
    Alike c u u' n (r >>= k) (r' >>= k') := by
  cases h with
  | @past a rest _ h => exact (hk 0 a rest rest (Nat.zero_le m) (.past h)).of_zero
  | before h => exact (hk m _ _ _ le_rfl (.before h)).mono hn
  | error h =>
    refine .error fun hc hf ↦ ?_
    obtain ⟨hm, f', rfl⟩ := h hc hf
    exact ⟨hm.trans_le hn, f', rfl⟩

theorem Alike.bind_ok {q q' : α × List Char}
    {k k' : α × List Char → Except Failure (β × List Char)} (h : Alike c u u' n (.ok q) (.ok q'))
    (hk : ∀ l a cs cs', l ≤ n → Front c u u' l cs cs' → Alike c u u' l (k (a, cs)) (k' (a, cs'))) :
    Alike c u u' n (k q) (k' q') := h.bind le_rfl hk

theorem Alike.mapError {r r' : Except Failure (α × List Char)} {g g' : Failure → Failure}
    (hg : ∀ f, (g f).cause = f.cause ∧ (g f).rest = f.rest) (h : Alike c u u' n r r') :
    Alike c u u' n (r.mapError g) (r'.mapError g') := by
  cases h with
  | past h => exact .past h
  | before h => exact .before h
  | @error f _ h =>
    refine .error fun hc hf ↦ ?_
    obtain ⟨hn, f', rfl⟩ := h ((hg f).1 ▸ hc) ((hg f).2 ▸ hf)
    exact ⟨hn, _, rfl⟩

theorem Alike.after {r r' : Except Failure (α × List Char)} {code code' : List Instr}
    (h : Alike c u u' n r r') : Alike c u u' n (after code r) (after code' r') :=
  h.mapError fun _ ↦ ⟨rfl, rfl⟩

theorem Alike.nested {r r' : Except Failure (α × List Char)} (h : Alike c u u' n r r') :
    Alike c u u' n (nested r) (nested r') := h.mapError fun _ ↦ ⟨rfl, rfl⟩

theorem startsWith_congr {p : Char → Bool} (h : cs'.head? = cs.head?) :
    startsWith p cs' = startsWith p cs := by
  rw [startsWith, h]
  rfl

theorem ident_alike (h : Front c u u' n cs cs') : Alike c u u' n (ident cs) (ident cs') := by
  refine h.elim fun m ds hm h hd ↦ ?_
  unfold ident
  rw [startsWith_congr hd]
  split
  · rcases h.dropWhile isIdentChar with h | ⟨y, hy, hcs, hcs', ht⟩
    · exact .past h
    · rw [hcs, hcs', ht]
      exact .before hy
  · exact h.unexpected

theorem skippable_alike (h : Front c u u' n cs cs') :
    Alike c u u' n (.ok (skippable cs)) (.ok (skippable cs')) := by
  unfold skippable
  have hs := h.skipBlanks
  generalize skipBlanks cs = es at hs ⊢
  generalize skipBlanks cs' = es' at hs ⊢
  apply hs.elim
  intro m ds hm h hd
  split
  · next rest =>
    obtain ⟨rest', rfl⟩ := List.head?_eq_some_iff.mp hd
    exact h.tail.ok.mono (Nat.sub_le m 1)
  · next hne =>
    split
    · next rest =>
      obtain ⟨rest', rfl⟩ := List.head?_eq_some_iff.mp hd.symm
      exact absurd rfl (hne _)
    · exact h.ok

theorem Front.marked (h : Front c u u' n cs cs') (g : Bool → α) :
    Alike c u u' n (.ok (g (skippable cs).1, (skippable cs).2))
      (.ok (g (skippable cs').1, (skippable cs').2)) := by
  have hs := skippable_alike h
  generalize skippable cs = q at hs ⊢
  generalize skippable cs' = q' at hs ⊢
  apply hs.bind_ok
  intro _ _ _ _ _ h
  exact h.ok

theorem quoted_alike {delimiter : Char} (hd : delimiter ≠ '%') {unfinished badEscape : Cause}
    (hu : unfinished ≠ .unexpectedToken) (hb : badEscape ≠ .unexpectedToken)
    (h : Front c u u' n cs cs') :
    Alike c u u' n (quoted delimiter unfinished badEscape cs)
      (quoted delimiter unfinished badEscape cs') := by
  cases hr : quoted delimiter unfinished badEscape cs with
  | error f =>
    refine .error fun hc _ ↦ ?_
    rcases quoted_eq_error hr with ⟨rfl, -⟩ | ⟨_, _, rfl, -⟩
    · exact absurd hc hu
    · exact absurd hc hb
  | ok r =>
    obtain ⟨text, rest⟩ := r
    have hcs := (quoted_eq_ok_iff hd).mp hr
    have hfront : cs = (escaped delimiter text.toList ++ [delimiter]) ++ rest := by simp [hcs]
    rw [hfront] at h
    rcases h.drop with h | ⟨y, hy, rfl, rfl⟩
    · exact .past h
    · rw [(quoted_eq_ok_iff hd).mpr (List.append_assoc ..)]
      exact .before (by omega)

theorem Front.lookup {γ : Type} {r r' : Except Failure γ} (h : Front c u u' n cs cs')
    (he : ∀ f, r = .error f → f.cause ≠ .unexpectedToken) (hr : ∀ a, r = .ok a → r' = .ok a)
    (g : γ → β) :
    Alike c u u' n (r >>= fun a ↦ pure (g a, cs)) (r' >>= fun a ↦ pure (g a, cs')) := by
  cases r with
  | error f => exact .error fun hc _ ↦ absurd hc (he f rfl)
  | ok a =>
    rw [hr a rfl]
    exact h.ok

/-- Two readers go on alike with fewer than some number of characters to read. -/
def Follow (c : Char) (u u' : List Char) (n : Nat) (read read' : Reader α) : Prop :=
  ∀ m es es', m ≤ n → Front c u u' m es es' → Alike c u u' m (read es) (read' es')

theorem Follow.mono {read read' : Reader α} (h : Follow c u u' n read read') (hm : m ≤ n) :
    Follow c u u' m read read' := fun l es es' hl ↦ h l es es' (hl.trans hm)

section

variable {opening : List Char} {item item' : Reader α} {code : α → List Instr}

theorem manyWithin_alike (hc : c ∉ opening.dropLast) (ho : opening ≠ []) {steps steps' : Nat}
    (hi : Follow c u u' (n - 1) item item') (hs : n ≤ steps) (hs' : n ≤ steps')
    (h : Front c u u' n cs cs') :
    Alike c u u' n (manyWithin opening item code steps cs)
      (manyWithin opening item' code steps' cs') := by
  have hpos : 0 < opening.length := List.length_pos_iff.mpr ho
  -- an opening takes a character, so fewer are left before the texts part, and steps enough
  induction steps generalizing n steps' cs cs' with
  | zero =>
    obtain rfl : n = 0 := Nat.le_zero.mp hs
    exact h.unexpected.of_zero
  | succ steps ih =>
    apply h.elim_succ hs'
    intro m k ds hm hk h
    unfold manyWithin
    have hb := h.skipBlanks
    dsimp only
    generalize skipBlanks cs = es at hb ⊢
    generalize skipBlanks ds = es' at hb ⊢
    apply hb.elim_opening hc
    intro l ds hl h hd
    split
    · next rest hr =>
      obtain rfl := List.isPrefixOf?_eq_some_iff_append_eq.mp hr
      obtain ⟨rest', rfl⟩ := hd.mpr (List.prefix_append opening rest)
      rw [List.isPrefixOf?_eq_some_iff_append_eq.mpr rfl]
      apply (hi _ _ _ (by omega) h.behind).bind (Nat.sub_le _ _)
      intro j a fs fs' hj h
      have hi := hi.mono (show j - 1 ≤ n - 1 by omega)
      exact (ih hi (by omega) (by omega) h).after.bind le_rfl fun _ _ _ _ _ h ↦ h.ok
    · next hnone =>
      split
      · next rest' hr =>
        obtain rfl := List.isPrefixOf?_eq_some_iff_append_eq.mp hr
        obtain ⟨rest, rfl⟩ := hd.mp (List.prefix_append opening rest')
        rw [List.isPrefixOf?_eq_some_iff_append_eq.mpr rfl] at hnone
        cases hnone
      · exact h.ok

theorem many_alike (hc : c ∉ opening.dropLast) (ho : opening ≠ [])
    (hi : Follow c u u' (n - 1) item item') (h : Front c u u' n cs cs') :
    Alike c u u' n (many opening item code cs) (many opening item' code cs') := by
  obtain ⟨m, hm, hs, hs', h⟩ := h.fit
  exact (manyWithin_alike hc ho (hi.mono (by omega)) hs hs' h).mono hm

end

variable {d : Definitions}

theorem param_alike (h : Front c u u' n cs cs') :
    Alike c u u' n (param d cs) (param d cs') := by
  unfold param
  have hs := skippable_alike h
  generalize skippable cs = q at hs ⊢
  generalize skippable cs' = q' at hs ⊢
  apply hs.bind_ok
  intro m before cs cs' hm h
  apply (ident_alike h.skipBlanks).bind le_rfl
  intro l name es es' hl h
  have hs := skippable_alike h
  dsimp only
  generalize skippable es = q at hs ⊢
  generalize skippable es' = q' at hs ⊢
  apply hs.bind_ok
  intro k behind es es' hk h
  exact h.lookup (fun _ hf ↦ (lookUp_eq_error hf).2.2)
    (fun _ hk ↦ keyOf_eq_ok.mpr (keyOf_eq_ok.mp hk)) _

theorem typeTest_alike (h : Front c u u' n cs cs') :
    Alike c u u' n (typeTest d cs) (typeTest d cs') := by
  unfold typeTest
  have hs := skippable_alike h
  generalize skippable cs = q at hs ⊢
  generalize skippable cs' = q' at hs ⊢
  apply hs.bind_ok
  intro m skip cs cs' hm h
  have hs := h.skipBlanks
  dsimp only
  generalize skipBlanks cs = es at hs ⊢
  generalize skipBlanks cs' = es' at hs ⊢
  apply hs.elim
  intro m ds hm h hd
  split
  · obtain ⟨rest', rfl⟩ := List.head?_eq_some_iff.mp hd
    apply (ident_alike h.tail.skipBlanks).bind (Nat.sub_le m 1)
    intro l name fs fs' hl h
    exact h.lookup (fun _ hf ↦ (lookUp_eq_error hf).2.2)
      (fun _ hp ↦ predicateOf_eq_ok.mpr (predicateOf_eq_ok.mp hp)) _
  · next hne =>
    split
    · obtain ⟨rest', rfl⟩ := List.head?_eq_some_iff.mp hd.symm
      exact absurd rfl (hne _)
    · exact h.unexpected

theorem typeTests_alike (h : Front c u u' n cs cs') :
    Alike c u u' n (typeTests d cs) (typeTests d cs') :=
  many_alike List.not_mem_nil (by simp) (fun _ _ _ _ ↦ typeTest_alike) h

variable {read read' : Reader Pattern}

theorem enclosed_alike {close : Char} (hr : Alike c u u' n (read cs) (read' cs')) :
    Alike c u u' n (enclosed read close cs) (enclosed read' close cs') := by
  apply hr.nested.bind le_rfl
  intro m p cs cs' hm h
  have hs := h.skipBlanks
  dsimp only
  generalize skipBlanks cs = es at hs ⊢
  generalize skipBlanks cs' = es' at hs ⊢
  apply hs.elim
  intro l ds hl h hd
  cases es with
  | nil =>
    obtain rfl : ds = [] := List.head?_eq_none_iff.mp hd
    exact h.unexpected
  | cons e es =>
    obtain ⟨rest', rfl⟩ := List.head?_eq_some_iff.mp hd
    dsimp only
    split
    · exact h.tail.ok.mono (Nat.sub_le l 1)
    · exact h.unexpected

theorem selector_alike (hr : Follow c u u' (n - 1) read read') (h : Front c u u' n cs cs') :
    Alike c u u' n (selector d read cs) (selector d read' cs') := by
  apply h.elim
  intro m ds hm h hd
  unfold selector
  split
  · obtain ⟨rest', rfl⟩ := List.head?_eq_some_iff.mp hd
    apply (quoted_alike (by decide) (by decide) (by decide) h.tail).bind (Nat.sub_le m 1)
    intro l key es es' hl h
    exact h.marked (Selector.literal key)
  · obtain ⟨rest', rfl⟩ := List.head?_eq_some_iff.mp hd
    apply (quoted_alike (by decide) (by decide) (by decide) h.tail).bind (Nat.sub_le m 1)
    intro l source es es' hl h
    dsimp only
    split
    · next regex _ => exact h.marked (Selector.regex regex)
    · exact .error fun hc _ ↦ nomatch hc
  · obtain ⟨rest', rfl⟩ := List.head?_eq_some_iff.mp hd
    exact (param_alike h.tail).mono (Nat.sub_le m 1)
  · obtain ⟨rest', rfl⟩ := List.head?_eq_some_iff.mp hd
    apply (enclosed_alike (hr _ _ _ (by omega) h.tail)).bind (Nat.sub_le m 1)
    intro l p es es' hl h
    exact h.marked (Selector.subtree p)
  · next h₁ h₂ h₃ h₄ =>
    split
    · obtain ⟨rest', rfl⟩ := List.head?_eq_some_iff.mp hd.symm
      exact absurd rfl (h₁ _)
    · obtain ⟨rest', rfl⟩ := List.head?_eq_some_iff.mp hd.symm
      exact absurd rfl (h₂ _)
    · obtain ⟨rest', rfl⟩ := List.head?_eq_some_iff.mp hd.symm
      exact absurd rfl (h₃ _)
    · obtain ⟨rest', rfl⟩ := List.head?_eq_some_iff.mp hd.symm
      exact absurd rfl (h₄ _)
    · exact h.unexpected

theorem tag_alike (hr : Follow c u u' (n - 1) read read') (h : Front c u u' n cs cs') :
    Alike c u u' n (tag d read cs) (tag d read' cs') := by
  unfold tag
  have hs := h.skipBlanks
  dsimp only
  generalize skipBlanks cs = es at hs ⊢
  generalize skipBlanks cs' = es' at hs ⊢
  apply hs.elim
  intro m ds hm h hd
  have hr := hr.mono (show m - 1 ≤ n - 1 by omega)
  rw [startsWith_congr hd]
  by_cases hi : startsWith isIdentStart es = true
  · rw [if_pos hi, if_pos hi]
    apply (ident_alike h).bind le_rfl
    intro l name fs fs' hl h
    have hs := h.skipBlanks
    dsimp only
    generalize skipBlanks fs = es at hs ⊢
    generalize skipBlanks fs' = es' at hs ⊢
    apply hs.elim
    intro k ds hk h hd
    have hr := hr.mono (show k - 1 ≤ m - 1 by omega)
    rw [startsWith_congr hd]
    by_cases hs : startsWith isSelectorStart es = true
    · rw [if_pos hs, if_pos hs]
      apply (selector_alike hr h).after.bind le_rfl
      intro j s fs fs' hj h
      exact (typeTests_alike h).after.bind le_rfl fun _ _ _ _ _ h ↦ h.ok
    · rw [if_neg hs, if_neg hs]
      exact (typeTests_alike h).after.bind le_rfl fun _ _ _ _ _ h ↦ h.ok
  · rw [if_neg hi, if_neg hi]
    apply (selector_alike hr h).bind le_rfl
    intro l s fs fs' hl h
    exact (typeTests_alike h).after.bind le_rfl fun _ _ _ _ _ h ↦ h.ok

theorem tags_alike (hc : c ≠ '-') (hr : Follow c u u' (n - 1) read read')
    (h : Front c u u' n cs cs') : Alike c u u' n (tags d read cs) (tags d read' cs') := by
  refine many_alike (by simpa using hc) (by simp) (fun m es es' hm h ↦ ?_) h
  exact (tag_alike (hr.mono (by omega)) h).after

theorem group_alike (hr : Follow c u u' n read read') (h : Front c u u' n cs cs') :
    Alike c u u' n (group read cs) (group read' cs') := by
  apply (enclosed_alike (hr _ _ _ le_rfl h)).bind le_rfl
  intro l p es es' hl h
  exact h.marked (Group.mk p)

theorem groups_alike (hr : Follow c u u' (n - 1) read read') (h : Front c u u' n cs cs') :
    Alike c u u' n (groups read cs) (groups read' cs') :=
  many_alike List.not_mem_nil (by simp) (fun _ _ _ hm ↦ group_alike (hr.mono hm)) h

theorem pattern_alike (hc : c ≠ '-') {depth depth' : Nat} (hs : n ≤ depth) (hs' : n ≤ depth')
    (h : Front c u u' n cs cs') :
    Alike c u u' n (pattern d depth cs) (pattern d depth' cs') := by
  -- a bracket takes a character too, which leaves depth enough for what it encloses
  induction depth generalizing n depth' cs cs' with
  | zero =>
    obtain rfl : n = 0 := Nat.le_zero.mp hs
    exact h.unexpected.of_zero
  | succ depth ih =>
    apply h.elim_succ hs'
    intro m k ds hm hk h
    have hr : Follow c u u' (m - 1) (pattern d depth) (pattern d k) :=
      fun l _ _ hl h ↦ ih (by omega) (by omega) h
    unfold pattern
    apply (typeTests_alike h).bind le_rfl
    intro l tests fs fs' hl h
    apply (tags_alike hc (hr.mono (by omega)) h).after.bind le_rfl
    intro j path fs fs' hj h
    have hgroups := groups_alike (hr.mono (by omega)) h
    exact hgroups.after.bind le_rfl fun _ _ _ _ _ h ↦ h.ok

theorem of_trailing {p : Pattern} {f : Failure}
    (h : (match skipBlanks rest with
      | [] => Except.ok p
      | rest => after p.code (unexpected rest)) = .error f) :
    f.rest = skipBlanks rest := by
  split at h
  · cases h
  · cases h
    rfl

/-- A text that is refused for a character cannot be mended behind that character. -/
theorem whole_refuses (hc : c ≠ '-') {x : List Char} {f : Failure}
    (h : whole d (x ++ c :: u) = .error f) (hcause : f.cause = .unexpectedToken)
    (hrest : f.rest = c :: u) (v : List Char) : ∃ f', whole d (x ++ c :: v) = .error f' := by
  have hp : Alike c u v (x.length + 1) (pattern d ((x ++ c :: u).length + 1) (x ++ c :: u))
      (pattern d ((x ++ c :: v).length + 1) (x ++ c :: v)) :=
    pattern_alike hc (by simp) (by simp) (.before (Nat.lt_succ_self _))
  unfold whole at h ⊢
  generalize pattern d ((x ++ c :: u).length + 1) (x ++ c :: u) = r at hp h
  generalize pattern d ((x ++ c :: v).length + 1) (x ++ c :: v) = r' at hp ⊢
  cases hp with
  | error hf =>
    cases h
    obtain ⟨-, f', rfl⟩ := hf hcause hrest
    exact ⟨f', rfl⟩
  | @past p rest _ hp =>
    have hl : (skipBlanks rest).length ≤ rest.length := List.length_dropWhile_le ..
    rw [← of_trailing h, hrest, List.length_cons] at hl
    omega
  | @before p y hp =>
    have hfront : Front c u v (x.length + 1) (y ++ c :: u) (y ++ c :: v) := .before hp
    rcases hfront.dropWhile isBlank with hl | ⟨z, -, -, hz, -⟩
    · change (skipBlanks (y ++ c :: u)).length ≤ u.length at hl
      rw [← of_trailing h, hrest, List.length_cons] at hl
      omega
    · change skipBlanks (y ++ c :: v) = _ at hz
      dsimp only [bind, Except.bind]
      rw [hz]
      cases z <;> exact ⟨_, rfl⟩

end Pattern

namespace Compiled

variable {d : Definitions} {source : String} {e : PatternError}

/-- A text is refused at the earliest place. What stands before it begins a pattern whose code begins
with what was compiled, and if a character was not expected there, nothing that goes on with this
character is a pattern. -/
theorem refused_of_compile (hd : d.Usable) (h : compile d source = .error e)
    (hcause : e.cause ≠ .regexEscape) :
    (∃ text c, source.toList.take e.position <+: text.toList ∧ compile d text = .ok c ∧
        e.compiled <+: c.code) ∧
      (e.cause = .unexpectedToken → ∀ hp : e.position < source.toList.length,
        source.toList[e.position] ≠ '-' → ∀ text : String,
          source.toList.take (e.position + 1) <+: text.toList → ∀ c, compile d text ≠ .ok c) := by
  obtain ⟨f, hf, rfl⟩ := compile_eq_error h
  obtain ⟨p, code, ts, hp, hcode, front, tail, hsource, hs⟩ := Pattern.whole_resumes hd hf hcause
  have hpos : source.toList.length - f.rest.length = front.length := by simp [hsource]
  simp only [hpos]
  constructor
  · obtain rfl := p.translated code ts hp
    have hr : Pattern.read d (String.ofList (front ++ tail)) = .ok p :=
      Pattern.read_eq_ok.mpr ⟨ts, hp, by simpa using hs⟩
    exact ⟨_, _, by simp [hsource], bind_eq_ok.mpr ⟨p, hr, rfl⟩, hcode⟩
  · intro hu hlt hc text htext c hok
    obtain ⟨b, u, hrest⟩ : ∃ b u, f.rest = b :: u := by
      cases hrest : f.rest with
      | nil => simp [hsource, hrest] at hlt
      | cons b u => exact ⟨b, u, rfl⟩
    rw [hrest] at hsource
    simp only [hsource, List.getElem_append_right le_rfl] at hc
    have htake : (front ++ b :: u).take (front.length + 1) = front ++ [b] := by
      simp [List.take_append]
    rw [hsource, htake] at htext
    obtain ⟨u', htext⟩ := htext
    rw [hsource] at hf
    obtain ⟨f', hf'⟩ := Pattern.whole_refuses (by simpa using hc) hf hu hrest u'
    obtain ⟨q, hq, -⟩ := bind_eq_ok.mp hok
    rw [Pattern.read, mapError_eq_ok, ← htext, List.append_assoc, List.singleton_append, hf'] at hq
    cases hq

def stepDefinitions : Definitions :=
  .ofList [("key", .key (.str "a")), ("map", .predicate (.ofKind .map))]

def unfinishedGroup : PatternError :=
  ⟨.unexpectedToken, 17, "->$key:?$map(->X:x)", stepDefinitions,
    [.arrow, .param "key" (.str "a") false, .test "map" (.ofKind .map) true, .close]⟩

theorem usable_stepDefinitions : stepDefinitions.Usable := by
  refine ⟨⟨"key", .str "a", ⟨'k', ['e', 'y'], rfl, by decide, by simp⟩, ?_⟩,
    "map", .ofKind .map, ⟨'m', ['a', 'p'], rfl, by decide, by simp⟩, ?_⟩
  · cbv
  · cbv

theorem refused_unfinishedGroup :
    compile stepDefinitions unfinishedGroup.source = .error unfinishedGroup ∧
      (∃ text c, "->$key:?$map(->X:".toList <+: text.toList ∧
        compile stepDefinitions text = .ok c ∧ unfinishedGroup.compiled <+: c.code) ∧
      ∀ text : String, "->$key:?$map(->X:x".toList <+: text.toList →
        ∀ c, compile stepDefinitions text ≠ .ok c := by
  have h : compile stepDefinitions unfinishedGroup.source = .error unfinishedGroup := by cbv
  obtain ⟨hviable, hearliest⟩ := refused_of_compile usable_stepDefinitions h (by decide)
  exact ⟨h, hviable, hearliest rfl (by decide) (by decide)⟩

end Compiled

end TreePattern
