import TreePattern.Proofs.Json.Conversion
import TreePattern.Proofs.Text.Quoted

namespace TreePattern

def Kind.ofFirst? (c : Char) : Option Kind :=
  if c.isDigit then some int
  else match c with
    | '-' => some int
    | 'n' => some null
    | 't' | 'f' => some bool
    | '\x22' => some str
    | '[' => some seq
    | '\x7b' | 's' => some map
    | _ => none

/-- Mappings and sets begin with the same brace. -/
def Kind.opening : Kind → Kind
  | set => map
  | k => k

namespace Value

def FloatFree (v : Value) : Prop := v.Throughout fun u ↦ Kind.of u ≠ .float

variable {u v w : Value} {r s : List Char}

theorem intText_append_inj {m n : Int} (hr : NoDigit r) (hs : NoDigit s)
    (h : intText m ++ r = intText n ++ s) : m = n ∧ r = s := by
  have hminus (k : Nat) (t t' : List Char) : '-' :: t ≠ Nat.toDigits 10 k ++ t' := by
    intro he
    obtain ⟨c, cs, hc, hd⟩ := decimal_eq_cons k
    rw [hc] at he
    obtain ⟨rfl, -⟩ := List.cons.inj he
    cases hd
  unfold intText at h
  split at h <;> split at h
  · obtain ⟨habs, hrs⟩ := decimal_append_inj hr hs (List.cons.inj h).2
    exact ⟨by omega, hrs⟩
  · exact absurd h (hminus _ _ _)
  · exact absurd h.symm (hminus _ _ _)
  · obtain ⟨habs, hrs⟩ := decimal_append_inj hr hs h
    exact ⟨by omega, hrs⟩

theorem chars_eq_cons (hv : Kind.of v ≠ .float) :
    ∃ c cs, v.chars = c :: cs ∧ Kind.ofFirst? c = some (Kind.of v).opening := by
  cases v with
  | float x => exact absurd rfl hv
  | int n =>
    rw [chars, intText]
    split
    · exact ⟨'-', _, rfl, rfl⟩
    · obtain ⟨c, cs, hc, hd⟩ := decimal_eq_cons n.toInt.natAbs
      exact ⟨c, cs, hc, if_pos hd⟩
  | bool b => cases b <;> exact ⟨_, _, rfl, rfl⟩
  | set vs => cases vs <;> exact ⟨_, _, rfl, rfl⟩
  | null | str | seq | map => exact ⟨_, _, rfl, rfl⟩

theorem opening_eq (hv : Kind.of v ≠ .float) (hw : Kind.of w ≠ .float)
    (h : v.chars ++ r = w.chars ++ s) : (Kind.of v).opening = (Kind.of w).opening := by
  obtain ⟨c, cs, hc, hkind⟩ := chars_eq_cons hv
  obtain ⟨d, ds, hd, hkind'⟩ := chars_eq_cons hw
  rw [hc, hd] at h
  obtain ⟨rfl, -⟩ := List.cons.inj h
  exact Option.some.inj (hkind.symm.trans hkind')

def IsClosing (c : Char) : Prop := c = ']' ∨ c = '\x7d'

theorem IsClosing.noDigit {c : Char} (hc : IsClosing c) (r : List Char) : NoDigit (c :: r) := by
  rcases hc with rfl | rfl <;> exact noDigit_cons.mpr rfl

section

variable {α : Type} {P : α → Prop} {text : α → List Char} {close : Char} {as bs : List α}

/-- The text of an item is not the text of any other, whatever follows, unless a number goes on. -/
def Cancels (P : α → Prop) (text : α → List Char) (a : α) : Prop :=
  ∀ b r s, P b → NoDigit r → NoDigit s → text a ++ r = text b ++ s → a = b ∧ r = s

def further (text : α → List Char) (as : List α) : List Char :=
  as.flatMap fun a ↦ ',' :: ' ' :: text a

theorem joined_cons (a : α) (as : List α) :
    joined ((a :: as).map text) = text a ++ further text as := by
  induction as generalizing a with
  | nil => exact (List.append_nil (text a)).symm
  | cons b as ih =>
    calc joined ((a :: b :: as).map text)
        = text a ++ ',' :: ' ' :: joined ((b :: as).map text) := rfl
      _ = text a ++ further text (b :: as) := by rw [ih]; rfl

theorem noDigit_further (hclose : IsClosing close) (as : List α) (r : List Char) :
    NoDigit (further text as ++ close :: r) := by
  cases as with
  | nil => exact hclose.noDigit r
  | cons a as => exact noDigit_cons.mpr rfl

theorem further_append_inj (hclose : IsClosing close) (has : ∀ a ∈ as, Cancels P text a)
    (hbs : ∀ b ∈ bs, P b)
    (h : further text as ++ close :: r = further text bs ++ close :: s) : as = bs ∧ r = s := by
  have hcomma (t : List Char) : close :: r ≠ ',' :: t ∧ close :: s ≠ ',' :: t := by
    rcases hclose with rfl | rfl <;> simp
  induction as generalizing bs with
  | nil =>
    cases bs with
    | nil => exact ⟨rfl, (List.cons.inj h).2⟩
    | cons b bs => exact absurd h (hcomma _).1
  | cons a as ih =>
    cases bs with
    | nil => exact absurd h.symm (hcomma _).2
    | cons b bs =>
      obtain ⟨ha, has⟩ := List.forall_mem_cons.mp has
      obtain ⟨hb, hrests⟩ := List.forall_mem_cons.mp hbs
      have hitem : text a ++ (further text as ++ close :: r) =
          text b ++ (further text bs ++ close :: s) := by
        simpa [further] using h
      obtain ⟨rfl, hrest⟩ := ha b _ _ hb (noDigit_further hclose as r)
        (noDigit_further hclose bs s) hitem
      obtain ⟨rfl, hr⟩ := ih has hrests hrest
      exact ⟨rfl, hr⟩

theorem joined_append_inj (hclose : IsClosing close)
    (hfirst : ∀ a, P a → ∃ c cs, text a = c :: cs ∧ c ≠ close) (hP : ∀ a ∈ as, P a)
    (has : ∀ a ∈ as, Cancels P text a) (hbs : ∀ b ∈ bs, P b)
    (h : joined (as.map text) ++ close :: r = joined (bs.map text) ++ close :: s) :
    as = bs ∧ r = s := by
  have hne {a : α} (ha : P a) (as : List α) (t t' : List Char) :
      joined ((a :: as).map text) ++ t ≠ close :: t' := by
    obtain ⟨c, cs, hc, hcc⟩ := hfirst a ha
    rw [joined_cons, hc]
    exact fun he ↦ hcc (List.cons.inj he).1
  cases as with
  | nil =>
    cases bs with
    | nil => exact ⟨rfl, (List.cons.inj h).2⟩
    | cons b bs => exact absurd h.symm (hne (hbs b List.mem_cons_self) bs _ _)
  | cons a as =>
    cases bs with
    | nil => exact absurd h (hne (hP a List.mem_cons_self) as _ _)
    | cons b bs =>
      obtain ⟨ha, has⟩ := List.forall_mem_cons.mp has
      obtain ⟨hb, hrests⟩ := List.forall_mem_cons.mp hbs
      simp only [joined_cons, List.append_assoc] at h
      obtain ⟨rfl, hrest⟩ := ha b _ _ hb (noDigit_further hclose as r)
        (noDigit_further hclose bs s) h
      obtain ⟨rfl, hr⟩ := further_append_inj hclose has hrests hrest
      exact ⟨rfl, hr⟩

end

def entryText (e : Value × Value) : List Char := e.1.chars ++ ':' :: ' ' :: e.2.chars

def EntryFloatFree (e : Value × Value) : Prop := e.1.FloatFree ∧ e.2.FloatFree

theorem itemChars_eq_map (vs : List Value) : itemChars vs = vs.map chars := by
  induction vs with
  | nil => rfl
  | cons v vs ih => rw [itemChars, ih, List.map_cons]

theorem entryChars_eq_map (es : List (Value × Value)) : entryChars es = es.map entryText := by
  induction es with
  | nil => rfl
  | cons e es ih => rw [entryChars, ih, List.map_cons, entryText]

theorem FloatFree.entries {es : List (Value × Value)} (h : (map es).FloatFree) :
    ∀ e ∈ es, EntryFloatFree e :=
  fun _ he ↦ ⟨h.part (key_mem_parts he), h.part (value_mem_parts he)⟩

theorem FloatFree.first_ne {close : Char} (hclose : IsClosing close) (hv : v.FloatFree) :
    ∃ c cs, v.chars = c :: cs ∧ c ≠ close := by
  obtain ⟨c, cs, hc, hkind⟩ := chars_eq_cons hv.here
  refine ⟨c, cs, hc, ?_⟩
  rintro rfl
  rcases hclose with rfl | rfl <;> cases hkind

theorem cancels_entry {e : Value × Value} (hk : Cancels FloatFree chars e.1)
    (hv : Cancels FloatFree chars e.2) : Cancels EntryFloatFree entryText e := by
  intro f r s hf hr hs h
  simp only [entryText, List.append_assoc, List.cons_append] at h
  have hcolon (t : List Char) : NoDigit (':' :: t) := noDigit_cons.mpr rfl
  obtain ⟨hkeys, hrest⟩ := hk f.1 _ _ hf.1 (hcolon _) (hcolon _) h
  obtain ⟨hvalues, hrs⟩ := hv f.2 r s hf.2 hr hs (by simpa using hrest)
  exact ⟨Prod.ext hkeys hvalues, hrs⟩

theorem entries_append_ne {es : List (Value × Value)} (hes : ∀ e ∈ es, EntryFloatFree e)
    (hv : v.FloatFree)
    (h : (∀ e ∈ es, Cancels FloatFree chars e.1) ∨ Cancels FloatFree chars v) (vs : List Value) :
    joined (es.map entryText) ++ '\x7d' :: r ≠ joined ((v :: vs).map chars) ++ '\x7d' :: s := by
  intro he
  rw [joined_cons, List.append_assoc] at he
  cases es with
  | nil =>
    obtain ⟨c, cs, hc, hne⟩ := hv.first_ne (.inr rfl)
    rw [hc] at he
    exact hne (List.cons.inj he).1.symm
  | cons e es =>
    have hkey : e.1.chars ++ ':' :: (' ' :: e.2.chars ++ (further entryText es ++ '\x7d' :: r)) =
        v.chars ++ (further chars vs ++ '\x7d' :: s) := by
      rw [joined_cons] at he
      simpa [entryText] using he
    have hne (t : List Char) : ':' :: t ≠ further chars vs ++ '\x7d' :: s := by
      cases vs <;> simp [further]
    have hcolon (t : List Char) : NoDigit (':' :: t) := noDigit_cons.mpr rfl
    have hitems : NoDigit (further chars vs ++ '\x7d' :: s) := noDigit_further (.inr rfl) vs s
    rcases h with hk | hu
    · exact hne _ (hk e List.mem_cons_self v _ _ hv (hcolon _) hitems hkey).2
    · have hfree := (hes e List.mem_cons_self).1
      exact hne _ (hu e.1 _ _ hfree hitems (hcolon _) hkey.symm).2.symm

theorem chars_seq (vs : List Value) (r : List Char) :
    (seq vs).chars ++ r = '[' :: (joined (vs.map chars) ++ ']' :: r) := by
  simp [chars, itemChars_eq_map]

theorem chars_map (es : List (Value × Value)) (r : List Char) :
    (map es).chars ++ r = '\x7b' :: (joined (es.map entryText) ++ '\x7d' :: r) := by
  simp [chars, entryChars_eq_map]

theorem chars_set_cons (v : Value) (vs : List Value) (r : List Char) :
    (set (v :: vs)).chars ++ r = '\x7b' :: (joined ((v :: vs).map chars) ++ '\x7d' :: r) := by
  simp [chars, itemChars_eq_map]

theorem items_append_inj {close : Char} {vs ws : List Value} (hclose : IsClosing close)
    (hvs : ∀ v ∈ vs, v.FloatFree) (h : ∀ v ∈ vs, Cancels FloatFree chars v)
    (hws : ∀ w ∈ ws, w.FloatFree)
    (he : joined (vs.map chars) ++ close :: r = joined (ws.map chars) ++ close :: s) :
    vs = ws ∧ r = s :=
  joined_append_inj hclose (fun _ ↦ FloatFree.first_ne hclose) hvs h hws he

theorem cancels_scalar (hv : v.isScalar) (hfree : Kind.of v ≠ .float) :
    Cancels FloatFree chars v := by
  intro w r s hw hr hs h
  have hopening := opening_eq hfree hw.here h
  cases v with
  | seq | map | set => cases hv
  | float x => exact absurd rfl hfree
  | null =>
    cases w with
    | null => exact ⟨rfl, List.append_cancel_left h⟩
    | _ => cases hopening
  | bool b =>
    cases w with
    | bool c =>
      cases b <;> cases c
      · exact ⟨rfl, List.append_cancel_left h⟩
      · cases h
      · cases h
      · exact ⟨rfl, List.append_cancel_left h⟩
    | _ => cases hopening
  | int m =>
    cases w with
    | int n =>
      obtain ⟨hmn, hrs⟩ := intText_append_inj hr hs h
      exact ⟨congrArg int (Int64.toInt_inj.mp hmn), hrs⟩
    | _ => cases hopening
  | str a =>
    cases w with
    | str b =>
      obtain ⟨rfl, hrs⟩ := Quoted.write_append_inj h
      exact ⟨rfl, hrs⟩
    | _ => cases hopening

theorem cancels_seq {vs : List Value} (hv : (seq vs).FloatFree)
    (hvs : ∀ u ∈ vs, Cancels FloatFree chars u) : Cancels FloatFree chars (seq vs) := by
  intro w r s hw _ _ h
  have hopening := opening_eq hv.here hw.here h
  cases w with
  | seq ws =>
    rw [chars_seq, chars_seq] at h
    obtain ⟨rfl, hrs⟩ := items_append_inj (.inl rfl) (fun _ ↦ hv.part) hvs (fun _ ↦ hw.part)
      (List.cons.inj h).2
    exact ⟨rfl, hrs⟩
  | _ => cases hopening

theorem cancels_map {es : List (Value × Value)} (hv : (map es).FloatFree)
    (hes : ∀ e ∈ es, Cancels FloatFree chars e.1 ∧ Cancels FloatFree chars e.2) :
    Cancels FloatFree chars (map es) := by
  intro w r s hw _ _ h
  have hopening := opening_eq hv.here hw.here h
  rw [chars_map] at h
  cases w with
  | map fs =>
    have hfirst (e : Value × Value) (he : EntryFloatFree e) :
        ∃ c cs, entryText e = c :: cs ∧ c ≠ '\x7d' := by
      obtain ⟨c, cs, hc, hne⟩ := he.1.first_ne (.inr rfl)
      exact ⟨c, _, by rw [entryText, hc, List.cons_append], hne⟩
    rw [chars_map] at h
    obtain ⟨rfl, hrs⟩ := joined_append_inj (.inr rfl) hfirst hv.entries
      (fun e he ↦ cancels_entry (hes e he).1 (hes e he).2) hw.entries (List.cons.inj h).2
    exact ⟨rfl, hrs⟩
  | set ws =>
    cases ws with
    | nil => cases h
    | cons w ws =>
      rw [chars_set_cons] at h
      exact absurd (List.cons.inj h).2 (entries_append_ne hv.entries (hw.part List.mem_cons_self)
        (.inl fun e he ↦ (hes e he).1) ws)
  | _ => cases hopening

theorem cancels_set {vs : List Value} (hv : (set vs).FloatFree)
    (hvs : ∀ u ∈ vs, Cancels FloatFree chars u) : Cancels FloatFree chars (set vs) := by
  intro w r s hw _ _ h
  have hopening := opening_eq hv.here hw.here h
  cases w with
  | set ws =>
    cases vs with
    | nil =>
      cases ws with
      | nil => exact ⟨rfl, List.append_cancel_left h⟩
      | cons w ws =>
        rw [chars_set_cons] at h
        cases h
    | cons v vs =>
      rw [chars_set_cons] at h
      cases ws with
      | nil => cases h
      | cons w ws =>
        rw [chars_set_cons] at h
        obtain ⟨hitems, hrs⟩ := items_append_inj (.inr rfl) (fun _ ↦ hv.part) hvs
          (fun _ ↦ hw.part) (List.cons.inj h).2
        exact ⟨congrArg set hitems, hrs⟩
  | map es =>
    rw [chars_map] at h
    cases vs with
    | nil => cases h
    | cons v vs =>
      rw [chars_set_cons] at h
      exact absurd (List.cons.inj h).2.symm (entries_append_ne hw.entries
        (hv.part List.mem_cons_self) (.inr (hvs v List.mem_cons_self)) vs)
  | _ => cases hopening

theorem FloatFree.cancels (hv : v.FloatFree) : Cancels FloatFree chars v := by
  induction v using of_parts with
  | h v ih =>
    have hparts : ∀ u ∈ v.parts, Cancels FloatFree chars u := fun u hu ↦ ih u hu (hv.part hu)
    cases v with
    | null | bool | int | float | str => exact cancels_scalar rfl hv.here
    | seq vs => exact cancels_seq hv hparts
    | set vs => exact cancels_set hv hparts
    | map es =>
      exact cancels_map hv fun e he ↦
        ⟨hparts _ (key_mem_parts he), hparts _ (value_mem_parts he)⟩

theorem chars_inj (hv : v.FloatFree) (hw : w.FloatFree) (h : v.chars = w.chars) : v = w :=
  (hv.cancels w [] [] hw noDigit_nil noDigit_nil (congrArg (· ++ []) h)).1

theorem display_inj (hv : v.FloatFree) (hw : w.FloatFree) (h : v.display = w.display) : v = w :=
  chars_inj hv hw (String.ofList_injective h)

end Value

namespace Json

variable {k l : Value} {es : List (Value × Value)}

theorem keyText_of_not_str (hk : Kind.of k ≠ .str) : keyText k = k.display := by
  cases k with
  | str s => exact absurd rfl hk
  | _ => rfl

theorem keyText_inj (hk : k.FloatFree) (hl : l.FloatFree) (hks : Kind.of k ≠ .str)
    (hls : Kind.of l ≠ .str) (h : keyText k = keyText l) : k = l := by
  rw [keyText_of_not_str hks, keyText_of_not_str hls] at h
  exact Value.display_inj hk hl h

theorem exists_entry_ofValue {e : Value × Value} (he : e ∈ es) :
    ∃ a ∈ Table.ofList (ofEntries es), a.1 = keyText e.1 := by
  have hkeys : Table.keys (Table.ofList (ofEntries es)) = (Table.keys (ofEntries es)).eraseDups :=
    Table.keys_putAll (t := []) List.nodup_nil _
  have hmem : keyText e.1 ∈ Table.keys (Table.ofList (ofEntries es)) := by
    rw [hkeys, List.mem_eraseDups, ofEntries_eq_map, Table.keys, List.map_map]
    exact List.mem_map.mpr ⟨e, he, rfl⟩
  exact List.mem_map.mp hmem

end Json

namespace Value

/-- Values without floats that have the same text are the same, down to the order of entries and
items. So keys of one mapping that are not strings and have no float in them stay apart in its
document, and where all keys are such, every entry has its own there. -/
theorem display_unambiguous :
    (∀ v w : Value, v.FloatFree → w.FloatFree → v.display = w.display →
      v = w ∧ (v.Distinct → (v == w) = true)) ∧
    ∀ es : List (Value × Value), (map es).Distinct →
      (∀ e ∈ es, ∀ f ∈ es, e.1.FloatFree → f.1.FloatFree → Kind.of e.1 ≠ .str →
        Kind.of f.1 ≠ .str → (e.1 == f.1) = false →
        ∃ os, Json.ofValue (map es) = .obj os ∧ ∃ a ∈ os, ∃ b ∈ os,
          a.1 = Json.keyText e.1 ∧ b.1 = Json.keyText f.1 ∧ a.1 ≠ b.1) ∧
      ((∀ e ∈ es, e.1.FloatFree ∧ Kind.of e.1 ≠ .str) →
        Json.ofValue (map es) = .obj (es.map (Prod.map Json.keyText Json.ofValue))) := by
  have hself {v : Value} (hv : v.Distinct) : (v == v) = true := (beq_iff_same hv hv).mpr (.refl v)
  refine ⟨fun v w hv hw h ↦ ?_, fun es hes ↦ ⟨fun e he f hf hk hl hks hls hne ↦ ?_, fun h ↦ ?_⟩⟩
  · obtain rfl := display_inj hv hw h
    exact ⟨rfl, hself⟩
  · obtain ⟨a, ha, hae⟩ := Json.exists_entry_ofValue he
    obtain ⟨b, hb, hbf⟩ := Json.exists_entry_ofValue hf
    refine ⟨_, rfl, a, ha, b, hb, hae, hbf, fun hab ↦ ?_⟩
    have hkeys : e.1 = f.1 := Json.keyText_inj hk hl hks hls (hae.symm.trans (hab.trans hbf))
    rw [← hkeys, hself (hes.part (key_mem_parts he))] at hne
    cases hne
  · refine Json.ofValue_map (List.pairwise_map.mpr (hes.unrepeated.imp_of_mem ?_))
    intro e f he hf hne htext
    obtain ⟨hk, hks⟩ := h e he
    obtain ⟨hl, hls⟩ := h f hf
    refine hne ?_
    rw [Json.keyText_inj hk hl hks hls htext]
    exact hself (hes.part (key_mem_parts hf))

def texts (ss : List String) : Value := seq (ss.map str)

theorem distinct_texts (ss : List String) : (texts ss).Distinct :=
  ⟨trivial, List.forall_mem_map.mpr fun _ _ ↦ .scalar rfl⟩

theorem floatFree_texts (ss : List String) : (texts ss).FloatFree :=
  ⟨by simp [texts, Kind.of], List.forall_mem_map.mpr fun _ _ ↦ .scalar rfl (by simp [Kind.of])⟩

/-- Two texts, and one text that has the same look inside its quotes. -/
def lookalikes : List (Value × Value) :=
  [(texts ["a", "b"], null), (texts ["a\", \"b"], null)]

theorem display_unambiguous_lookalikes :
    (map lookalikes).Distinct ∧ (∀ e ∈ lookalikes, e.1.FloatFree ∧ Kind.of e.1 ≠ .str) ∧
      Json.ofValue (map lookalikes) =
        .obj [("[\"a\", \"b\"]", .null), ("[\"a\\\", \\\"b\"]", .null)] ∧
      (texts ["a", "b"]).FloatFree ∧ (texts ["a", "b"]).display = "[\"a\", \"b\"]" ∧
      ∀ w : Value, w.FloatFree → w.display = "[\"a\", \"b\"]" → w = texts ["a", "b"] := by
  have hd : (map lookalikes).Distinct := distinct_map_cons.mpr
    ⟨⟨distinct_texts _, .scalar rfl⟩, by decide, distinct_map_cons.mpr
      ⟨⟨distinct_texts _, .scalar rfl⟩, by simp, ⟨List.Pairwise.nil, fun _ hu ↦ by cases hu⟩⟩⟩
  have hfree : ∀ e ∈ lookalikes, e.1.FloatFree ∧ Kind.of e.1 ≠ .str :=
    List.forall_mem_cons.mpr ⟨⟨floatFree_texts _, by simp [texts, Kind.of]⟩,
      List.forall_mem_singleton.mpr ⟨floatFree_texts _, by simp [texts, Kind.of]⟩⟩
  have htext : (texts ["a", "b"]).display = "[\"a\", \"b\"]" := by decide +kernel
  refine ⟨hd, hfree, ?_, floatFree_texts _, htext, fun w hw h ↦ ?_⟩
  · rw [(display_unambiguous.2 lookalikes hd).2 hfree]
    rfl
  · exact (display_unambiguous.1 w _ hw (floatFree_texts _) (h.trans htext.symm)).1

end Value

end TreePattern
