import TreePattern.Proofs.Pattern.Completeness

namespace TreePattern

open Token

variable {d : Definitions} {ts us : List Token} {a b : List Instr}

theorem DerivesEach.append {α : Type} {derives : α → List Instr → List Token → Prop}
    {as bs : List α} (h : DerivesEach derives as a ts) (h' : DerivesEach derives bs b us) :
    DerivesEach derives (as ++ bs) (a ++ b) (ts ++ us) := by
  induction h with
  | nil => exact h'
  | cons ha _ ih =>
    rw [List.append_assoc, List.append_assoc]
    exact .cons ha ih

namespace Compiled

variable {source source' : String} {p q : Compiled}

theorem derives_of_compile (h : compile d source = .ok p) :
    ∃ code ts, p.pattern.Derives d code ts ∧ Spells ts source.toList := by
  obtain ⟨r, hr, hp⟩ := bind_eq_ok.mp h
  obtain rfl := Except.ok.inj hp
  exact ⟨_, Pattern.read_eq_ok.mp hr⟩

theorem compile_of_derives {r : Pattern} (h : r.Derives d a ts) (hs : Spells ts source.toList) :
    ∃ c, compile d source = .ok c ∧ c.pattern = r := by
  obtain rfl := r.translated a ts h
  exact ⟨_, bind_eq_ok.mpr ⟨r, Pattern.read_eq_ok.mpr ⟨ts, h, hs⟩, rfl⟩, rfl⟩

/-- A path without groups goes on with the text behind it. -/
theorem compile_append (hp : compile d source = .ok p) (hq : compile d source' = .ok q)
    {tests : List TypeTest} {tags tags' : List Tag} {groups : List Group}
    (hpp : p.pattern = .mk tests tags []) (hqq : q.pattern = .mk [] tags' groups) :
    ∃ r, compile d (source ++ source') = .ok r ∧
      r.pattern = .mk tests (tags ++ tags') groups := by
  obtain ⟨code, ts, hts, hs⟩ := derives_of_compile hp
  obtain ⟨code', us, hus, hs'⟩ := derives_of_compile hq
  rw [hpp] at hts
  rw [hqq] at hus
  cases hts with
  | mk htests htags hnone =>
    cases hnone
    cases hus with
    | mk hnone htags' hgroups =>
      cases hnone
      have h := Pattern.Derives.mk htests (htags.append htags') hgroups
      refine compile_of_derives h ?_
      rw [String.toList_append]
      simpa using hs.append hs'

end Compiled

end TreePattern
