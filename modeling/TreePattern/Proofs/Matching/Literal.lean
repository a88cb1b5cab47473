import TreePattern.Proofs.Matching.Requests
import TreePattern.Proofs.Pattern.Concatenation
import TreePattern.Proofs.Value.Equality

namespace TreePattern

open Token

def Pattern.literalStep (name key : String) : Pattern :=
  .mk [] [.captureSelect name (.literal key false) []] []

def Pattern.literalStepText (name key : String) : String :=
  "->" ++ name ++ "'" ++ String.ofList (escaped '\x27' key.toList) ++ "'"

theorem Pattern.walk_literalStep (name key : String) (n : Node) :
    (literalStep name key).walk n =
      match n.entry? (.str key) with
      | some e => [.ok [(name, e)]]
      | none => [.error (.missingKey (Value.str key).display)] := by
  have hwalk : (literalStep name key).walk n =
      .ofEach (fun c ↦ [.ok (capture name (absorb [] c) c)]) (.lookup n (.str key) false) := rfl
  rw [hwalk, Candidates.lookup]
  cases n.entry? (.str key) <;> rfl

theorem Pattern.spells_literalStep {name : String} (valid : IsIdentifier name) (key : String) :
    Spells [arrow, .ident name valid, literal key] (literalStepText name key).toList := by
  have hend : Spells [] [] := spells_nil.mpr rfl
  have h := spells_token arrow (spells_token (.ident name valid) (spells_token (literal key) hend))
  simpa [literalStepText, chars] using h

/-- What is read up to a delimiter is a text whose escaped form stands there. -/
def Pattern.Unescapes (delimiter : Char) : Prop :=
  ∀ (unfinished badEscape : Cause) (text : String) (cs rest : List Char),
    quoted delimiter unfinished badEscape cs = .ok (text, rest) ↔
      cs = escaped delimiter text.toList ++ delimiter :: rest

def Compiled.Fetches (c : Compiled) (name key : String) : Prop :=
  ∀ entries : List (Value × Value),
    (∃ before v behind, entries = before ++ (.str key, v) :: behind ∧
      (∀ e ∈ before, e.1 ≠ .str key) ∧
      c.results (.map entries) = .ok [.ok [(name, .stored (.str key), .stored v)]]) ∨
    (∀ e ∈ entries, e.1 ≠ .str key) ∧
      c.results (.map entries) = .ok [.error (.missingKey (Value.str key).display)]

theorem Compiled.fetches_of_pattern {c : Compiled} {name key : String}
    (h : c.pattern = .literalStep name key) : c.Fetches name key := by
  intro entries
  have hresults : c.results (.map entries) =
      .ok ((Pattern.literalStep name key).walk (.stored (.map entries))) := by
    rw [← h]
    exact c.pattern.runs.toList _
  have hentry : Node.entry? (.stored (.map entries)) (.str key) =
      (Table.find? entries (.str key)).map fun e ↦ (.stored e.1, .stored e.2) := rfl
  rw [hresults, Pattern.walk_literalStep, hentry]
  cases hfind : Table.find? entries (.str key) with
  | none => exact .inr ⟨(Value.find?_scalar_eq_none rfl).mp hfind, rfl⟩
  | some e =>
    obtain ⟨k, v⟩ := e
    obtain ⟨rfl, before, behind, hentries, hbefore⟩ := (Value.find?_scalar_eq_some rfl).mp hfind
    exact .inl ⟨before, v, behind, hentries, hbefore, rfl⟩

/-- A delimited text is the escaped form of what is read from it, so any key can be written as a
literal, and what is written so is looked up. -/
theorem Compiled.fetches_literal (d : Definitions) {name : String} (valid : IsIdentifier name)
    (key : String) :
    Pattern.Unescapes '\x27' ∧ Pattern.Unescapes '/' ∧
      ∃ c, compile d (Pattern.literalStepText name key) = .ok c ∧
        c.code = [.arrow, .ident name, .stringKey key false, .close] ∧ c.Fetches name key := by
  refine ⟨fun _ _ _ _ _ ↦ Pattern.quoted_eq_ok_iff (by decide),
    fun _ _ _ _ _ ↦ Pattern.quoted_eq_ok_iff (by decide), ?_⟩
  have h : (Pattern.literalStep name key).Derives d _ [arrow, .ident name valid, literal key] :=
    .mk .nil (.cons (.captureSelect valid .literal .nil) .nil) .nil
  obtain ⟨c, hc, hp⟩ := compile_of_derives h (Pattern.spells_literalStep valid key)
  exact ⟨c, hc, by rw [code, hp]; rfl, fetches_of_pattern hp⟩

theorem Compiled.fetches_percent :
    IsIdentifier "X" ∧ Pattern.Unescapes '\x27' ∧ Pattern.Unescapes '/' ∧
      ∃ c, compile .empty "->X'it%'s 100%%'" = .ok c ∧
        c.code = [.arrow, .ident "X", .stringKey "it's 100%" false, .close] ∧
        c.Fetches "X" "it's 100%" := by
  have valid : IsIdentifier "X" := ⟨'X', [], rfl, by decide, by simp⟩
  exact ⟨valid, fetches_literal .empty valid "it's 100%"⟩

end TreePattern
