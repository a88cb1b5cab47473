import Mathlib.Data.List.Basic
import TreePattern.Proofs.Matching.Segment

namespace TreePattern

abbrev Outcomes (α : Type) := List (Except Mismatch α)

namespace Outcomes

variable {α β γ : Type}

/-- All up to the first error, which is the last that is kept. -/
def cut : Outcomes α → Outcomes α
  | [] => []
  | .ok a :: os => .ok a :: cut os
  | .error e :: _ => [.error e]

def follow (f : α → Outcomes β) : Except Mismatch α → Outcomes β
  | .ok a => f a
  | .error e => [.error e]

/-- Each outcome replaced by those it leads to; an error stays. -/
def expand (f : α → Outcomes β) (os : Outcomes α) : Outcomes β := os.flatMap (follow f)

theorem expand_ok (f : α → Outcomes β) (a : α) (os : Outcomes α) :
    expand f (.ok a :: os) = f a ++ expand f os := List.flatMap_cons

theorem expand_error (f : α → Outcomes β) (e : Mismatch) (os : Outcomes α) :
    expand f (.error e :: os) = .error e :: expand f os := List.flatMap_cons

theorem expand_expand (g : β → Outcomes γ) (f : α → Outcomes β) (os : Outcomes α) :
    expand g (expand f os) = expand (fun a ↦ expand g (f a)) os := by
  rw [expand, expand, List.flatMap_assoc, expand]
  congr 1
  funext o
  cases o with
  | ok a => rfl
  | error e => exact List.append_nil _

theorem expand_map (g : β → Outcomes γ) (f : α → β) (os : Outcomes α) :
    expand g (os.map (·.map f)) = expand (g ∘ f) os := by
  rw [expand, List.flatMap_map, expand]
  congr 1
  funext o
  cases o <;> rfl

theorem map_expand (g : β → γ) (f : α → Outcomes β) (os : Outcomes α) :
    (expand f os).map (·.map g) = expand (fun a ↦ (f a).map (·.map g)) os := by
  rw [expand, List.map_flatMap, expand]
  congr 1
  funext o
  cases o <;> rfl

theorem cut_map {g : Except Mismatch α → Except Mismatch β} (hg : ∀ o, (g o).isOk = o.isOk)
    (os : Outcomes α) : (cut os).map g = cut (os.map g) := by
  induction os with
  | nil => rfl
  | cons o os ih =>
    have ho := hg o
    cases o with
    | error e =>
      cases hr : g (.error e) with
      | error e' => simp [cut, hr]
      | ok b => rw [hr] at ho; cases ho
    | ok a =>
      cases hr : g (.ok a) with
      | error e' => rw [hr] at ho; cases ho
      | ok b => simp [cut, hr, ih]

theorem map_cut (f : α → β) (os : Outcomes α) :
    (cut os).map (·.map f) = cut (os.map (·.map f)) := cut_map (fun o ↦ by cases o <;> rfl) os

theorem cut_append_cut (os later : Outcomes α) : cut (os ++ cut later) = cut (os ++ later) := by
  induction os with
  | nil =>
    induction later with
    | nil => rfl
    | cons o later ih =>
      cases o with
      | error e => rfl
      | ok a => exact congrArg (_ :: ·) ih
  | cons o os ih =>
    cases o with
    | error e => rfl
    | ok a => exact congrArg (_ :: ·) ih

theorem cut_cut_append (os later : Outcomes α) : cut (cut os ++ later) = cut (os ++ later) := by
  induction os with
  | nil => rfl
  | cons o os ih =>
    cases o with
    | error e => rfl
    | ok a => exact congrArg (_ :: ·) ih

theorem cut_cut (os : Outcomes α) : cut (cut os) = cut os := cut_append_cut [] os

theorem cut_expand_cut (f : α → Outcomes β) (os : Outcomes α) :
    cut (expand f (cut os)) = cut (expand f os) := by
  induction os with
  | nil => rfl
  | cons o os ih =>
    cases o with
    | error e => rfl
    | ok a =>
      have h := cut_append_cut (f a) (expand f os)
      rw [← ih, cut_append_cut] at h
      rw [cut, expand_ok, expand_ok, h]

theorem cut_expand_of_cut {f g : α → Outcomes β} {os : Outcomes α}
    (h : ∀ a, .ok a ∈ os → cut (f a) = cut (g a)) : cut (expand f os) = cut (expand g os) := by
  induction os with
  | nil => rfl
  | cons o os ih =>
    have hos := ih fun a ha ↦ h a (List.mem_cons_of_mem _ ha)
    cases o with
    | error e => rfl
    | ok a =>
      have ha := h a List.mem_cons_self
      rw [expand_ok, expand_ok, ← cut_append_cut, hos, cut_append_cut, ← cut_cut_append, ha,
        cut_cut_append]

theorem exists_eq_map_ok {os : Outcomes α} (h : ∀ e, .error e ∉ os) :
    ∃ as : List α, os = as.map .ok := by
  induction os with
  | nil => exact ⟨[], rfl⟩
  | cons o os ih =>
    obtain ⟨as, rfl⟩ := ih fun e he ↦ h e (List.mem_cons_of_mem _ he)
    cases o with
    | ok a => exact ⟨a :: as, rfl⟩
    | error e => exact absurd List.mem_cons_self (h e)

theorem mem_of_mem_cut {o : Except Mismatch α} {os : Outcomes α} (h : o ∈ cut os) : o ∈ os := by
  induction os with
  | nil => exact h
  | cons p os ih =>
    cases p with
    | error e =>
      obtain rfl := List.mem_singleton.mp h
      exact List.mem_cons_self
    | ok a =>
      rcases List.mem_cons.mp h with rfl | h
      · exact List.mem_cons_self
      · exact List.mem_cons_of_mem _ (ih h)

theorem mem_expand {f : α → Outcomes β} {os : Outcomes α} {b : β} (h : .ok b ∈ expand f os) :
    ∃ a, .ok a ∈ os ∧ .ok b ∈ f a := by
  obtain ⟨o, ho, hb⟩ := List.mem_flatMap.mp h
  cases o with
  | error e => cases List.mem_singleton.mp hb
  | ok a => exact ⟨a, ho, hb⟩

end Outcomes

open Outcomes

namespace Items

theorem andThen_cut (a later : Items) : a.andThen (cut later) = cut (a ++ later) := by
  induction a with
  | nil => rfl
  | cons i a ih =>
    cases i with
    | error e => rfl
    | ok b => exact congrArg (_ :: ·) ih

theorem ofEach_eq (f : Candidate → Items) (cs : Candidates) : ofEach f cs = cut (expand f cs) := by
  induction cs with
  | nil => rfl
  | cons i cs ih =>
    cases i with
    | error e => rfl
    | ok c => rw [ofEach, ih, andThen_cut, expand_ok]

theorem Stops.cut_eq {items : Items} (h : items.Stops) : cut items = items := by
  induction items with
  | nil => rfl
  | cons i items ih =>
    cases i with
    | ok b => exact congrArg (_ :: ·) (ih h)
    | error e =>
      obtain rfl : items = [] := h
      rfl

end Items

theorem Segment.walk_cons (s : Segment) (ss : List Segment) (n : Node) (b : Bindings) :
    walk (s :: ss) n b = cut (expand (fun c ↦ walk ss c.value (s.take b c)) (s.choices n)) :=
  Items.ofEach_eq _ _

namespace Candidates

/-- What a test makes of one candidate. -/
def sift (test : Candidate → Bool) (skippable : Bool) (error : Candidate → Mismatch)
    (c : Candidate) : Candidates :=
  if test c then [.ok c] else if skippable then [] else [.error (error c)]

theorem filterMap_kept (test : Candidate → Bool) (skippable : Bool) (error : Candidate → Mismatch)
    (cs : Candidates) :
    cs.filterMap (kept? test skippable error) = expand (sift test skippable error) cs := by
  rw [List.filterMap_eq_flatMap_toList, expand]
  congr 1
  funext i
  cases i with
  | error e => rfl
  | ok c =>
    rw [kept?, follow, sift]
    split
    · rfl
    · cases skippable <;> rfl

theorem throughKey_eq (walk : Node → Items) (skippable : Bool) (cs : Candidates) :
    cs.flatMap (throughKey walk skippable) =
      expand (fun c ↦ ofKey c (walk c.key) skippable) cs := by
  rw [expand]
  congr 1
  funext i
  cases i <;> rfl

end Candidates

/-- Tests leave of each candidate what they leave at a root that has its value. -/
theorem filterTests_eq (tests : List TypeTest) (cs : Candidates) : filterTests tests cs =
    expand (fun c ↦ (walkTests c.value [.ok []] tests).map (·.map fun _ ↦ c)) cs := by
  induction tests generalizing cs with
  | nil =>
    induction cs with
    | nil => rfl
    | cons i cs ih =>
      cases i with
      | ok c => exact congrArg (.ok c :: ·) ih
      | error e => exact congrArg (.error e :: ·) ih
  | cons t tests ih =>
    have hfirst : filterTests (t :: tests) cs =
        filterTests tests (Candidates.filterValues t.name t.predicate t.skippable cs) := rfl
    rw [hfirst, ih, Candidates.filterValues, Candidates.keptValue?, Candidates.filterMap_kept,
      expand_expand]
    congr 1
    funext c
    rw [Candidates.sift, walkTests]
    split
    · exact List.append_nil _
    · cases t.skippable <;> rfl

end TreePattern
