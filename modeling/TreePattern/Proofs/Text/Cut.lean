import Mathlib.Data.List.TakeWhile
import TreePattern.Text.Cut

namespace TreePattern

variable {c : Char} {cs front rest : List Char} {parts : List (List Char)}

theorem span_append {p : Char → Bool} (hfront : ∀ d ∈ front, p d = true)
    (hrest : ∀ d ∈ rest.head?, p d = false) :
    (front ++ rest).takeWhile p = front ∧ (front ++ rest).dropWhile p = rest := by
  have hstop : rest.takeWhile p = [] ∧ rest.dropWhile p = rest := by
    cases rest with
    | nil => exact ⟨rfl, rfl⟩
    | cons d rest => simp [hrest d rfl]
  rw [List.takeWhile_append_of_pos hfront, List.dropWhile_append_of_pos hfront, hstop.1, hstop.2]
  exact ⟨List.append_nil front, rfl⟩

theorem cutFirst?_eq_some_iff :
    cutFirst? c cs = some (front, rest) ↔ c ∉ front ∧ cs = front ++ c :: rest := by
  constructor
  · intro h
    unfold cutFirst? at h
    split at h
    · cases h
    · next d rest' hd =>
      have hstop := List.head?_dropWhile_not (· != c) cs
      rw [hd] at hstop
      obtain rfl : d = c := by simpa using hstop
      cases h
      refine ⟨fun hc ↦ by simpa using List.mem_takeWhile_imp hc, ?_⟩
      rw [← hd, List.takeWhile_append_dropWhile]
  · rintro ⟨hc, rfl⟩
    have hp : ∀ d ∈ front, (d != c) = true := fun d hd ↦ by
      rw [bne_iff_ne]
      rintro rfl
      exact hc hd
    rw [cutFirst?, List.dropWhile_append_of_pos hp, List.takeWhile_append_of_pos hp]
    simp

theorem cutFirst?_eq_none_iff : cutFirst? c cs = none ↔ c ∉ cs := by
  rw [Option.eq_none_iff_forall_ne_some]
  refine ⟨fun h hc ↦ ?_, fun hc p hp ↦ ?_⟩
  · obtain ⟨front, rest, rfl, hfront⟩ := List.eq_append_cons_of_mem hc
    exact h _ (cutFirst?_eq_some_iff.mpr ⟨hfront, rfl⟩)
  · rw [(cutFirst?_eq_some_iff.mp hp).2] at hc
    exact hc (List.mem_append_right _ List.mem_cons_self)

theorem cutLast?_eq_some_iff :
    cutLast? c cs = some (front, rest) ↔ c ∉ rest ∧ cs = front ++ c :: rest := by
  have hcut : cutLast? c cs = some (front, rest) ↔
      cutFirst? c cs.reverse = some (rest.reverse, front.reverse) := by
    simp only [cutLast?, Option.map_eq_some_iff, Prod.exists, Prod.mk.injEq]
    constructor
    · rintro ⟨after, before, h, rfl, rfl⟩
      simpa using h
    · intro h
      exact ⟨_, _, h, List.reverse_reverse front, List.reverse_reverse rest⟩
  rw [hcut, cutFirst?_eq_some_iff, List.mem_reverse, List.reverse_eq_iff]
  simp

theorem cutLast?_eq_none_iff : cutLast? c cs = none ↔ c ∉ cs := by
  rw [cutLast?, Option.map_eq_none_iff, cutFirst?_eq_none_iff, List.mem_reverse]

end TreePattern
