import TreePattern.Matching.Machine
import Mathlib

namespace TreePattern

def Pull.seen : Pull → Except Fault (Option (Except Mismatch Bindings) × Machine)
  | .item b m => .ok (some (.ok b), m)
  | .failed e m => .ok (some (.error e), m)
  | .ended m => .ok (none, m)
  | .fault f => .error f

namespace Machine

/-- What a machine has still to yield, with a bound on the steps until it has ended. -/
inductive Yields : Machine → Nat → Items → Prop
  | ended {m : Machine} {n : Nat} : m.path = [] → Yields m (n + 1) []
  | failed {m : Machine} {e : Mismatch} {n : Nat} :
      m.step = .error (.failed e m.clear) → Yields m (n + 2) [.error e]
  | item {m : Machine} {b : Bindings} {n : Nat} {items : Items} :
      m.step = .error (.item b { m with yielded := true }) →
      Yields { m with yielded := true }.resume n items → Yields m (n + 1) (.ok b :: items)
  | step {m m' : Machine} {n : Nat} {items : Items} :
      m.step = .ok m' → Yields m' n items → Yields m (n + 1) items

inductive Steps : Nat → Machine → Machine → Prop
  | zero (m : Machine) : Steps 0 m m
  | cons {n : Nat} {a b c : Machine} : a.step = .ok b → Steps n b c → Steps (n + 1) a c

/-- One move of a machine: a step, or the passage from a result to the next request. -/
inductive Moves : Machine → Machine → Prop
  | step {a b : Machine} : a.step = .ok b → Moves a b
  | request {a b : Machine} {p : Pull} {i : Option (Except Mismatch Bindings)} :
      a.step = .error p → p.seen = .ok (i, b) → Moves a b.resume

/-- The machines that a machine turns into while it is asked for results. -/
abbrev Reaches : Machine → Machine → Prop := Relation.ReflTransGen Moves

def pull (m : Machine) : Except Fault (Option (Except Mismatch Bindings) × Machine) := m.next.seen

/-- The answer to a request after some earlier ones. -/
def answer : (earlier : Nat) → Machine → Except Fault (Option (Except Mismatch Bindings))
  | 0, m => m.pull.map (·.1)
  | k + 1, m => m.pull.bind fun p ↦ answer k p.2

variable {m m' : Machine} {a : Action} {c : Cursor} {e : Mismatch} {f : Fault} {n k : Nat}
  {items : Items}

theorem step_of_path_nil (h : m.path = []) : m.step = .error (.ended m) := by
  simp only [step, h, List.isEmpty_nil, ↓reduceIte]

theorem path_of_step_ok (h : m.step = .ok m') : m.path ≠ [] := by
  intro hp
  rw [step_of_path_nil hp] at h
  cases h

theorem step_of_advance (hp : m.path ≠ []) (hc : m.cursor.advance? = some (a, c)) :
    m.step = match execute { m with cursor := c } a with
      | .ok m' => .ok m'
      | .error (.mismatch e) => .error (.failed e m.clear)
      | .error (.fault f) => .error (.fault f) := by
  have hne : m.path.isEmpty = false := by simpa using hp
  simp only [step, hne, hc, Bool.false_eq_true, ↓reduceIte]
  cases execute { m with cursor := c } a with
  | ok m' => rfl
  | error h => cases h <;> rfl

theorem step_at_end {l : Level} {path : List Level} (hp : m.path = l :: path)
    (hc : m.cursor.advance? = none) :
    m.step = if l.blank then .error (.fault .blankLevel)
      else .error (.item m.bindings { m with yielded := true }) := by
  cases hl : l.blank <;>
    simp [step, hp, hc, hl, chosen?, top?, bind, Except.bind, Except.mapError]

theorem Steps.one (h : m.step = .ok m') : Steps 1 m m' := .cons h (.zero m')

theorem Yields.prepend (hs : Steps k m m') (h : Yields m' n items) : Yields m (n + k) items := by
  induction hs with
  | zero => exact h
  | cons hs _ ih => exact .step hs (ih h)

theorem Yields.mono (h : Yields m n items) (hk : n ≤ k) : Yields m k items := by
  induction h generalizing k with
  | ended hp =>
    cases k with
    | zero => omega
    | succ k => exact .ended hp
  | failed hs =>
    match k, hk with
    | k + 2, _ => exact .failed hs
  | item hs _ ih =>
    cases k with
    | zero => omega
    | succ k => exact .item hs (ih (by omega))
  | step hs _ ih =>
    cases k with
    | zero => omega
    | succ k => exact .step hs (ih (by omega))

theorem Yields.length_lt (h : Yields m n items) : items.length < n := by
  induction h with
  | ended | failed => simp
  | item _ _ ih => simpa using ih
  | step _ _ ih => omega

theorem Yields.eq_nil (h : Yields m n items) (hp : m.path = []) : items = [] := by
  cases h with
  | ended => rfl
  | failed hs | item hs => rw [step_of_path_nil hp] at hs; cases hs
  | step hs => exact absurd hp (path_of_step_ok hs)

theorem resume_path_nil (h : m.path = []) : m.resume.path = [] := by
  unfold resume
  split
  · split
    · exact h
    · rfl
  · exact h

theorem Yields.of_moves (h : Yields m n items) (hm : Moves m m') :
    ∃ items', Yields m' n items' := by
  cases hm with
  | step hs =>
    cases h with
    | ended hp => exact absurd hp (path_of_step_ok hs)
    | failed hs' | item hs' => rw [hs'] at hs; cases hs
    | step hs' h =>
      obtain rfl : _ = m' := by simpa [hs'] using hs
      exact ⟨_, h.mono (by omega)⟩
  | request hs hq =>
    cases h with
    | ended hp =>
      obtain rfl := Except.error.inj ((step_of_path_nil hp).symm.trans hs)
      obtain ⟨rfl, rfl⟩ := Prod.mk.inj (Except.ok.inj hq)
      exact ⟨[], .ended (resume_path_nil hp)⟩
    | failed hs' =>
      obtain rfl := Except.error.inj (hs'.symm.trans hs)
      obtain ⟨rfl, rfl⟩ := Prod.mk.inj (Except.ok.inj hq)
      exact ⟨[], .ended (resume_path_nil rfl)⟩
    | item hs' h =>
      obtain rfl := Except.error.inj (hs'.symm.trans hs)
      obtain ⟨rfl, rfl⟩ := Prod.mk.inj (Except.ok.inj hq)
      exact ⟨_, h.mono (by omega)⟩
    | step hs' => rw [hs'] at hs; cases hs

theorem Yields.of_reaches (h : Yields m n items) (hm : Reaches m m') :
    ∃ items', Yields m' n items' := by
  induction hm with
  | refl => exact ⟨items, h⟩
  | tail _ hm ih =>
    obtain ⟨_, h'⟩ := ih
    exact h'.of_moves hm

theorem Yields.step_ne_fault (h : Yields m n items) (f : Fault) :
    m.step ≠ .error (.fault f) := by
  intro hf
  cases h with
  | ended hp => rw [step_of_path_nil hp] at hf; cases hf
  | failed hs | item hs | step hs => rw [hs] at hf; cases hf

section Budget

theorem update_budget {g : Level → Except Fault Level} (h : m.update g = .ok m') :
    m'.budget = m.budget := by
  rcases m with ⟨budget, c, path, inKey, yielded⟩
  cases path with
  | nil => cases h
  | cons l path =>
    cases hl : g l with
    | error f => simp [update, top?, lift, hl, bind, Except.bind, Except.mapError] at h
    | ok l' =>
      simp only [update, top?, lift, hl, bind, Except.bind, Except.mapError] at h
      obtain rfl := Except.ok.inj h
      rfl

theorem backtrack_budget : m.backtrack.budget = m.budget := by
  unfold backtrack
  split <;> rfl

theorem choose_budget (h : m.choose = .ok m') : m'.budget = m.budget := by
  rcases m with ⟨budget, c, path, inKey, yielded⟩
  cases path with
  | nil => cases h
  | cons l path =>
    simp only [choose, top?, bind, Except.bind] at h
    split at h
    · obtain rfl := Except.ok.inj h; rfl
    · cases h
    · obtain rfl := Except.ok.inj h; exact backtrack_budget
    · cases h

theorem testRoot_budget {name : String} {p : Predicate} {skippable : Bool}
    (h : m.testRoot name p skippable = .ok m') : m'.budget = m.budget := by
  unfold testRoot at h
  split at h
  · split at h
    · obtain rfl := Except.ok.inj h; rfl
    · split at h
      · obtain rfl := Except.ok.inj h; rfl
      · cases h
  · cases h

theorem select_budget (h : m.select a = .ok m') : m'.budget = m.budget := by
  cases a with
  | lookup | regexKey | keySubtree =>
    rw [select] at h
    exact update_budget h
  | arrow | ident | test | valueSubtree | close => cases h

theorem outsideKey_budget (h : m.outsideKey a = .ok m') : m'.budget = m.budget := by
  cases a with
  | lookup | regexKey | keySubtree =>
    rw [outsideKey] at h
    · exact select_budget h
    all_goals simp
  | ident =>
    rw [outsideKey] at h
    exact update_budget h
  | test => exact testRoot_budget h
  | close => cases h
  | arrow =>
    cases hl : m.chosen? with
    | error => simp [outsideKey, hl, bind, Except.bind] at h
    | ok l =>
      simp only [outsideKey, hl, bind, Except.bind] at h
      obtain rfl := Except.ok.inj h
      rfl
  | valueSubtree =>
    cases hl : m.chosen? with
    | error => simp [outsideKey, hl, bind, Except.bind] at h
    | ok l =>
      simp only [outsideKey, hl, bind, Except.bind] at h
      obtain rfl := Except.ok.inj h
      rfl

theorem insideKey_budget (h : m.insideKey a = .ok m') : m'.budget = m.budget := by
  cases a with
  | lookup | regexKey | keySubtree =>
    rw [insideKey] at h
    · exact select_budget h
    all_goals simp
  | test =>
    rw [insideKey] at h
    exact update_budget h
  | close => exact choose_budget h
  | arrow | ident | valueSubtree => cases h

theorem step_budget (h : m.step = .ok m') : m'.budget = m.budget := by
  have hp := path_of_step_ok h
  cases hc : m.cursor.advance? with
  | none =>
    obtain ⟨l, path, hp⟩ := List.exists_cons_of_ne_nil hp
    rw [step_at_end hp hc] at h
    split at h <;> cases h
  | some p =>
    obtain ⟨a, c⟩ := p
    rw [step_of_advance hp hc] at h
    split at h
    · next m'' he =>
      obtain rfl := Except.ok.inj h
      unfold execute at he
      split at he
      · exact (insideKey_budget he).trans rfl
      · exact (outsideKey_budget he).trans rfl
    · cases h
    · cases h

theorem resume_budget : m.resume.budget = m.budget := by
  unfold resume
  split
  · split <;> rfl
  · rfl

end Budget

theorem yields_nil_of_pos (hp : m.path = []) (hn : 0 < n) : Yields m n [] := by
  cases n with
  | zero => omega
  | succ n => exact .ended hp

theorem Yields.loop (h : Yields m n items) (hk : n ≤ k) :
    ∃ m', (loop k m).seen = .ok (items.head?, m') ∧ m'.budget = m.budget ∧
      Yields m'.resume n items.tail := by
  induction h generalizing k with
  | @ended m n hp =>
    cases k with
    | zero => omega
    | succ k =>
      refine ⟨m, ?_, rfl, .ended (resume_path_nil hp)⟩
      rw [Machine.loop, step_of_path_nil hp]
      rfl
  | @failed m e n hs =>
    cases k with
    | zero => omega
    | succ k =>
      refine ⟨m.clear, ?_, rfl, .ended (resume_path_nil rfl)⟩
      rw [Machine.loop, hs]
      rfl
  | @item m b n items hs h _ =>
    cases k with
    | zero => omega
    | succ k =>
      refine ⟨{ m with yielded := true }, ?_, rfl, h.mono (by omega)⟩
      rw [Machine.loop, hs]
      rfl
  | @step m m' n items hs _ ih =>
    cases k with
    | zero => omega
    | succ k =>
      obtain ⟨m'', hl, hb, h⟩ := ih (k := k) (by omega)
      refine ⟨m'', ?_, hb.trans (step_budget hs), h.mono (by omega)⟩
      rw [Machine.loop, hs]
      exact hl

/-- A request takes the first item and leaves a machine that yields the others. -/
theorem Yields.pull (h : Yields m.resume n items) (hb : n ≤ m.budget) :
    ∃ m', m.pull = .ok (items.head?, m') ∧ m'.budget = m.budget ∧
      Yields m'.resume n items.tail := by
  obtain ⟨m', hp, hb', h'⟩ := h.loop hb
  exact ⟨m', hp, hb'.trans resume_budget, h'⟩

/-- The answers are the items in order, and nothing ever after. -/
theorem Yields.answer (h : Yields m.resume n items) (hb : n ≤ m.budget) (k : Nat) :
    m.answer k = .ok items[k]? := by
  induction k generalizing m items with
  | zero =>
    obtain ⟨m', hp, _⟩ := h.pull hb
    rw [Machine.answer, hp, ← List.head?_eq_getElem?]
    rfl
  | succ k ih =>
    obtain ⟨m', hp, hb', h'⟩ := h.pull hb
    rw [Machine.answer, hp, ← List.getElem?_tail]
    exact ih h' (hb' ▸ hb)

theorem results_succ (most : Nat) (m : Machine) :
    results (most + 1) m = match m.pull with
      | .ok (some i, m') => .more i fun _ ↦ results most m'
      | .ok (none, _) => .done
      | .error f => .fault f := by
  rw [results, Machine.pull]
  cases m.next <;> rfl

theorem Yields.toList_results (h : Yields m.resume n items) (hb : n ≤ m.budget)
    {most : Nat} (hm : items.length < most) : (results most m).toList = .ok items := by
  induction most generalizing m items with
  | zero => omega
  | succ most ih =>
    obtain ⟨m', hp, hb', h'⟩ := h.pull hb
    rw [results_succ, hp]
    cases items with
    | nil => rfl
    | cons i items =>
      simp only [List.head?_cons, Supply.toList]
      rw [ih h' (hb' ▸ hb) (by simpa using hm)]
      rfl

end Machine

end TreePattern
