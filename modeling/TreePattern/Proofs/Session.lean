import TreePattern.Session
import TreePattern.Proofs.Table
import TreePattern.Proofs.Matching.Requests

namespace TreePattern

variable {m m' : Machine} {items : Items}

def Machine.Answers (m : Machine) (items : Items) : Prop := ∀ k, m.answer k = .ok items[k]?

theorem Machine.Answers.pull (h : m.Answers items) :
    ∃ m', m.pull = .ok (items.head?, m') ∧ m'.Answers items.tail := by
  have hfirst := h 0
  cases hp : m.pull with
  | error f =>
    rw [answer, hp] at hfirst
    cases hfirst
  | ok r =>
    obtain ⟨i, m'⟩ := r
    rw [answer, hp] at hfirst
    have hi : i = items[0]? := Except.ok.inj hfirst
    rw [← List.head?_eq_getElem?] at hi
    refine ⟨m', by rw [hi], fun k ↦ ?_⟩
    have hlater := h (k + 1)
    rw [answer, hp] at hlater
    rw [List.getElem?_tail]
    exact hlater

namespace Session

variable {s : Session} {past : List Command} {name : String}

theorem count_succ (most valid invalid : Nat) (m : Machine) :
    count (most + 1) valid invalid m = match m.pull with
      | .ok (some (.ok _), m') => count most (valid + 1) invalid m'
      | .ok (some (.error _), m') => count most valid (invalid + 1) m'
      | .ok (none, m') => .ok (valid, invalid, m')
      | .error f => .error f := by
  rw [count, Machine.pull]
  cases m.next <;> rfl

theorem count_eq (h : m.Answers items) (most valid invalid : Nat) :
    ∃ m', count most valid invalid m =
        .ok (valid + (items.take most).countP Except.isOk,
          invalid + (items.take most).countP (!·.isOk), m') ∧
      m'.Answers (items.drop most) := by
  induction most generalizing m items valid invalid with
  | zero => exact ⟨m, by simp [count], by simpa using h⟩
  | succ most ih =>
    obtain ⟨m', hp, h'⟩ := h.pull
    rw [count_succ, hp]
    cases items with
    | nil => exact ⟨m', by simp, by simpa using h'⟩
    | cons i items =>
      cases i with
      | ok b =>
        obtain ⟨m'', hc, h''⟩ := ih h' (valid + 1) invalid
        refine ⟨m'', ?_, h''⟩
        simp only [List.head?_cons, hc]
        simp [List.countP_cons, Except.isOk, Except.toBool]
        omega
      | error e =>
        obtain ⟨m'', hc, h''⟩ := ih h' valid (invalid + 1)
        refine ⟨m'', ?_, h''⟩
        simp only [List.head?_cons, hc]
        simp [Except.isOk, Except.toBool]
        omega

def tableOf : List Command → Definitions
  | [] => .empty
  | .define name definition :: past => (tableOf past).insert name definition
  | _ :: past => tableOf past

/-- What the last successful compilation under a name gave, against the definitions of that time. -/
def compiled? (name : String) : List Command → Option Compiled
  | [] => none
  | .compile other source :: past =>
    match Compiled.compile (tableOf past) source with
    | .ok c => if name = other then some c else compiled? name past
    | .error _ => compiled? name past
  | _ :: past => compiled? name past

/-- A match under way: what was compiled when it was started, the tree, and how many items it was
asked for since. -/
structure Opening where
  compiled : Compiled
  root : Value
  asked : Nat

def Opening.ask (o : Opening) (n : Nat) : Opening := { o with asked := o.asked + n }

/-- The last opening under a name that found its pattern, unless it was dropped. -/
def opening? (name : String) : List Command → Option Opening
  | [] => none
  | .start other pattern root :: past =>
    match compiled? pattern past with
    | some c => if name = other then some ⟨c, root, 0⟩ else opening? name past
    | none => opening? name past
  | .next other :: past =>
    if name = other then (opening? name past).map (·.ask 1) else opening? name past
  | .count other :: past =>
    if name = other then (opening? name past).map (·.ask 5000) else opening? name past
  | .drop other :: past => if name = other then none else opening? name past
  | _ :: past => opening? name past

def Opening.Runs (m : Machine) (o : Opening) : Prop :=
  ∃ items, o.compiled.results o.root = .ok items ∧ m.Answers (items.drop o.asked)

theorem Opening.runs_start (c : Compiled) (root : Value) :
    Opening.Runs (c.machine root) ⟨c, root, 0⟩ :=
  ⟨_, c.pattern.runs.toList (.stored root), c.answer_eq root le_rfl⟩

/-- A session holds what its past tells. -/
structure Follows (s : Session) (past : List Command) : Prop where
  definitions : s.definitions = tableOf past
  patterns : ∀ name, Table.get? s.patterns name = compiled? name past
  matchings : ∀ name, Option.Rel Opening.Runs (Table.get? s.matchings name) (opening? name past)

theorem follows_empty : Follows empty [] := ⟨rfl, fun _ ↦ rfl, fun _ ↦ .none⟩

theorem step_next (s : Session) (name : String) :
    s.step (.next name) = match Table.get? s.matchings name with
      | none => (.noMatching, s)
      | some m => match m.pull with
        | .ok (i, m') => (.pulled i, s.keep name m')
        | .error f => (.fault f, s) := by
  rw [step]
  cases Table.get? s.matchings name with
  | none => rfl
  | some m =>
    simp only [Machine.pull]
    cases m.next <;> rfl

theorem rel_keep {o : Opening} (h : Follows s past) (hm : Opening.Runs m o) (other : String) :
    Option.Rel Opening.Runs (Table.get? (s.keep name m).matchings other)
      (if other = name then some o else opening? other past) := by
  by_cases ho : other = name
  · subst ho
    rw [if_pos rfl, keep, Table.get?_put_self]
    exact .some hm
  · rw [if_neg ho, keep, Table.get?_put_of_ne ho]
    exact h.matchings other

theorem rel_ask {o : Opening} {n : Nat} (h : Follows s past) (ho : opening? name past = some o)
    (hm : Opening.Runs m (o.ask n)) (other : String) :
    Option.Rel Opening.Runs (Table.get? (s.keep name m).matchings other)
      (if other = name then (opening? other past).map (·.ask n) else opening? other past) := by
  have hk : Option.Rel _ (Table.get? (s.keep name m).matchings other) _ := rel_keep h hm other
  by_cases hother : other = name
  · subst hother
    simpa only [ho, Option.map_some] using hk
  · simpa only [if_neg hother] using hk

theorem rel_none {n : Nat} (h : Follows s past) (hn : opening? name past = none) (other : String) :
    Option.Rel Opening.Runs (Table.get? s.matchings other)
      (if other = name then (opening? other past).map (·.ask n) else opening? other past) := by
  have hs := h.matchings other
  by_cases hother : other = name
  · subst hother
    rw [if_pos rfl, hn]
    rwa [hn] at hs
  · rwa [if_neg hother]

theorem rel_drop (h : Follows s past) (name other : String) :
    Option.Rel Opening.Runs (Table.get? (Table.erase s.matchings name) other)
      (if other = name then none else opening? other past) := by
  by_cases ho : other = name
  · subst ho
    rw [if_pos rfl, Table.get?_erase_self]
    exact .none
  · rw [if_neg ho, Table.get?_erase_of_ne ho]
    exact h.matchings other

theorem Follows.matching (h : Follows s past) (name : String) :
    (opening? name past = none ∧ Table.get? s.matchings name = none) ∨
      ∃ o items m, opening? name past = some o ∧ Table.get? s.matchings name = some m ∧
        o.compiled.results o.root = .ok items ∧ m.Answers (items.drop o.asked) := by
  have hm := h.matchings name
  generalize Table.get? s.matchings name = r at hm ⊢
  generalize opening? name past = o at hm ⊢
  cases hm with
  | none => exact .inl ⟨rfl, rfl⟩
  | @some m o hr =>
    obtain ⟨items, ho, ha⟩ := hr
    exact .inr ⟨o, items, m, rfl, rfl, ho, ha⟩

theorem Follows.next (h : Follows s past) (name : String) :
    (opening? name past = none ∧ s.step (.next name) = (.noMatching, s)) ∨
      ∃ o items m, opening? name past = some o ∧ o.compiled.results o.root = .ok items ∧
        s.step (.next name) = (.pulled items[o.asked]?, s.keep name m) ∧
        Opening.Runs m (o.ask 1) := by
  rw [step_next]
  rcases h.matching name with ⟨hnone, hm⟩ | ⟨o, items, m, hsome, hm, ho, ha⟩
  · exact .inl ⟨hnone, by rw [hm]⟩
  · obtain ⟨m', hp, ha'⟩ := ha.pull
    rw [List.tail_drop] at ha'
    refine .inr ⟨o, items, m', hsome, ho, ?_, items, ho, ha'⟩
    simp only [hm, hp, List.head?_drop]

theorem Follows.count (h : Follows s past) (name : String) :
    (opening? name past = none ∧ s.step (.count name) = (.noMatching, s)) ∨
      ∃ o items m, opening? name past = some o ∧ o.compiled.results o.root = .ok items ∧
        s.step (.count name) = (.counted (((items.drop o.asked).take 5000).countP Except.isOk)
          (((items.drop o.asked).take 5000).countP (!·.isOk)), s.keep name m) ∧
        Opening.Runs m (o.ask 5000) := by
  rw [step]
  rcases h.matching name with ⟨hnone, hm⟩ | ⟨o, items, m, hsome, hm, ho, ha⟩
  · exact .inl ⟨hnone, by rw [hm]⟩
  · obtain ⟨m', hc, ha'⟩ := count_eq ha 5000 0 0
    rw [List.drop_drop] at ha'
    refine .inr ⟨o, items, m', hsome, ho, ?_, items, ho, ha'⟩
    simp only [hm, hc, Nat.zero_add]

theorem Follows.step (h : Follows s past) (c : Command) : Follows (s.step c).2 (c :: past) := by
  cases c with
  | define name definition =>
    exact ⟨congrArg (·.insert name definition) h.definitions, h.patterns, h.matchings⟩
  | look => exact ⟨h.definitions, h.patterns, h.matchings⟩
  | get name => exact ⟨h.definitions, h.patterns, h.matchings⟩
  | compile name source =>
    rw [Session.step]
    cases hc : Compiled.compile s.definitions source with
    | error e =>
      refine ⟨h.definitions, fun other ↦ ?_, h.matchings⟩
      rw [compiled?, ← h.definitions, hc]
      exact h.patterns other
    | ok c =>
      refine ⟨h.definitions, fun other ↦ ?_, h.matchings⟩
      rw [compiled?, ← h.definitions, hc]
      by_cases ho : other = name
      · subst ho
        simp only [↓reduceIte, Table.get?_put_self]
      · simp only [if_neg ho, Table.get?_put_of_ne ho]
        exact h.patterns other
  | start name pattern root =>
    rw [Session.step, h.patterns]
    cases hc : compiled? pattern past with
    | none =>
      refine ⟨h.definitions, h.patterns, fun other ↦ ?_⟩
      rw [opening?, hc]
      exact h.matchings other
    | some c =>
      refine ⟨h.definitions, h.patterns, fun other ↦ ?_⟩
      rw [opening?, hc]
      exact rel_keep h (Opening.runs_start c root) other
  | next name =>
    rcases h.next name with ⟨hn, hs⟩ | ⟨o, items, m, ho, -, hs, hm⟩
    · rw [hs]
      exact ⟨h.definitions, h.patterns, rel_none h hn⟩
    · rw [hs]
      exact ⟨h.definitions, h.patterns, rel_ask h ho hm⟩
  | count name =>
    rcases h.count name with ⟨hn, hs⟩ | ⟨o, items, m, ho, -, hs, hm⟩
    · rw [hs]
      exact ⟨h.definitions, h.patterns, rel_none h hn⟩
    · rw [hs]
      exact ⟨h.definitions, h.patterns, rel_ask h ho hm⟩
  | drop name => exact ⟨h.definitions, h.patterns, rel_drop h name⟩

def after (s : Session) (commands : List Command) : Session :=
  commands.foldl (fun s c ↦ (s.step c).2) s

theorem Follows.after (h : Follows s past) (commands : List Command) :
    Follows (s.after commands) (commands.reverse ++ past) := by
  induction commands generalizing s past with
  | nil => exact h
  | cons c commands ih =>
    rw [List.reverse_cons, List.append_assoc, List.singleton_append]
    exact ih (h.step c)

theorem getElem?_run (s : Session) (before later : List Command) (c : Command) :
    (s.run (before ++ c :: later))[before.length]? = some ((s.after before).step c).1 := by
  induction before generalizing s with
  | nil => simp [run, Session.after]
  | cons b before ih => simpa [run, Session.after] using ih (s.step b).2

def answer? (before : List Command) (c : Command) (later : List Command) : Option Answer :=
  (empty.run (before ++ c :: later))[before.length]?

/-- What a match answers is what its pattern yields on its tree, from where the earlier requests to
it left off. -/
theorem answers_of_opening (before later : List Command) (name : String) :
    match opening? name before.reverse with
    | none => answer? before (.next name) later = some .noMatching ∧
        answer? before (.count name) later = some .noMatching
    | some o => ∃ items, o.compiled.results o.root = .ok items ∧
        answer? before (.next name) later = some (.pulled items[o.asked]?) ∧
        answer? before (.count name) later =
          some (.counted (((items.drop o.asked).take 5000).countP Except.isOk)
            (((items.drop o.asked).take 5000).countP (!·.isOk))) := by
  have h := follows_empty.after before
  rw [List.append_nil] at h
  simp only [answer?, getElem?_run]
  rcases h.next name with ⟨hn, hs⟩ | ⟨o, items, m, ho, hitems, hs, -⟩
  · rcases h.count name with ⟨-, hs'⟩ | ⟨o, _, _, ho, _⟩
    · rw [hn, hs, hs']
      exact ⟨rfl, rfl⟩
    · rw [hn] at ho
      cases ho
  · rcases h.count name with ⟨hn, _⟩ | ⟨o', items', m', ho', hitems', hs', -⟩
    · rw [hn] at ho
      cases ho
    · obtain rfl : o = o' := Option.some.inj (ho.symm.trans ho')
      obtain rfl : items = items' := Except.ok.inj (hitems.symm.trans hitems')
      rw [ho, hs, hs']
      exact ⟨items, hitems, rfl, rfl⟩

/-- Neither the pattern compiled again nor the match of the new one shows in the first match. -/
example : answer? [.compile "p" "->X", .start "first" "p" (.seq [.null, .bool true]), .next "first",
      .compile "p" "->Y", .start "second" "p" (.seq [.null]), .next "second"] (.next "first") [] =
    some (.pulled (some (.ok [("X", ⟨.index 1, .stored (.bool true)⟩)]))) := by
  cbv

end Session

end TreePattern
