import Possum.Lib.Run

/-!
# Stacks and bracketed sequences

A stack of bounded depth as a machine on lists, and the sequences of commands in which every
`push` is closed by a `pop`.  `Bracketed` builds such a sequence from its brackets and says,
bracket by bracket, what it answers: a `pop` the word of its own `push`, or the one a `swap`
last put in its place, and a `swap` the word it replaces.  `Bracketed.run` is the theorem that
the machine answers so.
-/

namespace Possum.Lib

/-- A command to a stack of words. -/
inductive StackCmd (α : Type*)
  | push (w : α)
  | pop
  | swap (w : α)

namespace StackCmd

variable {α : Type*}

/-- A stack of at most `n` words.  It cannot push when it is full, nor pop or swap when it is
empty. -/
def limited (n : ℕ) : Machine (List α) (StackCmd α) (Option α)
  | s, .push w => if s.length < n then some (none, w :: s) else none
  | w :: s, .pop => some (some w, s)
  | w :: s, .swap v => some (some w, v :: s)
  | [], .pop => none
  | [], .swap _ => none

theorem limited_push {n : ℕ} {s : List α} (h : s.length < n) (w : α) :
    limited n s (.push w) = some (none, w :: s) := if_pos h

/-- What a command can do. -/
theorem limited_cases {n : ℕ} {s s' : List α} {cmd : StackCmd α} {answer : Option α}
    (h : limited n s cmd = some (answer, s')) :
    (∃ w, cmd = .push w ∧ answer = none ∧ s' = w :: s ∧ s.length < n) ∨
      (∃ w, cmd = .pop ∧ answer = some w ∧ s = w :: s') ∨
      ∃ w v t, cmd = .swap v ∧ answer = some w ∧ s = w :: t ∧ s' = v :: t := by
  cases cmd with
  | push w =>
    by_cases hlt : s.length < n
    · rw [limited_push hlt] at h
      cases h
      exact .inl ⟨w, rfl, rfl, rfl, hlt⟩
    · rw [limited, if_neg hlt] at h
      cases h
  | pop =>
    cases s with
    | nil => cases h
    | cons w s =>
      cases h
      exact .inr (.inl ⟨w, rfl, rfl, rfl⟩)
  | swap v =>
    cases s with
    | nil => cases h
    | cons w s =>
      cases h
      exact .inr (.inr ⟨w, v, s, rfl, rfl, rfl, rfl⟩)

/-! ### Bracketed sequences -/

/-- The commands between a `push w` and its `pop`, with at most `n` brackets inside one
another: their answers, and the word that stands for `w` at the end. -/
inductive Body : ℕ → α → List (StackCmd α) → List (Option α) → α → Prop
  | nil (n : ℕ) (w : α) : Body n w [] [] w
  | swap {n : ℕ} {w v w' : α} {cmds : List (StackCmd α)} {answers : List (Option α)}
      (rest : Body n v cmds answers w') : Body n w (.swap v :: cmds) (some w :: answers) w'
  | bracket {n : ℕ} {w w' v v' : α} {inner cmds : List (StackCmd α)}
      {innerAnswers answers : List (Option α)} (inside : Body n v inner innerAnswers v')
      (rest : Body (n + 1) w cmds answers w') :
      Body (n + 1) w (.push v :: inner ++ .pop :: cmds)
        (none :: innerAnswers ++ some v' :: answers) w'

/-- A sequence of brackets, at most `n` inside one another, and its answers. -/
inductive Bracketed : ℕ → List (StackCmd α) → List (Option α) → Prop
  | nil (n : ℕ) : Bracketed n [] []
  | bracket {n : ℕ} {v v' : α} {inner cmds : List (StackCmd α)}
      {innerAnswers answers : List (Option α)} (inside : Body n v inner innerAnswers v')
      (rest : Bracketed (n + 1) cmds answers) :
      Bracketed (n + 1) (.push v :: inner ++ .pop :: cmds)
        (none :: innerAnswers ++ some v' :: answers)

/-- A whole bracket: the stack is as before. -/
theorem run_bracket {n : ℕ} {s : List α} {v v' : α} {inner cmds : List (StackCmd α)}
    {innerAnswers : List (Option α)} (h : s.length < n)
    (hinner : Machine.run (limited n) (v :: s) inner = some (innerAnswers, v' :: s)) :
    Machine.run (limited n) s (.push v :: inner ++ .pop :: cmds) =
      (Machine.run (limited n) s cmds).map fun q =>
        (none :: innerAnswers ++ some v' :: q.1, q.2) := by
  have hpop : limited n (v' :: s) .pop = some (some v', s) := rfl
  rw [List.cons_append, Machine.run_cons (limited_push h v), Machine.run_append hinner,
    Machine.run_cons hpop, Option.map_map, Option.map_map]
  rfl

/-- The commands inside a bracket do not reach the words below it. -/
theorem Body.run {n m : ℕ} {w w' : α} {cmds : List (StackCmd α)} {answers : List (Option α)}
    (h : Body n w cmds answers w') (s : List α) (hlen : s.length + 1 + n ≤ m) :
    Machine.run (limited m) (w :: s) cmds = some (answers, w' :: s) := by
  induction h generalizing s with
  | nil => rfl
  | @swap n w v w' cmds answers rest ih =>
    have hswap : limited m (w :: s) (.swap v) = some (some w, v :: s) := rfl
    rw [Machine.run_cons hswap, ih s hlen]
    rfl
  | @bracket n w w' v v' inner cmds innerAnswers answers inside rest ihInside ihRest =>
    have hlt : (w :: s).length < m := by
      rw [List.length_cons]
      omega
    have hinner := ihInside (w :: s) (by rw [List.length_cons]; omega)
    rw [run_bracket hlt hinner, ihRest s hlen]
    rfl

/-- **A bracketed sequence** answers as its brackets say and leaves the stack as it was. -/
theorem Bracketed.run {n m : ℕ} {cmds : List (StackCmd α)} {answers : List (Option α)}
    (h : Bracketed n cmds answers) (s : List α) (hlen : s.length + n ≤ m) :
    Machine.run (limited m) s cmds = some (answers, s) := by
  induction h generalizing s with
  | nil => rfl
  | @bracket n v v' inner cmds innerAnswers answers inside rest ih =>
    have hinner := inside.run s (m := m) (by omega)
    rw [run_bracket (by omega) hinner, ih s hlen]
    rfl

/-- Words pushed one after the other. -/
theorem run_push {n : ℕ} {s : List α} (ws : List α) (hlen : s.length + ws.length ≤ n) :
    Machine.run (limited n) s (ws.map .push) =
      some (List.replicate ws.length none, ws.reverse ++ s) := by
  induction ws generalizing s with
  | nil => rfl
  | cons w ws ih =>
    rw [List.length_cons] at hlen
    have hlt : s.length < n := by omega
    have hrest := ih (s := w :: s) (by rw [List.length_cons]; omega)
    rw [List.map_cons, Machine.run_cons (limited_push hlt w), hrest, List.reverse_cons,
      List.append_assoc]
    rfl

/-- Words popped one after the other. -/
theorem run_pop (n : ℕ) (ws s : List α) :
    Machine.run (limited n) (ws ++ s) (List.replicate ws.length .pop) =
      some (ws.map some, s) := by
  induction ws with
  | nil => rfl
  | cons w ws ih =>
    have hpop : limited n (w :: ws ++ s) .pop = some (some w, ws ++ s) := rfl
    rw [List.length_cons, List.replicate_succ, Machine.run_cons hpop, ih]
    rfl

/-- **Last in, first out.** -/
theorem run_push_pop {n : ℕ} {s : List α} (ws : List α) (hlen : s.length + ws.length ≤ n) :
    Machine.run (limited n) s (ws.map .push ++ List.replicate ws.length .pop) =
      some (List.replicate ws.length none ++ ws.reverse.map some, s) := by
  have hpop := run_pop n ws.reverse s
  rw [List.length_reverse] at hpop
  exact Machine.run_append_of_some (run_push ws hlen) hpop

end StackCmd

end Possum.Lib
