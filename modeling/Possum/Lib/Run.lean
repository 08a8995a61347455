import Mathlib.Data.List.Basic
import Mathlib.Data.Option.Basic

/-!
# Runs of a machine that can abort

A machine reads one input at a time, answers it and moves to its next state, or aborts
(`none`: a panic).  This file is the run theory of such machines, over arbitrary types of
states, inputs and answers:

* `run` feeds a list of inputs and collects the answers; `run_append` cuts a run in two;
* `Along P` says that `P` holds of every state and input met by the run, `Throughout Q`
  that `Q` holds of every state it visits;
* `run_invariant` is the induction rule for an invariant, `run_frame` the one for a part of the
  state that few steps change, `run_project` the one for a part that is a machine of its own, and
  `throughout_of_along` the one for an invariant that only some steps preserve;
* `collect` gathers what the steps of a run contribute to a history, and `collect_of_append` and
  `collect_of_queue` are the rules for histories kept by the states and for queues;
* `run_isSome_iff_along` turns an exact condition for one step not to abort into one for whole
  runs, and `throughout_iff_along` does the same for a property of the visited states.
-/

namespace Possum.Lib

/-- One step of a machine with states `σ`, inputs `ι` and answers `ω`. -/
abbrev Machine (σ ι ω : Type*) := σ → ι → Option (ω × σ)

namespace Machine

variable {σ ι ω : Type*}

/-- Feed a list of inputs, collecting the answers. -/
def run (step : Machine σ ι ω) : σ → List ι → Option (List ω × σ)
  | s, [] => some ([], s)
  | s, i :: is =>
      (step s i).bind fun r => (run step r.2 is).map fun q => (r.1 :: q.1, q.2)

/-- `P` holds of every state and input the run meets. -/
def Along (step : Machine σ ι ω) (P : σ → ι → Prop) : σ → List ι → Prop
  | _, [] => True
  | s, i :: is => P s i ∧ ∀ o s', step s i = some (o, s') → Along step P s' is

/-- `Q` holds of every state the run visits, the first one included. -/
def Throughout (step : Machine σ ι ω) (Q : σ → Prop) : σ → List ι → Prop
  | s, [] => Q s
  | s, i :: is => Q s ∧ ∀ o s', step s i = some (o, s') → Throughout step Q s' is

/-- What the steps of a run contribute, in order: `f` is given the state, the input and the
answer of each. -/
def collect {β : Type*} (step : Machine σ ι ω) (f : σ → ι → ω → List β) : σ → List ι → List β
  | _, [] => []
  | s, i :: is => ((step s i).map fun r => f s i r.1 ++ collect step f r.2 is).getD []

variable {step : Machine σ ι ω} {P : σ → ι → Prop} {Q Inv : σ → Prop}

@[simp] theorem run_nil (s : σ) : run step s [] = some ([], s) := rfl

/-- A run whose first step answers `o`. -/
theorem run_cons {s s' : σ} {i : ι} {o : ω} (h : step s i = some (o, s')) (is : List ι) :
    run step s (i :: is) = (run step s' is).map fun q => (o :: q.1, q.2) := by
  simp [run, h]

theorem run_cons_of_none {s : σ} {i : ι} (h : step s i = none) (is : List ι) :
    run step s (i :: is) = none := by
  simp [run, h]

/-- Inversion of a nonempty run: the first step, then the rest. -/
theorem run_cons_eq_some {s s'' : σ} {i : ι} {is : List ι} {os : List ω}
    (h : run step s (i :: is) = some (os, s'')) :
    ∃ o s' os', step s i = some (o, s') ∧ run step s' is = some (os', s'') ∧ os = o :: os' := by
  cases hs : step s i with
  | none => rw [run_cons_of_none hs] at h; cases h
  | some r =>
    obtain ⟨o, s'⟩ := r
    rw [run_cons hs] at h
    cases hr : run step s' is with
    | none => rw [hr] at h; cases h
    | some q =>
      obtain ⟨os', t⟩ := q
      rw [hr] at h
      cases h
      exact ⟨o, s', os', rfl, hr, rfl⟩

/-- A run of two input lists, one after the other. -/
theorem run_append {s s' : σ} {is : List ι} {os : List ω} (h : run step s is = some (os, s'))
    (js : List ι) :
    run step s (is ++ js) = (run step s' js).map fun q => (os ++ q.1, q.2) := by
  induction is generalizing s os with
  | nil =>
    simp only [run_nil, Option.some.injEq, Prod.mk.injEq] at h
    obtain ⟨rfl, rfl⟩ := h
    simp
  | cons i is ih =>
    obtain ⟨o, s₁, os', hs, hr, rfl⟩ := run_cons_eq_some h
    rw [List.cons_append, run_cons hs, ih hr, Option.map_map]
    rfl

theorem run_append_of_some {s s' s'' : σ} {is js : List ι} {os ps : List ω}
    (h : run step s is = some (os, s')) (h' : run step s' js = some (ps, s'')) :
    run step s (is ++ js) = some (os ++ ps, s'') := by
  rw [run_append h, h', Option.map_some]

/-- Inversion of a run of two input lists. -/
theorem run_append_eq_some {s s'' : σ} {is js : List ι} {os : List ω}
    (h : run step s (is ++ js) = some (os, s'')) :
    ∃ os₁ s' os₂, run step s is = some (os₁, s') ∧ run step s' js = some (os₂, s'') ∧
      os = os₁ ++ os₂ := by
  induction is generalizing s os with
  | nil => exact ⟨[], s, os, rfl, h, rfl⟩
  | cons i is ih =>
    obtain ⟨o, s₁, os', hs, hr, rfl⟩ := run_cons_eq_some h
    obtain ⟨os₁, s', os₂, h₁, h₂, rfl⟩ := ih hr
    refine ⟨o :: os₁, s', os₂, ?_, h₂, rfl⟩
    rw [run_cons hs, h₁, Option.map_some]

/-- Every input gets one answer. -/
theorem length_of_run {s s' : σ} {is : List ι} {os : List ω}
    (h : run step s is = some (os, s')) : os.length = is.length := by
  induction is generalizing s os with
  | nil => cases h; rfl
  | cons i is ih =>
    obtain ⟨o, s₁, os', -, hr, rfl⟩ := run_cons_eq_some h
    rw [List.length_cons, List.length_cons, ih hr]

/-- **The invariant rule.**  What every step preserves holds at the end of every run. -/
theorem run_invariant (hstep : ∀ s i o s', Inv s → step s i = some (o, s') → Inv s')
    {s s' : σ} {is : List ι} {os : List ω} (hs : Inv s) (h : run step s is = some (os, s')) :
    Inv s' := by
  induction is generalizing s os with
  | nil => cases h; exact hs
  | cons i is ih =>
    obtain ⟨o, s₁, os', h₁, hr, -⟩ := run_cons_eq_some h
    exact ih (hstep s i o s₁ hs h₁) hr

/-- **The frame rule.**  A part of the state that only steps with certain answers change stays as
it was over a run without such answers. -/
theorem run_frame {κ : Type*} (part : σ → κ) {Touches : ω → Prop}
    (hstep : ∀ s i o s', step s i = some (o, s') → ¬ Touches o → part s' = part s)
    {s s' : σ} {is : List ι} {os : List ω} (h : run step s is = some (os, s'))
    (hos : ∀ o ∈ os, ¬ Touches o) : part s' = part s := by
  induction is generalizing s os with
  | nil => cases h; rfl
  | cons i is ih =>
    obtain ⟨o, s₁, os', h₁, hr, rfl⟩ := run_cons_eq_some h
    have hfirst : part s₁ = part s := hstep s i o s₁ h₁ (hos o List.mem_cons_self)
    exact (ih hr fun o ho => hos o (List.mem_cons_of_mem _ ho)).trans hfirst

/-- **The projection rule.**  A part of the state is a machine of its own.  If every step is a step
of the part, on what `proj` makes of the input, or leaves the part alone where `proj` makes nothing
of it, then a run is a run of the part. -/
theorem run_project {κ ι' ω' : Type*} {step' : Machine κ ι' ω'} (part : σ → κ)
    (proj : ι → Option ι')
    (hmoves : ∀ s i o s' i', step s i = some (o, s') → proj i = some i' →
      ∃ o', step' (part s) i' = some (o', part s'))
    (hrests : ∀ s i o s', step s i = some (o, s') → proj i = none → part s' = part s)
    {s s' : σ} {is : List ι} {os : List ω} (h : run step s is = some (os, s')) :
    ∃ os', run step' (part s) (is.filterMap proj) = some (os', part s') := by
  induction is generalizing s os with
  | nil =>
    cases h
    exact ⟨[], rfl⟩
  | cons i is ih =>
    obtain ⟨o, s₁, os₁, h₁, hr, -⟩ := run_cons_eq_some h
    obtain ⟨os', hrest⟩ := ih hr
    cases hi : proj i with
    | none =>
      refine ⟨os', ?_⟩
      rw [List.filterMap_cons_none hi, ← hrests s i o s₁ h₁ hi, hrest]
    | some i' =>
      obtain ⟨o', hstep⟩ := hmoves s i o s₁ i' h₁ hi
      refine ⟨o' :: os', ?_⟩
      rw [List.filterMap_cons_some hi, run_cons hstep, hrest, Option.map_some]

/-- What holds at every step holds along every run. -/
theorem along_of_forall (h : ∀ s i, P s i) (s : σ) (is : List ι) : Along step P s is := by
  induction is generalizing s with
  | nil => trivial
  | cons i is ih => exact ⟨h s i, fun _ s' _ => ih s'⟩

/-- A run whose steps never abort where the invariant holds. -/
theorem run_isSome (hstep : ∀ s i o s', Inv s → step s i = some (o, s') → Inv s')
    (hsome : ∀ s i, Inv s → (step s i).isSome) {s : σ} (hs : Inv s) (is : List ι) :
    (run step s is).isSome := by
  induction is generalizing s with
  | nil => rfl
  | cons i is ih =>
    obtain ⟨⟨o, s'⟩, h⟩ := Option.isSome_iff_exists.1 (hsome s i hs)
    have hrest := ih (hstep s i o s' hs h)
    rw [run_cons h, Option.isSome_map]
    exact hrest

/-! ### Histories -/

section

variable {β : Type*} {f : σ → ι → ω → List β}

theorem collect_cons {s s' : σ} {i : ι} {o : ω} (h : step s i = some (o, s')) (is : List ι) :
    collect step f s (i :: is) = f s i o ++ collect step f s' is := by
  simp [collect, h]

/-- A contribution that depends on the answer alone. -/
theorem collect_of_answer (g : ω → List β) {s s' : σ} {is : List ι} {os : List ω}
    (h : run step s is = some (os, s')) : collect step (fun _ _ o => g o) s is = os.flatMap g := by
  induction is generalizing s os with
  | nil =>
    cases h
    rfl
  | cons i is ih =>
    obtain ⟨o, s₁, os', h₁, hr, rfl⟩ := run_cons_eq_some h
    rw [collect_cons h₁, ih hr, List.flatMap_cons]

/-- **The history rule.**  A history of the state to which every step appends its contribution
is in the end what the run collected. -/
theorem collect_of_append (history : σ → List β)
    (hstep : ∀ s i o s', Inv s → step s i = some (o, s') → Inv s')
    (happ : ∀ s i o s', Inv s → step s i = some (o, s') →
      history s' = history s ++ f s i o)
    {s s' : σ} {is : List ι} {os : List ω} (hs : Inv s) (h : run step s is = some (os, s')) :
    history s' = history s ++ collect step f s is := by
  induction is generalizing s os with
  | nil =>
    cases h
    simp [collect]
  | cons i is ih =>
    obtain ⟨o, s₁, os', h₁, hr, -⟩ := run_cons_eq_some h
    have hrest := ih (hstep s i o s₁ hs h₁) hr
    rw [hrest, happ s i o s₁ hs h₁, collect_cons h₁, List.append_assoc]

/-- **The queue rule.**  If, at every step, what enters the history also enters the queue, and
what leaves the queue is what the step contributes, then over a run nothing is lost and the
order is kept. -/
theorem collect_of_queue (history queue : σ → List β)
    (hstep : ∀ s i o s', Inv s → step s i = some (o, s') → Inv s')
    (hqueue : ∀ s i o s', Inv s → step s i = some (o, s') →
      ∃ new, history s' = history s ++ new ∧ queue s ++ new = f s i o ++ queue s')
    {s s' : σ} {is : List ι} {os : List ω} (hs : Inv s) (h : run step s is = some (os, s')) :
    ∃ new, history s' = history s ++ new ∧ queue s ++ new = collect step f s is ++ queue s' := by
  induction is generalizing s os with
  | nil =>
    cases h
    exact ⟨[], by simp, by simp [collect]⟩
  | cons i is ih =>
    obtain ⟨o, s₁, os', h₁, hr, -⟩ := run_cons_eq_some h
    obtain ⟨first, hfirst, hleave⟩ := hqueue s i o s₁ hs h₁
    obtain ⟨rest, hrest, hlater⟩ := ih (hstep s i o s₁ hs h₁) hr
    refine ⟨first ++ rest, ?_, ?_⟩
    · rw [hrest, hfirst, List.append_assoc]
    · rw [collect_cons h₁, List.append_assoc, ← hlater, ← List.append_assoc, hleave,
        List.append_assoc]

end

/-- **Runs that do not abort.**  If, wherever the invariant holds, `P` is exactly the
condition under which a step does not abort, then a run does not abort exactly when `P`
holds along it. -/
theorem run_isSome_iff_along (hstep : ∀ s i o s', Inv s → step s i = some (o, s') → Inv s')
    (hP : ∀ s i, Inv s → ((step s i).isSome ↔ P s i)) {s : σ} (hs : Inv s) (is : List ι) :
    (run step s is).isSome ↔ Along step P s is := by
  induction is generalizing s with
  | nil => simp [Along]
  | cons i is ih =>
    rw [Along, ← hP s i hs]
    cases h : step s i with
    | none => simp [run_cons_of_none h]
    | some r =>
      obtain ⟨o, s'⟩ := r
      have hs' := ih (hstep s i o s' hs h)
      simp [run_cons h, hs']

/-- **States visited.**  If, from a state where the invariant and `Q` hold, `P` is exactly
the condition under which the next state satisfies `Q` again, then `Q` holds throughout a
run exactly when `P` holds along it. -/
theorem throughout_iff_along (hstep : ∀ s i o s', Inv s → step s i = some (o, s') → Inv s')
    (hP : ∀ s i, Inv s → Q s → (P s i ↔ ∀ o s', step s i = some (o, s') → Q s'))
    {s : σ} (hs : Inv s) (hq : Q s) (is : List ι) :
    Throughout step Q s is ↔ Along step P s is := by
  induction is generalizing s with
  | nil => simp [Throughout, Along, hq]
  | cons i is ih =>
    rw [Throughout, Along, hP s i hs hq]
    constructor
    · rintro ⟨-, hrest⟩
      have hnext : ∀ o s', step s i = some (o, s') → Q s' := by
        intro o s' h
        have hth := hrest o s' h
        cases is with
        | nil => exact hth
        | cons j js => exact hth.1
      exact ⟨hnext, fun o s' h => (ih (hstep s i o s' hs h) (hnext o s' h)).1 (hrest o s' h)⟩
    · rintro ⟨hnext, hrest⟩
      exact ⟨hq, fun o s' h => (ih (hstep s i o s' hs h) (hnext o s' h)).2 (hrest o s' h)⟩

/-- **The guarded invariant rule.**  If every step that meets `P` preserves the invariant, then
`Q`, which the invariant implies, holds throughout a run along which `P` holds. -/
theorem throughout_of_along
    (hstep : ∀ s i o s', Inv s → P s i → step s i = some (o, s') → Inv s')
    (hq : ∀ s, Inv s → Q s) {s : σ} (hs : Inv s) {is : List ι} (h : Along step P s is) :
    Throughout step Q s is := by
  induction is generalizing s with
  | nil => exact hq s hs
  | cons i is ih =>
    obtain ⟨hp, hrest⟩ := h
    exact ⟨hq s hs, fun o s' hi => ih (hstep s i o s' hs hp hi) (hrest o s' hi)⟩

theorem Throughout.first {s : σ} {is : List ι} (h : Throughout step Q s is) : Q s := by
  cases is with
  | nil => exact h
  | cons i is => exact h.1

/-- What holds throughout a run holds of its last state. -/
theorem Throughout.last {s s' : σ} {is : List ι} {os : List ω} (h : Throughout step Q s is)
    (hrun : run step s is = some (os, s')) : Q s' := by
  induction is generalizing s os with
  | nil => cases hrun; exact h
  | cons i is ih =>
    obtain ⟨o, s₁, os', hs, hr, -⟩ := run_cons_eq_some hrun
    exact ih (h.2 o s₁ hs) hr

end Machine

end Possum.Lib
