import Mathlib.Data.Option.Basic
import Mathlib.Data.List.Basic

/-!
# What an agent shows

An agent acts on its environment: a step shows something and leaves the environment and the
next state, or no state where the agent is lost.  `observe` is what it shows in `n` steps,
whatever its states are, so that two agents can be compared.

A bisimulation relates states that show the same, leave the same environment and move to related
states, and `IsBisim.observe_eq` is its rule.  A map that commutes with the steps is one
(`isBisim_of_map`).
-/

set_option autoImplicit false

namespace Possum.Lib

/-- One step of an agent with states `σ` in an environment `ε`, showing `ω`. -/
abbrev Agent (σ ε ω : Type*) := σ → ε → ω × Option σ × ε

namespace Agent

variable {σ τ ε ω : Type*} {step : Agent σ ε ω} {step' : Agent τ ε ω} {R : σ → τ → Prop}

/-- What an agent shows in `n` steps.  It shows nothing more once it is lost. -/
def observe (step : Agent σ ε ω) : ℕ → σ → ε → List ω
  | 0, _, _ => []
  | n + 1, s, e =>
      (step s e).1 :: ((step s e).2.1.map fun s' => observe step n s' (step s e).2.2).getD []

theorem observe_of_some {s s' : σ} {e e' : ε} {o : ω} (h : step s e = (o, some s', e')) (n : ℕ) :
    observe step (n + 1) s e = o :: observe step n s' e' := by
  simp [observe, h]

/-- Agents that show the same show the same first. -/
theorem first_eq {s : σ} {t : τ} {e : ε} (h : ∀ n, observe step n s e = observe step' n t e) :
    (step s e).1 = (step' t e).1 := by
  have hone := h 1
  simp only [observe, List.cons.injEq] at hone
  exact hone.1

/-- Agents that show the same go on to show the same. -/
theorem rest_eq {s s' : σ} {t t' : τ} {e e₁ e₂ : ε} {o o' : ω}
    (h : ∀ n, observe step n s e = observe step' n t e)
    (hs : step s e = (o, some s', e₁)) (ht : step' t e = (o', some t', e₂)) (n : ℕ) :
    observe step n s' e₁ = observe step' n t' e₂ := by
  have hnext := h (n + 1)
  rw [observe_of_some hs, observe_of_some ht, List.cons.injEq] at hnext
  exact hnext.2

/-- Related states show the same, leave the same environment and move to related states. -/
def IsBisim (step : Agent σ ε ω) (step' : Agent τ ε ω) (R : σ → τ → Prop) : Prop :=
  ∀ s t e, R s t →
    (step s e).1 = (step' t e).1 ∧ Option.Rel R (step s e).2.1 (step' t e).2.1 ∧
      (step s e).2.2 = (step' t e).2.2

/-- **The rule of bisimulations.**  Related states show the same in any number of steps. -/
theorem IsBisim.observe_eq (h : IsBisim step step' R) {s : σ} {t : τ} (hR : R s t) (e : ε)
    (n : ℕ) : observe step n s e = observe step' n t e := by
  induction n generalizing s t e with
  | zero => rfl
  | succ n ih =>
    obtain ⟨hshown, hnext, henv⟩ := h s t e hR
    unfold observe
    rw [hshown, henv]
    generalize (step s e).2.1 = next, (step' t e).2.1 = next' at hnext
    cases hnext with
    | none => rfl
    | some hR' => simp only [Option.map_some, Option.getD_some, ih hR']

/-- A map that commutes with the steps is a bisimulation. -/
theorem isBisim_of_map (f : σ → τ)
    (h : ∀ s e, step' (f s) e = ((step s e).1, (step s e).2.1.map f, (step s e).2.2)) :
    IsBisim step step' (fun s t => f s = t) := by
  rintro s t e rfl
  rw [h]
  refine ⟨rfl, ?_, rfl⟩
  cases (step s e).2.1 with
  | none => exact Option.Rel.none
  | some s' => exact Option.Rel.some rfl

end Agent

end Possum.Lib
