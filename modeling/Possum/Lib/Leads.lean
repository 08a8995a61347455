import Mathlib.Logic.Relation
import Mathlib.Data.Nat.Notation

/-!
# Where a machine arrives

A machine that steps by itself, or stops (`none`), over an arbitrary type of states.  `Leads step P
Q` says that from every state with `P` some steps lead to a state with `Q`: total correctness of
the program that the machine runs from `P` to `Q`.

The rules follow the program: `once` for one step, `trans` for two parts in a row, `exists_elim` for
what is only known to exist, and `countdown` for a loop with a counter.  `simulate` carries what
is shown of one machine over to another that follows it step by step.
-/

set_option autoImplicit false

namespace Possum.Lib

variable {σ τ : Type*}

/-- Some steps lead from `s` to `s'`. -/
abbrev Arrives (step : σ → Option σ) : σ → σ → Prop :=
  Relation.ReflTransGen fun s s' => step s = some s'

/-- From every state with `P` some steps lead to a state with `Q`. -/
def Leads (step : σ → Option σ) (P Q : σ → Prop) : Prop :=
  ∀ s, P s → ∃ s', Arrives step s s' ∧ Q s'

namespace Leads

variable {step : σ → Option σ} {P P' Q Q' R : σ → Prop}

/-- No step at all. -/
theorem of_imp (h : ∀ s, P s → Q s) : Leads step P Q := by
  intro s hs
  exact ⟨s, .refl, h s hs⟩

/-- One step. -/
theorem once (h : ∀ s, P s → ∃ s', step s = some s' ∧ Q s') : Leads step P Q := by
  intro s hs
  obtain ⟨s', hstep, hq⟩ := h s hs
  exact ⟨s', .single hstep, hq⟩

theorem trans (h : Leads step P Q) (h' : Leads step Q R) : Leads step P R := by
  intro s hs
  obtain ⟨s₁, hfirst, hq⟩ := h s hs
  obtain ⟨s₂, hsecond, hr⟩ := h' s₁ hq
  exact ⟨s₂, hfirst.trans hsecond, hr⟩

theorem conseq (h : Leads step P Q) (hp : ∀ s, P' s → P s) (hq : ∀ s, Q s → Q' s) :
    Leads step P' Q' := by
  intro s hs
  obtain ⟨s', harrives, hs'⟩ := h s (hp s hs)
  exact ⟨s', harrives, hq s' hs'⟩

theorem exists_elim {α : Type*} {P : α → σ → Prop} (h : ∀ a, Leads step (P a) Q) :
    Leads step (fun s => ∃ a, P a s) Q := by
  rintro s ⟨a, hs⟩
  exact h a s hs

/-- **A loop with a counter.**  If one round leads from `n + 1` rounds to go to `n`, then the loop
leads from any number of rounds to none. -/
theorem countdown {I : ℕ → σ → Prop} (h : ∀ n, Leads step (I (n + 1)) (I n)) (n : ℕ) :
    Leads step (I n) (I 0) := by
  induction n with
  | zero => exact of_imp fun _ => id
  | succ n ih => exact (h n).trans ih

end Leads

section

variable {step : σ → Option σ} {step' : τ → Option τ} {R : σ → τ → Prop}

/-- Steps that the second machine follows. -/
theorem Arrives.follow
    (hsim : ∀ s t s', R s t → step s = some s' → ∃ t', step' t = some t' ∧ R s' t') {s s' : σ}
    {t : τ} (hR : R s t) (h : Arrives step s s') : ∃ t', Arrives step' t t' ∧ R s' t' := by
  induction h with
  | refl => exact ⟨t, .refl, hR⟩
  | tail _ hstep ih =>
    obtain ⟨t₁, harrives, hR₁⟩ := ih
    obtain ⟨t', hstep', hR'⟩ := hsim _ _ _ hR₁ hstep
    exact ⟨t', harrives.tail hstep', hR'⟩

/-- **The rule of simulation.**  Where the second machine follows the first step by step, it arrives
where the first one does. -/
theorem Leads.simulate
    (hsim : ∀ s t s', R s t → step s = some s' → ∃ t', step' t = some t' ∧ R s' t')
    {P Q : σ → Prop} (h : Leads step P Q) :
    Leads step' (fun t => ∃ s, R s t ∧ P s) (fun t => ∃ s, R s t ∧ Q s) := by
  rintro t ⟨s, hR, hp⟩
  obtain ⟨s', harrives, hq⟩ := h s hp
  obtain ⟨t', harrives', hR'⟩ := harrives.follow hsim hR
  exact ⟨t', harrives', s', hR', hq⟩

end

end Possum.Lib
