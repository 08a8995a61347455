import Possum.Lib.Run
import Possum.Cpu.Line

/-!
# The discipline of interrupts

Runs of `step` in which memory, devices and the interrupt line may be anything at each step.
`Disciplined` says of a run that no interrupt is accepted by the step that executes EI, and
that after an accepted interrupt IFF1 stays false, and nothing is accepted, until an EI has
been executed.

EI puts the enabling off to the next step, which protects the instruction behind it only if
interrupts were disabled before.  An EI executed while they are enabled, or about to be, can
itself be interrupted; the acceptance then clears IFF1 and leaves the pending enable, so the
next step enables interrupts inside the handler.  `disciplined_iff` states that this is the
only way to break the discipline.
-/

set_option autoImplicit false

namespace Possum

open Lib Lib.Machine

namespace Cpu

variable {β : Type} [Bus β]

/-! ### Runs -/

/-- What a step did, seen from outside. -/
structure Tick where
  instr : Instr
  accepted : Bool
  after : Cpu
  deriving DecidableEq

/-- `step` as a machine whose input is the bus with its line. -/
def tick : Machine Cpu (Wired β) Tick := fun c w =>
  match c.decoded w.bus, c.step w with
  | some d, .ok r => some (⟨d.instr, w.line && (d.run w.bus).cpu.iff1, r.cpu⟩, r.cpu)
  | _, _ => none

/-- **What a tick can do**: it runs what is decoded, and with the line asserted it ignores the
interrupt or accepts it. -/
theorem tick_eq_some {c c' : Cpu} {bus : β} {line : Bool} {t : Tick}
    (h : tick c (⟨bus, line⟩ : Wired β) = some (t, c')) :
    ∃ d, c.decoded bus = some d ∧ t = ⟨d.instr, line && (d.run bus).cpu.iff1, c'⟩ ∧
      (line = false ∧ c' = (d.run bus).cpu ∨
        line = true ∧ (d.run bus).cpu.iff1 = false ∧ c' = (d.run bus).cpu.ignore ∨
        line = true ∧ (d.run bus).cpu.iff1 = true ∧
          c' = ((d.run bus).cpu.acknowledge (d.run bus).bus).1) := by
  cases hd : c.decoded bus with
  | none => simp [tick, hd] at h
  | some d =>
    cases hstep : c.step (⟨bus, line⟩ : Wired β) with
    | error e => simp [tick, hstep] at h
    | ok r =>
      simp only [tick, hd, hstep, Option.some.injEq, Prod.mk.injEq] at h
      obtain ⟨rfl, rfl⟩ := h
      have hins := instruction_eq c bus
      rw [hd, Option.map_some] at hins
      obtain ⟨o, ho, hcases⟩ := step_cases hstep
      obtain rfl : d.run bus = o := Option.some.inj (hins.symm.trans ho)
      refine ⟨d, rfl, rfl, ?_⟩
      obtain ⟨hl, hr⟩ | ⟨hl, hiff, hr⟩ | ⟨hl, hiff, -, hr⟩ := hcases
      · exact .inl ⟨hl, hr⟩
      · exact .inr (.inl ⟨hl, hiff, hr⟩)
      · exact .inr (.inr ⟨hl, hiff, hr⟩)

/-- **One step, as far as interrupts go.**  `k` is what the instruction leaves of the
interrupt fields. -/
theorem tick_cases {c c' : Cpu} {w : Wired β} {t : Tick} (h : tick c w = some (t, c')) :
    ∃ d k, c.decoded w.bus = some d ∧ k = d.instr.effect c.takeEnable.control ∧
      t.instr = d.instr ∧ t.after = c' ∧
      c'.enableInterruptsNextCycle = k.enableInterruptsNextCycle ∧
      (t.accepted = true ∧ w.line = true ∧ k.iff1 = true ∧ c'.iff1 = false ∧
          c'.iff2 = false ∧ c'.pc = 0x0038 ∨
        t.accepted = false ∧ (w.line = true → k.iff1 = false) ∧ c'.iff1 = k.iff1 ∧
          c'.iff2 = k.iff2) := by
  obtain ⟨bus, line⟩ := w
  obtain ⟨d, hd, rfl, hcases⟩ := tick_eq_some h
  have hk := control_instruction hd
  refine ⟨d, _, hd, rfl, rfl, rfl, ?_⟩
  rw [← hk]
  rcases hcases with ⟨hl, hr⟩ | ⟨hl, hiff, hr⟩ | ⟨hl, hiff, hr⟩
  · rw [hr, hl]
    exact ⟨rfl, .inr ⟨rfl, nofun, rfl, rfl⟩⟩
  · rw [hr, hl, hiff]
    exact ⟨rfl, .inr ⟨rfl, fun _ => hiff, rfl, rfl⟩⟩
  · rw [hr, hl, hiff]
    exact ⟨rfl, .inl ⟨rfl, rfl, hiff, rfl, rfl, rfl⟩⟩

/-! ### The discipline -/

/-- No interrupt is accepted and IFF1 stays false, up to the step that executes EI. -/
def QuietUntilEi : List Tick → Prop
  | [] => True
  | t :: ts =>
    t.accepted = false ∧ t.after.iff1 = false ∧
      (t.instr = .enableInterrupts ∨ QuietUntilEi ts)

def Disciplined : List Tick → Prop
  | [] => True
  | t :: ts =>
    (t.instr = .enableInterrupts → t.accepted = false) ∧
      (t.accepted = true →
        t.after.pc = 0x0038 ∧ t.after.iff1 = false ∧ t.after.iff2 = false ∧ QuietUntilEi ts) ∧
      Disciplined ts

instance decidableQuietUntilEi : (ts : List Tick) → Decidable (QuietUntilEi ts)
  | [] => .isTrue trivial
  | t :: ts =>
    have := decidableQuietUntilEi ts
    inferInstanceAs (Decidable (t.accepted = false ∧ t.after.iff1 = false ∧
      (t.instr = .enableInterrupts ∨ QuietUntilEi ts)))

instance decidableDisciplined : (ts : List Tick) → Decidable (Disciplined ts)
  | [] => .isTrue trivial
  | t :: ts =>
    have := decidableDisciplined ts
    inferInstanceAs (Decidable ((t.instr = .enableInterrupts → t.accepted = false) ∧
      (t.accepted = true →
        t.after.pc = 0x0038 ∧ t.after.iff1 = false ∧ t.after.iff2 = false ∧ QuietUntilEi ts) ∧
      Disciplined ts))

/-- Interrupts are enabled, or an EI is about to enable them. -/
def Enabled (c : Cpu) : Prop := c.iff1 = true ∨ c.enableInterruptsNextCycle = true

/-- An interrupt arrives during a redundant EI. -/
def Redundant (c : Cpu) (w : Wired β) : Prop :=
  c.executes w.bus = some .enableInterrupts ∧ w.line = true ∧ Enabled c

/-! ### Runs without interrupts -/

/-- Interrupts are disabled and no EI is pending. -/
structure Disabled (c : Cpu) : Prop where
  iff1 : c.iff1 = false
  iff2 : c.iff2 = false
  pending : c.enableInterruptsNextCycle = false

theorem takeEnable_iff1 (c : Cpu) : c.takeEnable.iff1 = true ↔ Enabled c := by
  unfold takeEnable Enabled
  split <;> simp_all

theorem takeEnable_pending (c : Cpu) : c.takeEnable.enableInterruptsNextCycle = false := by
  unfold takeEnable
  split <;> simp_all

theorem Disabled.takeEnable {c : Cpu} (h : Disabled c) : c.takeEnable = c := by
  simp [Cpu.takeEnable, h.pending]

/-- An instruction does not enable interrupts by itself. -/
theorem effect_disabled (i : Instr) {k : Control} (h1 : k.iff1 = false) (h2 : k.iff2 = false) :
    (i.effect k).iff1 = false ∧ (i.effect k).iff2 = false := by
  cases i <;> simp [Instr.effect, h1, h2]

/-- Only EI leaves the enabling to the next step. -/
theorem effect_pending {i : Instr} (hi : i ≠ .enableInterrupts) (k : Control) :
    (i.effect k).enableInterruptsNextCycle = k.enableInterruptsNextCycle := by
  cases i <;> first | rfl | exact absurd rfl hi

/-- **A step with interrupts disabled.**  It accepts nothing, and unless it executes EI it
leaves them disabled. -/
theorem Disabled.tick {c c' : Cpu} {w : Wired β} {t : Tick} (h : Disabled c)
    (ht : tick c w = some (t, c')) :
    t.accepted = false ∧ c'.iff1 = false ∧ (t.instr = .enableInterrupts ∨ Disabled c') := by
  obtain ⟨d, k, -, hk, hinstr, -, hpending, hcases⟩ := tick_cases ht
  rw [h.takeEnable] at hk
  obtain ⟨hk1, hk2⟩ := effect_disabled d.instr (k := c.control) h.iff1 h.iff2
  rw [← hk] at hk1 hk2
  rcases hcases with ⟨-, -, hiff, -⟩ | ⟨hacc, -, h1, h2⟩
  · rw [hk1] at hiff
    cases hiff
  · refine ⟨hacc, h1.trans hk1, ?_⟩
    by_cases hei : d.instr = .enableInterrupts
    · exact .inl (hinstr.trans hei)
    · refine .inr ⟨h1.trans hk1, h2.trans hk2, ?_⟩
      rw [hpending, hk, effect_pending hei]
      exact h.pending

theorem Disabled.quiet {c c' : Cpu} {ws : List (Wired β)} {ts : List Tick} (h : Disabled c)
    (hrun : run Cpu.tick c ws = some (ts, c')) : QuietUntilEi ts := by
  induction ws generalizing c ts with
  | nil =>
    cases hrun
    trivial
  | cons w ws ih =>
    obtain ⟨t, c₁, ts', ht, hrest, rfl⟩ := run_cons_eq_some hrun
    obtain ⟨hacc, hiff, hnext⟩ := h.tick ht
    have hafter : t.after = c₁ := by
      obtain ⟨d, k, -, -, -, hafter, -⟩ := tick_cases ht
      exact hafter
    refine ⟨hacc, hafter ▸ hiff, ?_⟩
    rcases hnext with hei | hdis
    · exact .inl hei
    · exact .inr (ih hdis hrest)

/-! ### The exact condition -/

/-- An EI step accepts an interrupt exactly if it is redundant and one arrives. -/
theorem accepted_of_redundant {c c' : Cpu} {w : Wired β} {t : Tick} (h : Redundant c w)
    (ht : tick c w = some (t, c')) : t.instr = .enableInterrupts ∧ t.accepted = true := by
  obtain ⟨hexec, hline, hen⟩ := h
  obtain ⟨d', hd', hei⟩ := executes_eq_some hexec
  obtain ⟨d, k, hd, hk, hinstr, -, -, hcases⟩ := tick_cases ht
  obtain rfl : d' = d := Option.some.inj (hd'.symm.trans hd)
  refine ⟨hinstr.trans hei, ?_⟩
  have hiff : k.iff1 = true := by
    rw [hk, hei]
    exact (takeEnable_iff1 c).2 hen
  rcases hcases with ⟨hacc, -⟩ | ⟨-, hmasked, -⟩
  · exact hacc
  · rw [hmasked hline] at hiff
    cases hiff

/-- An interrupt accepted by a step that is not redundant leaves interrupts disabled. -/
theorem disabled_of_accepted {c c' : Cpu} {w : Wired β} {t : Tick} (h : ¬ Redundant c w)
    (ht : tick c w = some (t, c')) (hacc : t.accepted = true) :
    t.instr ≠ .enableInterrupts ∧ t.after.pc = 0x0038 ∧ t.after = c' ∧ Disabled c' := by
  obtain ⟨d, k, hd, hk, hinstr, hafter, hpending, hcases⟩ := tick_cases ht
  rcases hcases with ⟨-, hline, hiff, h1, h2, hpc⟩ | ⟨hno, -⟩
  · have hei : d.instr ≠ .enableInterrupts := by
      intro hei
      refine h ⟨(executes_of_decoded hd).trans (congrArg some hei), hline, ?_⟩
      rw [hk, hei] at hiff
      exact (takeEnable_iff1 c).1 hiff
    refine ⟨fun hi => hei (hinstr.symm.trans hi), hafter ▸ hpc, hafter, h1, h2, ?_⟩
    rw [hpending, hk, effect_pending hei]
    exact takeEnable_pending c
  · rw [hno] at hacc
    cases hacc

/-- **A run keeps the discipline exactly if no interrupt arrives during a redundant EI.** -/
theorem disciplined_iff (c c' : Cpu) (ws : List (Wired β)) (ts : List Tick)
    (h : run tick c ws = some (ts, c')) :
    Disciplined ts ↔ Along tick (fun c w => ¬ Redundant c w) c ws := by
  induction ws generalizing c ts with
  | nil =>
    cases h
    exact Iff.rfl
  | cons w ws ih =>
    obtain ⟨t, c₁, ts', ht, hrest, rfl⟩ := run_cons_eq_some h
    constructor
    · rintro ⟨hei, -, hdis⟩
      constructor
      · intro hred
        obtain ⟨hi, hacc⟩ := accepted_of_redundant hred ht
        rw [hei hi] at hacc
        cases hacc
      · intro o s hs
        rw [ht] at hs
        cases hs
        exact (ih c₁ ts' hrest).1 hdis
    · rintro ⟨hred, halong⟩
      refine ⟨?_, ?_, (ih c₁ ts' hrest).2 (halong t c₁ ht)⟩
      · intro hi
        by_contra hacc
        exact (disabled_of_accepted hred ht (by simpa using hacc)).1 hi
      · intro hacc
        obtain ⟨-, hpc, hafter, hdis⟩ := disabled_of_accepted hred ht hacc
        exact ⟨hpc, hafter ▸ hdis.iff1, hafter ▸ hdis.iff2, hdis.quiet hrest⟩

/-- Runs over a fixed program, with the level of the line at each step. -/
def program (mem : List U8) (lines : List Bool) : List (Wired TestBus) :=
  lines.map fun line => ⟨TestBus.withMem mem, line⟩

/-- IM 1, EI and NOP; the interrupt arrives with NOP. -/
theorem disciplined_iff_imEiNop :
    ∃ ts c', run tick ({} : Cpu) (program [0xED, 0x56, 0xFB, 0x00] [false, false, true]) =
        some (ts, c') ∧
      (Disciplined ts ↔ Along tick (fun c w => ¬ Redundant c w) ({} : Cpu)
        (program [0xED, 0x56, 0xFB, 0x00] [false, false, true])) := by
  have hsome : (run tick ({} : Cpu)
      (program [0xED, 0x56, 0xFB, 0x00] [false, false, true])).isSome := by decide +kernel
  obtain ⟨r, hr⟩ := Option.isSome_iff_exists.1 hsome
  exact ⟨r.1, r.2, hr, disciplined_iff _ _ _ _ hr⟩

/-- IM 1 and EI twice; the interrupt arrives with the second EI and is accepted there. -/
theorem not_disciplined_eiEi :
    ∃ ts c', run tick ({} : Cpu) (program [0xED, 0x56, 0xFB, 0xFB] [false, false, true]) =
        some (ts, c') ∧ ¬ Disciplined ts := by
  have hrun : (run tick ({} : Cpu)
      (program [0xED, 0x56, 0xFB, 0xFB] [false, false, true])).map
        (fun r => decide (Disciplined r.1)) = some false := by decide +kernel
  obtain ⟨r, hr, hdis⟩ := Option.map_eq_some_iff.1 hrun
  exact ⟨r.1, r.2, hr, of_decide_eq_false hdis⟩

end Cpu

end Possum
