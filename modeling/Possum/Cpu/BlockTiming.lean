import Possum.Cpu.BlockCopy
import Possum.Cpu.BlockSearch
import Mathlib.Tactic.Ring

/-!
# The timing of the repeating block instructions

`Completes op w k c bus n` is a run of a block instruction to its end: `k` steps with the line
released, at its own two bytes each time, in `n` cycles.  The last step takes 16 cycles; the others
take 21 for the loads and comparisons, whose body adds 5 to its 12 cycles, but 20 for the inputs and
outputs, whose body returns 16 (`completes_cycles`).  **`block_timing`** is the exact condition for
the sum to be the processor's.
-/

set_option autoImplicit false

namespace Possum

/-- The cycles of the body when it goes back. -/
def BlockOp.againCycles : BlockOp → ℕ
  | .load => 17
  | .compare => 17
  | .input => 16
  | .output => 16

namespace Cpu

variable {β : Type}

/-- A load or a comparison, going back or not. -/
theorem rewound_or_not (b : Bool) (o : Outcome β) (h : o.cycles = 12) :
    ∃ again : Bool, (if b then rewound o else o).cpu.pc = (if again then o.cpu.pc - 2 else o.cpu.pc) ∧
      (if b then rewound o else o).cycles = if again then 17 else 12 := by
  refine ⟨b, ?_, ?_⟩
  · cases b <;> rfl
  · cases b with
    | false => exact h
    | true => exact congrArg (5 + ·) h

theorem repeatPort_again (r : Cpu × β) :
    (repeatPort r).cpu.pc = (if hi r.1.bc != 0 then r.1.pc - 2 else r.1.pc) ∧
      (repeatPort r).cycles = if hi r.1.bc != 0 then 16 else 12 := by
  obtain ⟨c, bus⟩ := r
  have hb : c.register .B = hi c.bc := rfl
  have htwo : c.pc - 1 - 1 = c.pc - 2 := by bv_omega
  rw [repeatPort, hb]
  cases hi c.bc != 0 with
  | false => exact ⟨rfl, rfl⟩
  | true => exact ⟨htwo, rfl⟩

theorem repeatPort_counted {r : Cpu × β} {c : Cpu} (hpc : r.1.pc = c.pc)
    (hb : hi r.1.bc = hi c.bc - 1) :
    ∃ again : Bool, (repeatPort r).cpu.pc = (if again then c.pc - 2 else c.pc) ∧
      (repeatPort r).cycles = (if again then 16 else 12) ∧ (again = false ↔ hi c.bc = 1) := by
  obtain ⟨hpc', hcycles⟩ := repeatPort_again r
  refine ⟨hi r.1.bc != 0, ?_, hcycles, ?_⟩
  · rw [hpc', hpc]
  · rw [hb, bne_eq_false_iff_eq]
    bv_omega

variable [Bus β]

/-- The counters of an input or output. -/
theorem port_counters (move : U16 → U16) (c : Cpu) (bus : β) :
    ((inputBlock move c bus).1.pc = c.pc ∧ hi (inputBlock move c bus).1.bc = hi c.bc - 1) ∧
      (outputBlock move c bus).1.pc = c.pc ∧ hi (outputBlock move c bus).1.bc = hi c.bc - 1 :=
  ⟨⟨rfl, hi_word _ _⟩, rfl, hi_word _ _⟩

/-- **The body of a block instruction** goes back or ends.  An input or output ends where B is 1. -/
theorem exec_again (op : BlockOp) (w : Way) (c : Cpu) (bus : β) :
    ∃ again : Bool, (c.exec bus (op.instr w)).cpu.pc = (if again then c.pc - 2 else c.pc) ∧
      (c.exec bus (op.instr w)).cycles = (if again then op.againCycles else 12) ∧
      (op = .input ∨ op = .output → (again = false ↔ hi c.bc = 1)) := by
  cases op with
  | load =>
    obtain ⟨again, hpc, hcycles⟩ :=
      rewound_or_not ((loadBlock w.move c bus).cpu.flag .PV) (loadBlock w.move c bus) rfl
    rw [exec_load]
    exact ⟨again, hpc, hcycles, by simp⟩
  | compare =>
    obtain ⟨again, hpc, hcycles⟩ :=
      rewound_or_not ((compareBlock w.move c bus).cpu.flag .PV &&
        !(compareBlock w.move c bus).cpu.flag .Z) (compareBlock w.move c bus) rfl
    rw [(counters_compareBlock w.move c bus).2.2.2] at hpc
    rw [exec_compare]
    exact ⟨again, hpc, hcycles, by simp⟩
  | input =>
    obtain ⟨again, hpc, hcycles, hb⟩ :=
      repeatPort_counted (port_counters w.move c bus).1.1 (port_counters w.move c bus).1.2
    exact ⟨again, by cases w <;> exact hpc, by cases w <;> exact hcycles, fun _ => hb⟩
  | output =>
    obtain ⟨again, hpc, hcycles, hb⟩ :=
      repeatPort_counted (port_counters w.move c bus).2.1 (port_counters w.move c bus).2.2
    exact ⟨again, by cases w <;> exact hpc, by cases w <;> exact hcycles, fun _ => hb⟩

/-- One step: back to the instruction, or past it in 16 cycles. -/
theorem step_again {op : BlockOp} {w : Way} {c : Cpu} {bus : β} (hat : op.At w bus c.pc)
    {o : Outcome (Wired β)} (h : c.step (⟨bus, false⟩ : Wired β) = .ok o) :
    (o.cpu.pc = c.pc ∧ o.cycles = 4 + op.againCycles ∧
        (op = .input ∨ op = .output → hi c.bc ≠ 1)) ∨
      (o.cpu.pc = c.pc + 2 ∧ o.cycles = 16 ∧ (op = .input ∨ op = .output → hi c.bc = 1)) := by
  rw [step_block hat] at h
  cases h
  obtain ⟨again, hpc, hcycles, hb⟩ := exec_again op w (c.takeEnable.past 2) bus
  have hdpc : (c.takeEnable.past 2).pc = c.pc + 2 := congrArg (· + 2) (pc_takeEnable c)
  have hdbc : (c.takeEnable.past 2).bc = c.bc := wideRegister_takeEnable c .BC
  have htwo : c.pc + 2 - 2 = c.pc := by bv_omega
  rw [hdpc] at hpc
  rw [hdbc] at hb
  cases again with
  | false => exact .inr ⟨hpc, congrArg (4 + ·) hcycles, fun hop => (hb hop).1 rfl⟩
  | true =>
    refine .inl ⟨hpc.trans htwo, congrArg (4 + ·) hcycles, fun hop h => ?_⟩
    cases (hb hop).2 h

/-- Back at the instruction is not past it. -/
theorem ne_add_two (pc : U16) : pc ≠ pc + 2 := by
  bv_omega

/-! ### Runs -/

/-- The instruction at PC runs to its end in `k` steps and `n` cycles, with its two bytes in place
at every step. -/
inductive Completes (op : BlockOp) (w : Way) : ℕ → Cpu → β → ℕ → Prop
  | last {c : Cpu} {bus : β} {o : Outcome (Wired β)} (hat : op.At w bus c.pc)
      (hstep : c.step (⟨bus, false⟩ : Wired β) = .ok o) (hpast : o.cpu.pc = c.pc + 2) :
      Completes op w 1 c bus o.cycles
  | again {c : Cpu} {bus : β} {o : Outcome (Wired β)} {k n : ℕ} (hat : op.At w bus c.pc)
      (hstep : c.step (⟨bus, false⟩ : Wired β) = .ok o) (hback : o.cpu.pc = c.pc)
      (hrest : Completes op w k o.cpu o.bus.bus n) :
      Completes op w (k + 1) c bus (o.cycles + n)

theorem Completes.pos {op : BlockOp} {w : Way} {k n : ℕ} {c : Cpu} {bus : β}
    (h : Completes op w k c bus n) : 0 < k := by
  cases h with
  | last => exact Nat.one_pos
  | again => exact Nat.succ_pos _

/-- **The cycles of a run.** -/
theorem completes_cycles {op : BlockOp} {w : Way} {k n : ℕ} {c : Cpu} {bus : β}
    (h : Completes op w k c bus n) : n = (4 + op.againCycles) * (k - 1) + 16 := by
  induction h with
  | last hat hstep hpast =>
    obtain ⟨hback, -, -⟩ | ⟨-, hcycles, -⟩ := step_again hat hstep
    · exact absurd (hback.symm.trans hpast) (ne_add_two _)
    · rw [hcycles, Nat.sub_self, Nat.mul_zero]
  | @again c bus o k n hat hstep hback hrest ih =>
    obtain ⟨-, hcycles, -⟩ | ⟨hpast, -, -⟩ := step_again hat hstep
    · have hpos := hrest.pos
      obtain ⟨j, rfl⟩ : ∃ j, k = j + 1 := ⟨k - 1, by omega⟩
      rw [hcycles, ih, Nat.add_sub_cancel, Nat.add_sub_cancel]
      ring
    · exact absurd (hback.symm.trans hpast) (ne_add_two _)

/-- An input or output is done after one step exactly where B is 1. -/
theorem completes_once {op : BlockOp} (hop : op = .input ∨ op = .output) {w : Way} {k n : ℕ}
    {c : Cpu} {bus : β} (h : Completes op w k c bus n) : k = 1 ↔ hi c.bc = 1 := by
  cases h with
  | last hat hstep hpast =>
    obtain ⟨hback, -, -⟩ | ⟨-, -, hb⟩ := step_again hat hstep
    · exact absurd (hback.symm.trans hpast) (ne_add_two _)
    · exact ⟨fun _ => hb hop, fun _ => rfl⟩
  | again hat hstep hback hrest =>
    obtain ⟨-, -, hb⟩ | ⟨hpast, -, -⟩ := step_again hat hstep
    · have hpos := hrest.pos
      exact ⟨fun h => by omega, fun h => absurd h (hb hop)⟩
    · exact absurd (hback.symm.trans hpast) (ne_add_two _)

/-- **The timing is the processor's** for the loads and comparisons, and for an input or output
of a single byte, and for no other run. -/
theorem block_timing {op : BlockOp} {w : Way} {k n : ℕ} {c : Cpu} {bus : β}
    (h : Completes op w k c bus n) :
    n = 21 * (k - 1) + 16 ↔ op = .load ∨ op = .compare ∨ hi c.bc = 1 := by
  have hcycles := completes_cycles h
  have hpos := h.pos
  cases op with
  | load => simpa [BlockOp.againCycles] using hcycles
  | compare => simpa [BlockOp.againCycles] using hcycles
  | input =>
    rw [← completes_once (.inl rfl) h, hcycles]
    simp only [BlockOp.againCycles, reduceCtorEq, false_or]
    omega
  | output =>
    rw [← completes_once (.inr rfl) h, hcycles]
    simp only [BlockOp.againCycles, reduceCtorEq, false_or]
    omega

/-- LDIR of two bytes: 37 cycles. -/
theorem block_timing_ldir :
    37 = 21 * (2 - 1) + 16 ↔ BlockOp.load = .load ∨ BlockOp.load = .compare ∨
      hi ({ bc := 2, de := 0x2000, hl := 0x1000 } : Cpu).bc = 1 := by
  have hfirst : BlockOp.load.At .up (TestBus.withMem [0xED, 0xB0])
      ({ bc := 2, de := 0x2000, hl := 0x1000 } : Cpu).pc := ⟨rfl, rfl⟩
  have hrun : ∃ n, Completes .load .up 2 { bc := 2, de := 0x2000, hl := 0x1000 }
      (TestBus.withMem [0xED, 0xB0]) n :=
    ⟨_, Completes.again hfirst (step_block hfirst) rfl
      (Completes.last (show BlockOp.load.At .up _ _ from ⟨rfl, rfl⟩)
        (step_block (show BlockOp.load.At .up _ _ from ⟨rfl, rfl⟩)) rfl)⟩
  obtain ⟨n, h⟩ := hrun
  have hcycles : n = 37 := completes_cycles h
  exact block_timing (hcycles ▸ h)

/-- INIR of two bytes: 36 cycles, where 37 are due. -/
theorem inir_two :
    Completes .input .up 2 { bc := 0x0200, hl := 0x1000 } (TestBus.withMem [0xED, 0xB2]) 36 ∧
      36 ≠ 21 * (2 - 1) + 16 := by
  refine ⟨?_, by decide⟩
  have hfirst : BlockOp.input.At .up (TestBus.withMem [0xED, 0xB2])
      ({ bc := 0x0200, hl := 0x1000 } : Cpu).pc := ⟨rfl, rfl⟩
  have hrun : ∃ n, Completes .input .up 2 { bc := 0x0200, hl := 0x1000 }
      (TestBus.withMem [0xED, 0xB2]) n :=
    ⟨_, Completes.again hfirst (step_block hfirst) rfl
      (Completes.last (show BlockOp.input.At .up _ _ from ⟨rfl, rfl⟩)
        (step_block (show BlockOp.input.At .up _ _ from ⟨rfl, rfl⟩)) rfl)⟩
  obtain ⟨n, h⟩ := hrun
  have hcycles := completes_cycles h
  rwa [hcycles] at h

end Cpu

end Possum
