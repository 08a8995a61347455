import Possum.Cpu.Line

/-!
# Termination of a step

A prefix whose page does not list the next byte passes that byte on to `do_opcode`, which may
find another prefix.  PC wraps, so the only memories over which this never ends are those in
which every byte continues the chain (`Endless`), and over those no step returns at all.
`terminates_iff` states this for the calls of `do_opcode`, however many there may be;
`step_endless_iff` and `step_returns_iff` state it for the step of the model.
-/

set_option autoImplicit false

namespace Possum.Cpu

variable {β : Type} [Bus β]

/-- Some number of nested calls of `do_opcode` is enough for the instruction at PC. -/
def Terminates (c : Cpu) (bus : β) : Prop :=
  ∃ fuel o, doOpcode bus fuel (c.takeEnable.fetch bus).1 (c.takeEnable.fetch bus).2 = some o

/-- Every byte of the memory is a prefix whose page does not list the byte behind it. -/
def Endless (bus : β) : Prop := ∀ a : U16, chains (Bus.read bus a) (Bus.read bus (a + 1)) = true

/-- The chain that a step reads is the memory from PC on. -/
theorem chainByte_fetch (c : Cpu) (bus : β) (k : ℕ) :
    chainByte bus (c.takeEnable.fetch bus).1 (c.takeEnable.fetch bus).2.pc k =
      Bus.read bus (c.takeEnable.pc + BitVec.ofNat 16 k) := by
  rw [fetch_fst, pc_fetch, chainByte_succ bus 0, chainByte_add_one]

theorem instruction_eq_none_iff (c : Cpu) (bus : β) : c.instruction bus = none ↔ Endless bus := by
  have hnone : c.instruction bus = none ↔
      decode bus callLimit (c.takeEnable.fetch bus).1 (c.takeEnable.fetch bus).2 = none := by
    rw [instruction_eq, Option.map_eq_none_iff]
    rfl
  rw [hnone, decode_eq_none_iff]
  simp only [chainByte_fetch]
  constructor
  · intro h a
    -- the chain passes through every address
    have hk := h (a - c.takeEnable.pc).toNat (by rw [callLimit_eq]; omega)
    have hat : c.takeEnable.pc + BitVec.ofNat 16 (a - c.takeEnable.pc).toNat = a := by
      rw [BitVec.ofNat_toNat, BitVec.setWidth_eq]
      bv_omega
    have hnext : c.takeEnable.pc + BitVec.ofNat 16 ((a - c.takeEnable.pc).toNat + 1) = a + 1 := by
      rw [BitVec.ofNat_add, ← BitVec.add_assoc, hat]
      rfl
    rwa [hat, hnext] at hk
  · intro h k _
    have hnext : c.takeEnable.pc + BitVec.ofNat 16 (k + 1) =
        c.takeEnable.pc + BitVec.ofNat 16 k + 1 := by
      rw [BitVec.ofNat_add, ← BitVec.add_assoc]
      rfl
    rw [hnext]
    exact h (c.takeEnable.pc + BitVec.ofNat 16 k)

theorem terminates_iff_instruction (c : Cpu) (bus : β) :
    c.Terminates bus ↔ ∃ o, c.instruction bus = some o := by
  show (∃ fuel o, _) ↔ ∃ o, doOpcode bus callLimit _ _ = some o
  simp only [doOpcode_callLimit]
  exact exists_comm

/-- A step fails to return over an endless memory, whatever the interrupt line does. -/
theorem step_endless_iff (c : Cpu) (bus : β) (line : Bool) :
    c.step (⟨bus, line⟩ : Wired β) = .error .endless ↔ Endless bus := by
  rw [← instruction_eq_none_iff c bus, step_eq]
  cases c.instruction bus with
  | none => simp
  | some o =>
    simp only [reduceCtorEq, iff_false]
    cases line with
    | false => simp [doIrq, InterruptBus.interrupted, Except.map]
    | true =>
      cases hiff : o.cpu.iff1 with
      | false => simp [doIrq, InterruptBus.interrupted, hiff, Except.map]
      | true =>
        cases hmode : o.cpu.interruptMode <;>
          simp [doIrq, InterruptBus.interrupted, hiff, hmode, Except.map]

/-- Without an interrupt the step returns as soon as its calls come to an end. -/
theorem step_returns_iff (c : Cpu) (bus : β) :
    (∃ r, c.step (⟨bus, false⟩ : Wired β) = .ok r) ↔ c.Terminates bus := by
  rw [terminates_iff_instruction]
  constructor
  · rintro ⟨r, hr⟩
    cases hins : c.instruction bus with
    | none =>
      rw [step_eq, hins] at hr
      cases hr
    | some o => exact ⟨o, rfl⟩
  · rintro ⟨o, ho⟩
    exact ⟨_, step_released ho⟩

/-- **A step terminates exactly if some byte of the memory ends the chain of prefixes**: it is
no prefix, or its page lists the byte behind it. -/
theorem terminates_iff (c : Cpu) (bus : β) :
    (c.Terminates bus ↔
      ∃ a : U16, chains (Bus.read bus a) (Bus.read bus (a + 1)) = false) ∧
    ((∃ r, c.step (⟨bus, false⟩ : Wired β) = .ok r) ↔
      ∃ a : U16, chains (Bus.read bus a) (Bus.read bus (a + 1)) = false) ∧
    ∀ line, (c.step (⟨bus, line⟩ : Wired β) ≠ .error .endless ↔
      ∃ a : U16, chains (Bus.read bus a) (Bus.read bus (a + 1)) = false) := by
  have hend : (∃ a : U16, chains (Bus.read bus a) (Bus.read bus (a + 1)) = false) ↔
      ¬ Endless bus := by
    simp only [Endless, not_forall, Bool.not_eq_true]
  have hterm : c.Terminates bus ↔ ¬ Endless bus := by
    rw [terminates_iff_instruction, ← instruction_eq_none_iff c bus, ← ne_eq,
      Option.ne_none_iff_exists']
  rw [step_returns_iff, hend]
  refine ⟨hterm, hterm, fun line => ?_⟩
  rw [ne_eq, step_endless_iff]

/-- A memory of nothing but 0xDD. -/
theorem not_terminates_dd :
    ¬ ({} : Cpu).Terminates (⟨fun _ => 0xDD, fun _ => 0⟩ : TestBus) := by
  intro h
  obtain ⟨o, ho⟩ := (terminates_iff_instruction _ _).1 h
  have hend : Endless (⟨fun _ => 0xDD, fun _ => 0⟩ : TestBus) := fun _ => rfl
  rw [(instruction_eq_none_iff ({} : Cpu) _).2 hend] at ho
  cases ho

end Possum.Cpu
