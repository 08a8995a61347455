import Possum.Cpu.Control

/-!
# The interrupt line and one step

A step has two parts.  The instruction does not look at the interrupt line
(`instruction_wired`); `do_irq` looks at nothing else of the bus, and does one of three
things, which `step_released`, `step_masked` and `step_accepted` state for the whole step.

`decoded c bus` is the instruction that a step from `c` executes.  `control_instruction` says
what it makes of the interrupt fields.
-/

set_option autoImplicit false

namespace Possum

/-- The outcome on the bare bus, with the line back in place. -/
def Outcome.wired {β : Type} (line : Bool) (o : Outcome β) : Outcome (Wired β) :=
  ⟨o.cpu, ⟨o.bus, line⟩, o.cycles⟩

namespace Cpu

variable {β : Type} [Bus β]

/-! ### The instruction of a step -/

/-- The instruction that a step executes, with the processor past its opcode bytes. -/
def decoded (c : Cpu) (bus : β) : Option Decoded :=
  let c := c.takeEnable
  let (opcode, c) := c.fetch bus
  decode bus callLimit opcode c

theorem instruction_eq (c : Cpu) (bus : β) :
    c.instruction bus = (c.decoded bus).map fun d => d.run bus :=
  doOpcode_eq bus callLimit _ _

theorem instruction_of_decoded {c : Cpu} {bus : β} {d : Decoded} (h : c.decoded bus = some d) :
    c.instruction bus = some (d.run bus) := by
  rw [instruction_eq, h, Option.map_some]

section

variable {κ : Type} {part : Cpu → κ} {bus : β}

theorem part_decodeIndex (hfetch : ∀ c : Cpu, part (c.fetch bus).2 = part c)
    (himmediate : ∀ c : Cpu, part (c.immediate bus).2 = part c) {index : U8 → IndexArm}
    {bits : U16 → U8 → Instr} {again : U8 → Cpu → Option Decoded}
    (hagain : ∀ opcode c d, again opcode c = some d → part d.cpu = part c) {c : Cpu}
    {d : Decoded} (h : c.decodeIndex index bits again bus = some d) : part d.cpu = part c := by
  rw [decodeIndex] at h
  cases hop : index (c.fetch bus).1 with
  | run i =>
    simp only [hop, Option.some.injEq] at h
    rw [← h, hfetch]
  | bits =>
    simp only [hop, Option.some.injEq] at h
    rw [← h, hfetch, himmediate, hfetch]
  | fallback =>
    simp only [hop, Option.map_eq_some_iff] at h
    obtain ⟨d', hd, rfl⟩ := h
    rw [Decoded.addCycles, hagain _ _ _ hd, hfetch]

theorem part_decodeExtended (hfetch : ∀ c : Cpu, part (c.fetch bus).2 = part c)
    {again : U8 → Cpu → Option Decoded}
    (hagain : ∀ opcode c d, again opcode c = some d → part d.cpu = part c) {c : Cpu}
    {d : Decoded} (h : c.decodeExtended again bus = some d) : part d.cpu = part c := by
  rw [decodeExtended] at h
  cases hop : edPrefixTable (c.fetch bus).1 with
  | some i =>
    simp only [hop, Option.some.injEq] at h
    rw [← h, hfetch]
  | none =>
    simp only [hop, Option.map_eq_some_iff] at h
    obtain ⟨d', hd, rfl⟩ := h
    rw [Decoded.addCycles, hagain _ _ _ hd, hfetch]

/-- Decoding leaves every part of the processor that fetching leaves. -/
theorem part_decode (hfetch : ∀ c : Cpu, part (c.fetch bus).2 = part c)
    (himmediate : ∀ c : Cpu, part (c.immediate bus).2 = part c) {fuel : ℕ} {opcode : U8} {c : Cpu}
    {d : Decoded} (h : decode bus fuel opcode c = some d) : part d.cpu = part c := by
  induction fuel generalizing opcode c d with
  | zero => cases h
  | succ fuel ih =>
    have hagain : ∀ opcode c d, decode bus fuel opcode c = some d → part d.cpu = part c :=
      fun _ _ _ => ih
    rw [decode] at h
    cases hop : doOpcodeTable opcode with
    | run i =>
      simp only [hop, Option.some.injEq] at h
      rw [← h]
    | cb =>
      simp only [hop, Option.some.injEq] at h
      rw [← h, hfetch]
    | dd =>
      simp only [hop] at h
      exact part_decodeIndex hfetch himmediate hagain h
    | ed =>
      simp only [hop] at h
      exact part_decodeExtended hfetch hagain h
    | fd =>
      simp only [hop] at h
      exact part_decodeIndex hfetch himmediate hagain h

theorem part_decoded (hfetch : ∀ c : Cpu, part (c.fetch bus).2 = part c)
    (himmediate : ∀ c : Cpu, part (c.immediate bus).2 = part c)
    (htake : ∀ c : Cpu, part c.takeEnable = part c) {c : Cpu} {d : Decoded}
    (h : c.decoded bus = some d) : part d.cpu = part c :=
  (part_decode hfetch himmediate h).trans ((hfetch c.takeEnable).trans (htake c))

end

/-- Decoding moves PC and R only. -/
theorem control_decoded {c : Cpu} {bus : β} {d : Decoded} (h : c.decoded bus = some d) :
    d.cpu.control = c.takeEnable.control :=
  (part_decode (fun c => control_fetch c bus) (fun c => control_immediate c bus) h).trans
    (control_fetch c.takeEnable bus)

/-- The instruction alone. -/
def executes (c : Cpu) (bus : β) : Option Instr := (c.decoded bus).map fun d => d.instr

theorem executes_eq_some {c : Cpu} {bus : β} {i : Instr} (h : c.executes bus = some i) :
    ∃ d, c.decoded bus = some d ∧ d.instr = i :=
  Option.map_eq_some_iff.1 h

theorem executes_of_decoded {c : Cpu} {bus : β} {d : Decoded} (h : c.decoded bus = some d) :
    c.executes bus = some d.instr := by
  rw [executes, h, Option.map_some]

theorem decoded_of_run {c : Cpu} {bus : β} {i : Instr}
    (h : doOpcodeTable (Bus.read bus c.takeEnable.pc) = .run i) :
    c.decoded bus = some ⟨i, (c.takeEnable.fetch bus).2, 0⟩ := by
  show decode bus callLimit (Bus.read bus c.takeEnable.pc) (c.takeEnable.fetch bus).2 = _
  rw [callLimit_eq, decode, h]

theorem decoded_of_extended {c : Cpu} {bus : β} {i : Instr}
    (h : doOpcodeTable (Bus.read bus c.takeEnable.pc) = .ed)
    (hi : edPrefixTable (Bus.read bus (c.takeEnable.pc + 1)) = some i) :
    c.decoded bus = some ⟨i, ((c.takeEnable.fetch bus).2.fetch bus).2, 4⟩ := by
  show decode bus callLimit (Bus.read bus c.takeEnable.pc) (c.takeEnable.fetch bus).2 = _
  rw [callLimit_eq, decode, h]
  simp only [decodeExtended, fetch_fst, pc_fetch, hi]

/-- What the instruction of a step makes of the interrupt fields. -/
theorem control_instruction {c : Cpu} {bus : β} {d : Decoded} (h : c.decoded bus = some d) :
    (d.run bus).cpu.control = d.instr.effect c.takeEnable.control := by
  show (d.cpu.exec bus d.instr).cpu.control = _
  rw [control_exec, control_decoded h]

/-! ### The instruction does not see the line -/

/-- Decoding depends on what memory reads only. -/
theorem decode_congr {γ : Type} [Bus γ] {bus : β} {bus' : γ}
    (h : ∀ a, Bus.read bus a = Bus.read bus' a) (fuel : ℕ) (opcode : U8) (c : Cpu) :
    decode bus fuel opcode c = decode bus' fuel opcode c := by
  have himm (c : Cpu) : c.immediate bus = c.immediate bus' := by simp only [immediate, h]
  have hfetch (c : Cpu) : c.fetch bus = c.fetch bus' := by simp only [fetch, himm]
  induction fuel generalizing opcode c with
  | zero => rfl
  | succ fuel ih =>
    have hrec : decode bus fuel = decode bus' fuel := by
      funext opcode c
      exact ih opcode c
    simp only [decode, decodeIndex, decodeExtended, hrec, hfetch, himm]

omit [Bus β] in
theorem repeat_wired (again : Bool) (o : Outcome β) (line : Bool) :
    (if again then rewound (o.wired line) else o.wired line) =
      (if again then rewound o else o).wired line := by
  cases again <;> rfl

omit [Bus β] in
theorem repeatPort_wired (c : Cpu) (bus : β) (line : Bool) :
    repeatPort (c, (⟨bus, line⟩ : Wired β)) = (repeatPort (c, bus)).wired line := by
  simp only [repeatPort]
  split <;> rfl

theorem exec_wired (c : Cpu) (bus : β) (line : Bool) (i : Instr) :
    c.exec (⟨bus, line⟩ : Wired β) i = (c.exec bus i).wired line := by
  cases i with
  | djnzWz => simp only [exec, djnzWz]; split <;> rfl
  | conditionalJumpRelativeWz cc => simp only [exec, conditionalJumpRelativeWz]; split <;> rfl
  | conditionalReturnWz cc => simp only [exec, conditionalReturnWz]; split <;> rfl
  | conditionalCallWz cc => simp only [exec, conditionalCallWz]; split <;> rfl
  | ldir => exact repeat_wired _ (loadBlock up c bus) line
  | lddr => exact repeat_wired _ (loadBlock down c bus) line
  | cpir => exact repeat_wired _ (compareBlock up c bus) line
  | cpdrWz => exact repeat_wired _ (compareBlock down c bus) line
  | inirWz | indrWz | otirWz | otdrWz => exact repeatPort_wired _ _ _
  | rlcIndexIndirectWz | rrcIndexIndirectWz | rlIndexIndirectWz | rrIndexIndirectWz
  | slaIndexIndirectWz | sraIndexIndirectWz | sllIndexIndirectWz | srlIndexIndirectWz
  | resetBitIndexIndirectWz | setBitIndexIndirectWz =>
    rename_i reg
    cases reg <;> rfl
  | _ => rfl

theorem decoded_wired (c : Cpu) (bus : β) (line : Bool) :
    c.decoded (⟨bus, line⟩ : Wired β) = c.decoded bus := by
  show decode (⟨bus, line⟩ : Wired β) callLimit (c.takeEnable.fetch bus).1
    (c.takeEnable.fetch bus).2
      = decode bus callLimit (c.takeEnable.fetch bus).1 (c.takeEnable.fetch bus).2
  apply decode_congr
  intro a
  rfl

theorem instruction_wired (c : Cpu) (bus : β) (line : Bool) :
    c.instruction (⟨bus, line⟩ : Wired β) = (c.instruction bus).map fun o => o.wired line := by
  rw [instruction_eq, instruction_eq, decoded_wired, Option.map_map]
  congr 1
  funext d
  show (d.cpu.exec (⟨bus, line⟩ : Wired β) d.instr).addCycles d.cycles = _
  rw [exec_wired]
  rfl

/-! ### Steps -/

/-- The processor after an accepted interrupt in mode 1, and the bus with the stacked PC. -/
def acknowledge (c : Cpu) (bus : β) : Cpu × β :=
  let c := { c with halted := false, iff1 := false, iff2 := false }
  let (c, bus) := c.pushBase c.pc bus
  (c.setPc 0x0038, bus)

/-- The processor after a masked interrupt. -/
def ignore (c : Cpu) : Cpu := ({ c with halted := false }).setWz c.pc

theorem step_eq (c : Cpu) (bus : β) (line : Bool) :
    c.step (⟨bus, line⟩ : Wired β) =
      match c.instruction bus with
      | none => .error .endless
      | some o =>
        (doIrq o.cpu (⟨o.bus, line⟩ : Wired β)).map fun irq => irq.addCycles o.cycles := by
  rw [step, instruction_wired]
  cases c.instruction bus <;> rfl

variable {c : Cpu} {bus : β} {o : Outcome β}

theorem step_released (h : c.instruction bus = some o) :
    c.step (⟨bus, false⟩ : Wired β) = .ok (o.wired false) := by
  rw [step_eq, h]
  rfl

theorem step_masked (h : c.instruction bus = some o) (hmask : o.cpu.iff1 = false) :
    c.step (⟨bus, true⟩ : Wired β) = .ok ⟨o.cpu.ignore, ⟨o.bus, true⟩, o.cycles + 2⟩ := by
  rw [step_eq, h]
  simp only [doIrq, InterruptBus.interrupted]
  rw [if_neg (by decide), if_neg (by simp [hmask])]
  rfl

theorem step_accepted (h : c.instruction bus = some o) (hiff : o.cpu.iff1 = true)
    (hmode : o.cpu.interruptMode = .one) :
    c.step (⟨bus, true⟩ : Wired β) =
      .ok ⟨(o.cpu.acknowledge o.bus).1, ⟨(o.cpu.acknowledge o.bus).2, true⟩, o.cycles + 13⟩ := by
  rw [step_eq, h]
  simp only [doIrq, InterruptBus.interrupted]
  rw [if_neg (by decide), if_pos hiff]
  split
  · next hzero => exact absurd (hmode.symm.trans hzero) (by decide)
  · rfl
  · next htwo => exact absurd (hmode.symm.trans htwo) (by decide)

/-- **What a step can do.**  It executes an instruction, and with the line asserted it
ignores the interrupt or accepts it, as IFF1 says after the instruction. -/
theorem step_cases {line : Bool} {r : Outcome (Wired β)}
    (h : c.step (⟨bus, line⟩ : Wired β) = .ok r) :
    ∃ o, c.instruction bus = some o ∧
      (line = false ∧ r.cpu = o.cpu ∨
        line = true ∧ o.cpu.iff1 = false ∧ r.cpu = o.cpu.ignore ∨
        line = true ∧ o.cpu.iff1 = true ∧ o.cpu.interruptMode = .one ∧
          r.cpu = (o.cpu.acknowledge o.bus).1) := by
  cases hins : c.instruction bus with
  | none =>
    rw [step_eq, hins] at h
    cases h
  | some o =>
    refine ⟨o, rfl, ?_⟩
    cases line with
    | false =>
      rw [step_released hins] at h
      cases h
      exact .inl ⟨rfl, rfl⟩
    | true =>
      cases hiff : o.cpu.iff1 with
      | false =>
        rw [step_masked hins hiff] at h
        cases h
        exact .inr (.inl ⟨rfl, rfl, rfl⟩)
      | true =>
        cases hmode : o.cpu.interruptMode with
        | one =>
          rw [step_accepted hins hiff hmode] at h
          cases h
          exact .inr (.inr ⟨rfl, rfl, rfl, rfl⟩)
        | zero | two =>
          rw [step_eq, hins] at h
          simp [doIrq, InterruptBus.interrupted, hiff, hmode, Except.map] at h

end Cpu

end Possum
