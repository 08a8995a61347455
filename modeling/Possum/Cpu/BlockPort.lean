import Possum.Cpu.Line

/-!
# Repeating input and output

`cpu/mod.rs`, `inir_wz` and `otir_wz`: one step moves one byte between the port in C and the
memory at HL, and goes back to its own two bytes while B is not zero.  From B = 0 it takes 256
steps, so two of them in a row are 512 steps of one loop.

`Core` is what the loop turns on.  A `BlockPort` is an instruction of this kind over any bus, with
what it does to the bus; `inir` and `otir` are two.  `BlockPort.run` is the loop rule: what every
transfer takes from `k` bytes moved to `k + 1`, a run takes from none to as many as it has steps.
-/

set_option autoImplicit false

namespace Possum

/-- What a repeating input or output turns on. -/
structure Core where
  pc : U16
  hl : U16
  bc : U16
  /-- IFF1, once a pending enable is taken. -/
  iff1 : Bool
  deriving DecidableEq, Repr

namespace Core

/-- One byte on: HL counts up and B down. -/
def moved (k : Core) : Core := { k with hl := k.hl + 1, bc := word (hi k.bc - 1) (lo k.bc) }

/-- Back to the two bytes of the instruction while B is not zero. -/
def rewound (k : Core) : Core := { k with pc := if hi k.bc = 0 then k.pc else k.pc - 2 }

/-- The port after `n` bytes, from B = 0. -/
def portAfter (port : U8) (n : ℕ) : U16 := word (0 - BitVec.ofNat 8 n) port

/-- The core after `n` bytes, from B = 0 and the port in C: PC is behind one instruction for
every 256 bytes. -/
def after (k : Core) (port : U8) (n : ℕ) : Core :=
  { k with
    pc := k.pc + BitVec.ofNat 16 (2 * (n / 256))
    hl := k.hl + BitVec.ofNat 16 n
    bc := portAfter port n }

theorem after_zero {k : Core} {port : U8} (hbc : k.bc = word 0 port) : k.after port 0 = k := by
  obtain ⟨pc, hl, bc, iff1⟩ := k
  obtain rfl : bc = word 0 port := hbc
  simp only [after, portAfter]
  congr 1
  · bv_omega
  · bv_omega

/-- One byte more. -/
theorem moved_after (k : Core) (port : U8) (n : ℕ) :
    { k.after port n with pc := (k.after port n).pc + 2 }.moved.rewound = k.after port (n + 1) := by
  have hb : (0 : U8) - BitVec.ofNat 8 n - 1 = 0 - BitVec.ofNat 8 (n + 1) := by bv_omega
  have hzero : (0 : U8) - BitVec.ofNat 8 (n + 1) = 0 ↔ (n + 1) % 256 = 0 := by bv_omega
  simp only [moved, rewound, after, portAfter, hi_word, lo_word, hb, hzero]
  congr 1
  · split
    · bv_omega
    · bv_omega
  · bv_omega

end Core

namespace Cpu

/-- The core of a processor. -/
def core (c : Cpu) : Core where
  pc := c.pc
  hl := c.hl
  bc := c.bc
  iff1 := c.enableInterruptsNextCycle || c.iff1

theorem core_iff1 (c : Cpu) : c.core.iff1 = c.takeEnable.iff1 := by
  rw [core, takeEnable]
  cases c.enableInterruptsNextCycle <;> rfl

theorem core_takeEnable (c : Cpu) : c.takeEnable.core = c.core := by
  unfold takeEnable core
  cases h : c.enableInterruptsNextCycle with
  | false => simp [h]
  | true => rfl

@[simp] theorem core_setFlag (c : Cpu) (f : Flag) (v : Bool) : (c.setFlag f v).core = c.core := rfl

@[simp] theorem core_setWz (c : Cpu) (v : U16) : (c.setWz v).core = c.core := rfl

@[simp] theorem core_setPc (c : Cpu) (v : U16) : (c.setPc v).core = { c.core with pc := v } := rfl

@[simp] theorem core_setHl (c : Cpu) (v : U16) : (c.setHl v).core = { c.core with hl := v } := rfl

@[simp] theorem core_setRegister (c : Cpu) (v : U8) :
    (c.setRegister .B v).core = { c.core with bc := word v (lo c.bc) } := rfl

section

variable {β : Type}

theorem core_repeatPort (r : Cpu × β) : (repeatPort r).cpu.core = r.1.core.rewound := by
  obtain ⟨c, bus⟩ := r
  have htwo : c.pc - 1 - 1 = c.pc - 2 := by bv_omega
  have hb : c.register .B = hi c.bc := rfl
  by_cases hzero : hi c.bc = 0
  · rw [repeatPort, hb, hzero, Core.rewound, if_pos (show hi c.core.bc = 0 from hzero)]
    rfl
  · have hne : (hi c.bc != 0) = true := bne_iff_ne.2 hzero
    rw [repeatPort, hb, if_pos hne, Core.rewound, if_neg (show ¬ hi c.core.bc = 0 from hzero)]
    show { c.core with pc := c.pc - 1 - 1 } = _
    rw [htwo]
    rfl

theorem bus_repeatPort (r : Cpu × β) : (repeatPort r).bus = r.2 := by
  obtain ⟨c, bus⟩ := r
  rw [repeatPort]
  split <;> rfl

variable [Bus β]

theorem core_fetch (c : Cpu) (bus : β) :
    (c.fetch bus).2.core = { c.core with pc := c.pc + 1 } := rfl

theorem core_inputBlock (c : Cpu) (bus : β) : (inputBlock up c bus).1.core = c.core.moved := by
  simp only [inputBlock, core_setFlag, core_setHl, core_setRegister, core_setWz]
  rfl

theorem core_outputBlock (c : Cpu) (bus : β) : (outputBlock up c bus).1.core = c.core.moved := by
  simp only [outputBlock, core_setFlag, core_setHl, core_setRegister, core_setWz]
  rfl

theorem core_inirWz (c : Cpu) (bus : β) : (c.inirWz bus).cpu.core = c.core.moved.rewound := by
  rw [inirWz, core_repeatPort, core_inputBlock]

theorem core_otirWz (c : Cpu) (bus : β) : (c.otirWz bus).cpu.core = c.core.moved.rewound := by
  rw [otirWz, core_repeatPort, core_outputBlock]

end

end Cpu

/-! ### Block ports -/

/-- A repeating input or output: its second byte, and what it does to the bus. -/
structure BlockPort (β : Type) [Bus β] where
  second : U8
  instr : Instr
  /-- What one byte does to the bus, with the port in BC and the address in HL. -/
  transfer : U16 → U16 → β → β
  decode : edPrefixTable second = some instr
  bus_exec : ∀ (c : Cpu) (bus : β), (c.exec bus instr).bus = transfer c.bc c.hl bus
  core_exec : ∀ (c : Cpu) (bus : β), (c.exec bus instr).cpu.core = c.core.moved.rewound

namespace BlockPort

section

variable {β : Type} [Bus β]

/-- `inir_wz`: from the port to the memory. -/
def inir : BlockPort β where
  second := 0xB2
  instr := .inirWz
  transfer bc hl bus := Bus.write (Bus.input bus bc).2 hl (Bus.input bus bc).1
  decode := rfl
  bus_exec c bus := Cpu.bus_repeatPort (Cpu.inputBlock Cpu.up c bus)
  core_exec c bus := Cpu.core_inirWz c bus

/-- `otir_wz`: from the memory to the port, with B counted down already. -/
def otir : BlockPort β where
  second := 0xB3
  instr := .otirWz
  transfer bc hl bus := Bus.output bus (word (hi bc - 1) (lo bc)) (Bus.read bus hl)
  decode := rfl
  bus_exec c bus := Cpu.bus_repeatPort (Cpu.outputBlock Cpu.up c bus)
  core_exec c bus := Cpu.core_otirWz c bus

/-- The two bytes of the instruction are at `pc`. -/
def At (p : BlockPort β) (bus : β) (pc : U16) : Prop :=
  Bus.read bus pc = 0xED ∧ Bus.read bus (pc + 1) = p.second

end

/-! ### One byte -/

section

variable {β : Type} [InterruptBus β]

/-- An interrupt that is not accepted changes nothing of the core. -/
theorem doIrq_masked {c : Cpu} {bus : β}
    (h : InterruptBus.interrupted bus = true → c.core.iff1 = false) :
    ∃ c' n, Cpu.doIrq c bus = .ok ⟨c', bus, n⟩ ∧ c'.core = c.core := by
  rw [Cpu.doIrq]
  cases hline : InterruptBus.interrupted bus with
  | false => exact ⟨c, 0, rfl, rfl⟩
  | true =>
    have hiff : c.iff1 = false := (Bool.or_eq_false_iff.1 (h hline)).2
    refine ⟨({ c with halted := false }).setWz c.pc, 2, ?_, rfl⟩
    rw [if_neg (by decide)]
    exact if_neg (by simp [hiff])

/-- **One byte**: the two bytes of the instruction are at PC, and no interrupt is accepted. -/
theorem step (p : BlockPort β) {c : Cpu} {bus : β} (hat : p.At bus c.pc)
    (hirq : InterruptBus.interrupted (p.transfer c.bc c.hl bus) = true → c.core.iff1 = false) :
    ∃ c' n, c.step bus = .ok ⟨c', p.transfer c.bc c.hl bus, n⟩ ∧
      c'.core = { c.core with pc := c.pc + 2 }.moved.rewound := by
  obtain ⟨hfirst, hsecond⟩ := hat
  have htake : c.takeEnable.core = c.core := c.core_takeEnable
  have hpc : c.takeEnable.pc = c.pc := congrArg Core.pc htake
  have htwo : c.pc + 1 + 1 = c.pc + 2 := by bv_omega
  -- the processor behind the two bytes
  obtain ⟨d, hd⟩ : ∃ d, d = ((c.takeEnable.fetch bus).2.fetch bus).2 := ⟨_, rfl⟩
  have hcore : d.core = { c.core with pc := c.pc + 2 } := by
    rw [hd, Cpu.core_fetch, Cpu.core_fetch, Cpu.pc_fetch, htake, hpc, htwo]
  have hbc : d.bc = c.bc := congrArg Core.bc hcore
  have hhl : d.hl = c.hl := congrArg Core.hl hcore
  have hdecoded : c.decoded bus = some ⟨p.instr, d, 4⟩ := by
    rw [hd]
    apply Cpu.decoded_of_extended
    · rw [hpc, hfirst]
      rfl
    · rw [hpc, hsecond, p.decode]
  have hbus : (d.exec bus p.instr).bus = p.transfer c.bc c.hl bus := by
    rw [p.bus_exec, hbc, hhl]
  have hexec : (d.exec bus p.instr).cpu.core = { c.core with pc := c.pc + 2 }.moved.rewound := by
    rw [p.core_exec, hcore]
  have hmasked : InterruptBus.interrupted (d.exec bus p.instr).bus = true →
      (d.exec bus p.instr).cpu.core.iff1 = false := by
    rw [hbus, hexec]
    exact hirq
  obtain ⟨c', n, hirq', hcore'⟩ := doIrq_masked hmasked
  refine ⟨c', 4 + (d.exec bus p.instr).cycles + n, ?_, hcore'.trans hexec⟩
  rw [Cpu.step, Cpu.instruction_of_decoded hdecoded]
  show (Cpu.doIrq (d.exec bus p.instr).cpu (d.exec bus p.instr).bus).map _ = _
  rw [hirq', hbus]
  rfl

end

end BlockPort

/-! ### Many bytes -/

/-- `n` steps of the processor.  Behind step `i` the rest of the system makes `world i` of the
bus. -/
def Cpu.steps {β : Type} [InterruptBus β] (world : ℕ → β → β) :
    ℕ → Cpu → β → Except Cpu.Fault (Cpu × β)
  | 0, c, bus => .ok (c, bus)
  | n + 1, c, bus =>
    (steps world n c bus).bind fun r => (r.1.step r.2).map fun o => (o.cpu, world n o.bus)

namespace BlockPort

variable {β : Type} [InterruptBus β]

/-- **The loop rule.**  `R k` is what holds of the bus after `k` bytes: there the instruction is
at its place, one place further for every 256 bytes, and a transfer takes the bus to `R (k + 1)`,
with no interrupt accepted.  Then `n` steps move `n` bytes. -/
theorem run (p : BlockPort β) (world : ℕ → β → β) {port : U8} {c : Cpu} {bus : β}
    (hbc : c.bc = word 0 port) {R : ℕ → β → Prop} (hR : R 0 bus) (n : ℕ)
    (hmove : ∀ k < n, ∀ b, R k b →
      p.At b (c.pc + BitVec.ofNat 16 (2 * (k / 256))) ∧
      (InterruptBus.interrupted
        (p.transfer (Core.portAfter port k) (c.hl + BitVec.ofNat 16 k) b) = true →
          c.core.iff1 = false) ∧
      R (k + 1) (world k (p.transfer (Core.portAfter port k) (c.hl + BitVec.ofNat 16 k) b))) :
    ∃ c' bus', c.steps world n bus = .ok (c', bus') ∧ c'.core = c.core.after port n ∧ R n bus' := by
  induction n with
  | zero => exact ⟨c, bus, rfl, (Core.after_zero hbc).symm, hR⟩
  | succ n ih =>
    obtain ⟨c₁, b, hsteps, hcore, hRn⟩ := ih fun k hk => hmove k (by omega)
    have hpc : c₁.pc = c.pc + BitVec.ofNat 16 (2 * (n / 256)) := congrArg Core.pc hcore
    have hhl : c₁.hl = c.hl + BitVec.ofNat 16 n := congrArg Core.hl hcore
    have hbc₁ : c₁.bc = Core.portAfter port n := congrArg Core.bc hcore
    have hiff : c₁.core.iff1 = c.core.iff1 := by
      rw [hcore]
      rfl
    obtain ⟨hat, hirq, hnext⟩ := hmove n (Nat.lt_succ_self n) b hRn
    rw [← hpc] at hat
    rw [← hbc₁, ← hhl] at hirq hnext
    obtain ⟨c', cycles, hstep, hcore'⟩ := p.step hat (by rw [hiff]; exact hirq)
    refine ⟨c', world n (p.transfer c₁.bc c₁.hl b), ?_, ?_, hnext⟩
    · rw [Cpu.steps, hsteps]
      show (c₁.step b).map _ = _
      rw [hstep]
      rfl
    · rw [hcore', ← Core.moved_after, ← hcore]
      rfl

end BlockPort

end Possum
