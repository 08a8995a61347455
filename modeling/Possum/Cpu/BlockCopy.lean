import Possum.Cpu.Repeat

/-!
# LDIR and LDDR

`cpu/mod.rs`, `ldi`, `ldd`, `ldir` and `lddr`.  `copied` is the copy of a block byte by byte, each
byte read from what the copy so far has made of the memory, so that overlapping and wrapping ranges
mean what the processor makes of them.

`Copying` is what holds after `k` bytes; `load_step` takes it from `k` to `k + 1`, and
**`block_copy`** reads off its end.
-/

set_option autoImplicit false

namespace Possum

/-- `n` bytes copied one after the other. -/
def copied (w : Way) (n : ℕ) (src dst : U16) (mem : U16 → U8) : U16 → U8 :=
  match n with
  | 0 => mem
  | n + 1 =>
    let before := copied w n src dst mem
    Function.update before (w.after n dst) (before (w.after n src))

/-- Outside of the destination nothing changes. -/
theorem copied_of_out {w : Way} {n : ℕ} {src dst a : U16} (mem : U16 → U8)
    (h : ∀ k < n, w.after k dst ≠ a) : copied w n src dst mem a = mem a := by
  induction n with
  | zero => rfl
  | succ n ih =>
    rw [copied, Function.update_of_ne (h n (Nat.lt_succ_self n)).symm]
    exact ih fun k hk => h k (by omega)

namespace Cpu

variable {β : Type} [Bus β]

/-! ### One byte -/

theorem exec_load (w : Way) (c : Cpu) (bus : β) :
    c.exec bus (BlockOp.load.instr w) =
      if (loadBlock w.move c bus).cpu.flag .PV then rewound (loadBlock w.move c bus)
      else loadBlock w.move c bus := by
  cases w <;> rfl

/-- PV says whether there is more. -/
theorem flag_loadBlock (move : U16 → U16) (c : Cpu) (bus : β) :
    (loadBlock move c bus).cpu.flag .PV = (c.bc - 1 != 0) := by
  simp only [loadBlock, flag_setFlag, reduceCtorEq, if_false, if_true]
  rfl

theorem counters_loadBlock (move : U16 → U16) (c : Cpu) (bus : β) :
    (loadBlock move c bus).cpu.hl = move c.hl ∧ (loadBlock move c bus).cpu.de = move c.de ∧
      (loadBlock move c bus).cpu.bc = c.bc - 1 ∧ (loadBlock move c bus).cpu.pc = c.pc := by
  simp only [loadBlock, hl_setFlag, de_setFlag, bc_setFlag, pc_setFlag]
  exact ⟨rfl, rfl, rfl, rfl⟩

theorem erased_loadBlock (move : U16 → U16) (c : Cpu) (bus : β) :
    (loadBlock move c bus).cpu.erased = c.erased := by
  simp only [loadBlock, erased_setFlag, erased_setBc, erased_setDe, erased_setHl]

/-- **What LDIR and LDDR do with one byte.** -/
theorem load_exec (w : Way) (c : Cpu) (bus : β) :
    (c.exec bus (BlockOp.load.instr w)).bus = Bus.write bus c.de (Bus.read bus c.hl) ∧
      (c.exec bus (BlockOp.load.instr w)).cpu.hl = w.move c.hl ∧
      (c.exec bus (BlockOp.load.instr w)).cpu.de = w.move c.de ∧
      (c.exec bus (BlockOp.load.instr w)).cpu.bc = c.bc - 1 ∧
      (c.exec bus (BlockOp.load.instr w)).cpu.pc =
        (if c.bc - 1 = 0 then c.pc else c.pc - 2) ∧
      (c.exec bus (BlockOp.load.instr w)).cpu.flag .PV = (c.bc - 1 != 0) ∧
      (c.exec bus (BlockOp.load.instr w)).cpu.erased = c.erased := by
  have hpv := flag_loadBlock w.move c bus
  have herased := erased_loadBlock w.move c bus
  obtain ⟨hhl, hde, hbc, hpc⟩ := counters_loadBlock w.move c bus
  rw [exec_load]
  by_cases hzero : c.bc - 1 = 0
  · have hstop : ¬ (loadBlock w.move c bus).cpu.flag .PV = true := by
      rw [hpv, hzero]
      decide
    rw [if_neg hstop, if_pos hzero]
    exact ⟨rfl, hhl, hde, hbc, hpc, hpv, herased⟩
  · have hagain : (loadBlock w.move c bus).cpu.flag .PV = true := by
      rw [hpv]
      exact bne_iff_ne.2 hzero
    rw [if_pos hagain, if_neg hzero]
    simp only [bus_rewound, hl_rewound, de_rewound, bc_rewound, pc_rewound, flag_rewound,
      erased_rewound]
    exact ⟨rfl, hhl, hde, hbc, congrArg (· - 2) hpc, hpv, herased⟩

/-! ### The loop -/

/-- What holds after `k` bytes of a copy that started with `c` and `bus`. -/
structure Copying (w : Way) (c : Cpu) (bus : β) (k : ℕ) (c' : Cpu) (bus' : Wired β) : Prop where
  pc : c'.pc = if k < blockLength c.bc then c.pc else c.pc + 2
  bc : c'.bc = c.bc - BitVec.ofNat 16 k
  hl : c'.hl = w.after k c.hl
  de : c'.de = w.after k c.de
  more : 0 < k → c'.flag .PV = (c'.bc != 0)
  settled : 0 < k → c'.takeEnable = c'
  kept : c'.takeEnable.erased = c.takeEnable.erased
  line : bus'.line = false
  ram : ∀ a, Bus.read bus'.bus a = copied w k c.hl c.de (Bus.read bus) a

theorem Copying.start (w : Way) (c : Cpu) (bus : β) : Copying w c bus 0 c ⟨bus, false⟩ where
  pc := (if_pos (blockLength_pos c.bc)).symm
  bc := (BitVec.sub_zero c.bc).symm
  hl := (w.after_zero c.hl).symm
  de := (w.after_zero c.de).symm
  more h := absurd h (Nat.lt_irrefl 0)
  settled h := absurd h (Nat.lt_irrefl 0)
  kept := rfl
  line := rfl
  ram _ := rfl

variable [RamBus β]

/-- **One byte more.** -/
theorem load_step {w : Way} {c : Cpu} {bus : β} (hat : BlockOp.load.At w bus c.pc)
    (hout : ∀ k < blockLength c.bc, w.after k c.de ≠ c.pc ∧ w.after k c.de ≠ c.pc + 1) {k : ℕ}
    (hk : k < blockLength c.bc) {c' : Cpu} {bus' : Wired β} (h : Copying w c bus k c' bus') :
    ∃ o, c'.step bus' = .ok o ∧ Copying w c bus (k + 1) o.cpu o.bus := by
  obtain ⟨b, line⟩ := bus'
  obtain rfl : line = false := h.line
  have hpc : c'.pc = c.pc := h.pc.trans (if_pos hk)
  -- the copy has not reached the instruction
  have hcode : BlockOp.load.At w b c'.pc := by
    rw [hpc]
    refine ⟨?_, ?_⟩
    · rw [h.ram, copied_of_out _ fun j hj => (hout j (by omega)).1]
      exact hat.1
    · rw [h.ram, copied_of_out _ fun j hj => (hout j (by omega)).2]
      exact hat.2
  let d := c'.takeEnable.past 2
  have hdpc : d.pc = c.pc + 2 := (congrArg (· + 2) (pc_takeEnable c')).trans (by rw [hpc])
  have hdhl : d.hl = w.after k c.hl := (wideRegister_takeEnable c' .HL).trans h.hl
  have hdde : d.de = w.after k c.de := (wideRegister_takeEnable c' .DE).trans h.de
  have hdbc : d.bc = c.bc - BitVec.ofNat 16 k := (wideRegister_takeEnable c' .BC).trans h.bc
  obtain ⟨hbus, hhl, hde, hbc, hpc', hpv, herased⟩ := load_exec w d b
  refine ⟨_, step_block hcode, ?_⟩
  have hcount := count_eq_zero hk
  have hkept : (d.exec b (BlockOp.load.instr w)).cpu.erased = c'.takeEnable.erased :=
    herased.trans (erased_past c'.takeEnable 2)
  exact {
    pc := by
      show (d.exec b (BlockOp.load.instr w)).cpu.pc = _
      rw [hpc', hdbc, hdpc]
      by_cases hlast : k + 1 = blockLength c.bc
      · rw [if_pos (hcount.2 hlast), if_neg (by omega)]
      · rw [if_neg fun h => hlast (hcount.1 h), if_pos (by omega)]
        bv_omega
    bc := by
      show (d.exec b (BlockOp.load.instr w)).cpu.bc = _
      rw [hbc, hdbc]
      bv_omega
    hl := by
      show (d.exec b (BlockOp.load.instr w)).cpu.hl = _
      rw [hhl, hdhl, w.move_after]
    de := by
      show (d.exec b (BlockOp.load.instr w)).cpu.de = _
      rw [hde, hdde, w.move_after]
    more := fun _ => by
      show (d.exec b (BlockOp.load.instr w)).cpu.flag .PV =
        ((d.exec b (BlockOp.load.instr w)).cpu.bc != 0)
      rw [hpv, hbc]
    settled := fun _ => takeEnable_of_erased hkept
    kept := by
      show (d.exec b (BlockOp.load.instr w)).cpu.takeEnable.erased = _
      rw [takeEnable_of_erased hkept, hkept, h.kept]
    line := rfl
    ram := fun a => by
      show Bus.read (d.exec b (BlockOp.load.instr w)).bus a = _
      rw [hbus, RamBus.read_write, copied, Function.update_apply, hdde, hdhl, h.ram, h.ram] }

/-! ### The block -/

/-- **LDIR and LDDR copy blocks.**  After as many steps as BC counts, and not before, PC is past
the instruction; BC is 0, HL and DE are past the block, PV is clear, the other registers are as
they were and memory is the copy, byte by byte. -/
theorem block_copy (w : Way) (c : Cpu) (bus : β) (hat : BlockOp.load.At w bus c.pc)
    (hout : ∀ k < blockLength c.bc, w.after k c.de ≠ c.pc ∧ w.after k c.de ≠ c.pc + 1) :
    (∀ k < blockLength c.bc, ∃ o, c.many k (⟨bus, false⟩ : Wired β) = .ok o ∧ o.cpu.pc = c.pc) ∧
    ∃ o, c.many (blockLength c.bc) (⟨bus, false⟩ : Wired β) = .ok o ∧
      o.cpu.pc = c.pc + 2 ∧ o.cpu.bc = 0 ∧ o.cpu.hl = w.after (blockLength c.bc) c.hl ∧
      o.cpu.de = w.after (blockLength c.bc) c.de ∧ o.cpu.flag .PV = false ∧
      o.cpu.erased = c.takeEnable.erased ∧
      ∀ a, Bus.read o.bus a = copied w (blockLength c.bc) c.hl c.de (Bus.read bus) a := by
  have hrun (n : ℕ) (hn : n ≤ blockLength c.bc) :
      ∃ o, c.many n (⟨bus, false⟩ : Wired β) = .ok o ∧ Copying w c bus n o.cpu o.bus :=
    many_of_step (Copying.start w c bus) n fun k hk _ _ h =>
      load_step hat hout (lt_of_lt_of_le hk hn) h
  constructor
  · intro k hk
    obtain ⟨o, hmany, h⟩ := hrun k hk.le
    exact ⟨o, hmany, h.pc.trans (if_pos hk)⟩
  · obtain ⟨o, hmany, h⟩ := hrun (blockLength c.bc) le_rfl
    have hpos := blockLength_pos c.bc
    have hbc : o.cpu.bc = 0 := by
      rw [h.bc, ofNat_blockLength]
      exact BitVec.sub_self c.bc
    refine ⟨o, hmany, h.pc.trans (if_neg (Nat.lt_irrefl _)), hbc, h.hl, h.de, ?_, ?_, h.ram⟩
    · rw [h.more hpos, hbc]
      rfl
    · rw [← h.kept, h.settled hpos]

/-- LDIR over two bytes that overlap: the first is copied twice. -/
theorem block_copy_fill :
    ∃ o, ({ bc := 2, hl := 2, de := 3 } : Cpu).many 2
        (⟨TestBus.withMem [0xED, 0xB0, 0x42, 0, 0], false⟩ : Wired TestBus) = .ok o ∧
      o.cpu.pc = 2 ∧ o.cpu.hl = 4 ∧
      ∀ a, Bus.read o.bus a =
        copied .up 2 2 3 (Bus.read (TestBus.withMem [0xED, 0xB0, 0x42, 0, 0])) a := by
  obtain ⟨o, hmany, hpc, -, hhl, -, -, -, hram⟩ :=
    (block_copy .up { bc := 2, hl := 2, de := 3 } (TestBus.withMem [0xED, 0xB0, 0x42, 0, 0])
      ⟨rfl, rfl⟩ (by decide)).2
  exact ⟨o, hmany, hpc, hhl, hram⟩

end Cpu

end Possum
