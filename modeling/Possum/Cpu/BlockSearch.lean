import Possum.Cpu.Repeat
import Mathlib.Order.Basic

/-!
# CPIR and CPDR

`cpu/mod.rs`, `cpi_wz`, `cpd_wz`, `cpir` and `cpdr_wz`.  A search stops at a byte equal to A or
when BC is counted down, and the last byte may be both.  `Searching` is what holds after `k` bytes
of a search that stops after `m` of them; **`block_search`** says when it stops, and with what.
-/

set_option autoImplicit false

namespace Possum.Cpu

variable {β : Type} [Bus β]

/-! ### One byte -/

theorem exec_compare (w : Way) (c : Cpu) (bus : β) :
    c.exec bus (BlockOp.compare.instr w) =
      if (compareBlock w.move c bus).cpu.flag .PV && !(compareBlock w.move c bus).cpu.flag .Z then
        rewound (compareBlock w.move c bus)
      else compareBlock w.move c bus := by
  cases w <;> rfl

theorem flag_compareBlock (move : U16 → U16) (c : Cpu) (bus : β) :
    (compareBlock move c bus).cpu.flag .PV = (c.bc - 1 != 0) ∧
      (compareBlock move c bus).cpu.flag .Z = (Bus.read bus c.hl == c.register .A) ∧
      (compareBlock move c bus).cpu.flag .C = c.flag .C := by
  have hmatch : (c.register .A - Bus.read bus c.hl == 0) = (Bus.read bus c.hl == c.register .A) := by
    rw [Bool.eq_iff_iff, beq_iff_eq, beq_iff_eq]
    bv_omega
  rw [← hmatch]
  simp only [compareBlock, flag_setFlag, reduceCtorEq, if_false, if_true]
  exact ⟨rfl, rfl, rfl⟩

theorem counters_compareBlock (move : U16 → U16) (c : Cpu) (bus : β) :
    (compareBlock move c bus).cpu.hl = move c.hl ∧ (compareBlock move c bus).cpu.de = c.de ∧
      (compareBlock move c bus).cpu.bc = c.bc - 1 ∧
      (compareBlock move c bus).cpu.pc = c.pc := by
  simp only [compareBlock, hl_setFlag, de_setFlag, bc_setFlag, pc_setFlag]
  exact ⟨rfl, rfl, rfl, rfl⟩

theorem erased_compareBlock (move : U16 → U16) (c : Cpu) (bus : β) :
    (compareBlock move c bus).cpu.erased = c.erased := by
  simp only [compareBlock, erased_setFlag, erased_setBc, erased_setHl, erased_setWz]

/-- **What CPIR and CPDR do with one byte.** -/
theorem compare_exec (w : Way) (c : Cpu) (bus : β) :
    (c.exec bus (BlockOp.compare.instr w)).bus = bus ∧
      (c.exec bus (BlockOp.compare.instr w)).cpu.hl = w.move c.hl ∧
      (c.exec bus (BlockOp.compare.instr w)).cpu.de = c.de ∧
      (c.exec bus (BlockOp.compare.instr w)).cpu.bc = c.bc - 1 ∧
      (c.exec bus (BlockOp.compare.instr w)).cpu.pc =
        (if c.bc - 1 = 0 ∨ Bus.read bus c.hl = c.register .A then c.pc else c.pc - 2) ∧
      (c.exec bus (BlockOp.compare.instr w)).cpu.flag .PV = (c.bc - 1 != 0) ∧
      (c.exec bus (BlockOp.compare.instr w)).cpu.flag .Z = (Bus.read bus c.hl == c.register .A) ∧
      (c.exec bus (BlockOp.compare.instr w)).cpu.flag .C = c.flag .C ∧
      (c.exec bus (BlockOp.compare.instr w)).cpu.erased = c.erased := by
  obtain ⟨hpv, hz, hc⟩ := flag_compareBlock w.move c bus
  have herased := erased_compareBlock w.move c bus
  obtain ⟨hhl, hde, hbc, hpc⟩ := counters_compareBlock w.move c bus
  rw [exec_compare]
  by_cases hstop : c.bc - 1 = 0 ∨ Bus.read bus c.hl = c.register .A
  · have hlast : ¬ ((compareBlock w.move c bus).cpu.flag .PV &&
        !(compareBlock w.move c bus).cpu.flag .Z) = true := by
      rw [hpv, hz]
      obtain hzero | hmatch := hstop
      · rw [hzero]
        exact Bool.false_ne_true
      · rw [hmatch, beq_self_eq_true, Bool.not_true, Bool.and_false]
        exact Bool.false_ne_true
    rw [if_neg hlast, if_pos hstop]
    exact ⟨rfl, hhl, hde, hbc, hpc, hpv, hz, hc, herased⟩
  · have hagain : ((compareBlock w.move c bus).cpu.flag .PV &&
        !(compareBlock w.move c bus).cpu.flag .Z) = true := by
      rw [not_or] at hstop
      rw [hpv, hz, bne_iff_ne.2 hstop.1, beq_eq_false_iff_ne.2 hstop.2]
      rfl
    rw [if_pos hagain, if_neg hstop]
    simp only [bus_rewound, hl_rewound, de_rewound, bc_rewound, pc_rewound, flag_rewound,
      erased_rewound]
    exact ⟨rfl, hhl, hde, hbc, congrArg (· - 2) hpc, hpv, hz, hc, herased⟩

/-! ### The loop -/

/-- What holds after `k` bytes of a search that started with `c` and `bus` and stops after `m`,
with a match if `z`. -/
structure Searching (w : Way) (c : Cpu) (bus : β) (m : ℕ) (z : Bool) (k : ℕ) (c' : Cpu)
    (bus' : Wired β) : Prop where
  pc : c'.pc = if k < m then c.pc else c.pc + 2
  bc : c'.bc = c.bc - BitVec.ofNat 16 k
  hl : c'.hl = w.after k c.hl
  de : c'.de = c.de
  more : 0 < k → c'.flag .PV = (c'.bc != 0)
  matched : 0 < k → c'.flag .Z = (decide (k = m) && z)
  carry : c'.flag .C = c.flag .C
  settled : 0 < k → c'.takeEnable = c'
  kept : c'.takeEnable.erased = c.takeEnable.erased
  bus : bus' = ⟨bus, false⟩

omit [Bus β] in
theorem Searching.start (w : Way) (c : Cpu) (bus : β) {m : ℕ} (z : Bool) (hm : 0 < m) :
    Searching w c bus m z 0 c ⟨bus, false⟩ where
  pc := (if_pos hm).symm
  bc := (BitVec.sub_zero c.bc).symm
  hl := (w.after_zero c.hl).symm
  de := rfl
  more h := absurd h (Nat.lt_irrefl 0)
  matched h := absurd h (Nat.lt_irrefl 0)
  carry := rfl
  settled h := absurd h (Nat.lt_irrefl 0)
  kept := rfl
  bus := rfl

/-- The search meets A at the last of its `m` bytes or, if `z` is false, nowhere. -/
def Ends (w : Way) (c : Cpu) (bus : β) (m : ℕ) (z : Bool) : Prop :=
  m ≤ blockLength c.bc ∧ (z = false → m = blockLength c.bc) ∧
    ∀ k < m, Bus.read bus (w.after k c.hl) = c.register .A ↔ k + 1 = m ∧ z = true

/-- **One byte more.** -/
theorem compare_step {w : Way} {c : Cpu} {bus : β} (hat : BlockOp.compare.At w bus c.pc) {m : ℕ}
    {z : Bool} (hends : Ends w c bus m z) {k : ℕ} (hk : k < m) {c' : Cpu} {bus' : Wired β}
    (h : Searching w c bus m z k c' bus') :
    ∃ o, c'.step bus' = .ok o ∧ Searching w c bus m z (k + 1) o.cpu o.bus := by
  obtain ⟨hle, hall, hmatch⟩ := hends
  obtain rfl : bus' = ⟨bus, false⟩ := h.bus
  have hpc : c'.pc = c.pc := h.pc.trans (if_pos hk)
  have hcode : BlockOp.compare.At w bus c'.pc := by
    rw [hpc]
    exact hat
  let d := c'.takeEnable.past 2
  have hdpc : d.pc = c.pc + 2 := (congrArg (· + 2) (pc_takeEnable c')).trans (by rw [hpc])
  have hdhl : d.hl = w.after k c.hl := (wideRegister_takeEnable c' .HL).trans h.hl
  have hdde : d.de = c.de := (wideRegister_takeEnable c' .DE).trans h.de
  have hdbc : d.bc = c.bc - BitVec.ofNat 16 k := (wideRegister_takeEnable c' .BC).trans h.bc
  have hda : d.register .A = c.register .A := by
    have hsame : hi (c'.takeEnable.erased).af = hi (c.takeEnable.erased).af := by rw [h.kept]
    rw [erased, erased, hi_word, hi_word] at hsame
    exact hsame.trans (register_takeEnable c .A)
  have hdc : d.flag .C = c.flag .C := (flag_past c' 2 .C).trans h.carry
  obtain ⟨hbus, hhl, hde, hbc, hpc', hpv, hz, hc, herased⟩ := compare_exec w d bus
  have hkept : (d.exec bus (BlockOp.compare.instr w)).cpu.erased = c'.takeEnable.erased :=
    herased.trans (erased_past c'.takeEnable 2)
  have hcount := count_eq_zero (lt_of_lt_of_le hk hle)
  -- it goes on exactly if this is not the last byte
  have hstop : d.bc - 1 = 0 ∨ Bus.read bus d.hl = d.register .A ↔ k + 1 = m := by
    rw [hdbc, hcount, hdhl, hda, hmatch k hk]
    constructor
    · rintro (hlast | hfound)
      · omega
      · exact hfound.1
    · intro hlast
      cases z with
      | false => exact .inl (hlast.trans (hall rfl))
      | true => exact .inr ⟨hlast, rfl⟩
  refine ⟨_, step_block hcode, ?_⟩
  exact {
    pc := by
      show (d.exec bus (BlockOp.compare.instr w)).cpu.pc = _
      rw [hpc', hdpc]
      by_cases hlast : k + 1 = m
      · rw [if_pos (hstop.2 hlast), if_neg (by omega)]
      · rw [if_neg fun h => hlast (hstop.1 h), if_pos (by omega)]
        bv_omega
    bc := by
      show (d.exec bus (BlockOp.compare.instr w)).cpu.bc = _
      rw [hbc, hdbc]
      bv_omega
    hl := by
      show (d.exec bus (BlockOp.compare.instr w)).cpu.hl = _
      rw [hhl, hdhl, w.move_after]
    de := hde.trans hdde
    more := fun _ => by
      show (d.exec bus (BlockOp.compare.instr w)).cpu.flag .PV =
        ((d.exec bus (BlockOp.compare.instr w)).cpu.bc != 0)
      rw [hpv, hbc]
    matched := fun _ => by
      show (d.exec bus (BlockOp.compare.instr w)).cpu.flag .Z = _
      rw [hz, hdhl, hda, Bool.eq_iff_iff, beq_iff_eq, hmatch k hk, Bool.and_eq_true,
        decide_eq_true_eq]
    carry := hc.trans hdc
    settled := fun _ => takeEnable_of_erased hkept
    kept := by
      show (d.exec bus (BlockOp.compare.instr w)).cpu.takeEnable.erased = _
      rw [takeEnable_of_erased hkept, hkept, h.kept]
    bus := congrArg (fun b => (⟨b, false⟩ : Wired β)) hbus }

/-! ### The search -/

/-- The search stops after `m` steps and not before, with Z as `z` says. -/
def Stopped (w : Way) (c : Cpu) (bus : β) (m : ℕ) (z : Bool) : Prop :=
  (∀ j < m, ∃ o, c.many j (⟨bus, false⟩ : Wired β) = .ok o ∧ o.cpu.pc = c.pc) ∧
    ∃ o, c.many m (⟨bus, false⟩ : Wired β) = .ok o ∧ o.cpu.pc = c.pc + 2 ∧
      o.cpu.flag .Z = z ∧ o.cpu.hl = w.after m c.hl ∧
      o.cpu.bc = BitVec.ofNat 16 (blockLength c.bc - m) ∧
      o.cpu.flag .PV = (o.cpu.bc != 0) ∧ o.cpu.flag .C = c.flag .C ∧ o.cpu.de = c.de ∧
      o.cpu.erased = c.takeEnable.erased ∧ o.bus = ⟨bus, false⟩

theorem stopped_of_ends {w : Way} {c : Cpu} {bus : β} (hat : BlockOp.compare.At w bus c.pc)
    {m : ℕ} {z : Bool} (hm : 0 < m) (hends : Ends w c bus m z) : Stopped w c bus m z := by
  have hrun (n : ℕ) (hn : n ≤ m) :
      ∃ o, c.many n (⟨bus, false⟩ : Wired β) = .ok o ∧ Searching w c bus m z n o.cpu o.bus :=
    many_of_step (Searching.start w c bus z hm) n fun k hk _ _ h =>
      compare_step hat hends (lt_of_lt_of_le hk hn) h
  constructor
  · intro j hj
    obtain ⟨o, hmany, h⟩ := hrun j hj.le
    exact ⟨o, hmany, h.pc.trans (if_pos hj)⟩
  · obtain ⟨o, hmany, h⟩ := hrun m le_rfl
    refine ⟨o, hmany, h.pc.trans (if_neg (Nat.lt_irrefl m)), ?_, h.hl, ?_, h.more hm, h.carry,
      h.de, ?_, h.bus⟩
    · rw [h.matched hm, decide_eq_true rfl, Bool.true_and]
    · have hlength := ofNat_blockLength c.bc
      have hle := hends.1
      rw [h.bc]
      conv_lhs => rw [← hlength]
      bv_omega
    · rw [← h.kept, h.settled hm]

/-- **CPIR and CPDR are first-match searches.**  At the least index `k` below the count where
memory holds A they stop after `k + 1` steps with Z set; if there is none, after the whole count
with Z clear; and one of the two is the case. -/
theorem block_search (w : Way) (c : Cpu) (bus : β) (hat : BlockOp.compare.At w bus c.pc) :
    (∀ k < blockLength c.bc, Bus.read bus (w.after k c.hl) = c.register .A →
      (∀ j < k, Bus.read bus (w.after j c.hl) ≠ c.register .A) →
      Stopped w c bus (k + 1) true) ∧
    ((∀ k < blockLength c.bc, Bus.read bus (w.after k c.hl) ≠ c.register .A) →
      Stopped w c bus (blockLength c.bc) false) ∧
    ∃ m z, Stopped w c bus m z := by
  have hfound : ∀ k < blockLength c.bc, Bus.read bus (w.after k c.hl) = c.register .A →
      (∀ j < k, Bus.read bus (w.after j c.hl) ≠ c.register .A) →
      Stopped w c bus (k + 1) true := by
    intro k hk hmatch hbefore
    apply stopped_of_ends hat (Nat.succ_pos k)
    refine ⟨hk, fun h => absurd h (by decide), fun j hj => ?_⟩
    constructor
    · intro h
      have hjk : ¬ j < k := fun hlt => hbefore j hlt h
      exact ⟨by omega, rfl⟩
    · rintro ⟨hjk, -⟩
      obtain rfl : j = k := Nat.succ.inj hjk
      exact hmatch
  have hnone : (∀ k < blockLength c.bc, Bus.read bus (w.after k c.hl) ≠ c.register .A) →
      Stopped w c bus (blockLength c.bc) false := by
    intro hno
    apply stopped_of_ends hat (blockLength_pos c.bc)
    exact ⟨le_rfl, fun _ => rfl, fun k hk => ⟨fun h => absurd h (hno k hk), fun h => by
      cases h.2⟩⟩
  refine ⟨hfound, hnone, ?_⟩
  by_cases hex : ∃ k, k < blockLength c.bc ∧ Bus.read bus (w.after k c.hl) = c.register .A
  · classical
    obtain ⟨hk, hmatch⟩ := Nat.find_spec hex
    refine ⟨_, true, hfound (Nat.find hex) hk hmatch fun j hj h => ?_⟩
    exact Nat.find_min hex hj ⟨hj.trans hk, h⟩
  · refine ⟨_, false, hnone fun k hk h => hex ⟨k, hk, h⟩⟩

/-- CPIR for 0x42 over four bytes, the third of which it is. -/
theorem block_search_third :
    Stopped .up { af := 0x4200, bc := 4, hl := 2 }
      (TestBus.withMem [0xED, 0xB1, 0, 0x41, 0x42, 0x42]) 3 true :=
  (block_search .up { af := 0x4200, bc := 4, hl := 2 }
    (TestBus.withMem [0xED, 0xB1, 0, 0x41, 0x42, 0x42]) ⟨rfl, rfl⟩).1 2 (by decide) rfl (by decide)

end Possum.Cpu
