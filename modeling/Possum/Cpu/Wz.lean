import Possum.Cpu.Operands
import Possum.Cpu.Line

/-!
# WZ after loads and stores

A load or store through an address leaves a trace of the address in WZ, and BIT n,(HL) shows the
high byte of WZ in the flags X and Y.  `Instr.wzLaw` is the law for the trace: `t + 1` for an
address `t`, and A above the low byte of that for the stores of A.

The stores of A put A into the low byte instead, and LD rr,(nn) counts the address twice, so the law
holds of the loads of A and of LD (nn),rr, and of a store of A when A is zero (**`wz_law_iff`**).
-/

set_option autoImplicit false

namespace Possum

namespace Instr

/-- The address of a load or store, for a processor `c` with the operand bytes at `pc`. -/
def target {β : Type} [Bus β] (c : Cpu) (bus : β) (pc : U16) : Instr → Option U16
  | .writeIndirectWz .BC _ => some c.bc
  | .writeIndirectWz .DE _ => some c.de
  | .readIndirectWz _ .BC => some c.bc
  | .readIndirectWz _ .DE => some c.de
  | .writeAbsoluteWz _ => some (word (Bus.read bus (pc + 1)) (Bus.read bus pc))
  | .readAbsoluteWz _ => some (word (Bus.read bus (pc + 1)) (Bus.read bus pc))
  | .writeWideAbsoluteWz _ => some (word (Bus.read bus (pc + 1)) (Bus.read bus pc))
  | .readWideAbsoluteWz _ => some (word (Bus.read bus (pc + 1)) (Bus.read bus pc))
  | _ => none

/-- WZ after a load or store with address `t`, by the law. -/
def wzLaw (a : U8) (t : U16) : Instr → U16
  | .writeIndirectWz _ _ => word a (lo (t + 1))
  | .writeAbsoluteWz _ => word a (lo (t + 1))
  | _ => t + 1

/-- The loads and stores that keep the law. -/
def keepsWzLaw (a : U8) : Instr → Prop
  | .writeIndirectWz _ _ => a = 0
  | .writeAbsoluteWz _ => a = 0
  | .readWideAbsoluteWz _ => False
  | _ => True

end Instr

namespace Cpu

variable {β : Type} [Bus β]

/-! ### BIT n,(HL) -/

theorem flag_setBitFlags (c : Cpu) (xy result : U8) :
    (c.setBitFlags xy result).flag .X = xy.getLsbD 3 ∧
      (c.setBitFlags xy result).flag .Y = xy.getLsbD 5 := by
  rw [setBitFlags, setResultFlags_keeping, flag_withFlags, flag_withFlags]
  exact ⟨rfl, rfl⟩

theorem wz_past (c : Cpu) (n : ℕ) : (c.takeEnable.past n).wz = c.wz := by
  unfold takeEnable
  split <;> rfl

/-- The second byte of BIT n,(HL). -/
def bitCode (n : Fin 8) : U8 := BitVec.ofNat 8 (0x46 + 8 * n)

theorem cbPrefixTable_bit : ∀ n : Fin 8,
    cbPrefixTable (bitCode n) = .bitHlIndirectWz (BitVec.twoPow 8 n) := by
  decide

/-- **BIT n,(HL)** shows the high byte of WZ. -/
theorem bit_instruction {c : Cpu} {bus : β} {n : Fin 8} (h : Starts bus c.pc [0xCB, bitCode n]) :
    ∃ o, c.instruction bus = some o ∧ o.cpu.flag .X = (hi c.wz).getLsbD 3 ∧
      o.cpu.flag .Y = (hi c.wz).getLsbD 5 := by
  obtain ⟨hcb, hbit, -⟩ := h
  have hdec : c.decoded bus =
      some ⟨.bitHlIndirectWz (BitVec.twoPow 8 n), c.takeEnable.past 2, 4⟩ := by
    show decode bus callLimit (Bus.read bus c.takeEnable.pc) (c.takeEnable.fetch bus).2 = _
    rw [callLimit_eq, decode, pc_takeEnable, hcb]
    show some (⟨cbPrefixTable (Bus.read bus (c.takeEnable.pc + 1)),
      ((c.takeEnable.past 1).past 1), 4⟩ : Decoded) = _
    rw [pc_takeEnable, hbit, cbPrefixTable_bit, past_past]
  refine ⟨_, instruction_of_decoded hdec, ?_⟩
  rw [← wz_past c 2]
  exact flag_setBitFlags (c.takeEnable.past 2) _ _

/-! ### The law -/

/-- WZ is `w` after an instruction, and a BIT n,(HL) behind it copies X and Y from the high byte
of `w`. -/
def Traces (o : Outcome β) (w : U16) : Prop :=
  o.cpu.wz = w ∧ ∀ n : Fin 8, Starts o.bus o.cpu.pc [0xCB, bitCode n] →
    ∃ o', o.cpu.instruction o.bus = some o' ∧ o'.cpu.flag .X = (hi w).getLsbD 3 ∧
      o'.cpu.flag .Y = (hi w).getLsbD 5

theorem traces_iff (o : Outcome β) (w : U16) : Traces o w ↔ o.cpu.wz = w := by
  constructor
  · intro h
    exact h.1
  · rintro rfl
    exact ⟨rfl, fun _ => bit_instruction⟩

/-- A in the low byte is A in the high byte only when it is zero. -/
theorem low_eq_word_iff (a : U8) (t : U16) :
    a.setWidth 16 ||| ((t + 1) &&& 0xFF) = word a (lo (t + 1)) ↔ a = 0 := by
  rw [and_low_byte, setWidth_eq_word a, word_or]
  constructor
  · intro h
    have hhigh := congrArg hi h
    rw [hi_word, hi_word] at hhigh
    exact hhigh.symm
  · rintro rfl
    simp

/-- What the instruction leaves in WZ. -/
theorem wz_exec_iff {i : Instr} {c : Cpu} {bus : β} {t : U16} (h : i.target c bus c.pc = some t) :
    (c.exec bus i).cpu.wz = i.wzLaw (c.register .A) t ↔ i.keepsWzLaw (c.register .A) := by
  cases i with
  | writeIndirectWz addr reg =>
    cases addr with
    | BC | DE =>
      cases h
      exact low_eq_word_iff (c.register .A) _
    | _ => cases h
  | readIndirectWz reg addr =>
    cases addr with
    | BC | DE =>
      cases h
      exact iff_of_true rfl trivial
    | _ => cases h
  | writeAbsoluteWz reg =>
    cases h
    exact low_eq_word_iff (c.register .A) _
  | readAbsoluteWz reg =>
    cases h
    exact iff_of_true rfl trivial
  | writeWideAbsoluteWz reg =>
    cases h
    exact iff_of_true rfl trivial
  | readWideAbsoluteWz reg =>
    cases h
    refine iff_of_false ?_ id
    show word (Bus.read bus (c.pc + 1)) (Bus.read bus c.pc) + 1 + 1 ≠
      word (Bus.read bus (c.pc + 1)) (Bus.read bus c.pc) + 1
    generalize word (Bus.read bus (c.pc + 1)) (Bus.read bus c.pc) = t
    bv_omega
  | _ => cases h

/-- **When WZ tracks the address.**  Whatever prefixes the instruction at PC has: if it is a load or
store of the law with address `t`, it leaves WZ by the law, and the next BIT n,(HL) shows the high
byte, if and only if it is a load of A or LD (nn),rr, or a store of A and A is zero. -/
theorem wz_law_iff (c : Cpu) (bus : β) (d : Decoded) (t : U16) (h : c.decoded bus = some d)
    (ht : d.instr.target c bus d.cpu.pc = some t) :
    ∃ o, c.instruction bus = some o ∧
      (Traces o (d.instr.wzLaw (c.register .A) t) ↔ d.instr.keepsWzLaw (c.register .A)) := by
  refine ⟨_, instruction_of_decoded h, ?_⟩
  rw [traces_iff]
  let part : Cpu → U16 × U16 × U8 := fun c => (c.bc, c.de, c.register .A)
  have htake : ∀ c : Cpu, part c.takeEnable = part c := by
    intro c
    unfold takeEnable
    split <;> rfl
  have hpart : part d.cpu = part c := part_decoded (fun _ => rfl) (fun _ => rfl) htake h
  simp only [part, Prod.mk.injEq] at hpart
  obtain ⟨hbc, hde, ha⟩ := hpart
  have htarget : d.instr.target d.cpu bus d.cpu.pc = some t := by
    rw [← ht]
    unfold Instr.target
    rw [hbc, hde]
  rw [← ha]
  exact wz_exec_iff htarget

/-- `ld a, (bc)` with BC = 0x27FF, and `bit 0, (hl)` behind it: X and Y are those of 0x28. -/
theorem wz_law_iff_read :
    ∃ o, ({ bc := 0x27FF } : Cpu).instruction (TestBus.withMem [0x0A, 0xCB, 0x46]) = some o ∧
      Traces o 0x2800 := by
  have hdec : ({ bc := 0x27FF } : Cpu).decoded (TestBus.withMem [0x0A, 0xCB, 0x46]) =
      some ⟨.readIndirectWz .A .BC, _, 0⟩ := decoded_of_run rfl
  obtain ⟨o, ho, hiff⟩ := wz_law_iff _ _ _ 0x27FF hdec rfl
  exact ⟨o, ho, hiff.2 trivial⟩

/-- `ld (bc), a` with A = 0x28 leaves A in the low byte of WZ, and `ld hl, (0x1000)` counts the
address twice. -/
theorem wz_law_broken :
    (∃ o, ({ af := 0x2800, bc := 0x1000 } : Cpu).instruction (TestBus.withMem [0x02]) = some o ∧
      o.cpu.wz = 0x0029 ∧ ¬ Traces o 0x2801) ∧
    ∃ o, ({} : Cpu).instruction (TestBus.withMem [0x2A, 0x00, 0x10]) = some o ∧
      o.cpu.wz = 0x1002 ∧ ¬ Traces o 0x1001 := by
  have hstore : ({ af := 0x2800, bc := 0x1000 } : Cpu).decoded (TestBus.withMem [0x02]) =
      some ⟨.writeIndirectWz .BC .A, _, 0⟩ := decoded_of_run rfl
  have hload : ({} : Cpu).decoded (TestBus.withMem [0x2A, 0x00, 0x10]) =
      some ⟨.readWideAbsoluteWz .HL, _, 0⟩ := decoded_of_run rfl
  refine ⟨⟨_, instruction_of_decoded hstore, rfl, ?_⟩, _, instruction_of_decoded hload, rfl, ?_⟩
  · rintro ⟨hwz, -⟩
    have hword : (0x0029 : U16) = 0x2801 := hwz
    exact absurd hword (by decide)
  · rintro ⟨hwz, -⟩
    have hword : (0x1002 : U16) = 0x1001 := hwz
    exact absurd hword (by decide)

end Cpu

end Possum
