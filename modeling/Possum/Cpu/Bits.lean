import Possum.Cpu.IndexPages
import Mathlib.Tactic.IntervalCases

/-!
# The bit pages

The CB, DD CB and FD CB pages decode a byte `xxyyyzzz` in one way: `x` and `y` select an
operation (`BitOp`), `z` its operand.  `cbPrefix_eq` says that `cb_prefix` performs the
operation; `ddcbPrefix_eq` that `ddcb_prefix` performs it on the byte at IX and the
displacement, and loads the result into the register that `z` names.

What an operation computes is said bit by bit here, apart from the masks and shifts of the
sources: `BitOp.result`, and the eight flags by name (`BitOp.flags`).
-/

set_option autoImplicit false

namespace Possum

/-! ### Flags by name -/

/-- The number of a flag's bit. -/
def Flag.index : Flag → ℕ
  | .C => 0
  | .N => 1
  | .PV => 2
  | .X => 3
  | .H => 4
  | .Y => 5
  | .Z => 6
  | .S => 7

theorem Flag.isIn_eq (f : Flag) : ∀ b : U8, f.isIn b = b.getLsbD f.index := by
  cases f <;> decide +kernel

theorem Flag.getLsbD_mask (f g : Flag) : f.mask.getLsbD g.index = decide (g = f) := by
  cases f <;> cases g <;> rfl

/-- F with the given flags. -/
def flagByte (v : Flag → Bool) : U8 :=
  BitVec.ofBoolListLE [v .C, v .N, v .PV, v .X, v .H, v .Y, v .Z, v .S]

theorem isIn_flagByte (v : Flag → Bool) (f : Flag) : f.isIn (flagByte v) = v f := by
  rw [Flag.isIn_eq]
  show (BitVec.ofBoolListLE _).getLsbD f.index = _
  rw [BitVec.getLsbD_ofBoolListLE]
  cases f <;> rfl

/-- F is determined by its flags. -/
theorem eq_of_isIn {b b' : U8} (h : ∀ f : Flag, f.isIn b = f.isIn b') : b = b' := by
  simp only [Flag.isIn_eq] at h
  apply BitVec.eq_of_getLsbD_eq
  intro i hi
  interval_cases i
  · exact h .C
  · exact h .N
  · exact h .PV
  · exact h .X
  · exact h .H
  · exact h .Y
  · exact h .Z
  · exact h .S

theorem flagByte_or (v : Flag → Bool) (f : Flag) :
    flagByte v ||| f.mask = flagByte (Function.update v f true) := by
  apply eq_of_isIn
  intro g
  rw [isIn_flagByte, Flag.isIn_eq, BitVec.getLsbD_or, ← Flag.isIn_eq, isIn_flagByte,
    Flag.getLsbD_mask, Function.update_apply]
  by_cases hg : g = f <;> simp [hg]

theorem flagByte_and_not (v : Flag → Bool) (f : Flag) :
    flagByte v &&& ~~~f.mask = flagByte (Function.update v f false) := by
  apply eq_of_isIn
  intro g
  have hlt : g.index < 8 := by cases g <;> decide
  rw [isIn_flagByte, Flag.isIn_eq, BitVec.getLsbD_and, BitVec.getLsbD_not, ← Flag.isIn_eq,
    isIn_flagByte, Flag.getLsbD_mask, Function.update_apply]
  by_cases hg : g = f <;> simp [hg, hlt]

theorem word_or (h l m : U8) : word h l ||| m.setWidth 16 = word h (l ||| m) := by
  apply BitVec.eq_of_getLsbD_eq
  intro i hi
  by_cases h8 : i < 8
  · simp [word, h8, hi]
  · simp [word, h8, BitVec.getLsbD_of_ge m i (by omega)]

theorem word_and_not (h l m : U8) : word h l &&& ~~~m.setWidth 16 = word h (l &&& ~~~m) := by
  apply BitVec.eq_of_getLsbD_eq
  intro i hi
  by_cases h8 : i < 8
  · simp [word, h8, hi]
  · simp [word, h8, hi, BitVec.getLsbD_of_ge m i (by omega),
      BitVec.getLsbD_of_ge l i (by omega)]

/-- The flags that `setResultFlags` sets, and C from `v`. -/
def resultFlags (v : Flag → Bool) (n pv h : Bool) (xy result : U8) : Flag → Bool
  | .C => v .C
  | .N => n
  | .PV => pv
  | .X => xy.getLsbD 3
  | .H => h
  | .Y => xy.getLsbD 5
  | .Z => result == 0
  | .S => result.msb

namespace Cpu

/-- The processor with the given flags. -/
def withFlags (c : Cpu) (v : Flag → Bool) : Cpu := { c with af := word (hi c.af) (flagByte v) }

@[simp] theorem flag_withFlags (c : Cpu) (v : Flag → Bool) (f : Flag) :
    (c.withFlags v).flag f = v f := by
  rw [flag_eq, withFlags, lo_word, isIn_flagByte]

theorem withFlags_flag (c : Cpu) : c.withFlags c.flag = c := by
  have hbyte : flagByte c.flag = lo c.af := by
    apply eq_of_isIn
    intro f
    rw [isIn_flagByte, flag_eq]
  rw [withFlags, hbyte, word_hi_lo]

/-- The flag that is set, and the others as before. -/
theorem setFlag_withFlags (c : Cpu) (v : Flag → Bool) (f : Flag) (b : Bool) :
    (c.withFlags v).setFlag f b = c.withFlags (Function.update v f b) := by
  cases b with
  | true =>
    show { c with af := word (hi c.af) (flagByte v) ||| f.mask.setWidth 16 } = _
    rw [word_or, flagByte_or]
    rfl
  | false =>
    show { c with af := word (hi c.af) (flagByte v) &&& ~~~f.mask.setWidth 16 } = _
    rw [word_and_not, flagByte_and_not]
    rfl

theorem setResultFlags_eq (c : Cpu) (v : Flag → Bool) (n pv h : Bool) (xy result : U8) :
    (c.withFlags v).setResultFlags n pv h xy result =
      c.withFlags (resultFlags v n pv h xy result) := by
  simp only [setResultFlags, setFlag_withFlags]
  congr 1
  funext f
  cases f <;> simp [resultFlags, Flag.isIn_eq, Flag.index, BitVec.msb_eq_getLsbD_last]

end Cpu

/-! ### Operations -/

inductive Shift
  | rlc | rrc | rl | rr | sla | sra | sll | srl
  deriving DecidableEq, Repr

inductive BitOp
  | shift (s : Shift)
  | bit (n : ℕ)
  | reset (n : ℕ)
  | set (n : ℕ)
  deriving DecidableEq, Repr

/-- The shift that `yyy` selects. -/
def shift : ℕ → Shift
  | 0 => .rlc
  | 1 => .rrc
  | 2 => .rl
  | 3 => .rr
  | 4 => .sla
  | 5 => .sra
  | 6 => .sll
  | _ => .srl

/-- The operation of an opcode `xxyyyzzz`. -/
def bitOp (opcode : U8) : BitOp :=
  let y := opcode.toNat / 8 % 8
  match opcode.toNat / 64 with
  | 0 => .shift (shift y)
  | 1 => .bit y
  | 2 => .reset y
  | _ => .set y

namespace Shift

/-- The byte shifted by one place, with the carry of before. -/
def result (s : Shift) (carry : Bool) (data : U8) : U8 :=
  match s with
  | .rlc => data.rotateLeft 1
  | .rrc => data.rotateRight 1
  | .rl => data.setWidth 7 ++ BitVec.ofBool carry
  | .rr => BitVec.ofBool carry ++ data.extractLsb' 1 7
  | .sla => data <<< 1
  | .sra => data.sshiftRight 1
  | .sll => data.setWidth 7 ++ BitVec.ofBool true
  | .srl => data >>> 1

/-- The bit shifted out: bit 7 to the left, bit 0 to the right. -/
def carry (s : Shift) (data : U8) : Bool :=
  match s with
  | .rlc | .rl | .sla | .sll => data.getLsbD 7
  | .rrc | .rr | .sra | .srl => data.getLsbD 0

end Shift

namespace BitOp

/-- The byte that is stored; BIT stores none. -/
def result (op : BitOp) (v : Flag → Bool) (data : U8) : Option U8 :=
  match op with
  | .shift s => some (s.result (v .C) data)
  | .bit _ => none
  | .reset n => some (data &&& ~~~BitVec.twoPow 8 n)
  | .set n => some (data ||| BitVec.twoPow 8 n)

/-- The flags behind the operation; X and Y of BIT are bits 3 and 5 of `xy`. -/
def flags (op : BitOp) (v : Flag → Bool) (xy data : U8) : Flag → Bool :=
  match op with
  | .shift s =>
    let result := s.result (v .C) data
    resultFlags (Function.update v .C (s.carry data)) false (Cpu.evenParity result) false result
      result
  | .bit n => fun
    | .C => v .C
    | .N => false
    | .PV => !data.getLsbD n
    | .X => xy.getLsbD 3
    | .H => true
    | .Y => xy.getLsbD 5
    | .Z => !data.getLsbD n
    | .S => decide (n = 7) && data.getLsbD n
  | .reset _ => v
  | .set _ => v

variable {β : Type} [Bus β]

/-- The operation on a register. -/
def onRegister (op : BitOp) (reg : Register) (c : Cpu) : Cpu :=
  let data := c.register reg
  let c' := c.withFlags (op.flags c.flag data data)
  match op.result c.flag data with
  | some result => c'.setRegister reg result
  | none => c'

/-- The operation on the byte at `addr`: the result, and what becomes of processor and bus. -/
def access (op : BitOp) (addr : U16) (c : Cpu) (bus : β) : Option U8 × Cpu × β :=
  let data := Bus.read bus addr
  let result := op.result c.flag data
  let c' := c.withFlags (op.flags c.flag (hi c.wz) data)
  (result, c', match result with
    | some result => Bus.write bus addr result
    | none => bus)

end BitOp

/-! ### The tables -/

namespace Shift

def base : Shift → Cpu → U8 → U8 × Cpu
  | .rlc => Cpu.rlcBase
  | .rrc => Cpu.rrcBase
  | .rl => Cpu.rlBase
  | .rr => Cpu.rrBase
  | .sla => Cpu.slaBase
  | .sra => Cpu.sraBase
  | .sll => Cpu.sllBase
  | .srl => Cpu.srlBase

def register (s : Shift) (reg : Register) : Instr :=
  match s with
  | .rlc => .rlcRegister reg
  | .rrc => .rrcRegister reg
  | .rl => .rlRegister reg
  | .rr => .rrRegister reg
  | .sla => .slaRegister reg
  | .sra => .sraRegister reg
  | .sll => .sllRegister reg
  | .srl => .srlRegister reg

def hl : Shift → Instr
  | .rlc => .rlcHlIndirect
  | .rrc => .rrcHlIndirect
  | .rl => .rlHlIndirect
  | .rr => .rrHlIndirect
  | .sla => .slaHlIndirect
  | .sra => .sraHlIndirect
  | .sll => .sllHlIndirect
  | .srl => .srlHlIndirect

def indexed (s : Shift) (offset : U16) (index : WideRegister) (reg : Option Register) : Instr :=
  match s with
  | .rlc => .rlcIndexIndirectWz offset index reg
  | .rrc => .rrcIndexIndirectWz offset index reg
  | .rl => .rlIndexIndirectWz offset index reg
  | .rr => .rrIndexIndirectWz offset index reg
  | .sla => .slaIndexIndirectWz offset index reg
  | .sra => .sraIndexIndirectWz offset index reg
  | .sll => .sllIndexIndirectWz offset index reg
  | .srl => .srlIndexIndirectWz offset index reg

end Shift

namespace BitOp

/-- The method of the CB page for a register. -/
def register (op : BitOp) (reg : Register) : Instr :=
  match op with
  | .shift s => s.register reg
  | .bit n => .bitRegister (BitVec.twoPow 8 n) reg
  | .reset n => .resetBitRegister (BitVec.twoPow 8 n) reg
  | .set n => .setBitRegister (BitVec.twoPow 8 n) reg

/-- The method of the CB page for `(HL)`. -/
def hl : BitOp → Instr
  | .shift s => s.hl
  | .bit n => .bitHlIndirectWz (BitVec.twoPow 8 n)
  | .reset n => .resetBitHlIndirect (BitVec.twoPow 8 n)
  | .set n => .setBitHlIndirect (BitVec.twoPow 8 n)

/-- The method of an index page; BIT loads no register. -/
def indexed (op : BitOp) (offset : U16) (index : WideRegister) (reg : Option Register) : Instr :=
  match op with
  | .shift s => s.indexed offset index reg
  | .bit n => .bitIndexIndirectWz (BitVec.twoPow 8 n) offset index
  | .reset n => .resetBitIndexIndirectWz (BitVec.twoPow 8 n) offset index reg
  | .set n => .setBitIndexIndirectWz (BitVec.twoPow 8 n) offset index reg

end BitOp

theorem cbPrefixTable_eq : ∀ opcode : U8, cbPrefixTable opcode =
    match operand (opcode.toNat % 8) with
    | some reg => (bitOp opcode).register reg
    | none => (bitOp opcode).hl := by
  decide +kernel

set_option maxRecDepth 100000 in
theorem ddcbPrefixTable_eq (offset : U16) : ddcbPrefixTable offset = fun opcode =>
    (bitOp opcode).indexed offset .IX (operand (opcode.toNat % 8)) := by
  apply eq_of_map_eq
  rfl

/-! ### The helpers -/

namespace Cpu

theorem setFlag_eq (c : Cpu) (f : Flag) (b : Bool) :
    c.setFlag f b = c.withFlags (Function.update c.flag f b) := by
  rw [← setFlag_withFlags, withFlags_flag]

theorem setShiftFlags_eq (c : Cpu) (carry : Bool) (result : U8) :
    c.setShiftFlags carry result =
      c.withFlags (resultFlags (Function.update c.flag .C carry) false (evenParity result) false
        result result) := by
  rw [setShiftFlags, setParityFlags, setFlag_eq, setResultFlags_eq]

theorem setBitFlags_eq (c : Cpu) (xy data : U8) (n : ℕ) :
    c.setBitFlags xy (data &&& BitVec.twoPow 8 n) =
      c.withFlags ((BitOp.bit n).flags c.flag xy data) := by
  have hand : (data &&& BitVec.twoPow 8 n == 0) = !data.getLsbD n ∧
      (data &&& BitVec.twoPow 8 n).msb = (decide (n = 7) && data.getLsbD n) := by
    rw [BitVec.and_twoPow]
    cases hbit : data.getLsbD n with
    | false => simp
    | true =>
      have hlt : n < 8 := BitVec.lt_of_getLsbD hbit
      interval_cases n <;> exact ⟨rfl, rfl⟩
  obtain ⟨hzero, hmsb⟩ := hand
  rw [setBitFlags]
  conv_lhs => rw [← withFlags_flag c]
  rw [setResultFlags_eq]
  congr 1
  funext f
  cases f <;> simp only [resultFlags, BitOp.flags, hzero, hmsb]

/-- **A rotation or shift of the sources** is the operation. -/
theorem base_eq (s : Shift) (c : Cpu) (data : U8) :
    s.base c data = (s.result (c.flag .C) data,
      c.withFlags ((BitOp.shift s).flags c.flag data data)) := by
  have hseven : ∀ data : U8, (data &&& 0x80 != 0) = data.getLsbD 7 := Flag.isIn_eq .S
  have hzero : ∀ data : U8, (data &&& 0x01 != 0) = data.getLsbD 0 := Flag.isIn_eq .C
  cases s with
  | rlc =>
    have hresult : ∀ data : U8, (data <<< 1) ||| (data >>> 7) = data.rotateLeft 1 := by
      decide +kernel
    rw [Shift.base, rlcBase, setShiftFlags_eq, hresult, hseven]
    rfl
  | rrc =>
    have hresult : ∀ data : U8, (data >>> 1) ||| (data <<< 7) = data.rotateRight 1 := by
      decide +kernel
    rw [Shift.base, rrcBase, setShiftFlags_eq, hresult, hzero]
    rfl
  | rl =>
    have hresult : ∀ (carry : Bool) (data : U8),
        (data <<< 1) ||| (if carry then 0x01 else 0x00) =
          data.setWidth 7 ++ BitVec.ofBool carry := by
      decide +kernel
    rw [Shift.base, rlBase, setShiftFlags_eq, hresult, hseven]
    rfl
  | rr =>
    have hresult : ∀ (carry : Bool) (data : U8),
        (data >>> 1) ||| (if carry then 0x80 else 0x00) =
          BitVec.ofBool carry ++ data.extractLsb' 1 7 := by
      decide +kernel
    rw [Shift.base, rrBase, setShiftFlags_eq, hresult, hzero]
    rfl
  | sla =>
    rw [Shift.base, slaBase, setShiftFlags_eq, hseven]
    rfl
  | sra =>
    have hresult : ∀ data : U8, (data >>> 1) ||| (data &&& 0x80) = data.sshiftRight 1 := by
      decide +kernel
    rw [Shift.base, sraBase, setShiftFlags_eq, hresult, hzero]
    rfl
  | sll =>
    have hresult : ∀ data : U8,
        (data <<< 1) ||| 0x01 = data.setWidth 7 ++ BitVec.ofBool true := by
      decide +kernel
    rw [Shift.base, sllBase, setShiftFlags_eq, hresult, hseven]
    rfl
  | srl =>
    rw [Shift.base, srlBase, setShiftFlags_eq, hzero]
    rfl

variable {β : Type} [Bus β]

theorem exec_onRegister (op : BitOp) (reg : Register) (c : Cpu) (bus : β) :
    c.exec bus (op.register reg) = ⟨op.onRegister reg c, bus, 4⟩ := by
  cases op with
  | shift s =>
    have hexec : c.exec bus (s.register reg) = still bus (modifyRegister s.base c reg) := by
      cases s <;> rfl
    show c.exec bus (s.register reg) = _
    rw [hexec, modifyRegister, base_eq]
    rfl
  | bit n =>
    show still bus (c.bitRegister _ reg) = _
    rw [bitRegister, setBitFlags_eq]
    rfl
  | reset n | set n =>
    show _ = (⟨(c.withFlags c.flag).setRegister reg _, bus, 4⟩ : Outcome β)
    rw [withFlags_flag]
    rfl

/-- The methods for `(HL)` perform the operation at HL. -/
theorem exec_bit_hl (op : BitOp) (c : Cpu) (bus : β) :
    ((c.exec bus op.hl).cpu, (c.exec bus op.hl).bus) = (op.access c.hl c bus).2 := by
  cases op with
  | shift s =>
    have hexec : c.exec bus s.hl = modifyHlIndirect s.base c bus := by
      cases s <;> rfl
    show ((c.exec bus s.hl).cpu, (c.exec bus s.hl).bus) = _
    rw [hexec, modifyHlIndirect, base_eq]
    rfl
  | bit n =>
    show ((c.bitHlIndirectWz _ bus).cpu, (c.bitHlIndirectWz _ bus).bus) = _
    rw [bitHlIndirectWz, setBitFlags_eq]
    rfl
  | reset n | set n =>
    show _ = (c.withFlags c.flag, _)
    rw [withFlags_flag]
    rfl

/-- A result that is also loaded into a register. -/
def load (c : Cpu) : Option U8 → Option Register → Cpu
  | some result, some reg => c.setRegister reg result
  | _, _ => c

/-- The indexed methods perform the operation at the index register and the offset. -/
theorem exec_bit_indexed (op : BitOp) (offset : U16) (index : WideRegister)
    (reg : Option Register) (c : Cpu) (bus : β) {addr : U16}
    (haddr : c.wideRegister index + offset = addr) :
    let r := op.access addr (c.setWz addr) bus
    (c.exec bus (op.indexed offset index reg)).cpu = r.2.1.load r.1 reg ∧
      (c.exec bus (op.indexed offset index reg)).bus = r.2.2 := by
  subst haddr
  cases op with
  | shift s =>
    have hexec : c.exec bus (s.indexed offset index reg) =
        modifyIndexIndirectWz s.base c offset index reg bus := by
      cases s <;> rfl
    show (c.exec bus (s.indexed offset index reg)).cpu = _ ∧
      (c.exec bus (s.indexed offset index reg)).bus = _
    rw [hexec, modifyIndexIndirectWz, base_eq]
    cases reg <;> exact ⟨rfl, rfl⟩
  | bit n =>
    show (c.bitIndexIndirectWz _ offset index bus).cpu = _ ∧
      (c.bitIndexIndirectWz _ offset index bus).bus = _
    rw [bitIndexIndirectWz, setBitFlags_eq]
    cases reg <;> exact ⟨rfl, rfl⟩
  | reset n | set n =>
    have hflags := withFlags_flag (c.setWz (c.wideRegister index + offset))
    simp only [BitOp.access, BitOp.flags, BitOp.result, hflags]
    cases reg <;> exact ⟨rfl, rfl⟩

/-! ### The pages -/

theorem cbPrefix_eq (c : Cpu) (bus : β) :
    ((c.cbPrefix bus).cpu, (c.cbPrefix bus).bus) =
      match operand ((Bus.read bus c.pc).toNat % 8) with
      | some reg => ((bitOp (Bus.read bus c.pc)).onRegister reg (c.fetch bus).2, bus)
      | none => ((bitOp (Bus.read bus c.pc)).access c.hl (c.fetch bus).2 bus).2 := by
  show (((c.fetch bus).2.exec bus (cbPrefixTable (Bus.read bus c.pc))).cpu,
    ((c.fetch bus).2.exec bus (cbPrefixTable (Bus.read bus c.pc))).bus) = _
  rw [cbPrefixTable_eq]
  cases operand ((Bus.read bus c.pc).toNat % 8) with
  | some reg => simp only [exec_onRegister]
  | none => exact exec_bit_hl _ (c.fetch bus).2 bus

/-- The opcode with `(HL)` for its operand: the same operation. -/
theorem cbPrefixTable_hl (opcode : U8) :
    cbPrefixTable ((opcode &&& 0xF8) ||| 0x06) = (bitOp opcode).hl := by
  have hoperand : ∀ opcode : U8,
      ((opcode &&& 0xF8) ||| 0x06).toNat = opcode.toNat / 8 * 8 + 6 := by decide +kernel
  have hsix : ((opcode &&& 0xF8) ||| 0x06).toNat % 8 = 6 := by
    rw [hoperand]
    omega
  have hrow : ((opcode &&& 0xF8) ||| 0x06).toNat / 8 = opcode.toNat / 8 := by
    rw [hoperand]
    omega
  have hquarter : ((opcode &&& 0xF8) ||| 0x06).toNat / 64 = opcode.toNat / 64 := by
    rw [hoperand]
    omega
  have hsame : bitOp ((opcode &&& 0xF8) ||| 0x06) = bitOp opcode := by
    rw [bitOp, bitOp, hrow, hquarter]
  rw [cbPrefixTable_eq, hsix, hsame]
  rfl

/-- BIT stores nothing, every other operation a result. -/
theorem result_bitOp (opcode : U8) (v : Flag → Bool) (data : U8) :
    (bitOp opcode).result v data = none ↔ opcode.toNat / 64 = 1 := by
  unfold bitOp
  split <;> simp only [BitOp.result, reduceCtorEq, true_iff, false_iff] <;> omega

/-- The opcode of `ddcb_prefix` with `(HL)` for its operand, executed as the CB page does, with
HL and WZ at IX and the displacement. -/
def cbAtIndex (c : Cpu) (bus : β) : Outcome β :=
  let (offset, c) := c.immediate bus
  let (opcode, c) := c.fetch bus
  let addr := c.ix + signExtend offset
  let c := (c.setHl addr).setWz addr
  c.exec bus (cbPrefixTable ((opcode &&& 0xF8) ||| 0x06))

/-- The byte that `ddcb_prefix` stores. -/
def ddcbResult (c : Cpu) (bus : β) : Option U8 :=
  (bitOp (Bus.read bus (c.pc + 1))).result c.flag
    (Bus.read bus (c.ix + signExtend (Bus.read bus c.pc)))

theorem cbAtIndex_eq (c : Cpu) (bus : β) :
    ((c.cbAtIndex bus).cpu, (c.cbAtIndex bus).bus) =
      ((bitOp (Bus.read bus (c.pc + 1))).access (c.ix + signExtend (Bus.read bus c.pc))
        ((((c.immediate bus).2.fetch bus).2.setHl
          (c.ix + signExtend (Bus.read bus c.pc))).setWz
          (c.ix + signExtend (Bus.read bus c.pc))) bus).2 := by
  have hmem := exec_bit_hl (bitOp (Bus.read bus (c.pc + 1)))
    ((((c.immediate bus).2.fetch bus).2.setHl (c.ix + signExtend (Bus.read bus c.pc))).setWz
      (c.ix + signExtend (Bus.read bus c.pc))) bus
  rw [← cbPrefixTable_hl] at hmem
  exact hmem

theorem ddcbPrefix_eq (c : Cpu) (bus : β) :
    (c.ddcbPrefix bus).bus = (c.cbAtIndex bus).bus ∧
      (c.ddcbPrefix bus).cpu = ({ (c.cbAtIndex bus).cpu with hl := c.hl } : Cpu).load
        (c.ddcbResult bus) (operand ((Bus.read bus (c.pc + 1)).toNat % 8)) ∧
      ∀ result ∈ c.ddcbResult bus, (c.cbAtIndex bus).bus =
        Bus.write bus (c.ix + signExtend (Bus.read bus c.pc)) result := by
  obtain ⟨hcpu, hbus⟩ := exec_bit_indexed (bitOp (Bus.read bus (c.pc + 1)))
    (signExtend (Bus.read bus c.pc)) .IX (operand ((Bus.read bus (c.pc + 1)).toNat % 8))
    ((c.immediate bus).2.fetch bus).2 bus rfl
  have htable : c.ddcbPrefix bus = (((c.immediate bus).2.fetch bus).2.exec bus
      ((bitOp (Bus.read bus (c.pc + 1))).indexed (signExtend (Bus.read bus c.pc)) .IX
        (operand ((Bus.read bus (c.pc + 1)).toNat % 8)))).addCycles 4 := by
    show (((c.immediate bus).2.fetch bus).2.exec bus
      (ddcbPrefixTable (signExtend (Bus.read bus c.pc)) (Bus.read bus (c.pc + 1)))).addCycles 4 = _
    rw [ddcbPrefixTable_eq]
  obtain ⟨hmcpu, hmbus⟩ := Prod.mk.inj (cbAtIndex_eq c bus)
  refine ⟨?_, ?_, ?_⟩
  · rw [htable, hmbus]
    exact hbus
  · rw [htable, hmcpu]
    exact hcpu
  · intro result hresult
    rw [hmbus]
    show (match c.ddcbResult bus with
      | some result => Bus.write bus (c.ix + signExtend (Bus.read bus c.pc)) result
      | none => bus) = _
    rw [Option.mem_def.1 hresult]

/-- A register that an opcode names is neither F nor part of IX. -/
theorem load_operand (c : Cpu) (result : Option U8) (n : ℕ) :
    lo (c.load result (operand n)).af = lo c.af ∧ (c.load result (operand n)).ix = c.ix := by
  unfold operand
  cases result with
  | none => exact ⟨rfl, rfl⟩
  | some result => split <;> simp [load, setRegister]

/-- **The CB and DD CB pages implement one decode.**  `cb_prefix` performs the operation on
the operand; `ddcb_prefix` does to memory and F what the CB page does to `(HL)` with HL and WZ
at IX and the displacement, and loads what it stored into the register of the opcode. -/
theorem bitPages_decode (c : Cpu) (bus : β) :
    ((c.cbPrefix bus).cpu, (c.cbPrefix bus).bus) =
      (match operand ((Bus.read bus c.pc).toNat % 8) with
        | some reg => ((bitOp (Bus.read bus c.pc)).onRegister reg (c.fetch bus).2, bus)
        | none => ((bitOp (Bus.read bus c.pc)).access c.hl (c.fetch bus).2 bus).2) ∧
    (c.ddcbPrefix bus).bus = (c.cbAtIndex bus).bus ∧
    lo (c.ddcbPrefix bus).cpu.af = lo (c.cbAtIndex bus).cpu.af ∧
    (c.ddcbPrefix bus).cpu.ix = c.ix ∧
    if (Bus.read bus (c.pc + 1)).toNat / 64 = 1 then
      (c.ddcbPrefix bus).cpu = { (c.cbAtIndex bus).cpu with hl := c.hl }
    else
      ∃ result, c.ddcbResult bus = some result ∧
        (c.ddcbPrefix bus).bus =
          Bus.write bus (c.ix + signExtend (Bus.read bus c.pc)) result ∧
        (c.ddcbPrefix bus).cpu =
          match operand ((Bus.read bus (c.pc + 1)).toNat % 8) with
          | some reg => ({ (c.cbAtIndex bus).cpu with hl := c.hl } : Cpu).setRegister reg result
          | none => { (c.cbAtIndex bus).cpu with hl := c.hl } := by
  obtain ⟨hbus, hcpu, hstored⟩ := ddcbPrefix_eq c bus
  obtain ⟨hf, hix⟩ := load_operand { (c.cbAtIndex bus).cpu with hl := c.hl } (c.ddcbResult bus)
    ((Bus.read bus (c.pc + 1)).toNat % 8)
  have hkeeps : (c.cbAtIndex bus).cpu.ix = c.ix := by
    rw [(Prod.mk.inj (cbAtIndex_eq c bus)).1]
    rfl
  refine ⟨cbPrefix_eq c bus, hbus, ?_, ?_, ?_⟩
  · rw [hcpu]
    exact hf
  · rw [hcpu]
    exact hix.trans hkeeps
  · have hnone := result_bitOp (Bus.read bus (c.pc + 1)) c.flag
      (Bus.read bus (c.ix + signExtend (Bus.read bus c.pc)))
    by_cases hbit : (Bus.read bus (c.pc + 1)).toNat / 64 = 1
    · have hresult : c.ddcbResult bus = none := hnone.2 hbit
      rw [if_pos hbit, hcpu, hresult]
      rfl
    · rw [if_neg hbit]
      obtain ⟨result, hresult⟩ := Option.ne_none_iff_exists'.1 fun h => hbit (hnone.1 h)
      refine ⟨result, hresult, ?_, ?_⟩
      · rw [hbus]
        exact hstored result hresult
      · rw [hcpu, ddcbResult, hresult]
        cases operand ((Bus.read bus (c.pc + 1)).toNat % 8) <;> rfl

end Cpu

end Possum
