import Possum.Cpu.Operands
import Possum.Cpu.Interrupts

/-!
# Alternate registers, I, R and F

The registers that few instructions may touch.  `Instr.spares` says of an instruction that it
names none of AF', BC', DE', HL', I and R as a destination, and `Instr.keepsFlags` that it is one of
the moves, jumps and controls that leave F alone; `shadow_exec` and `flags_exec` say so of what it
does.  The tables hold four instructions that do not spare the registers: EX AF,AF', EXX, LD I,A
and LD R,A (`decoded_listed`).

R counts the opcode bytes that decoding fetches (`opcodeFetches`).  **`shadow_framed`** puts this
together for the steps of a run and for the run as a whole.
-/

set_option autoImplicit false

namespace Possum

open Lib Lib.Machine

/-! ### Destinations -/

/-- The pair is not an alternate one. -/
def WideRegister.plain : WideRegister → Bool
  | .AFPrime | .BCPrime | .DEPrime | .HLPrime => false
  | _ => true

/-- The register is neither I nor R. -/
def Register.plain : Register → Bool
  | .I | .R => false
  | _ => true

namespace Instr

/-- No alternate register, and neither I nor R, is a destination. -/
def spares : Instr → Bool
  | .readWideImmediate reg | .incWide reg | .decWide reg | .addWideWz reg _
  | .readWideAbsoluteWz reg | .pop reg | .exchangeStackPointerIndirectWz reg
  | .copyWideRegister reg _ | .subCarryWideWz reg _ | .addCarryWideWz reg _ => reg.plain
  | .incWz reg | .decWz reg | .readImmediate reg | .readIndirectWz reg _ | .readAbsoluteWz reg
  | .copyRegister reg _ | .copyRegisterHlIndirect reg | .rlcRegister reg | .rrcRegister reg
  | .rlRegister reg | .rrRegister reg | .slaRegister reg | .sraRegister reg | .sllRegister reg
  | .srlRegister reg | .resetBitRegister _ reg | .setBitRegister _ reg
  | .readIndexIndirectWz reg _ | .input reg => reg.plain
  | .rlcIndexIndirectWz _ _ reg | .rrcIndexIndirectWz _ _ reg | .rlIndexIndirectWz _ _ reg
  | .rrIndexIndirectWz _ _ reg | .slaIndexIndirectWz _ _ reg | .sraIndexIndirectWz _ _ reg
  | .sllIndexIndirectWz _ _ reg | .srlIndexIndirectWz _ _ reg
  | .resetBitIndexIndirectWz _ _ _ reg | .setBitIndexIndirectWz _ _ _ reg => reg.all Register.plain
  | .exchange reg1 reg2 => reg1.plain && reg2.plain
  | .exchangeExtra => false
  | _ => true

/-- LD but for LD A,I and LD A,R, PUSH, POP and the exchanges but for those of AF, INC and DEC of
pairs, RES, SET, jumps, calls and returns, IN A,(n), OUT, DI, EI, IM, NOP and HALT. -/
def keepsFlags : Instr → Bool
  | .nop | .writeIndirectWz _ _ | .readImmediate _ | .readIndirectWz _ _ | .djnzWz
  | .jumpRelativeWz | .conditionalJumpRelativeWz _ | .writeWideAbsoluteWz _ | .writeAbsoluteWz _
  | .writeImmediateHlIndirect | .readAbsoluteWz _ | .copyRegister _ _ | .copyRegisterHlIndirect _
  | .copyHlIndirectRegister _ | .halt | .conditionalReturnWz _ | .conditionalJumpWz _ | .jumpWz
  | .conditionalCallWz _ | .push _ | .resetWz _ | .returnWz | .callWz | .outputImmediateIndirect
  | .exchangeExtra | .inputImmediateIndirect | .jumpIndirect _ | .disableInterrupts
  | .enableInterrupts | .resetBitRegister _ _ | .resetBitHlIndirect _ | .setBitRegister _ _
  | .setBitHlIndirect _ | .writeImmediateIndexIndirectWz _ | .readIndexIndirectWz _ _
  | .writeIndexIndirectWz _ _ | .output _ | .retnWz | .setInterruptMode _ | .retiWz | .outputZero
  | .resetBitIndexIndirectWz _ _ _ _ | .setBitIndexIndirectWz _ _ _ _ => true
  | .readWideImmediate reg | .incWide reg | .decWide reg | .readWideAbsoluteWz reg | .pop reg
  | .exchangeStackPointerIndirectWz reg | .copyWideRegister reg _ => reg != .AF
  | .exchange reg1 reg2 => reg1 != .AF && reg2 != .AF
  | _ => false

end Instr

namespace Cpu

/-! ### The fields -/

/-- The alternate registers, and I with R. -/
structure Shadow where
  afPrime : U16
  bcPrime : U16
  dePrime : U16
  hlPrime : U16
  ir : U16
  deriving DecidableEq

def shadow (c : Cpu) : Shadow := ⟨c.afPrime, c.bcPrime, c.dePrime, c.hlPrime, c.ir⟩

@[simp] theorem shadow_setFlag (c : Cpu) (f : Flag) (v : Bool) :
    (c.setFlag f v).shadow = c.shadow := rfl

theorem shadow_setRegister {reg : Register} (h : reg.plain = true) (c : Cpu) (v : U8) :
    (c.setRegister reg v).shadow = c.shadow := by
  cases reg <;> first | rfl | cases h

@[simp] theorem shadow_setRegister_a (c : Cpu) (v : U8) : (c.setRegister .A v).shadow = c.shadow :=
  rfl

@[simp] theorem shadow_setRegister_b (c : Cpu) (v : U8) : (c.setRegister .B v).shadow = c.shadow :=
  rfl

theorem shadow_setWideRegister {reg : WideRegister} (h : reg.plain = true) (c : Cpu) (v : U16) :
    (c.setWideRegister reg v).shadow = c.shadow := by
  cases reg <;> first | rfl | cases h

@[simp] theorem shadow_setPc (c : Cpu) (v : U16) : (c.setPc v).shadow = c.shadow := rfl
@[simp] theorem shadow_setSp (c : Cpu) (v : U16) : (c.setSp v).shadow = c.shadow := rfl
@[simp] theorem shadow_setBc (c : Cpu) (v : U16) : (c.setBc v).shadow = c.shadow := rfl
@[simp] theorem shadow_setDe (c : Cpu) (v : U16) : (c.setDe v).shadow = c.shadow := rfl
@[simp] theorem shadow_setHl (c : Cpu) (v : U16) : (c.setHl v).shadow = c.shadow := rfl
@[simp] theorem shadow_setWz (c : Cpu) (v : U16) : (c.setWz v).shadow = c.shadow := rfl

@[simp] theorem shadow_setResultFlags (c : Cpu) (n pv h : Bool) (xy result : U8) :
    (c.setResultFlags n pv h xy result).shadow = c.shadow := by
  simp only [setResultFlags, shadow_setFlag]

@[simp] theorem shadow_setWideResultFlags (c : Cpu) (n pv h : Bool) (result : U16) :
    (c.setWideResultFlags n pv h result).shadow = c.shadow := by
  simp only [setWideResultFlags, shadow_setFlag]

@[simp] theorem shadow_setShiftFlags (c : Cpu) (carry : Bool) (result : U8) :
    (c.setShiftFlags carry result).shadow = c.shadow := by
  simp [setShiftFlags, setParityFlags]

variable {β : Type} [Bus β]

@[simp] theorem shadow_immediate (c : Cpu) (bus : β) : (c.immediate bus).2.shadow = c.shadow := rfl

omit [Bus β] in
theorem shadow_rewound_or_not (again : Bool) (o : Outcome β) :
    (if again then rewound o else o).cpu.shadow = o.cpu.shadow := by
  cases again <;> rfl

omit [Bus β] in
theorem shadow_repeatPort (r : Cpu × β) : (repeatPort r).cpu.shadow = r.1.shadow := by
  simp only [repeatPort]
  split <;> rfl

theorem shadow_loadBlock (move : U16 → U16) (c : Cpu) (bus : β) :
    (loadBlock move c bus).cpu.shadow = c.shadow := by
  simp [loadBlock]

theorem shadow_compareBlock (move : U16 → U16) (c : Cpu) (bus : β) :
    (compareBlock move c bus).cpu.shadow = c.shadow := by
  simp [compareBlock]

theorem shadow_inputBlock (move : U16 → U16) (c : Cpu) (bus : β) :
    (inputBlock move c bus).1.shadow = c.shadow := by
  simp [inputBlock]

theorem shadow_outputBlock (move : U16 → U16) (c : Cpu) (bus : β) :
    (outputBlock move c bus).1.shadow = c.shadow := by
  simp [outputBlock]

/-- Rotations, shifts and single bits set flags at most. -/
theorem shadow_shift (s : Shift) (c : Cpu) (data : U8) : (s.base c data).2.shadow = c.shadow := by
  cases s <;> exact shadow_setShiftFlags c _ _

theorem shadow_modifyIndexIndirectWz {base : Cpu → U8 → U8 × Cpu}
    (hbase : ∀ c data, (base c data).2.shadow = c.shadow) {reg : Option Register}
    (hreg : reg.all Register.plain = true) (c : Cpu) (offset : U16) (index : WideRegister) (bus : β) :
    (modifyIndexIndirectWz base c offset index reg bus).cpu.shadow = c.shadow := by
  cases reg with
  | none => exact hbase _ _
  | some r => exact (shadow_setRegister hreg _ _).trans (hbase _ _)

/-! ### Instructions -/

/-- **An instruction that spares the registers keeps them.** -/
theorem shadow_exec {i : Instr} (h : i.spares = true) (c : Cpu) (bus : β) :
    (c.exec bus i).cpu.shadow = c.shadow := by
  cases i with
  | readWideImmediate reg | incWide reg | decWide reg | readWideAbsoluteWz reg | pop reg
  | exchangeStackPointerIndirectWz reg | copyWideRegister reg => exact shadow_setWideRegister h _ _
  | readImmediate reg | readIndirectWz reg | readAbsoluteWz reg | copyRegister reg
  | copyRegisterHlIndirect reg | resetBitRegister _ reg | setBitRegister _ reg
  | readIndexIndirectWz reg => exact shadow_setRegister h _ _
  | incWz reg | decWz reg => exact (shadow_setRegister h _ _).trans (shadow_setResultFlags _ _ _ _ _ _)
  | input reg => exact (shadow_setResultFlags _ _ _ _ _ _).trans (shadow_setRegister h _ _)
  | addWideWz reg => exact (shadow_setWideRegister h _ _).trans (by simp)
  | subCarryWideWz reg | addCarryWideWz reg =>
    exact (shadow_setWideResultFlags _ _ _ _ _).trans (shadow_setWideRegister h _ _)
  | rlcRegister reg => exact (shadow_setRegister h _ _).trans (shadow_shift .rlc c _)
  | rrcRegister reg => exact (shadow_setRegister h _ _).trans (shadow_shift .rrc c _)
  | rlRegister reg => exact (shadow_setRegister h _ _).trans (shadow_shift .rl c _)
  | rrRegister reg => exact (shadow_setRegister h _ _).trans (shadow_shift .rr c _)
  | slaRegister reg => exact (shadow_setRegister h _ _).trans (shadow_shift .sla c _)
  | sraRegister reg => exact (shadow_setRegister h _ _).trans (shadow_shift .sra c _)
  | sllRegister reg => exact (shadow_setRegister h _ _).trans (shadow_shift .sll c _)
  | srlRegister reg => exact (shadow_setRegister h _ _).trans (shadow_shift .srl c _)
  | rlcIndexIndirectWz _ _ reg =>
    exact shadow_modifyIndexIndirectWz (shadow_shift .rlc) h c _ _ bus
  | rrcIndexIndirectWz _ _ reg =>
    exact shadow_modifyIndexIndirectWz (shadow_shift .rrc) h c _ _ bus
  | rlIndexIndirectWz _ _ reg =>
    exact shadow_modifyIndexIndirectWz (shadow_shift .rl) h c _ _ bus
  | rrIndexIndirectWz _ _ reg =>
    exact shadow_modifyIndexIndirectWz (shadow_shift .rr) h c _ _ bus
  | slaIndexIndirectWz _ _ reg =>
    exact shadow_modifyIndexIndirectWz (shadow_shift .sla) h c _ _ bus
  | sraIndexIndirectWz _ _ reg =>
    exact shadow_modifyIndexIndirectWz (shadow_shift .sra) h c _ _ bus
  | sllIndexIndirectWz _ _ reg =>
    exact shadow_modifyIndexIndirectWz (shadow_shift .sll) h c _ _ bus
  | srlIndexIndirectWz _ _ reg =>
    exact shadow_modifyIndexIndirectWz (shadow_shift .srl) h c _ _ bus
  | resetBitIndexIndirectWz _ _ _ reg | setBitIndexIndirectWz _ _ _ reg =>
    exact shadow_modifyIndexIndirectWz (fun _ _ => rfl) h c _ _ bus
  | exchange reg1 reg2 =>
    obtain ⟨h1, h2⟩ := Bool.and_eq_true_iff.1 h
    exact (shadow_setWideRegister h2 _ _).trans (shadow_setWideRegister h1 _ _)
  | exchangeExtra => cases h
  | ldir => exact (shadow_rewound_or_not _ _).trans (shadow_loadBlock up c bus)
  | lddr => exact (shadow_rewound_or_not _ _).trans (shadow_loadBlock down c bus)
  | cpir => exact (shadow_rewound_or_not _ _).trans (shadow_compareBlock up c bus)
  | cpdrWz => exact (shadow_rewound_or_not _ _).trans (shadow_compareBlock down c bus)
  | inirWz =>
    exact (shadow_repeatPort (inputBlock up c bus)).trans (shadow_inputBlock up c bus)
  | indrWz =>
    exact (shadow_repeatPort (inputBlock down c bus)).trans (shadow_inputBlock down c bus)
  | otirWz =>
    exact (shadow_repeatPort (outputBlock up c bus)).trans (shadow_outputBlock up c bus)
  | otdrWz =>
    exact (shadow_repeatPort (outputBlock down c bus)).trans (shadow_outputBlock down c bus)
  | conditionalJumpRelativeWz condition | conditionalReturnWz condition
  | conditionalJumpWz condition | conditionalCallWz condition =>
    simp only [exec, conditionalJumpRelativeWz, conditionalReturnWz, conditionalJumpWz,
      conditionalCallWz]
    split <;> rfl
  | djnzWz =>
    simp only [exec, djnzWz]
    split <;> rfl
  | iniWz => exact shadow_inputBlock up c bus
  | indWz => exact shadow_inputBlock down c bus
  | outiWz => exact shadow_outputBlock up c bus
  | outdWz => exact shadow_outputBlock down c bus
  | ldi => exact shadow_loadBlock up c bus
  | ldd => exact shadow_loadBlock down c bus
  | cpiWz => exact shadow_compareBlock up c bus
  | cpdWz => exact shadow_compareBlock down c bus
  | nop | writeIndirectWz | writeWideAbsoluteWz | writeAbsoluteWz | writeImmediateHlIndirect
  | copyHlIndirectRegister | halt | jumpRelativeWz | jumpWz | push | resetWz | returnWz | callWz
  | outputImmediateIndirect | inputImmediateIndirect | jumpIndirect | disableInterrupts
  | enableInterrupts | resetBitHlIndirect | setBitHlIndirect | writeImmediateIndexIndirectWz
  | writeIndexIndirectWz | output | retnWz | retiWz | setInterruptMode | inputAndDrop
  | outputZero => rfl
  | rlcHlIndirect => exact shadow_shift .rlc c _
  | rrcHlIndirect => exact shadow_shift .rrc c _
  | rlHlIndirect => exact shadow_shift .rl c _
  | rrHlIndirect => exact shadow_shift .rr c _
  | slaHlIndirect => exact shadow_shift .sla c _
  | sraHlIndirect => exact shadow_shift .sra c _
  | sllHlIndirect => exact shadow_shift .sll c _
  | srlHlIndirect => exact shadow_shift .srl c _
  | _ =>
    simp [exec, still, rlca, rrca, rla, rra, rotateA, daa, cpl, scf, ccf, incHlIndirect,
      decHlIndirect, incIndexIndirectWz, decIndexIndirectWz, indexAddress, addCarry,
      addCarryHlIndirect, addCarryImmediate, addCarryIndexIndirectWz, subCarry, subCarryHlIndirect,
      subCarryImmediate, subCarryIndexIndirectWz, and, andHlIndirect, andImmediate,
      andIndexIndirectWz, xor, xorHlIndirect, xorImmediate, xorIndexIndirectWz, or, orHlIndirect,
      orImmediate, orIndexIndirectWz, compare, compareHlIndirect, compareImmediate,
      compareIndexIndirectWz, hlIndirect, withImmediate, indexIndirectWz, addCarryBase,
      subCarryBase, andBase, xorBase, orBase, logicBase, compareBase, neg, bitRegister,
      bitHlIndirectWz, bitIndexIndirectWz, copyIrRegister, rrdWz, rldWz, setIncFlags,
      setDecFlags, setBitFlags, setParityFlags]

/-! ### F -/

omit [Bus β] in
theorem f_setRegister (c : Cpu) (reg : Register) (v : U8) :
    lo (c.setRegister reg v).af = lo c.af := by
  cases reg with
  | A => exact lo_word _ _
  | _ => rfl

omit [Bus β] in
theorem f_setWideRegister {reg : WideRegister} (h : (reg != .AF) = true) (c : Cpu) (v : U16) :
    lo (c.setWideRegister reg v).af = lo c.af := by
  cases reg <;> first | rfl | cases h

theorem f_modifyIndexIndirectWz {base : Cpu → U8 → U8 × Cpu}
    (hbase : ∀ c data, (base c data).2 = c) (c : Cpu) (offset : U16) (index : WideRegister)
    (reg : Option Register) (bus : β) :
    lo (modifyIndexIndirectWz base c offset index reg bus).cpu.af = lo c.af := by
  cases reg with
  | none =>
    show lo (base (c.setWz _) _).2.af = _
    rw [hbase]
    rfl
  | some r =>
    show lo ((base (c.setWz _) _).2.setRegister r _).af = _
    rw [f_setRegister, hbase]
    rfl

/-- **Moves, jumps and controls keep F.** -/
theorem flags_exec {i : Instr} (h : i.keepsFlags = true) (c : Cpu) (bus : β) :
    lo (c.exec bus i).cpu.af = lo c.af := by
  cases i with
  | nop | writeIndirectWz | writeWideAbsoluteWz | writeAbsoluteWz | writeImmediateHlIndirect
  | copyHlIndirectRegister | halt | jumpRelativeWz | jumpWz | push | resetWz | returnWz | callWz
  | outputImmediateIndirect | exchangeExtra | jumpIndirect | disableInterrupts | enableInterrupts
  | resetBitHlIndirect | setBitHlIndirect | writeImmediateIndexIndirectWz | writeIndexIndirectWz
  | output | retnWz | setInterruptMode | retiWz | outputZero => rfl
  | readImmediate reg | readIndirectWz reg | readAbsoluteWz reg | copyRegister reg
  | copyRegisterHlIndirect reg | resetBitRegister _ reg | setBitRegister _ reg
  | readIndexIndirectWz reg => exact f_setRegister _ reg _
  | inputImmediateIndirect => exact f_setRegister _ .A _
  | readWideImmediate reg | incWide reg | decWide reg | readWideAbsoluteWz reg | pop reg
  | exchangeStackPointerIndirectWz reg | copyWideRegister reg => exact f_setWideRegister h _ _
  | exchange reg1 reg2 =>
    obtain ⟨h1, h2⟩ := Bool.and_eq_true_iff.1 h
    exact (f_setWideRegister h2 _ _).trans (f_setWideRegister h1 _ _)
  | resetBitIndexIndirectWz | setBitIndexIndirectWz =>
    exact f_modifyIndexIndirectWz (fun _ _ => rfl) c _ _ _ bus
  | conditionalJumpRelativeWz | conditionalReturnWz | conditionalJumpWz | conditionalCallWz =>
    simp only [exec, conditionalJumpRelativeWz, conditionalReturnWz, conditionalJumpWz,
      conditionalCallWz]
    split <;> rfl
  | djnzWz =>
    simp only [exec, djnzWz]
    split <;> rfl
  | _ => cases h

/-! ### The tables -/

/-- EX AF,AF'. -/
def exAf : Instr := .exchange .AF .AFPrime

/-- The instructions that do not spare the alternate registers, I and R. -/
def shadowing : List Instr :=
  [exAf, .exchangeExtra, .copyRegister .I .A, .copyRegister .R .A]

/-- An instruction of the tables: it spares the registers, or is one of the four that do not. -/
def Listed (i : Instr) : Prop := i.spares = true ∨ i ∈ shadowing

instance (i : Instr) : Decidable (Listed i) := inferInstanceAs (Decidable (_ ∨ _))

theorem listed_base : ∀ opcode : U8, ∀ i ∈ (doOpcodeTable opcode).instr, Listed i := by
  decide +kernel

theorem listed_cb : ∀ opcode : U8, Listed (cbPrefixTable opcode) := by
  decide +kernel

theorem listed_ed : ∀ opcode : U8, ∀ i ∈ edPrefixTable opcode, Listed i := by
  decide +kernel

/-- The instruction of an arm of an index page. -/
def IndexArm.instr : IndexArm → Option Instr
  | .run i => some i
  | _ => none

theorem listed_dd : ∀ opcode : U8, ∀ i ∈ IndexArm.instr (ddPrefixTable opcode), Listed i := by
  decide +kernel

theorem listed_fd : ∀ opcode : U8, ∀ i ∈ IndexArm.instr (fdPrefixTable opcode), Listed i := by
  decide +kernel

omit [Bus β] in
theorem spares_indexed (op : BitOp) (offset : U16) (index : WideRegister) {reg : Option Register}
    (h : reg.all Register.plain = true) : (op.indexed offset index reg).spares = true := by
  cases op with
  | shift s => cases s <;> exact h
  | bit => rfl
  | reset => exact h
  | set => exact h

theorem plain_operand (n : ℕ) : (operand n).all Register.plain = true := by
  unfold operand
  split <;> rfl

/-- The registers that are renamed are plain ones. -/
theorem spares_rename (i : Instr) : (i.rename .ixIy).spares = i.spares := by
  have hreg : ∀ reg : Register, (Exchange.ixIy.register reg).plain = reg.plain := by
    intro reg
    cases reg <;> rfl
  have hwide : ∀ reg : WideRegister, (Exchange.ixIy.wide reg).plain = reg.plain := by
    intro reg
    cases reg <;> rfl
  have hopt : ∀ reg : Option Register,
      (reg.map Exchange.ixIy.register).all Register.plain = reg.all Register.plain := by
    intro reg
    cases reg with
    | none => rfl
    | some reg => exact hreg reg
  cases i with
  | exchange reg1 reg2 => exact congrArg₂ (· && ·) (hwide reg1) (hwide reg2)
  | _ => first | rfl | exact hreg _ | exact hwide _ | exact hopt _

theorem listed_ddcb (offset : U16) (opcode : U8) : Listed (ddcbPrefixTable offset opcode) := by
  rw [ddcbPrefixTable_eq]
  exact .inl (spares_indexed _ _ _ (plain_operand _))

theorem listed_fdcb (offset : U16) (opcode : U8) : Listed (fdcbPrefixTable offset opcode) := by
  rw [fdcbPrefixTable_eq, ddcbPrefixTable_eq]
  exact .inl ((spares_rename _).trans (spares_indexed _ _ _ (plain_operand _)))

/-! ### Opcode fetches -/

/-- The opcode bytes behind an index prefix, that are fetched at `pc`. -/
def indexFetches (index : U8 → IndexArm) (again : U8 → U16 → ℕ) (bus : β) (pc : U16) : ℕ :=
  match index (Bus.read bus pc) with
  | .run _ => 1
  | .bits => 2
  | .fallback => again (Bus.read bus pc) (pc + 1) + 1

/-- The bytes that `do_opcode` fetches behind an opcode, from `pc` on. -/
def opcodeFetches (bus : β) : ℕ → U8 → U16 → ℕ
  | 0, _, _ => 0
  | fuel + 1, opcode, pc =>
    match doOpcodeTable opcode with
    | .run _ => 0
    | .cb => 1
    | .dd => indexFetches ddPrefixTable (opcodeFetches bus fuel) bus pc
    | .ed =>
      match edPrefixTable (Bus.read bus pc) with
      | some _ => 1
      | none => opcodeFetches bus fuel (Bus.read bus pc) (pc + 1) + 1
    | .fd => indexFetches fdPrefixTable (opcodeFetches bus fuel) bus pc

/-- The opcode bytes that a step fetches. -/
def fetches (c : Cpu) (bus : β) : ℕ :=
  opcodeFetches bus callLimit (Bus.read bus c.pc) (c.pc + 1) + 1

/-- The fields after `n` opcode bytes. -/
def Shadow.past (s : Shadow) (n : ℕ) : Shadow :=
  { s with ir := word (hi s.ir) (refresh (lo s.ir) (BitVec.ofNat 8 n)) }

theorem Shadow.past_zero (s : Shadow) : s.past 0 = s := by
  have hir : word (hi s.ir) (refresh (lo s.ir) (BitVec.ofNat 8 0)) = s.ir := by
    show word (hi s.ir) (refresh (lo s.ir) 0) = s.ir
    rw [refresh_zero, word_hi_lo]
  rw [Shadow.past, hir]

theorem Shadow.past_past (s : Shadow) (n : ℕ) : (s.past 1).past n = s.past (n + 1) := by
  have hir : word (hi (s.past 1).ir) (refresh (lo (s.past 1).ir) (BitVec.ofNat 8 n)) =
      word (hi s.ir) (refresh (lo s.ir) (BitVec.ofNat 8 (n + 1))) := by
    rw [Shadow.past, hi_word, lo_word, BitVec.ofNat_add]
    exact congrArg (word (hi s.ir)) (refresh_refresh (lo s.ir) (BitVec.ofNat 8 n))
  show { s with ir := word (hi (s.past 1).ir) (refresh (lo (s.past 1).ir) (BitVec.ofNat 8 n)) } = _
  rw [hir]
  rfl

/-- What decoding makes of a processor after `n` fetches. -/
def DecodesTo (c : Cpu) (n : ℕ) (d : Decoded) : Prop :=
  Listed d.instr ∧ d.cpu.af = c.af ∧ d.cpu.shadow = c.shadow.past n

omit [Bus β] in
theorem DecodesTo.addCycles {c : Cpu} {n : ℕ} {d : Decoded} (h : DecodesTo (c.past 1) n d)
    (cycles : ℕ) : DecodesTo c (n + 1) (d.addCycles cycles) := by
  obtain ⟨hlisted, haf, hshadow⟩ := h
  exact ⟨hlisted, haf, hshadow.trans (Shadow.past_past c.shadow n)⟩

theorem decodesTo_index {index : U8 → IndexArm} {bits : U16 → U8 → Instr} {bus : β}
    {again : U8 → Cpu → Option Decoded} {count : U8 → U16 → ℕ}
    (hindex : ∀ opcode, ∀ i ∈ IndexArm.instr (index opcode), Listed i)
    (hbits : ∀ offset opcode, Listed (bits offset opcode))
    (hagain : ∀ opcode c d, again opcode c = some d → DecodesTo c (count opcode c.pc) d) {c : Cpu}
    {d : Decoded} (h : c.decodeIndex index bits again bus = some d) :
    DecodesTo c (indexFetches index count bus c.pc) d := by
  rw [decodeIndex, fetch_eq_past] at h
  rw [indexFetches]
  cases hop : index (Bus.read bus c.pc) with
  | run i =>
    simp only [hop, Option.some.injEq] at h
    rw [← h]
    exact ⟨hindex _ i (by rw [hop]; rfl), rfl, rfl⟩
  | bits =>
    simp only [hop, Option.some.injEq] at h
    rw [← h]
    exact ⟨hbits _ _, rfl, Shadow.past_past c.shadow 1⟩
  | fallback =>
    simp only [hop, Option.map_eq_some_iff] at h
    obtain ⟨d', hd, rfl⟩ := h
    exact (hagain _ _ _ hd).addCycles 4

/-- **Decoding moves R by the opcode bytes it fetches**, and finds an instruction of the tables. -/
theorem decodesTo_decode {bus : β} {fuel : ℕ} {opcode : U8} {c : Cpu} {d : Decoded}
    (h : decode bus fuel opcode c = some d) :
    DecodesTo c (opcodeFetches bus fuel opcode c.pc) d := by
  induction fuel generalizing opcode c d with
  | zero => cases h
  | succ fuel ih =>
    have hagain : ∀ opcode c d, decode bus fuel opcode c = some d →
        DecodesTo c (opcodeFetches bus fuel opcode c.pc) d := fun _ _ _ => ih
    rw [decode] at h
    rw [opcodeFetches]
    cases hop : doOpcodeTable opcode with
    | run i =>
      simp only [hop, Option.some.injEq] at h
      rw [← h]
      exact ⟨listed_base opcode i (by rw [hop]; rfl), rfl, (Shadow.past_zero c.shadow).symm⟩
    | cb =>
      simp only [hop, Option.some.injEq] at h
      rw [← h]
      exact ⟨listed_cb _, rfl, rfl⟩
    | dd =>
      simp only [hop] at h
      exact decodesTo_index listed_dd listed_ddcb hagain h
    | ed =>
      simp only [hop] at h ⊢
      rw [decodeExtended, fetch_eq_past] at h
      cases hed : edPrefixTable (Bus.read bus c.pc) with
      | some i =>
        simp only [hed, Option.some.injEq] at h
        rw [← h]
        exact ⟨listed_ed _ i (by rw [hed]; rfl), rfl, rfl⟩
      | none =>
        simp only [hed, Option.map_eq_some_iff] at h
        obtain ⟨d', hd, rfl⟩ := h
        exact (hagain _ _ _ hd).addCycles 4
    | fd =>
      simp only [hop] at h
      exact decodesTo_index listed_fd listed_fdcb hagain h

omit [Bus β] in
theorem shadow_takeEnable (c : Cpu) : c.takeEnable.shadow = c.shadow := by
  unfold takeEnable
  split <;> rfl

theorem decodesTo_decoded {c : Cpu} {bus : β} {d : Decoded} (h : c.decoded bus = some d) :
    DecodesTo c (c.fetches bus) d := by
  have hcount : opcodeFetches bus callLimit (Bus.read bus c.takeEnable.pc)
      (c.takeEnable.past 1).pc + 1 = c.fetches bus := by
    show opcodeFetches bus callLimit (Bus.read bus c.takeEnable.pc) (c.takeEnable.pc + 1) + 1 = _
    rw [pc_takeEnable, fetches]
  have hfirst : DecodesTo (c.takeEnable.past 1) (opcodeFetches bus callLimit
      (Bus.read bus c.takeEnable.pc) (c.takeEnable.past 1).pc) d := decodesTo_decode h
  obtain ⟨hlisted, haf, hshadow⟩ := hfirst.addCycles 0
  rw [hcount, shadow_takeEnable] at hshadow
  exact ⟨hlisted, haf.trans (wideRegister_takeEnable c .AF), hshadow⟩

/-! ### Steps -/

/-- What a step from `c` to `c'` that executes `i` and fetches `n` opcode bytes may change. -/
structure Framed (c c' : Cpu) (i : Instr) (n : ℕ) : Prop where
  afPrime : i ≠ exAf → c'.afPrime = c.afPrime
  pairs : i ≠ .exchangeExtra →
    c'.bcPrime = c.bcPrime ∧ c'.dePrime = c.dePrime ∧ c'.hlPrime = c.hlPrime
  page : i ≠ .copyRegister .I .A → c'.register .I = c.register .I
  high : i ≠ .copyRegister .R .A → (c'.register .R).msb = (c.register .R).msb
  low : i ≠ .copyRegister .R .A →
    (c'.register .R).toNat % 128 = ((c.register .R).toNat + n) % 128
  mode : (∀ mode, i ≠ .setInterruptMode mode) → c'.interruptMode = c.interruptMode
  flags : i.keepsFlags = true → lo c'.af = lo c.af

/-- What the instruction `i` itself leaves, from `c` to `c'`. -/
def Leaves (i : Instr) (c c' : Cpu) : Prop :=
  (i ≠ exAf → c'.afPrime = c.afPrime) ∧
    (i ≠ .exchangeExtra →
      c'.bcPrime = c.bcPrime ∧ c'.dePrime = c.dePrime ∧ c'.hlPrime = c.hlPrime) ∧
    (i ≠ .copyRegister .I .A → hi c'.ir = hi c.ir) ∧
    (i ≠ .copyRegister .R .A → lo c'.ir = lo c.ir)

theorem leaves_of_shadow {i : Instr} {c c' : Cpu} (h : c'.shadow = c.shadow) : Leaves i c c' := by
  have hir : c'.ir = c.ir := congrArg Shadow.ir h
  exact ⟨fun _ => congrArg Shadow.afPrime h,
    fun _ => ⟨congrArg Shadow.bcPrime h, congrArg Shadow.dePrime h, congrArg Shadow.hlPrime h⟩,
    fun _ => congrArg hi hir, fun _ => congrArg lo hir⟩

/-- Each of the four instructions changes its own registers only. -/
theorem leaves_exec {i : Instr} (h : Listed i) (c : Cpu) (bus : β) :
    Leaves i c (c.exec bus i).cpu := by
  obtain hspares | hmem := h
  · exact leaves_of_shadow (shadow_exec hspares c bus)
  · simp only [shadowing, List.mem_cons, List.not_mem_nil, or_false] at hmem
    obtain rfl | rfl | rfl | rfl := hmem
    · exact ⟨fun hne => absurd rfl hne, fun _ => ⟨rfl, rfl, rfl⟩, fun _ => rfl, fun _ => rfl⟩
    · exact ⟨fun _ => rfl, fun hne => absurd rfl hne, fun _ => rfl, fun _ => rfl⟩
    · exact ⟨fun _ => rfl, fun _ => ⟨rfl, rfl, rfl⟩, fun hne => absurd rfl hne, fun _ => lo_word _ _⟩
    · exact ⟨fun _ => rfl, fun _ => ⟨rfl, rfl, rfl⟩, fun _ => hi_word _ _, fun hne => absurd rfl hne⟩

theorem effect_mode {i : Instr} (h : ∀ mode, i ≠ .setInterruptMode mode) (k : Control) :
    (i.effect k).interruptMode = k.interruptMode := by
  cases i with
  | setInterruptMode mode => exact absurd rfl (h mode)
  | _ => rfl

/-- R after a number of fetches: bit 7, and the count modulo 128. -/
theorem refresh_count (r : U8) (n : ℕ) :
    (refresh r (BitVec.ofNat 8 n)).msb = r.msb ∧
      (refresh r (BitVec.ofNat 8 n)).toNat % 128 = (r.toNat + n) % 128 := by
  have hvalue := refresh_toNat r (BitVec.ofNat 8 n)
  rw [BitVec.toNat_ofNat] at hvalue
  refine ⟨?_, by omega⟩
  rw [BitVec.msb_eq_decide, BitVec.msb_eq_decide, decide_eq_decide]
  omega

theorem framed_instruction {c : Cpu} {bus : β} {d : Decoded} (h : c.decoded bus = some d) :
    Framed c (d.run bus).cpu d.instr (c.fetches bus) := by
  obtain ⟨hlisted, haf, hshadow⟩ := decodesTo_decoded h
  obtain ⟨h1, h2, h3, h4⟩ := leaves_exec hlisted d.cpu bus
  have hir : d.cpu.ir = word (hi c.ir) (refresh (lo c.ir) (BitVec.ofNat 8 (c.fetches bus))) :=
    congrArg Shadow.ir hshadow
  have hr : d.instr ≠ .copyRegister .R .A → (d.run bus).cpu.register .R =
      refresh (c.register .R) (BitVec.ofNat 8 (c.fetches bus)) := by
    intro hne
    refine (h4 hne).trans ?_
    rw [hir, lo_word]
    rfl
  obtain ⟨hhigh, hlow⟩ := refresh_count (c.register .R) (c.fetches bus)
  refine ⟨?_, ?_, ?_, ?_, ?_, ?_, ?_⟩
  · intro hne
    exact (h1 hne).trans (congrArg Shadow.afPrime hshadow)
  · intro hne
    obtain ⟨hbc, hde, hhl⟩ := h2 hne
    exact ⟨hbc.trans (congrArg Shadow.bcPrime hshadow), hde.trans (congrArg Shadow.dePrime hshadow),
      hhl.trans (congrArg Shadow.hlPrime hshadow)⟩
  · intro hne
    refine (h3 hne).trans ?_
    rw [hir, hi_word]
    rfl
  · intro hne
    rw [hr hne, hhigh]
  · intro hne
    rw [hr hne, hlow]
  · intro hne
    have hcontrol : (d.run bus).cpu.control = _ := control_instruction h
    refine (congrArg Control.interruptMode hcontrol).trans ((effect_mode hne _).trans ?_)
    unfold takeEnable
    split <;> rfl
  · intro hkeeps
    exact (flags_exec hkeeps d.cpu bus).trans (congrArg lo haf)

/-- **A step is framed**, with or without an interrupt. -/
theorem framed_tick {c c' : Cpu} {w : Wired β} {t : Tick} (h : tick c w = some (t, c')) :
    Framed c c' t.instr (c.fetches w.bus) := by
  obtain ⟨bus, line⟩ := w
  obtain ⟨d, hd, rfl, hcases⟩ := tick_eq_some h
  have hframed := framed_instruction hd
  -- an interrupt moves PC, SP, WZ and the enabling only
  obtain ⟨-, hr⟩ | ⟨-, -, hr⟩ | ⟨-, -, hr⟩ := hcases <;> rw [hr]
  · exact hframed
  · exact ⟨hframed.1, hframed.2, hframed.3, hframed.4, hframed.5, hframed.6, hframed.7⟩
  · exact ⟨hframed.1, hframed.2, hframed.3, hframed.4, hframed.5, hframed.6, hframed.7⟩

/-! ### Runs -/

/-- The opcode bytes that a run fetches. -/
def runFetches (c : Cpu) (ws : List (Wired β)) : ℕ :=
  (collect tick (fun c w _ => [c.fetches w.bus]) c ws).sum

theorem runFetches_cons {c c' : Cpu} {w : Wired β} {t : Tick} (h : tick c w = some (t, c'))
    (ws : List (Wired β)) : runFetches c (w :: ws) = c.fetches w.bus + runFetches c' ws := by
  simp [runFetches, collect, h]

/-- A run without LD R,A counts its fetches in R. -/
theorem r_of_run {c c' : Cpu} {ws : List (Wired β)} {ts : List Tick}
    (h : run tick c ws = some (ts, c')) (hts : ∀ t ∈ ts, t.instr ≠ .copyRegister .R .A) :
    (c'.register .R).toNat % 128 = ((c.register .R).toNat + runFetches c ws) % 128 := by
  induction ws generalizing c ts with
  | nil =>
    cases h
    rfl
  | cons w ws ih =>
    obtain ⟨t, c₁, ts', ht, hrest, rfl⟩ := run_cons_eq_some h
    have hfirst := (framed_tick ht).low (hts t List.mem_cons_self)
    have hlast := ih hrest fun t ht => hts t (List.mem_cons_of_mem _ ht)
    rw [runFetches_cons ht]
    omega

/-- **Alternate and privileged registers are framed.**  Along every run, whatever memory, devices
and the interrupt line do, each step changes AF' only by EX AF,AF', the other alternate pairs only
by EXX, I only by LD I,A, bit 7 of R only by LD R,A and the interrupt mode only by IM; R otherwise
advances by the opcode bytes fetched, and F stays over every move, jump and control.  So a run
without the instruction leaves the register as it was. -/
theorem shadow_framed (c c' : Cpu) (ws : List (Wired β)) (ts : List Tick)
    (h : run tick c ws = some (ts, c')) :
    Along tick (fun c w => ∀ t c', tick c w = some (t, c') →
      Framed c c' t.instr (c.fetches w.bus)) c ws ∧
    ((∀ t ∈ ts, t.instr ≠ exAf) → c'.afPrime = c.afPrime) ∧
    ((∀ t ∈ ts, t.instr ≠ .exchangeExtra) →
      c'.bcPrime = c.bcPrime ∧ c'.dePrime = c.dePrime ∧ c'.hlPrime = c.hlPrime) ∧
    ((∀ t ∈ ts, t.instr ≠ .copyRegister .I .A) → c'.register .I = c.register .I) ∧
    ((∀ t ∈ ts, t.instr ≠ .copyRegister .R .A) →
      (c'.register .R).msb = (c.register .R).msb ∧
        (c'.register .R).toNat % 128 = ((c.register .R).toNat + runFetches c ws) % 128) ∧
    ((∀ t ∈ ts, ∀ mode, t.instr ≠ .setInterruptMode mode) →
      c'.interruptMode = c.interruptMode) := by
  refine ⟨along_of_forall (fun _ _ _ _ => framed_tick) c ws, ?_, ?_, ?_, ?_, ?_⟩
  · exact run_frame afPrime (fun _ _ _ _ ht hne => (framed_tick ht).afPrime hne) h
  · intro hts
    have hpairs := run_frame (fun c : Cpu => (c.bcPrime, c.dePrime, c.hlPrime))
      (fun _ _ _ _ ht hne => by
        obtain ⟨hbc, hde, hhl⟩ := (framed_tick ht).pairs hne
        rw [hbc, hde, hhl]) h hts
    simpa using hpairs
  · exact run_frame (fun c => c.register .I) (fun _ _ _ _ ht hne => (framed_tick ht).page hne) h
  · intro hts
    exact ⟨run_frame (fun c => (c.register .R).msb)
      (fun _ _ _ _ ht hne => (framed_tick ht).high hne) h hts, r_of_run h hts⟩
  · intro hts
    have hstep : ∀ (c : Cpu) (w : Wired β) (t : Tick) (c' : Cpu), tick c w = some (t, c') →
        ¬ (∃ mode, t.instr = .setInterruptMode mode) → c'.interruptMode = c.interruptMode :=
      fun _ _ _ _ ht hne => (framed_tick ht).mode fun mode hmode => hne ⟨mode, hmode⟩
    exact run_frame interruptMode hstep h fun t ht ⟨mode, hmode⟩ => hts t ht mode hmode

/-- LD A,n, EX AF,AF' and EXX, and LD B,n behind two prefixes: R goes from 0x7E to 0x04. -/
theorem shadow_framed_wrap :
    ∃ ts c', run tick ({ bc := 0x1234, ir := 0x007E } : Cpu)
        (program [0x3E, 0x12, 0x08, 0xD9, 0xDD, 0xFD, 0x06, 0x01] [false, false, false, false]) =
          some (ts, c') ∧
      (c'.register .R).msb = false ∧ (c'.register .R).toNat % 128 = (0x7E + 6) % 128 := by
  have hrun : (run tick ({ bc := 0x1234, ir := 0x007E } : Cpu)
      (program [0x3E, 0x12, 0x08, 0xD9, 0xDD, 0xFD, 0x06, 0x01] [false, false, false, false])).map
        (fun r => decide (∀ t ∈ r.1, t.instr ≠ .copyRegister .R .A)) = some true := by
    decide +kernel
  have hcount : runFetches ({ bc := 0x1234, ir := 0x007E } : Cpu)
      (program [0x3E, 0x12, 0x08, 0xD9, 0xDD, 0xFD, 0x06, 0x01] [false, false, false, false]) =
        6 := by
    decide +kernel
  obtain ⟨r, hr, hts⟩ := Option.map_eq_some_iff.1 hrun
  obtain ⟨hhigh, hlow⟩ := (shadow_framed _ _ _ _ hr).2.2.2.2.1 (of_decide_eq_true hts)
  rw [hcount] at hlow
  exact ⟨r.1, r.2, hr, hhigh, hlow⟩

end Cpu

end Possum
