import Possum.Cpu.Decode

/-!
# Exchanging registers

The DD page is the base page with IX for HL, and the FD page is the DD page with IY for IX.
`Exchange` is either exchange of two register pairs.  It acts on the state of the processor
(`swap`) and on the registers that an instruction names (`Instr.rename`), and execution
commutes with it (`exec_rename`), except that no renaming reaches the HL that some methods
use unnamed (`Instr.unnamedHl`).
-/

set_option autoImplicit false

namespace Possum

inductive Exchange
  | hlIx | ixIy
  deriving DecidableEq, Repr

namespace Exchange

def wide : Exchange → WideRegister → WideRegister
  | .hlIx, .HL => .IX
  | .hlIx, .IX => .HL
  | .ixIy, .IX => .IY
  | .ixIy, .IY => .IX
  | _, reg => reg

def register : Exchange → Register → Register
  | .hlIx, .H => .IXH
  | .hlIx, .L => .IXL
  | .hlIx, .IXH => .H
  | .hlIx, .IXL => .L
  | .ixIy, .IXH => .IYH
  | .ixIy, .IXL => .IYL
  | .ixIy, .IYH => .IXH
  | .ixIy, .IYL => .IXL
  | _, reg => reg

def swap : Exchange → Cpu → Cpu
  | .hlIx, c => { c with hl := c.ix, ix := c.hl }
  | .ixIy, c => { c with ix := c.iy, iy := c.ix }

def outcome {β : Type} (x : Exchange) (o : Outcome β) : Outcome β := { o with cpu := x.swap o.cpu }

end Exchange

/-- The instruction with the exchanged registers in its operands. -/
def Instr.rename (x : Exchange) : Instr → Instr
  | .readWideImmediate reg => .readWideImmediate (x.wide reg)
  | .writeIndirectWz addr reg => .writeIndirectWz (x.wide addr) (x.register reg)
  | .incWide reg => .incWide (x.wide reg)
  | .incWz reg => .incWz (x.register reg)
  | .decWz reg => .decWz (x.register reg)
  | .readImmediate reg => .readImmediate (x.register reg)
  | .exchange reg1 reg2 => .exchange (x.wide reg1) (x.wide reg2)
  | .addWideWz dst src => .addWideWz (x.wide dst) (x.wide src)
  | .readIndirectWz reg addr => .readIndirectWz (x.register reg) (x.wide addr)
  | .decWide reg => .decWide (x.wide reg)
  | .writeWideAbsoluteWz reg => .writeWideAbsoluteWz (x.wide reg)
  | .readWideAbsoluteWz reg => .readWideAbsoluteWz (x.wide reg)
  | .writeAbsoluteWz reg => .writeAbsoluteWz (x.register reg)
  | .readAbsoluteWz reg => .readAbsoluteWz (x.register reg)
  | .copyRegister dst src => .copyRegister (x.register dst) (x.register src)
  | .copyRegisterHlIndirect reg => .copyRegisterHlIndirect (x.register reg)
  | .copyHlIndirectRegister reg => .copyHlIndirectRegister (x.register reg)
  | .addCarry reg carry => .addCarry (x.register reg) carry
  | .subCarry reg carry => .subCarry (x.register reg) carry
  | .and reg => .and (x.register reg)
  | .xor reg => .xor (x.register reg)
  | .or reg => .or (x.register reg)
  | .compare reg => .compare (x.register reg)
  | .pop reg => .pop (x.wide reg)
  | .push reg => .push (x.wide reg)
  | .exchangeStackPointerIndirectWz reg => .exchangeStackPointerIndirectWz (x.wide reg)
  | .jumpIndirect reg => .jumpIndirect (x.wide reg)
  | .copyWideRegister dst src => .copyWideRegister (x.wide dst) (x.wide src)
  | .rlcRegister reg => .rlcRegister (x.register reg)
  | .rrcRegister reg => .rrcRegister (x.register reg)
  | .rlRegister reg => .rlRegister (x.register reg)
  | .rrRegister reg => .rrRegister (x.register reg)
  | .slaRegister reg => .slaRegister (x.register reg)
  | .sraRegister reg => .sraRegister (x.register reg)
  | .sllRegister reg => .sllRegister (x.register reg)
  | .srlRegister reg => .srlRegister (x.register reg)
  | .bitRegister mask reg => .bitRegister mask (x.register reg)
  | .resetBitRegister mask reg => .resetBitRegister mask (x.register reg)
  | .setBitRegister mask reg => .setBitRegister mask (x.register reg)
  | .incIndexIndirectWz index => .incIndexIndirectWz (x.wide index)
  | .decIndexIndirectWz index => .decIndexIndirectWz (x.wide index)
  | .writeImmediateIndexIndirectWz index => .writeImmediateIndexIndirectWz (x.wide index)
  | .readIndexIndirectWz reg index => .readIndexIndirectWz (x.register reg) (x.wide index)
  | .writeIndexIndirectWz index reg => .writeIndexIndirectWz (x.wide index) (x.register reg)
  | .addCarryIndexIndirectWz index carry => .addCarryIndexIndirectWz (x.wide index) carry
  | .subCarryIndexIndirectWz index carry => .subCarryIndexIndirectWz (x.wide index) carry
  | .andIndexIndirectWz index => .andIndexIndirectWz (x.wide index)
  | .xorIndexIndirectWz index => .xorIndexIndirectWz (x.wide index)
  | .orIndexIndirectWz index => .orIndexIndirectWz (x.wide index)
  | .compareIndexIndirectWz index => .compareIndexIndirectWz (x.wide index)
  | .input reg => .input (x.register reg)
  | .output reg => .output (x.register reg)
  | .subCarryWideWz dst rhs => .subCarryWideWz (x.wide dst) (x.wide rhs)
  | .addCarryWideWz dst rhs => .addCarryWideWz (x.wide dst) (x.wide rhs)
  | .copyIrRegister reg => .copyIrRegister (x.register reg)
  | .rlcIndexIndirectWz offset index reg =>
      .rlcIndexIndirectWz offset (x.wide index) (reg.map x.register)
  | .rrcIndexIndirectWz offset index reg =>
      .rrcIndexIndirectWz offset (x.wide index) (reg.map x.register)
  | .rlIndexIndirectWz offset index reg =>
      .rlIndexIndirectWz offset (x.wide index) (reg.map x.register)
  | .rrIndexIndirectWz offset index reg =>
      .rrIndexIndirectWz offset (x.wide index) (reg.map x.register)
  | .slaIndexIndirectWz offset index reg =>
      .slaIndexIndirectWz offset (x.wide index) (reg.map x.register)
  | .sraIndexIndirectWz offset index reg =>
      .sraIndexIndirectWz offset (x.wide index) (reg.map x.register)
  | .sllIndexIndirectWz offset index reg =>
      .sllIndexIndirectWz offset (x.wide index) (reg.map x.register)
  | .srlIndexIndirectWz offset index reg =>
      .srlIndexIndirectWz offset (x.wide index) (reg.map x.register)
  | .bitIndexIndirectWz mask offset index => .bitIndexIndirectWz mask offset (x.wide index)
  | .resetBitIndexIndirectWz mask offset index reg =>
      .resetBitIndexIndirectWz mask offset (x.wide index) (reg.map x.register)
  | .setBitIndexIndirectWz mask offset index reg =>
      .setBitIndexIndirectWz mask offset (x.wide index) (reg.map x.register)
  | i => i

/-- The method uses HL, and no operand says so. -/
def Instr.unnamedHl : Instr → Bool
  | .incHlIndirect | .decHlIndirect | .writeImmediateHlIndirect | .copyRegisterHlIndirect _
  | .copyHlIndirectRegister _ | .addCarryHlIndirect _ | .subCarryHlIndirect _ | .andHlIndirect
  | .xorHlIndirect | .orHlIndirect | .compareHlIndirect | .exchangeExtra | .rlcHlIndirect
  | .rrcHlIndirect | .rlHlIndirect | .rrHlIndirect | .slaHlIndirect | .sraHlIndirect
  | .sllHlIndirect | .srlHlIndirect | .bitHlIndirectWz _ | .resetBitHlIndirect _
  | .setBitHlIndirect _ | .rrdWz | .rldWz | .ldi | .cpiWz | .iniWz | .outiWz | .ldd | .cpdWz
  | .indWz | .outdWz | .ldir | .cpir | .inirWz | .otirWz | .lddr | .cpdrWz | .indrWz
  | .otdrWz => true
  | _ => false

namespace Exchange

open Cpu

/-! ### Registers -/

section

variable (x : Exchange) (c : Cpu)

@[simp] theorem swap_swap : x.swap (x.swap c) = c := by
  cases x <;> rfl

@[simp] theorem wide_wide (reg : WideRegister) : x.wide (x.wide reg) = reg := by
  cases x <;> cases reg <;> rfl

@[simp] theorem register_register (reg : Register) : x.register (x.register reg) = reg := by
  cases x <;> cases reg <;> rfl

/-- A renamed register of the exchanged processor is the register. -/
@[simp] theorem register_swap (reg : Register) :
    (x.swap c).register (x.register reg) = c.register reg := by
  cases x <;> cases reg <;> rfl

@[simp] theorem setRegister_swap (reg : Register) (v : U8) :
    (x.swap c).setRegister (x.register reg) v = x.swap (c.setRegister reg v) := by
  cases x <;> cases reg <;> rfl

@[simp] theorem wideRegister_swap (reg : WideRegister) :
    (x.swap c).wideRegister (x.wide reg) = c.wideRegister reg := by
  cases x <;> cases reg <;> rfl

@[simp] theorem setWideRegister_swap (reg : WideRegister) (v : U16) :
    (x.swap c).setWideRegister (x.wide reg) v = x.swap (c.setWideRegister reg v) := by
  cases x <;> cases reg <;> rfl

/-! What neither exchange moves. -/

@[simp] theorem register_swap_a : (x.swap c).register .A = c.register .A := by
  cases x <;> rfl

@[simp] theorem register_swap_b : (x.swap c).register .B = c.register .B := by
  cases x <;> rfl

@[simp] theorem register_swap_r : (x.swap c).register .R = c.register .R := by
  cases x <;> rfl

@[simp] theorem setRegister_swap_a (v : U8) :
    (x.swap c).setRegister .A v = x.swap (c.setRegister .A v) := by
  cases x <;> rfl

@[simp] theorem setRegister_swap_b (v : U8) :
    (x.swap c).setRegister .B v = x.swap (c.setRegister .B v) := by
  cases x <;> rfl

@[simp] theorem setRegister_swap_r (v : U8) :
    (x.swap c).setRegister .R v = x.swap (c.setRegister .R v) := by
  cases x <;> rfl

@[simp] theorem pc_swap : (x.swap c).pc = c.pc := by
  cases x <;> rfl

@[simp] theorem sp_swap : (x.swap c).sp = c.sp := by
  cases x <;> rfl

@[simp] theorem bc_swap : (x.swap c).bc = c.bc := by
  cases x <;> rfl

@[simp] theorem de_swap : (x.swap c).de = c.de := by
  cases x <;> rfl

@[simp] theorem wz_swap : (x.swap c).wz = c.wz := by
  cases x <;> rfl

@[simp] theorem iff2_swap : (x.swap c).iff2 = c.iff2 := by
  cases x <;> rfl

@[simp] theorem setPc_swap (v : U16) : (x.swap c).setPc v = x.swap (c.setPc v) := by
  cases x <;> rfl

@[simp] theorem setSp_swap (v : U16) : (x.swap c).setSp v = x.swap (c.setSp v) := by
  cases x <;> rfl

@[simp] theorem setBc_swap (v : U16) : (x.swap c).setBc v = x.swap (c.setBc v) := by
  cases x <;> rfl

@[simp] theorem setDe_swap (v : U16) : (x.swap c).setDe v = x.swap (c.setDe v) := by
  cases x <;> rfl

@[simp] theorem setWz_swap (v : U16) : (x.swap c).setWz v = x.swap (c.setWz v) := by
  cases x <;> rfl

@[simp] theorem hl_ixIy : (ixIy.swap c).hl = c.hl := rfl

@[simp] theorem setHl_ixIy (v : U16) : (ixIy.swap c).setHl v = ixIy.swap (c.setHl v) := rfl

@[simp] theorem flag_swap (f : Flag) : (x.swap c).flag f = c.flag f := by
  cases x <;> rfl

@[simp] theorem setFlag_swap (f : Flag) (v : Bool) :
    (x.swap c).setFlag f v = x.swap (c.setFlag f v) := by
  cases x <;> rfl

@[simp] theorem condition_swap (condition : Condition) :
    (x.swap c).condition condition = c.condition condition := by
  cases condition <;> simp [Cpu.condition]

@[simp] theorem value_swap (carry : Carry) : carry.value (x.swap c) = carry.value c := by
  cases carry <;> simp [Carry.value]

/-! ### Operations on registers -/

@[simp] theorem setResultFlags_swap (n pv h : Bool) (xy result : U8) :
    (x.swap c).setResultFlags n pv h xy result = x.swap (c.setResultFlags n pv h xy result) := by
  simp only [setResultFlags, setFlag_swap]

@[simp] theorem setIncFlags_swap (data : U8) :
    (x.swap c).setIncFlags data = x.swap (c.setIncFlags data) := by
  simp only [setIncFlags, setResultFlags_swap]

@[simp] theorem setDecFlags_swap (data : U8) :
    (x.swap c).setDecFlags data = x.swap (c.setDecFlags data) := by
  simp only [setDecFlags, setResultFlags_swap]

@[simp] theorem setBitFlags_swap (xy result : U8) :
    (x.swap c).setBitFlags xy result = x.swap (c.setBitFlags xy result) := by
  simp only [setBitFlags, setResultFlags_swap]

@[simp] theorem setParityFlags_swap (result : U8) :
    (x.swap c).setParityFlags result = x.swap (c.setParityFlags result) := by
  simp only [setParityFlags, setResultFlags_swap]

@[simp] theorem setWideResultFlags_swap (n pv h : Bool) (result : U16) :
    (x.swap c).setWideResultFlags n pv h result =
      x.swap (c.setWideResultFlags n pv h result) := by
  simp only [setWideResultFlags, setFlag_swap]

@[simp] theorem setShiftFlags_swap (carry : Bool) (result : U8) :
    (x.swap c).setShiftFlags carry result = x.swap (c.setShiftFlags carry result) := by
  simp only [setShiftFlags, setFlag_swap, setParityFlags_swap]

@[simp] theorem rotateA_swap (result : U8) (carry : Bool) :
    (x.swap c).rotateA result carry =
      (x.swap (c.rotateA result carry).1, (c.rotateA result carry).2) := by
  simp only [rotateA, setFlag_swap, setRegister_swap_a]

@[simp] theorem addCarryBase_swap (rhs : U8) (carry : Bool) :
    (x.swap c).addCarryBase rhs carry = x.swap (c.addCarryBase rhs carry) := by
  simp [addCarryBase]

@[simp] theorem subCarryBase_swap (rhs : U8) (carry : Bool) :
    (x.swap c).subCarryBase rhs carry = x.swap (c.subCarryBase rhs carry) := by
  simp [subCarryBase]

@[simp] theorem logicBase_swap (result : U8) (h : Bool) :
    (x.swap c).logicBase result h = x.swap (c.logicBase result h) := by
  simp [logicBase]

@[simp] theorem andBase_swap (rhs : U8) : (x.swap c).andBase rhs = x.swap (c.andBase rhs) := by
  simp [andBase]

@[simp] theorem xorBase_swap (rhs : U8) : (x.swap c).xorBase rhs = x.swap (c.xorBase rhs) := by
  simp [xorBase]

@[simp] theorem orBase_swap (rhs : U8) : (x.swap c).orBase rhs = x.swap (c.orBase rhs) := by
  simp [orBase]

@[simp] theorem compareBase_swap (rhs : U8) :
    (x.swap c).compareBase rhs = x.swap (c.compareBase rhs) := by
  simp [compareBase]

/-- A base computes the same result for the exchanged processor, and exchanged flags. -/
def Keeps (base : Cpu → U8 → U8 × Cpu) : Prop :=
  ∀ c data, base (x.swap c) data = ((base c data).1, x.swap (base c data).2)

@[simp] theorem keeps_rlcBase : x.Keeps rlcBase := by
  intro c data
  simp [rlcBase]

@[simp] theorem keeps_rrcBase : x.Keeps rrcBase := by
  intro c data
  simp [rrcBase]

@[simp] theorem keeps_rlBase : x.Keeps rlBase := by
  intro c data
  simp [rlBase]

@[simp] theorem keeps_rrBase : x.Keeps rrBase := by
  intro c data
  simp [rrBase]

@[simp] theorem keeps_slaBase : x.Keeps slaBase := by
  intro c data
  simp [slaBase]

@[simp] theorem keeps_sraBase : x.Keeps sraBase := by
  intro c data
  simp [sraBase]

@[simp] theorem keeps_sllBase : x.Keeps sllBase := by
  intro c data
  simp [sllBase]

@[simp] theorem keeps_srlBase : x.Keeps srlBase := by
  intro c data
  simp [srlBase]

@[simp] theorem keeps_resetBitBase (mask : U8) : x.Keeps (resetBitBase mask) := by
  intro c data
  rfl

@[simp] theorem keeps_setBitBase (mask : U8) : x.Keeps (setBitBase mask) := by
  intro c data
  rfl

variable {x} in
@[simp] theorem modifyRegister_swap {base : Cpu → U8 → U8 × Cpu} (h : x.Keeps base) (reg : Register) :
    modifyRegister base (x.swap c) (x.register reg) =
      (x.swap (modifyRegister base c reg).1, (modifyRegister base c reg).2) := by
  simp only [modifyRegister, register_swap, h _ _, setRegister_swap]

end

/-! ### Operations on the bus -/

section

variable {β : Type} [Bus β] (x : Exchange) (c : Cpu) (bus : β)

@[simp] theorem immediate_swap :
    (x.swap c).immediate bus = ((c.immediate bus).1, x.swap (c.immediate bus).2) := by
  simp [immediate]

@[simp] theorem wideImmediate_swap :
    (x.swap c).wideImmediate bus = ((c.wideImmediate bus).1, x.swap (c.wideImmediate bus).2) := by
  simp [wideImmediate]

@[simp] theorem fetch_swap :
    (x.swap c).fetch bus = ((c.fetch bus).1, x.swap (c.fetch bus).2) := by
  simp [fetch]

@[simp] theorem indexAddress_swap (index : WideRegister) :
    (x.swap c).indexAddress (x.wide index) bus =
      ((c.indexAddress index bus).1, x.swap (c.indexAddress index bus).2) := by
  simp [indexAddress]

@[simp] theorem pushBase_swap (data : U16) :
    (x.swap c).pushBase data bus = (x.swap (c.pushBase data bus).1, (c.pushBase data bus).2) := by
  simp [pushBase]

@[simp] theorem popBase_swap :
    (x.swap c).popBase bus = ((c.popBase bus).1, x.swap (c.popBase bus).2) := by
  simp [popBase]

variable {x} in
@[simp] theorem modifyIndexIndirectWz_swap {base : Cpu → U8 → U8 × Cpu} (h : x.Keeps base) (offset : U16)
    (index : WideRegister) (reg : Option Register) :
    modifyIndexIndirectWz base (x.swap c) offset (x.wide index) (reg.map x.register) bus =
      x.outcome (modifyIndexIndirectWz base c offset index reg bus) := by
  cases reg <;>
    simp only [modifyIndexIndirectWz, wideRegister_swap, setWz_swap, h _ _, Option.map_some,
      Option.map_none, setRegister_swap, outcome]

@[simp] theorem modifyHlIndirect_swap {base : Cpu → U8 → U8 × Cpu} (h : ixIy.Keeps base) :
    modifyHlIndirect base (ixIy.swap c) bus = ixIy.outcome (modifyHlIndirect base c bus) := by
  simp only [modifyHlIndirect, hl_ixIy, h _ _, outcome]

@[simp] theorem loadBlock_swap (move : U16 → U16) :
    loadBlock move (ixIy.swap c) bus = ixIy.outcome (loadBlock move c bus) := by
  simp [loadBlock, outcome]

@[simp] theorem compareBlock_swap (move : U16 → U16) :
    compareBlock move (ixIy.swap c) bus = ixIy.outcome (compareBlock move c bus) := by
  simp [compareBlock, outcome]

@[simp] theorem inputBlock_swap (move : U16 → U16) :
    inputBlock move (ixIy.swap c) bus =
      (ixIy.swap (inputBlock move c bus).1, (inputBlock move c bus).2) := by
  simp [inputBlock]

@[simp] theorem outputBlock_swap (move : U16 → U16) :
    outputBlock move (ixIy.swap c) bus =
      (ixIy.swap (outputBlock move c bus).1, (outputBlock move c bus).2) := by
  simp [outputBlock]

omit [Bus β] in
@[simp] theorem cpu_outcome (o : Outcome β) : (x.outcome o).cpu = x.swap o.cpu := rfl

omit [Bus β] in
theorem rewound_swap (again : Bool) (o : Outcome β) :
    (if again then rewound (x.outcome o) else x.outcome o) =
      x.outcome (if again then rewound o else o) := by
  cases again <;> simp [rewound, outcome]

omit [Bus β] in
@[simp] theorem repeatPort_swap : repeatPort (x.swap c, bus) = x.outcome (repeatPort (c, bus)) := by
  simp only [repeatPort, register_swap_b]
  split <;> simp [outcome]

/-- The methods that use HL unnamed commute with the exchange of IX and IY. -/
theorem exec_unnamedHl (i : Instr) (h : i.unnamedHl = true) :
    (ixIy.swap c).exec bus (i.rename ixIy) = ixIy.outcome (c.exec bus i) := by
  cases i with
  | exchangeExtra => rfl
  | ldir =>
    simp only [Instr.rename, exec, ldir, ldi, loadBlock_swap, cpu_outcome, flag_swap]
    exact rewound_swap ixIy _ _
  | lddr =>
    simp only [Instr.rename, exec, lddr, ldd, loadBlock_swap, cpu_outcome, flag_swap]
    exact rewound_swap ixIy _ _
  | cpir =>
    simp only [Instr.rename, exec, cpir, cpiWz, compareBlock_swap, cpu_outcome, flag_swap]
    exact rewound_swap ixIy _ _
  | cpdrWz =>
    simp only [Instr.rename, exec, cpdrWz, cpdWz, compareBlock_swap, cpu_outcome, flag_swap]
    exact rewound_swap ixIy _ _
  | incHlIndirect | decHlIndirect | writeImmediateHlIndirect | copyRegisterHlIndirect
  | copyHlIndirectRegister | addCarryHlIndirect | subCarryHlIndirect | andHlIndirect
  | xorHlIndirect | orHlIndirect | compareHlIndirect | bitHlIndirectWz | rrdWz | rldWz =>
    simp [Instr.rename, exec, outcome, incHlIndirect, decHlIndirect, writeImmediateHlIndirect,
      copyRegisterHlIndirect, copyHlIndirectRegister, hlIndirect, addCarryHlIndirect,
      subCarryHlIndirect, andHlIndirect, xorHlIndirect, orHlIndirect, compareHlIndirect,
      bitHlIndirectWz, rrdWz, rldWz]
  | rlcHlIndirect | rrcHlIndirect | rlHlIndirect | rrHlIndirect | slaHlIndirect
  | sraHlIndirect | sllHlIndirect | srlHlIndirect | resetBitHlIndirect | setBitHlIndirect =>
    simp [Instr.rename, exec, rlcHlIndirect, rrcHlIndirect, rlHlIndirect, rrHlIndirect,
      slaHlIndirect, sraHlIndirect, sllHlIndirect, srlHlIndirect, resetBitHlIndirect,
      setBitHlIndirect]
  | ldi | ldd => exact loadBlock_swap c bus _
  | cpiWz | cpdWz => exact compareBlock_swap c bus _
  | iniWz | indWz | outiWz | outdWz | inirWz | indrWz | otirWz | otdrWz =>
    simp [Instr.rename, exec, outcome, iniWz, indWz, outiWz, outdWz, inirWz, indrWz, otirWz,
      otdrWz]
  | _ => cases h

/-- The methods that name all their registers commute with either exchange. -/
theorem exec_named (i : Instr) (h : i.unnamedHl = false) :
    (x.swap c).exec bus (i.rename x) = x.outcome (c.exec bus i) := by
  cases i with
  | nop | incWide | incWz | decWz | decWide | exchange | addWideWz | copyRegister
  | copyWideRegister | copyIrRegister | addCarryWideWz | subCarryWideWz | neg | daa | cpl | scf
  | ccf | rlca | rrca | rla | rra | addCarry | subCarry | and | xor | or | compare
  | bitRegister | rlcRegister | rrcRegister | rlRegister | rrRegister | slaRegister
  | sraRegister | sllRegister | srlRegister | resetBitRegister | setBitRegister =>
    simp [Instr.rename, exec, still, outcome, nop, incWide, incWz, decWz, decWide, exchange,
      addWideWz, copyRegister, copyWideRegister, copyIrRegister, addCarryWideWz, subCarryWideWz,
      neg, daa, cpl, scf, ccf, rlca, rrca, rla, rra, addCarry, subCarry, Cpu.and, Cpu.xor,
      Cpu.or, Cpu.compare, bitRegister, rlcRegister, rrcRegister, rlRegister, rrRegister, slaRegister, sraRegister,
      sllRegister, srlRegister, resetBitRegister, setBitRegister]
  | halt | disableInterrupts | enableInterrupts | setInterruptMode => cases x <;> rfl
  | readWideImmediate | readImmediate | writeIndirectWz | readIndirectWz | writeWideAbsoluteWz
  | readWideAbsoluteWz | writeAbsoluteWz | readAbsoluteWz | addCarryImmediate
  | subCarryImmediate | andImmediate | xorImmediate | orImmediate | compareImmediate =>
    simp [Instr.rename, exec, outcome, readWideImmediate, readImmediate, writeIndirectWz,
      readIndirectWz, writeWideAbsoluteWz, readWideAbsoluteWz, writeAbsoluteWz,
      readAbsoluteWz, withImmediate, addCarryImmediate, subCarryImmediate, andImmediate,
      xorImmediate, orImmediate, compareImmediate]
  | jumpRelativeWz | jumpWz | jumpIndirect | callWz | resetWz | returnWz | pop | push
  | exchangeStackPointerIndirectWz =>
    simp [Instr.rename, exec, outcome, jumpRelativeWz, jumpWz, jumpIndirect, callWz, resetWz,
      returnWz, pop, push, exchangeStackPointerIndirectWz]
  | djnzWz | conditionalJumpRelativeWz | conditionalJumpWz | conditionalCallWz
  | conditionalReturnWz =>
    simp only [Instr.rename, exec, djnzWz, conditionalJumpRelativeWz, conditionalJumpWz,
      conditionalCallWz, conditionalReturnWz, condition_swap, register_swap_b, setRegister_swap_b,
      wideImmediate_swap, setWz_swap]
    split <;> simp [outcome, jumpRelativeWz, callWz, returnWz]
  | retnWz | retiWz => cases x <;> rfl
  | outputImmediateIndirect | inputImmediateIndirect | input | output | inputAndDrop
  | outputZero =>
    simp [Instr.rename, exec, outcome, outputImmediateIndirect, inputImmediateIndirect,
      Cpu.input, Cpu.output, inputAndDrop, outputZero]
  | incIndexIndirectWz | decIndexIndirectWz | writeImmediateIndexIndirectWz
  | readIndexIndirectWz | writeIndexIndirectWz | addCarryIndexIndirectWz
  | subCarryIndexIndirectWz | andIndexIndirectWz | xorIndexIndirectWz | orIndexIndirectWz
  | compareIndexIndirectWz | bitIndexIndirectWz =>
    simp [Instr.rename, exec, outcome, incIndexIndirectWz, decIndexIndirectWz,
      writeImmediateIndexIndirectWz, readIndexIndirectWz, writeIndexIndirectWz,
      indexIndirectWz, addCarryIndexIndirectWz, subCarryIndexIndirectWz, andIndexIndirectWz,
      xorIndexIndirectWz, orIndexIndirectWz, compareIndexIndirectWz, bitIndexIndirectWz]
  | rlcIndexIndirectWz | rrcIndexIndirectWz | rlIndexIndirectWz | rrIndexIndirectWz
  | slaIndexIndirectWz | sraIndexIndirectWz | sllIndexIndirectWz | srlIndexIndirectWz
  | resetBitIndexIndirectWz | setBitIndexIndirectWz =>
    simp [Instr.rename, exec, rlcIndexIndirectWz, rrcIndexIndirectWz, rlIndexIndirectWz,
      rrIndexIndirectWz, slaIndexIndirectWz, sraIndexIndirectWz, sllIndexIndirectWz,
      srlIndexIndirectWz, resetBitIndexIndirectWz, setBitIndexIndirectWz]
  | _ => cases h

/-- **Execution commutes with an exchange**, except that nothing renames the HL of a method
that does not name it. -/
theorem exec_rename (i : Instr) (h : i.unnamedHl = true → x = ixIy) :
    (x.swap c).exec bus (i.rename x) = x.outcome (c.exec bus i) := by
  cases hi : i.unnamedHl with
  | true =>
    rw [h hi]
    exact exec_unnamedHl c bus i hi
  | false => exact exec_named x c bus i hi

end

end Exchange

end Possum
