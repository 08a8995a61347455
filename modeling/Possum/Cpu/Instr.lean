import Possum.Cpu.Methods

/-!
# Instructions

A method call with its arguments, as the tables of `cpu/mod.rs` write it, is an `Instr`;
`Cpu.exec` makes the call.  The constructors stand in the order in which the tables first
use them.
-/

set_option autoImplicit false

namespace Possum

/-- The carry an entry of a table passes on: `false`, or `self.flag(Flag::C)`. -/
inductive Carry
  | off | flagC
  deriving DecidableEq, Repr

def Carry.value (c : Cpu) : Carry → Bool
  | .off => false
  | .flagC => c.flag .C

/-- A call of a method of `Cpu`. -/
inductive Instr
  | nop
  | readWideImmediate (reg : WideRegister)
  | writeIndirectWz (addr : WideRegister) (reg : Register)
  | incWide (reg : WideRegister)
  | incWz (reg : Register)
  | decWz (reg : Register)
  | readImmediate (reg : Register)
  | rlca
  | exchange (reg1 reg2 : WideRegister)
  | addWideWz (dst src : WideRegister)
  | readIndirectWz (reg : Register) (addr : WideRegister)
  | decWide (reg : WideRegister)
  | rrca
  | djnzWz
  | rla
  | jumpRelativeWz
  | rra
  | conditionalJumpRelativeWz (condition : Condition)
  | writeWideAbsoluteWz (reg : WideRegister)
  | daa
  | readWideAbsoluteWz (reg : WideRegister)
  | cpl
  | writeAbsoluteWz (reg : Register)
  | incHlIndirect
  | decHlIndirect
  | writeImmediateHlIndirect
  | scf
  | readAbsoluteWz (reg : Register)
  | ccf
  | copyRegister (dst src : Register)
  | copyRegisterHlIndirect (reg : Register)
  | copyHlIndirectRegister (reg : Register)
  | halt
  | addCarry (reg : Register) (carry : Carry)
  | addCarryHlIndirect (carry : Carry)
  | subCarry (reg : Register) (carry : Carry)
  | subCarryHlIndirect (carry : Carry)
  | and (reg : Register)
  | andHlIndirect
  | xor (reg : Register)
  | xorHlIndirect
  | or (reg : Register)
  | orHlIndirect
  | compare (reg : Register)
  | compareHlIndirect
  | conditionalReturnWz (condition : Condition)
  | pop (reg : WideRegister)
  | conditionalJumpWz (condition : Condition)
  | jumpWz
  | conditionalCallWz (condition : Condition)
  | push (reg : WideRegister)
  | addCarryImmediate (carry : Carry)
  | resetWz (offset : U8)
  | returnWz
  | callWz
  | outputImmediateIndirect
  | subCarryImmediate (carry : Carry)
  | exchangeExtra
  | inputImmediateIndirect
  | exchangeStackPointerIndirectWz (reg : WideRegister)
  | andImmediate
  | jumpIndirect (reg : WideRegister)
  | xorImmediate
  | disableInterrupts
  | orImmediate
  | copyWideRegister (dst src : WideRegister)
  | enableInterrupts
  | compareImmediate
  | rlcRegister (reg : Register)
  | rlcHlIndirect
  | rrcRegister (reg : Register)
  | rrcHlIndirect
  | rlRegister (reg : Register)
  | rlHlIndirect
  | rrRegister (reg : Register)
  | rrHlIndirect
  | slaRegister (reg : Register)
  | slaHlIndirect
  | sraRegister (reg : Register)
  | sraHlIndirect
  | sllRegister (reg : Register)
  | sllHlIndirect
  | srlRegister (reg : Register)
  | srlHlIndirect
  | bitRegister (mask : U8) (reg : Register)
  | bitHlIndirectWz (mask : U8)
  | resetBitRegister (mask : U8) (reg : Register)
  | resetBitHlIndirect (mask : U8)
  | setBitRegister (mask : U8) (reg : Register)
  | setBitHlIndirect (mask : U8)
  | incIndexIndirectWz (index : WideRegister)
  | decIndexIndirectWz (index : WideRegister)
  | writeImmediateIndexIndirectWz (index : WideRegister)
  | readIndexIndirectWz (reg : Register) (index : WideRegister)
  | writeIndexIndirectWz (index : WideRegister) (reg : Register)
  | addCarryIndexIndirectWz (index : WideRegister) (carry : Carry)
  | subCarryIndexIndirectWz (index : WideRegister) (carry : Carry)
  | andIndexIndirectWz (index : WideRegister)
  | xorIndexIndirectWz (index : WideRegister)
  | orIndexIndirectWz (index : WideRegister)
  | compareIndexIndirectWz (index : WideRegister)
  | input (reg : Register)
  | output (reg : Register)
  | subCarryWideWz (dst rhs : WideRegister)
  | neg
  | retnWz
  | setInterruptMode (mode : InterruptMode)
  | addCarryWideWz (dst rhs : WideRegister)
  | retiWz
  | copyIrRegister (reg : Register)
  | rrdWz
  | rldWz
  | inputAndDrop
  | outputZero
  | ldi
  | cpiWz
  | iniWz
  | outiWz
  | ldd
  | cpdWz
  | indWz
  | outdWz
  | ldir
  | cpir
  | inirWz
  | otirWz
  | lddr
  | cpdrWz
  | indrWz
  | otdrWz
  | rlcIndexIndirectWz (offset : U16) (index : WideRegister) (reg : Option Register)
  | rrcIndexIndirectWz (offset : U16) (index : WideRegister) (reg : Option Register)
  | rlIndexIndirectWz (offset : U16) (index : WideRegister) (reg : Option Register)
  | rrIndexIndirectWz (offset : U16) (index : WideRegister) (reg : Option Register)
  | slaIndexIndirectWz (offset : U16) (index : WideRegister) (reg : Option Register)
  | sraIndexIndirectWz (offset : U16) (index : WideRegister) (reg : Option Register)
  | sllIndexIndirectWz (offset : U16) (index : WideRegister) (reg : Option Register)
  | srlIndexIndirectWz (offset : U16) (index : WideRegister) (reg : Option Register)
  | bitIndexIndirectWz (mask : U8) (offset : U16) (index : WideRegister)
  | resetBitIndexIndirectWz (mask : U8) (offset : U16) (index : WideRegister)
      (reg : Option Register)
  | setBitIndexIndirectWz (mask : U8) (offset : U16) (index : WideRegister)
      (reg : Option Register)
  deriving DecidableEq, Repr

namespace Cpu

variable {β : Type} [Bus β]

/-- Make the call. -/
def exec (c : Cpu) (bus : β) : Instr → Outcome β
  | .nop => still bus c.nop
  | .readWideImmediate reg => c.readWideImmediate reg bus
  | .writeIndirectWz addr reg => c.writeIndirectWz addr reg bus
  | .incWide reg => still bus (c.incWide reg)
  | .incWz reg => still bus (c.incWz reg)
  | .decWz reg => still bus (c.decWz reg)
  | .readImmediate reg => c.readImmediate reg bus
  | .rlca => still bus c.rlca
  | .exchange reg1 reg2 => still bus (c.exchange reg1 reg2)
  | .addWideWz dst src => still bus (c.addWideWz dst src)
  | .readIndirectWz reg addr => c.readIndirectWz reg addr bus
  | .decWide reg => still bus (c.decWide reg)
  | .rrca => still bus c.rrca
  | .djnzWz => c.djnzWz bus
  | .rla => still bus c.rla
  | .jumpRelativeWz => c.jumpRelativeWz bus
  | .rra => still bus c.rra
  | .conditionalJumpRelativeWz condition => c.conditionalJumpRelativeWz condition bus
  | .writeWideAbsoluteWz reg => c.writeWideAbsoluteWz reg bus
  | .daa => still bus c.daa
  | .readWideAbsoluteWz reg => c.readWideAbsoluteWz reg bus
  | .cpl => still bus c.cpl
  | .writeAbsoluteWz reg => c.writeAbsoluteWz reg bus
  | .incHlIndirect => c.incHlIndirect bus
  | .decHlIndirect => c.decHlIndirect bus
  | .writeImmediateHlIndirect => c.writeImmediateHlIndirect bus
  | .scf => still bus c.scf
  | .readAbsoluteWz reg => c.readAbsoluteWz reg bus
  | .ccf => still bus c.ccf
  | .copyRegister dst src => still bus (c.copyRegister dst src)
  | .copyRegisterHlIndirect reg => c.copyRegisterHlIndirect reg bus
  | .copyHlIndirectRegister reg => c.copyHlIndirectRegister reg bus
  | .halt => still bus c.halt
  | .addCarry reg carry => still bus (c.addCarry reg (carry.value c))
  | .addCarryHlIndirect carry => c.addCarryHlIndirect (carry.value c) bus
  | .subCarry reg carry => still bus (c.subCarry reg (carry.value c))
  | .subCarryHlIndirect carry => c.subCarryHlIndirect (carry.value c) bus
  | .and reg => still bus (c.and reg)
  | .andHlIndirect => c.andHlIndirect bus
  | .xor reg => still bus (c.xor reg)
  | .xorHlIndirect => c.xorHlIndirect bus
  | .or reg => still bus (c.or reg)
  | .orHlIndirect => c.orHlIndirect bus
  | .compare reg => still bus (c.compare reg)
  | .compareHlIndirect => c.compareHlIndirect bus
  | .conditionalReturnWz condition => c.conditionalReturnWz condition bus
  | .pop reg => c.pop reg bus
  | .conditionalJumpWz condition => c.conditionalJumpWz condition bus
  | .jumpWz => c.jumpWz bus
  | .conditionalCallWz condition => c.conditionalCallWz condition bus
  | .push reg => c.push reg bus
  | .addCarryImmediate carry => c.addCarryImmediate (carry.value c) bus
  | .resetWz offset => c.resetWz offset bus
  | .returnWz => c.returnWz bus
  | .callWz => c.callWz bus
  | .outputImmediateIndirect => c.outputImmediateIndirect bus
  | .subCarryImmediate carry => c.subCarryImmediate (carry.value c) bus
  | .exchangeExtra => still bus c.exchangeExtra
  | .inputImmediateIndirect => c.inputImmediateIndirect bus
  | .exchangeStackPointerIndirectWz reg => c.exchangeStackPointerIndirectWz reg bus
  | .andImmediate => c.andImmediate bus
  | .jumpIndirect reg => c.jumpIndirect reg bus
  | .xorImmediate => c.xorImmediate bus
  | .disableInterrupts => still bus c.disableInterrupts
  | .orImmediate => c.orImmediate bus
  | .copyWideRegister dst src => still bus (c.copyWideRegister dst src)
  | .enableInterrupts => still bus c.enableInterrupts
  | .compareImmediate => c.compareImmediate bus
  | .rlcRegister reg => still bus (c.rlcRegister reg)
  | .rlcHlIndirect => c.rlcHlIndirect bus
  | .rrcRegister reg => still bus (c.rrcRegister reg)
  | .rrcHlIndirect => c.rrcHlIndirect bus
  | .rlRegister reg => still bus (c.rlRegister reg)
  | .rlHlIndirect => c.rlHlIndirect bus
  | .rrRegister reg => still bus (c.rrRegister reg)
  | .rrHlIndirect => c.rrHlIndirect bus
  | .slaRegister reg => still bus (c.slaRegister reg)
  | .slaHlIndirect => c.slaHlIndirect bus
  | .sraRegister reg => still bus (c.sraRegister reg)
  | .sraHlIndirect => c.sraHlIndirect bus
  | .sllRegister reg => still bus (c.sllRegister reg)
  | .sllHlIndirect => c.sllHlIndirect bus
  | .srlRegister reg => still bus (c.srlRegister reg)
  | .srlHlIndirect => c.srlHlIndirect bus
  | .bitRegister mask reg => still bus (c.bitRegister mask reg)
  | .bitHlIndirectWz mask => c.bitHlIndirectWz mask bus
  | .resetBitRegister mask reg => still bus (c.resetBitRegister mask reg)
  | .resetBitHlIndirect mask => c.resetBitHlIndirect mask bus
  | .setBitRegister mask reg => still bus (c.setBitRegister mask reg)
  | .setBitHlIndirect mask => c.setBitHlIndirect mask bus
  | .incIndexIndirectWz index => c.incIndexIndirectWz index bus
  | .decIndexIndirectWz index => c.decIndexIndirectWz index bus
  | .writeImmediateIndexIndirectWz index => c.writeImmediateIndexIndirectWz index bus
  | .readIndexIndirectWz reg index => c.readIndexIndirectWz reg index bus
  | .writeIndexIndirectWz index reg => c.writeIndexIndirectWz index reg bus
  | .addCarryIndexIndirectWz index carry => c.addCarryIndexIndirectWz index (carry.value c) bus
  | .subCarryIndexIndirectWz index carry => c.subCarryIndexIndirectWz index (carry.value c) bus
  | .andIndexIndirectWz index => c.andIndexIndirectWz index bus
  | .xorIndexIndirectWz index => c.xorIndexIndirectWz index bus
  | .orIndexIndirectWz index => c.orIndexIndirectWz index bus
  | .compareIndexIndirectWz index => c.compareIndexIndirectWz index bus
  | .input reg => c.input reg bus
  | .output reg => c.output reg bus
  | .subCarryWideWz dst rhs => still bus (c.subCarryWideWz dst rhs)
  | .neg => still bus c.neg
  | .retnWz => c.retnWz bus
  | .setInterruptMode mode => still bus (c.setInterruptMode mode)
  | .addCarryWideWz dst rhs => still bus (c.addCarryWideWz dst rhs)
  | .retiWz => c.retiWz bus
  | .copyIrRegister reg => still bus (c.copyIrRegister reg)
  | .rrdWz => c.rrdWz bus
  | .rldWz => c.rldWz bus
  | .inputAndDrop => c.inputAndDrop bus
  | .outputZero => c.outputZero bus
  | .ldi => c.ldi bus
  | .cpiWz => c.cpiWz bus
  | .iniWz => c.iniWz bus
  | .outiWz => c.outiWz bus
  | .ldd => c.ldd bus
  | .cpdWz => c.cpdWz bus
  | .indWz => c.indWz bus
  | .outdWz => c.outdWz bus
  | .ldir => c.ldir bus
  | .cpir => c.cpir bus
  | .inirWz => c.inirWz bus
  | .otirWz => c.otirWz bus
  | .lddr => c.lddr bus
  | .cpdrWz => c.cpdrWz bus
  | .indrWz => c.indrWz bus
  | .otdrWz => c.otdrWz bus
  | .rlcIndexIndirectWz offset index reg => c.rlcIndexIndirectWz offset index reg bus
  | .rrcIndexIndirectWz offset index reg => c.rrcIndexIndirectWz offset index reg bus
  | .rlIndexIndirectWz offset index reg => c.rlIndexIndirectWz offset index reg bus
  | .rrIndexIndirectWz offset index reg => c.rrIndexIndirectWz offset index reg bus
  | .slaIndexIndirectWz offset index reg => c.slaIndexIndirectWz offset index reg bus
  | .sraIndexIndirectWz offset index reg => c.sraIndexIndirectWz offset index reg bus
  | .sllIndexIndirectWz offset index reg => c.sllIndexIndirectWz offset index reg bus
  | .srlIndexIndirectWz offset index reg => c.srlIndexIndirectWz offset index reg bus
  | .bitIndexIndirectWz mask offset index => c.bitIndexIndirectWz mask offset index bus
  | .resetBitIndexIndirectWz mask offset index reg =>
      c.resetBitIndexIndirectWz mask offset index reg bus
  | .setBitIndexIndirectWz mask offset index reg =>
      c.setBitIndexIndirectWz mask offset index reg bus

end Cpu

end Possum
