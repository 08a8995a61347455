import Possum.Cpu.Instr

/-!
# The tables of the base, DD, ED and FD pages

`do_opcode`, `dd_prefix`, `ed_prefix` and `fd_prefix` of `cpu/mod.rs`, entry by entry.  An
entry of the base table calls a method or a prefix.  In the DD and FD tables the entry 0xCB
goes on to the page of bit operations, and what is not listed falls back to `do_opcode` with
the same opcode; so does what the ED table does not list.
-/

set_option autoImplicit false

namespace Possum

/-- An entry of the base table. -/
inductive Arm
  | run (i : Instr)
  | cb | dd | ed | fd
  deriving DecidableEq, Repr

/-- An entry of the DD or FD table. -/
inductive IndexArm
  | run (i : Instr)
  | bits
  | fallback
  deriving DecidableEq, Repr

/-- The table of `do_opcode`. -/
def doOpcodeTable (opcode : U8) : Arm :=
  match opcode.toNat with
  | 0x00 => .run .nop
  | 0x01 => .run (.readWideImmediate .BC)
  | 0x02 => .run (.writeIndirectWz .BC .A)
  | 0x03 => .run (.incWide .BC)
  | 0x04 => .run (.incWz .B)
  | 0x05 => .run (.decWz .B)
  | 0x06 => .run (.readImmediate .B)
  | 0x07 => .run .rlca
  | 0x08 => .run (.exchange .AF .AFPrime)
  | 0x09 => .run (.addWideWz .HL .BC)
  | 0x0A => .run (.readIndirectWz .A .BC)
  | 0x0B => .run (.decWide .BC)
  | 0x0C => .run (.incWz .C)
  | 0x0D => .run (.decWz .C)
  | 0x0E => .run (.readImmediate .C)
  | 0x0F => .run .rrca
  | 0x10 => .run .djnzWz
  | 0x11 => .run (.readWideImmediate .DE)
  | 0x12 => .run (.writeIndirectWz .DE .A)
  | 0x13 => .run (.incWide .DE)
  | 0x14 => .run (.incWz .D)
  | 0x15 => .run (.decWz .D)
  | 0x16 => .run (.readImmediate .D)
  | 0x17 => .run .rla
  | 0x18 => .run .jumpRelativeWz
  | 0x19 => .run (.addWideWz .HL .DE)
  | 0x1A => .run (.readIndirectWz .A .DE)
  | 0x1B => .run (.decWide .DE)
  | 0x1C => .run (.incWz .E)
  | 0x1D => .run (.decWz .E)
  | 0x1E => .run (.readImmediate .E)
  | 0x1F => .run .rra
  | 0x20 => .run (.conditionalJumpRelativeWz .NZ)
  | 0x21 => .run (.readWideImmediate .HL)
  | 0x22 => .run (.writeWideAbsoluteWz .HL)
  | 0x23 => .run (.incWide .HL)
  | 0x24 => .run (.incWz .H)
  | 0x25 => .run (.decWz .H)
  | 0x26 => .run (.readImmediate .H)
  | 0x27 => .run .daa
  | 0x28 => .run (.conditionalJumpRelativeWz .Z)
  | 0x29 => .run (.addWideWz .HL .HL)
  | 0x2A => .run (.readWideAbsoluteWz .HL)
  | 0x2B => .run (.decWide .HL)
  | 0x2C => .run (.incWz .L)
  | 0x2D => .run (.decWz .L)
  | 0x2E => .run (.readImmediate .L)
  | 0x2F => .run .cpl
  | 0x30 => .run (.conditionalJumpRelativeWz .NC)
  | 0x31 => .run (.readWideImmediate .SP)
  | 0x32 => .run (.writeAbsoluteWz .A)
  | 0x33 => .run (.incWide .SP)
  | 0x34 => .run .incHlIndirect
  | 0x35 => .run .decHlIndirect
  | 0x36 => .run .writeImmediateHlIndirect
  | 0x37 => .run .scf
  | 0x38 => .run (.conditionalJumpRelativeWz .C)
  | 0x39 => .run (.addWideWz .HL .SP)
  | 0x3A => .run (.readAbsoluteWz .A)
  | 0x3B => .run (.decWide .SP)
  | 0x3C => .run (.incWz .A)
  | 0x3D => .run (.decWz .A)
  | 0x3E => .run (.readImmediate .A)
  | 0x3F => .run .ccf
  | 0x40 => .run (.copyRegister .B .B)
  | 0x41 => .run (.copyRegister .B .C)
  | 0x42 => .run (.copyRegister .B .D)
  | 0x43 => .run (.copyRegister .B .E)
  | 0x44 => .run (.copyRegister .B .H)
  | 0x45 => .run (.copyRegister .B .L)
  | 0x46 => .run (.copyRegisterHlIndirect .B)
  | 0x47 => .run (.copyRegister .B .A)
  | 0x48 => .run (.copyRegister .C .B)
  | 0x49 => .run (.copyRegister .C .C)
  | 0x4A => .run (.copyRegister .C .D)
  | 0x4B => .run (.copyRegister .C .E)
  | 0x4C => .run (.copyRegister .C .H)
  | 0x4D => .run (.copyRegister .C .L)
  | 0x4E => .run (.copyRegisterHlIndirect .C)
  | 0x4F => .run (.copyRegister .C .A)
  | 0x50 => .run (.copyRegister .D .B)
  | 0x51 => .run (.copyRegister .D .C)
  | 0x52 => .run (.copyRegister .D .D)
  | 0x53 => .run (.copyRegister .D .E)
  | 0x54 => .run (.copyRegister .D .H)
  | 0x55 => .run (.copyRegister .D .L)
  | 0x56 => .run (.copyRegisterHlIndirect .D)
  | 0x57 => .run (.copyRegister .D .A)
  | 0x58 => .run (.copyRegister .E .B)
  | 0x59 => .run (.copyRegister .E .C)
  | 0x5A => .run (.copyRegister .E .D)
  | 0x5B => .run (.copyRegister .E .E)
  | 0x5C => .run (.copyRegister .E .H)
  | 0x5D => .run (.copyRegister .E .L)
  | 0x5E => .run (.copyRegisterHlIndirect .E)
  | 0x5F => .run (.copyRegister .E .A)
  | 0x60 => .run (.copyRegister .H .B)
  | 0x61 => .run (.copyRegister .H .C)
  | 0x62 => .run (.copyRegister .H .D)
  | 0x63 => .run (.copyRegister .H .E)
  | 0x64 => .run (.copyRegister .H .H)
  | 0x65 => .run (.copyRegister .H .L)
  | 0x66 => .run (.copyRegisterHlIndirect .H)
  | 0x67 => .run (.copyRegister .H .A)
  | 0x68 => .run (.copyRegister .L .B)
  | 0x69 => .run (.copyRegister .L .C)
  | 0x6A => .run (.copyRegister .L .D)
  | 0x6B => .run (.copyRegister .L .E)
  | 0x6C => .run (.copyRegister .L .H)
  | 0x6D => .run (.copyRegister .L .L)
  | 0x6E => .run (.copyRegisterHlIndirect .L)
  | 0x6F => .run (.copyRegister .L .A)
  | 0x70 => .run (.copyHlIndirectRegister .B)
  | 0x71 => .run (.copyHlIndirectRegister .C)
  | 0x72 => .run (.copyHlIndirectRegister .D)
  | 0x73 => .run (.copyHlIndirectRegister .E)
  | 0x74 => .run (.copyHlIndirectRegister .H)
  | 0x75 => .run (.copyHlIndirectRegister .L)
  | 0x76 => .run .halt
  | 0x77 => .run (.copyHlIndirectRegister .A)
  | 0x78 => .run (.copyRegister .A .B)
  | 0x79 => .run (.copyRegister .A .C)
  | 0x7A => .run (.copyRegister .A .D)
  | 0x7B => .run (.copyRegister .A .E)
  | 0x7C => .run (.copyRegister .A .H)
  | 0x7D => .run (.copyRegister .A .L)
  | 0x7E => .run (.copyRegisterHlIndirect .A)
  | 0x7F => .run (.copyRegister .A .A)
  | 0x80 => .run (.addCarry .B .off)
  | 0x81 => .run (.addCarry .C .off)
  | 0x82 => .run (.addCarry .D .off)
  | 0x83 => .run (.addCarry .E .off)
  | 0x84 => .run (.addCarry .H .off)
  | 0x85 => .run (.addCarry .L .off)
  | 0x86 => .run (.addCarryHlIndirect .off)
  | 0x87 => .run (.addCarry .A .off)
  | 0x88 => .run (.addCarry .B .flagC)
  | 0x89 => .run (.addCarry .C .flagC)
  | 0x8A => .run (.addCarry .D .flagC)
  | 0x8B => .run (.addCarry .E .flagC)
  | 0x8C => .run (.addCarry .H .flagC)
  | 0x8D => .run (.addCarry .L .flagC)
  | 0x8E => .run (.addCarryHlIndirect .flagC)
  | 0x8F => .run (.addCarry .A .flagC)
  | 0x90 => .run (.subCarry .B .off)
  | 0x91 => .run (.subCarry .C .off)
  | 0x92 => .run (.subCarry .D .off)
  | 0x93 => .run (.subCarry .E .off)
  | 0x94 => .run (.subCarry .H .off)
  | 0x95 => .run (.subCarry .L .off)
  | 0x96 => .run (.subCarryHlIndirect .off)
  | 0x97 => .run (.subCarry .A .off)
  | 0x98 => .run (.subCarry .B .flagC)
  | 0x99 => .run (.subCarry .C .flagC)
  | 0x9A => .run (.subCarry .D .flagC)
  | 0x9B => .run (.subCarry .E .flagC)
  | 0x9C => .run (.subCarry .H .flagC)
  | 0x9D => .run (.subCarry .L .flagC)
  | 0x9E => .run (.subCarryHlIndirect .flagC)
  | 0x9F => .run (.subCarry .A .flagC)
  | 0xA0 => .run (.and .B)
  | 0xA1 => .run (.and .C)
  | 0xA2 => .run (.and .D)
  | 0xA3 => .run (.and .E)
  | 0xA4 => .run (.and .H)
  | 0xA5 => .run (.and .L)
  | 0xA6 => .run .andHlIndirect
  | 0xA7 => .run (.and .A)
  | 0xA8 => .run (.xor .B)
  | 0xA9 => .run (.xor .C)
  | 0xAA => .run (.xor .D)
  | 0xAB => .run (.xor .E)
  | 0xAC => .run (.xor .H)
  | 0xAD => .run (.xor .L)
  | 0xAE => .run .xorHlIndirect
  | 0xAF => .run (.xor .A)
  | 0xB0 => .run (.or .B)
  | 0xB1 => .run (.or .C)
  | 0xB2 => .run (.or .D)
  | 0xB3 => .run (.or .E)
  | 0xB4 => .run (.or .H)
  | 0xB5 => .run (.or .L)
  | 0xB6 => .run .orHlIndirect
  | 0xB7 => .run (.or .A)
  | 0xB8 => .run (.compare .B)
  | 0xB9 => .run (.compare .C)
  | 0xBA => .run (.compare .D)
  | 0xBB => .run (.compare .E)
  | 0xBC => .run (.compare .H)
  | 0xBD => .run (.compare .L)
  | 0xBE => .run .compareHlIndirect
  | 0xBF => .run (.compare .A)
  | 0xC0 => .run (.conditionalReturnWz .NZ)
  | 0xC1 => .run (.pop .BC)
  | 0xC2 => .run (.conditionalJumpWz .NZ)
  | 0xC3 => .run .jumpWz
  | 0xC4 => .run (.conditionalCallWz .NZ)
  | 0xC5 => .run (.push .BC)
  | 0xC6 => .run (.addCarryImmediate .off)
  | 0xC7 => .run (.resetWz 0x00)
  | 0xC8 => .run (.conditionalReturnWz .Z)
  | 0xC9 => .run .returnWz
  | 0xCA => .run (.conditionalJumpWz .Z)
  | 0xCB => .cb
  | 0xCC => .run (.conditionalCallWz .Z)
  | 0xCD => .run .callWz
  | 0xCE => .run (.addCarryImmediate .flagC)
  | 0xCF => .run (.resetWz 0x08)
  | 0xD0 => .run (.conditionalReturnWz .NC)
  | 0xD1 => .run (.pop .DE)
  | 0xD2 => .run (.conditionalJumpWz .NC)
  | 0xD3 => .run .outputImmediateIndirect
  | 0xD4 => .run (.conditionalCallWz .NC)
  | 0xD5 => .run (.push .DE)
  | 0xD6 => .run (.subCarryImmediate .off)
  | 0xD7 => .run (.resetWz 0x10)
  | 0xD8 => .run (.conditionalReturnWz .C)
  | 0xD9 => .run .exchangeExtra
  | 0xDA => .run (.conditionalJumpWz .C)
  | 0xDB => .run .inputImmediateIndirect
  | 0xDC => .run (.conditionalCallWz .C)
  | 0xDD => .dd
  | 0xDE => .run (.subCarryImmediate .flagC)
  | 0xDF => .run (.resetWz 0x18)
  | 0xE0 => .run (.conditionalReturnWz .PO)
  | 0xE1 => .run (.pop .HL)
  | 0xE2 => .run (.conditionalJumpWz .PO)
  | 0xE3 => .run (.exchangeStackPointerIndirectWz .HL)
  | 0xE4 => .run (.conditionalCallWz .PO)
  | 0xE5 => .run (.push .HL)
  | 0xE6 => .run .andImmediate
  | 0xE7 => .run (.resetWz 0x20)
  | 0xE8 => .run (.conditionalReturnWz .PE)
  | 0xE9 => .run (.jumpIndirect .HL)
  | 0xEA => .run (.conditionalJumpWz .PE)
  | 0xEB => .run (.exchange .DE .HL)
  | 0xEC => .run (.conditionalCallWz .PE)
  | 0xED => .ed
  | 0xEE => .run .xorImmediate
  | 0xEF => .run (.resetWz 0x28)
  | 0xF0 => .run (.conditionalReturnWz .P)
  | 0xF1 => .run (.pop .AF)
  | 0xF2 => .run (.conditionalJumpWz .P)
  | 0xF3 => .run .disableInterrupts
  | 0xF4 => .run (.conditionalCallWz .P)
  | 0xF5 => .run (.push .AF)
  | 0xF6 => .run .orImmediate
  | 0xF7 => .run (.resetWz 0x30)
  | 0xF8 => .run (.conditionalReturnWz .M)
  | 0xF9 => .run (.copyWideRegister .SP .HL)
  | 0xFA => .run (.conditionalJumpWz .M)
  | 0xFB => .run .enableInterrupts
  | 0xFC => .run (.conditionalCallWz .PE)
  | 0xFD => .fd
  | 0xFE => .run .compareImmediate
  | _ => .run (.resetWz 0x38)

def ddPrefixTable (opcode : U8) : IndexArm :=
  match opcode.toNat with
  | 0x09 => .run (.addWideWz .IX .BC)
  | 0x19 => .run (.addWideWz .IX .DE)
  | 0x21 => .run (.readWideImmediate .IX)
  | 0x22 => .run (.writeWideAbsoluteWz .IX)
  | 0x23 => .run (.incWide .IX)
  | 0x24 => .run (.incWz .IXH)
  | 0x25 => .run (.decWz .IXH)
  | 0x26 => .run (.readImmediate .IXH)
  | 0x29 => .run (.addWideWz .IX .IX)
  | 0x2A => .run (.readWideAbsoluteWz .IX)
  | 0x2B => .run (.decWide .IX)
  | 0x2C => .run (.incWz .IXL)
  | 0x2D => .run (.decWz .IXL)
  | 0x2E => .run (.readImmediate .IXL)
  | 0x34 => .run (.incIndexIndirectWz .IX)
  | 0x35 => .run (.decIndexIndirectWz .IX)
  | 0x36 => .run (.writeImmediateIndexIndirectWz .IX)
  | 0x39 => .run (.addWideWz .IX .SP)
  | 0x44 => .run (.copyRegister .B .IXH)
  | 0x45 => .run (.copyRegister .B .IXL)
  | 0x46 => .run (.readIndexIndirectWz .B .IX)
  | 0x4C => .run (.copyRegister .C .IXH)
  | 0x4D => .run (.copyRegister .C .IXL)
  | 0x4E => .run (.readIndexIndirectWz .C .IX)
  | 0x54 => .run (.copyRegister .D .IXH)
  | 0x55 => .run (.copyRegister .D .IXL)
  | 0x56 => .run (.readIndexIndirectWz .D .IX)
  | 0x5C => .run (.copyRegister .E .IXH)
  | 0x5D => .run (.copyRegister .E .IXL)
  | 0x5E => .run (.readIndexIndirectWz .E .IX)
  | 0x60 => .run (.copyRegister .IXH .B)
  | 0x61 => .run (.copyRegister .IXH .C)
  | 0x62 => .run (.copyRegister .IXH .D)
  | 0x63 => .run (.copyRegister .IXH .E)
  | 0x64 => .run (.copyRegister .IXH .IXH)
  | 0x65 => .run (.copyRegister .IXH .IXL)
  | 0x66 => .run (.readIndexIndirectWz .H .IX)
  | 0x67 => .run (.copyRegister .IXH .A)
  | 0x68 => .run (.copyRegister .IXL .B)
  | 0x69 => .run (.copyRegister .IXL .C)
  | 0x6A => .run (.copyRegister .IXL .D)
  | 0x6B => .run (.copyRegister .IXL .E)
  | 0x6C => .run (.copyRegister .IXL .IXH)
  | 0x6D => .run (.copyRegister .IXL .IXL)
  | 0x6E => .run (.readIndexIndirectWz .L .IX)
  | 0x6F => .run (.copyRegister .IXL .A)
  | 0x70 => .run (.writeIndexIndirectWz .IX .B)
  | 0x71 => .run (.writeIndexIndirectWz .IX .C)
  | 0x72 => .run (.writeIndexIndirectWz .IX .D)
  | 0x73 => .run (.writeIndexIndirectWz .IX .E)
  | 0x74 => .run (.writeIndexIndirectWz .IX .H)
  | 0x75 => .run (.writeIndexIndirectWz .IX .L)
  | 0x77 => .run (.writeIndexIndirectWz .IX .A)
  | 0x7C => .run (.copyRegister .A .IXH)
  | 0x7D => .run (.copyRegister .A .IXL)
  | 0x7E => .run (.readIndexIndirectWz .A .IX)
  | 0x84 => .run (.addCarry .IXH .off)
  | 0x85 => .run (.addCarry .IXL .off)
  | 0x86 => .run (.addCarryIndexIndirectWz .IX .off)
  | 0x8C => .run (.addCarry .IXH .flagC)
  | 0x8D => .run (.addCarry .IXL .flagC)
  | 0x8E => .run (.addCarryIndexIndirectWz .IX .flagC)
  | 0x94 => .run (.subCarry .IXH .off)
  | 0x95 => .run (.subCarry .IXL .off)
  | 0x96 => .run (.subCarryIndexIndirectWz .IX .off)
  | 0x9C => .run (.subCarry .IXH .flagC)
  | 0x9D => .run (.subCarry .IXL .flagC)
  | 0x9E => .run (.subCarryIndexIndirectWz .IX .flagC)
  | 0xA4 => .run (.and .IXH)
  | 0xA5 => .run (.and .IXL)
  | 0xA6 => .run (.andIndexIndirectWz .IX)
  | 0xAC => .run (.xor .IXH)
  | 0xAD => .run (.xor .IXL)
  | 0xAE => .run (.xorIndexIndirectWz .IX)
  | 0xB4 => .run (.or .IXH)
  | 0xB5 => .run (.or .IXL)
  | 0xB6 => .run (.orIndexIndirectWz .IX)
  | 0xBC => .run (.compare .IXH)
  | 0xBD => .run (.compare .IXL)
  | 0xBE => .run (.compareIndexIndirectWz .IX)
  | 0xCB => .bits
  | 0xE1 => .run (.pop .IX)
  | 0xE3 => .run (.exchangeStackPointerIndirectWz .IX)
  | 0xE5 => .run (.push .IX)
  | 0xE9 => .run (.jumpIndirect .IX)
  | 0xF9 => .run (.copyWideRegister .SP .IX)
  | _ => .fallback

def edPrefixTable (opcode : U8) : Option Instr :=
  match opcode.toNat with
  | 0x40 => some (.input .B)
  | 0x41 => some (.output .B)
  | 0x42 => some (.subCarryWideWz .HL .BC)
  | 0x43 => some (.writeWideAbsoluteWz .BC)
  | 0x44 => some .neg
  | 0x45 => some .retnWz
  | 0x46 => some (.setInterruptMode .zero)
  | 0x47 => some (.copyRegister .I .A)
  | 0x48 => some (.input .C)
  | 0x49 => some (.output .C)
  | 0x4A => some (.addCarryWideWz .HL .BC)
  | 0x4B => some (.readWideAbsoluteWz .BC)
  | 0x4C => some .neg
  | 0x4D => some .retiWz
  | 0x4E => some (.setInterruptMode .zero)
  | 0x4F => some (.copyRegister .R .A)
  | 0x50 => some (.input .D)
  | 0x51 => some (.output .D)
  | 0x52 => some (.subCarryWideWz .HL .DE)
  | 0x53 => some (.writeWideAbsoluteWz .DE)
  | 0x54 => some .neg
  | 0x55 => some .retnWz
  | 0x56 => some (.setInterruptMode .one)
  | 0x57 => some (.copyIrRegister .I)
  | 0x58 => some (.input .E)
  | 0x59 => some (.output .E)
  | 0x5A => some (.addCarryWideWz .HL .DE)
  | 0x5B => some (.readWideAbsoluteWz .DE)
  | 0x5C => some .neg
  | 0x5D => some .retnWz
  | 0x5E => some (.setInterruptMode .two)
  | 0x5F => some (.copyIrRegister .R)
  | 0x60 => some (.input .H)
  | 0x61 => some (.output .H)
  | 0x62 => some (.subCarryWideWz .HL .HL)
  | 0x63 => some (.writeWideAbsoluteWz .HL)
  | 0x64 => some .neg
  | 0x65 => some .retnWz
  | 0x66 => some (.setInterruptMode .zero)
  | 0x67 => some .rrdWz
  | 0x68 => some (.input .L)
  | 0x69 => some (.output .L)
  | 0x6A => some (.addCarryWideWz .HL .HL)
  | 0x6B => some (.readWideAbsoluteWz .HL)
  | 0x6C => some .neg
  | 0x6D => some .retnWz
  | 0x6E => some (.setInterruptMode .zero)
  | 0x6F => some .rldWz
  | 0x70 => some .inputAndDrop
  | 0x71 => some .outputZero
  | 0x72 => some (.subCarryWideWz .HL .SP)
  | 0x73 => some (.writeWideAbsoluteWz .SP)
  | 0x74 => some .neg
  | 0x75 => some .retnWz
  | 0x76 => some (.setInterruptMode .one)
  | 0x78 => some (.input .A)
  | 0x79 => some (.output .A)
  | 0x7A => some (.addCarryWideWz .HL .SP)
  | 0x7B => some (.readWideAbsoluteWz .SP)
  | 0x7C => some .neg
  | 0x7D => some .retnWz
  | 0x7E => some (.setInterruptMode .two)
  | 0xA0 => some .ldi
  | 0xA1 => some .cpiWz
  | 0xA2 => some .iniWz
  | 0xA3 => some .outiWz
  | 0xA8 => some .ldd
  | 0xA9 => some .cpdWz
  | 0xAA => some .indWz
  | 0xAB => some .outdWz
  | 0xB0 => some .ldir
  | 0xB1 => some .cpir
  | 0xB2 => some .inirWz
  | 0xB3 => some .otirWz
  | 0xB8 => some .lddr
  | 0xB9 => some .cpdrWz
  | 0xBA => some .indrWz
  | 0xBB => some .otdrWz
  | _ => none

def fdPrefixTable (opcode : U8) : IndexArm :=
  match opcode.toNat with
  | 0x09 => .run (.addWideWz .IY .BC)
  | 0x19 => .run (.addWideWz .IY .DE)
  | 0x21 => .run (.readWideImmediate .IY)
  | 0x22 => .run (.writeWideAbsoluteWz .IY)
  | 0x23 => .run (.incWide .IY)
  | 0x24 => .run (.incWz .IYH)
  | 0x25 => .run (.decWz .IYH)
  | 0x26 => .run (.readImmediate .IYH)
  | 0x29 => .run (.addWideWz .IY .IY)
  | 0x2A => .run (.readWideAbsoluteWz .IY)
  | 0x2B => .run (.decWide .IY)
  | 0x2C => .run (.incWz .IYL)
  | 0x2D => .run (.decWz .IYL)
  | 0x2E => .run (.readImmediate .IYL)
  | 0x34 => .run (.incIndexIndirectWz .IY)
  | 0x35 => .run (.decIndexIndirectWz .IY)
  | 0x36 => .run (.writeImmediateIndexIndirectWz .IY)
  | 0x39 => .run (.addWideWz .IY .SP)
  | 0x44 => .run (.copyRegister .B .IYH)
  | 0x45 => .run (.copyRegister .B .IYL)
  | 0x46 => .run (.readIndexIndirectWz .B .IY)
  | 0x4C => .run (.copyRegister .C .IYH)
  | 0x4D => .run (.copyRegister .C .IYL)
  | 0x4E => .run (.readIndexIndirectWz .C .IY)
  | 0x54 => .run (.copyRegister .D .IYH)
  | 0x55 => .run (.copyRegister .D .IYL)
  | 0x56 => .run (.readIndexIndirectWz .D .IY)
  | 0x5C => .run (.copyRegister .E .IYH)
  | 0x5D => .run (.copyRegister .E .IYL)
  | 0x5E => .run (.readIndexIndirectWz .E .IY)
  | 0x60 => .run (.copyRegister .IYH .B)
  | 0x61 => .run (.copyRegister .IYH .C)
  | 0x62 => .run (.copyRegister .IYH .D)
  | 0x63 => .run (.copyRegister .IYH .E)
  | 0x64 => .run (.copyRegister .IYH .IYH)
  | 0x65 => .run (.copyRegister .IYH .IYL)
  | 0x66 => .run (.readIndexIndirectWz .H .IY)
  | 0x67 => .run (.copyRegister .IYH .A)
  | 0x68 => .run (.copyRegister .IYL .B)
  | 0x69 => .run (.copyRegister .IYL .C)
  | 0x6A => .run (.copyRegister .IYL .D)
  | 0x6B => .run (.copyRegister .IYL .E)
  | 0x6C => .run (.copyRegister .IYL .IYH)
  | 0x6D => .run (.copyRegister .IYL .IYL)
  | 0x6E => .run (.readIndexIndirectWz .L .IY)
  | 0x6F => .run (.copyRegister .IYL .A)
  | 0x70 => .run (.writeIndexIndirectWz .IY .B)
  | 0x71 => .run (.writeIndexIndirectWz .IY .C)
  | 0x72 => .run (.writeIndexIndirectWz .IY .D)
  | 0x73 => .run (.writeIndexIndirectWz .IY .E)
  | 0x74 => .run (.writeIndexIndirectWz .IY .H)
  | 0x75 => .run (.writeIndexIndirectWz .IY .L)
  | 0x77 => .run (.writeIndexIndirectWz .IY .A)
  | 0x7C => .run (.copyRegister .A .IYH)
  | 0x7D => .run (.copyRegister .A .IYL)
  | 0x7E => .run (.readIndexIndirectWz .A .IY)
  | 0x84 => .run (.addCarry .IYH .off)
  | 0x85 => .run (.addCarry .IYL .off)
  | 0x86 => .run (.addCarryIndexIndirectWz .IY .off)
  | 0x8C => .run (.addCarry .IYH .flagC)
  | 0x8D => .run (.addCarry .IYL .flagC)
  | 0x8E => .run (.addCarryIndexIndirectWz .IY .flagC)
  | 0x94 => .run (.subCarry .IYH .off)
  | 0x95 => .run (.subCarry .IYL .off)
  | 0x96 => .run (.subCarryIndexIndirectWz .IY .off)
  | 0x9C => .run (.subCarry .IYH .flagC)
  | 0x9D => .run (.subCarry .IYL .flagC)
  | 0x9E => .run (.subCarryIndexIndirectWz .IY .flagC)
  | 0xA4 => .run (.and .IYH)
  | 0xA5 => .run (.and .IYL)
  | 0xA6 => .run (.andIndexIndirectWz .IY)
  | 0xAC => .run (.xor .IYH)
  | 0xAD => .run (.xor .IYL)
  | 0xAE => .run (.xorIndexIndirectWz .IY)
  | 0xB4 => .run (.or .IYH)
  | 0xB5 => .run (.or .IYL)
  | 0xB6 => .run (.orIndexIndirectWz .IY)
  | 0xBC => .run (.compare .IYH)
  | 0xBD => .run (.compare .IYL)
  | 0xBE => .run (.compareIndexIndirectWz .IY)
  | 0xCB => .bits
  | 0xE1 => .run (.pop .IY)
  | 0xE3 => .run (.exchangeStackPointerIndirectWz .IY)
  | 0xE5 => .run (.push .IY)
  | 0xE9 => .run (.jumpIndirect .IY)
  | 0xF9 => .run (.copyWideRegister .SP .IY)
  | _ => .fallback

end Possum
