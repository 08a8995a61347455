import Possum.Cpu.Instr

/-!
# The tables of the CB, DD CB and FD CB pages

`cb_prefix`, `ddcb_prefix` and `fdcb_prefix` of `cpu/mod.rs`, entry by entry.  Every byte has
an entry, so the last one stands under the wildcard.
-/

set_option autoImplicit false

namespace Possum

def cbPrefixTable (opcode : U8) : Instr :=
  match opcode.toNat with
  | 0x00 => .rlcRegister .B
  | 0x01 => .rlcRegister .C
  | 0x02 => .rlcRegister .D
  | 0x03 => .rlcRegister .E
  | 0x04 => .rlcRegister .H
  | 0x05 => .rlcRegister .L
  | 0x06 => .rlcHlIndirect
  | 0x07 => .rlcRegister .A
  | 0x08 => .rrcRegister .B
  | 0x09 => .rrcRegister .C
  | 0x0A => .rrcRegister .D
  | 0x0B => .rrcRegister .E
  | 0x0C => .rrcRegister .H
  | 0x0D => .rrcRegister .L
  | 0x0E => .rrcHlIndirect
  | 0x0F => .rrcRegister .A
  | 0x10 => .rlRegister .B
  | 0x11 => .rlRegister .C
  | 0x12 => .rlRegister .D
  | 0x13 => .rlRegister .E
  | 0x14 => .rlRegister .H
  | 0x15 => .rlRegister .L
  | 0x16 => .rlHlIndirect
  | 0x17 => .rlRegister .A
  | 0x18 => .rrRegister .B
  | 0x19 => .rrRegister .C
  | 0x1A => .rrRegister .D
  | 0x1B => .rrRegister .E
  | 0x1C => .rrRegister .H
  | 0x1D => .rrRegister .L
  | 0x1E => .rrHlIndirect
  | 0x1F => .rrRegister .A
  | 0x20 => .slaRegister .B
  | 0x21 => .slaRegister .C
  | 0x22 => .slaRegister .D
  | 0x23 => .slaRegister .E
  | 0x24 => .slaRegister .H
  | 0x25 => .slaRegister .L
  | 0x26 => .slaHlIndirect
  | 0x27 => .slaRegister .A
  | 0x28 => .sraRegister .B
  | 0x29 => .sraRegister .C
  | 0x2A => .sraRegister .D
  | 0x2B => .sraRegister .E
  | 0x2C => .sraRegister .H
  | 0x2D => .sraRegister .L
  | 0x2E => .sraHlIndirect
  | 0x2F => .sraRegister .A
  | 0x30 => .sllRegister .B
  | 0x31 => .sllRegister .C
  | 0x32 => .sllRegister .D
  | 0x33 => .sllRegister .E
  | 0x34 => .sllRegister .H
  | 0x35 => .sllRegister .L
  | 0x36 => .sllHlIndirect
  | 0x37 => .sllRegister .A
  | 0x38 => .srlRegister .B
  | 0x39 => .srlRegister .C
  | 0x3A => .srlRegister .D
  | 0x3B => .srlRegister .E
  | 0x3C => .srlRegister .H
  | 0x3D => .srlRegister .L
  | 0x3E => .srlHlIndirect
  | 0x3F => .srlRegister .A
  | 0x40 => .bitRegister 0x01 .B
  | 0x41 => .bitRegister 0x01 .C
  | 0x42 => .bitRegister 0x01 .D
  | 0x43 => .bitRegister 0x01 .E
  | 0x44 => .bitRegister 0x01 .H
  | 0x45 => .bitRegister 0x01 .L
  | 0x46 => .bitHlIndirectWz 0x01
  | 0x47 => .bitRegister 0x01 .A
  | 0x48 => .bitRegister 0x02 .B
  | 0x49 => .bitRegister 0x02 .C
  | 0x4A => .bitRegister 0x02 .D
  | 0x4B => .bitRegister 0x02 .E
  | 0x4C => .bitRegister 0x02 .H
  | 0x4D => .bitRegister 0x02 .L
  | 0x4E => .bitHlIndirectWz 0x02
  | 0x4F => .bitRegister 0x02 .A
  | 0x50 => .bitRegister 0x04 .B
  | 0x51 => .bitRegister 0x04 .C
  | 0x52 => .bitRegister 0x04 .D
  | 0x53 => .bitRegister 0x04 .E
  | 0x54 => .bitRegister 0x04 .H
  | 0x55 => .bitRegister 0x04 .L
  | 0x56 => .bitHlIndirectWz 0x04
  | 0x57 => .bitRegister 0x04 .A
  | 0x58 => .bitRegister 0x08 .B
  | 0x59 => .bitRegister 0x08 .C
  | 0x5A => .bitRegister 0x08 .D
  | 0x5B => .bitRegister 0x08 .E
  | 0x5C => .bitRegister 0x08 .H
  | 0x5D => .bitRegister 0x08 .L
  | 0x5E => .bitHlIndirectWz 0x08
  | 0x5F => .bitRegister 0x08 .A
  | 0x60 => .bitRegister 0x10 .B
  | 0x61 => .bitRegister 0x10 .C
  | 0x62 => .bitRegister 0x10 .D
  | 0x63 => .bitRegister 0x10 .E
  | 0x64 => .bitRegister 0x10 .H
  | 0x65 => .bitRegister 0x10 .L
  | 0x66 => .bitHlIndirectWz 0x10
  | 0x67 => .bitRegister 0x10 .A
  | 0x68 => .bitRegister 0x20 .B
  | 0x69 => .bitRegister 0x20 .C
  | 0x6A => .bitRegister 0x20 .D
  | 0x6B => .bitRegister 0x20 .E
  | 0x6C => .bitRegister 0x20 .H
  | 0x6D => .bitRegister 0x20 .L
  | 0x6E => .bitHlIndirectWz 0x20
  | 0x6F => .bitRegister 0x20 .A
  | 0x70 => .bitRegister 0x40 .B
  | 0x71 => .bitRegister 0x40 .C
  | 0x72 => .bitRegister 0x40 .D
  | 0x73 => .bitRegister 0x40 .E
  | 0x74 => .bitRegister 0x40 .H
  | 0x75 => .bitRegister 0x40 .L
  | 0x76 => .bitHlIndirectWz 0x40
  | 0x77 => .bitRegister 0x40 .A
  | 0x78 => .bitRegister 0x80 .B
  | 0x79 => .bitRegister 0x80 .C
  | 0x7A => .bitRegister 0x80 .D
  | 0x7B => .bitRegister 0x80 .E
  | 0x7C => .bitRegister 0x80 .H
  | 0x7D => .bitRegister 0x80 .L
  | 0x7E => .bitHlIndirectWz 0x80
  | 0x7F => .bitRegister 0x80 .A
  | 0x80 => .resetBitRegister 0x01 .B
  | 0x81 => .resetBitRegister 0x01 .C
  | 0x82 => .resetBitRegister 0x01 .D
  | 0x83 => .resetBitRegister 0x01 .E
  | 0x84 => .resetBitRegister 0x01 .H
  | 0x85 => .resetBitRegister 0x01 .L
  | 0x86 => .resetBitHlIndirect 0x01
  | 0x87 => .resetBitRegister 0x01 .A
  | 0x88 => .resetBitRegister 0x02 .B
  | 0x89 => .resetBitRegister 0x02 .C
  | 0x8A => .resetBitRegister 0x02 .D
  | 0x8B => .resetBitRegister 0x02 .E
  | 0x8C => .resetBitRegister 0x02 .H
  | 0x8D => .resetBitRegister 0x02 .L
  | 0x8E => .resetBitHlIndirect 0x02
  | 0x8F => .resetBitRegister 0x02 .A
  | 0x90 => .resetBitRegister 0x04 .B
  | 0x91 => .resetBitRegister 0x04 .C
  | 0x92 => .resetBitRegister 0x04 .D
  | 0x93 => .resetBitRegister 0x04 .E
  | 0x94 => .resetBitRegister 0x04 .H
  | 0x95 => .resetBitRegister 0x04 .L
  | 0x96 => .resetBitHlIndirect 0x04
  | 0x97 => .resetBitRegister 0x04 .A
  | 0x98 => .resetBitRegister 0x08 .B
  | 0x99 => .resetBitRegister 0x08 .C
  | 0x9A => .resetBitRegister 0x08 .D
  | 0x9B => .resetBitRegister 0x08 .E
  | 0x9C => .resetBitRegister 0x08 .H
  | 0x9D => .resetBitRegister 0x08 .L
  | 0x9E => .resetBitHlIndirect 0x08
  | 0x9F => .resetBitRegister 0x08 .A
  | 0xA0 => .resetBitRegister 0x10 .B
  | 0xA1 => .resetBitRegister 0x10 .C
  | 0xA2 => .resetBitRegister 0x10 .D
  | 0xA3 => .resetBitRegister 0x10 .E
  | 0xA4 => .resetBitRegister 0x10 .H
  | 0xA5 => .resetBitRegister 0x10 .L
  | 0xA6 => .resetBitHlIndirect 0x10
  | 0xA7 => .resetBitRegister 0x10 .A
  | 0xA8 => .resetBitRegister 0x20 .B
  | 0xA9 => .resetBitRegister 0x20 .C
  | 0xAA => .resetBitRegister 0x20 .D
  | 0xAB => .resetBitRegister 0x20 .E
  | 0xAC => .resetBitRegister 0x20 .H
  | 0xAD => .resetBitRegister 0x20 .L
  | 0xAE => .resetBitHlIndirect 0x20
  | 0xAF => .resetBitRegister 0x20 .A
  | 0xB0 => .resetBitRegister 0x40 .B
  | 0xB1 => .resetBitRegister 0x40 .C
  | 0xB2 => .resetBitRegister 0x40 .D
  | 0xB3 => .resetBitRegister 0x40 .E
  | 0xB4 => .resetBitRegister 0x40 .H
  | 0xB5 => .resetBitRegister 0x40 .L
  | 0xB6 => .resetBitHlIndirect 0x40
  | 0xB7 => .resetBitRegister 0x40 .A
  | 0xB8 => .resetBitRegister 0x80 .B
  | 0xB9 => .resetBitRegister 0x80 .C
  | 0xBA => .resetBitRegister 0x80 .D
  | 0xBB => .resetBitRegister 0x80 .E
  | 0xBC => .resetBitRegister 0x80 .H
  | 0xBD => .resetBitRegister 0x80 .L
  | 0xBE => .resetBitHlIndirect 0x80
  | 0xBF => .resetBitRegister 0x80 .A
  | 0xC0 => .setBitRegister 0x01 .B
  | 0xC1 => .setBitRegister 0x01 .C
  | 0xC2 => .setBitRegister 0x01 .D
  | 0xC3 => .setBitRegister 0x01 .E
  | 0xC4 => .setBitRegister 0x01 .H
  | 0xC5 => .setBitRegister 0x01 .L
  | 0xC6 => .setBitHlIndirect 0x01
  | 0xC7 => .setBitRegister 0x01 .A
  | 0xC8 => .setBitRegister 0x02 .B
  | 0xC9 => .setBitRegister 0x02 .C
  | 0xCA => .setBitRegister 0x02 .D
  | 0xCB => .setBitRegister 0x02 .E
  | 0xCC => .setBitRegister 0x02 .H
  | 0xCD => .setBitRegister 0x02 .L
  | 0xCE => .setBitHlIndirect 0x02
  | 0xCF => .setBitRegister 0x02 .A
  | 0xD0 => .setBitRegister 0x04 .B
  | 0xD1 => .setBitRegister 0x04 .C
  | 0xD2 => .setBitRegister 0x04 .D
  | 0xD3 => .setBitRegister 0x04 .E
  | 0xD4 => .setBitRegister 0x04 .H
  | 0xD5 => .setBitRegister 0x04 .L
  | 0xD6 => .setBitHlIndirect 0x04
  | 0xD7 => .setBitRegister 0x04 .A
  | 0xD8 => .setBitRegister 0x08 .B
  | 0xD9 => .setBitRegister 0x08 .C
  | 0xDA => .setBitRegister 0x08 .D
  | 0xDB => .setBitRegister 0x08 .E
  | 0xDC => .setBitRegister 0x08 .H
  | 0xDD => .setBitRegister 0x08 .L
  | 0xDE => .setBitHlIndirect 0x08
  | 0xDF => .setBitRegister 0x08 .A
  | 0xE0 => .setBitRegister 0x10 .B
  | 0xE1 => .setBitRegister 0x10 .C
  | 0xE2 => .setBitRegister 0x10 .D
  | 0xE3 => .setBitRegister 0x10 .E
  | 0xE4 => .setBitRegister 0x10 .H
  | 0xE5 => .setBitRegister 0x10 .L
  | 0xE6 => .setBitHlIndirect 0x10
  | 0xE7 => .setBitRegister 0x10 .A
  | 0xE8 => .setBitRegister 0x20 .B
  | 0xE9 => .setBitRegister 0x20 .C
  | 0xEA => .setBitRegister 0x20 .D
  | 0xEB => .setBitRegister 0x20 .E
  | 0xEC => .setBitRegister 0x20 .H
  | 0xED => .setBitRegister 0x20 .L
  | 0xEE => .setBitHlIndirect 0x20
  | 0xEF => .setBitRegister 0x20 .A
  | 0xF0 => .setBitRegister 0x40 .B
  | 0xF1 => .setBitRegister 0x40 .C
  | 0xF2 => .setBitRegister 0x40 .D
  | 0xF3 => .setBitRegister 0x40 .E
  | 0xF4 => .setBitRegister 0x40 .H
  | 0xF5 => .setBitRegister 0x40 .L
  | 0xF6 => .setBitHlIndirect 0x40
  | 0xF7 => .setBitRegister 0x40 .A
  | 0xF8 => .setBitRegister 0x80 .B
  | 0xF9 => .setBitRegister 0x80 .C
  | 0xFA => .setBitRegister 0x80 .D
  | 0xFB => .setBitRegister 0x80 .E
  | 0xFC => .setBitRegister 0x80 .H
  | 0xFD => .setBitRegister 0x80 .L
  | 0xFE => .setBitHlIndirect 0x80
  | _ => .setBitRegister 0x80 .A

def ddcbPrefixTable (offset : U16) (opcode : U8) : Instr :=
  match opcode.toNat with
  | 0x00 => .rlcIndexIndirectWz offset .IX (some .B)
  | 0x01 => .rlcIndexIndirectWz offset .IX (some .C)
  | 0x02 => .rlcIndexIndirectWz offset .IX (some .D)
  | 0x03 => .rlcIndexIndirectWz offset .IX (some .E)
  | 0x04 => .rlcIndexIndirectWz offset .IX (some .H)
  | 0x05 => .rlcIndexIndirectWz offset .IX (some .L)
  | 0x06 => .rlcIndexIndirectWz offset .IX none
  | 0x07 => .rlcIndexIndirectWz offset .IX (some .A)
  | 0x08 => .rrcIndexIndirectWz offset .IX (some .B)
  | 0x09 => .rrcIndexIndirectWz offset .IX (some .C)
  | 0x0A => .rrcIndexIndirectWz offset .IX (some .D)
  | 0x0B => .rrcIndexIndirectWz offset .IX (some .E)
  | 0x0C => .rrcIndexIndirectWz offset .IX (some .H)
  | 0x0D => .rrcIndexIndirectWz offset .IX (some .L)
  | 0x0E => .rrcIndexIndirectWz offset .IX none
  | 0x0F => .rrcIndexIndirectWz offset .IX (some .A)
  | 0x10 => .rlIndexIndirectWz offset .IX (some .B)
  | 0x11 => .rlIndexIndirectWz offset .IX (some .C)
  | 0x12 => .rlIndexIndirectWz offset .IX (some .D)
  | 0x13 => .rlIndexIndirectWz offset .IX (some .E)
  | 0x14 => .rlIndexIndirectWz offset .IX (some .H)
  | 0x15 => .rlIndexIndirectWz offset .IX (some .L)
  | 0x16 => .rlIndexIndirectWz offset .IX none
  | 0x17 => .rlIndexIndirectWz offset .IX (some .A)
  | 0x18 => .rrIndexIndirectWz offset .IX (some .B)
  | 0x19 => .rrIndexIndirectWz offset .IX (some .C)
  | 0x1A => .rrIndexIndirectWz offset .IX (some .D)
  | 0x1B => .rrIndexIndirectWz offset .IX (some .E)
  | 0x1C => .rrIndexIndirectWz offset .IX (some .H)
  | 0x1D => .rrIndexIndirectWz offset .IX (some .L)
  | 0x1E => .rrIndexIndirectWz offset .IX none
  | 0x1F => .rrIndexIndirectWz offset .IX (some .A)
  | 0x20 => .slaIndexIndirectWz offset .IX (some .B)
  | 0x21 => .slaIndexIndirectWz offset .IX (some .C)
  | 0x22 => .slaIndexIndirectWz offset .IX (some .D)
  | 0x23 => .slaIndexIndirectWz offset .IX (some .E)
  | 0x24 => .slaIndexIndirectWz offset .IX (some .H)
  | 0x25 => .slaIndexIndirectWz offset .IX (some .L)
  | 0x26 => .slaIndexIndirectWz offset .IX none
  | 0x27 => .slaIndexIndirectWz offset .IX (some .A)
  | 0x28 => .sraIndexIndirectWz offset .IX (some .B)
  | 0x29 => .sraIndexIndirectWz offset .IX (some .C)
  | 0x2A => .sraIndexIndirectWz offset .IX (some .D)
  | 0x2B => .sraIndexIndirectWz offset .IX (some .E)
  | 0x2C => .sraIndexIndirectWz offset .IX (some .H)
  | 0x2D => .sraIndexIndirectWz offset .IX (some .L)
  | 0x2E => .sraIndexIndirectWz offset .IX none
  | 0x2F => .sraIndexIndirectWz offset .IX (some .A)
  | 0x30 => .sllIndexIndirectWz offset .IX (some .B)
  | 0x31 => .sllIndexIndirectWz offset .IX (some .C)
  | 0x32 => .sllIndexIndirectWz offset .IX (some .D)
  | 0x33 => .sllIndexIndirectWz offset .IX (some .E)
  | 0x34 => .sllIndexIndirectWz offset .IX (some .H)
  | 0x35 => .sllIndexIndirectWz offset .IX (some .L)
  | 0x36 => .sllIndexIndirectWz offset .IX none
  | 0x37 => .sllIndexIndirectWz offset .IX (some .A)
  | 0x38 => .srlIndexIndirectWz offset .IX (some .B)
  | 0x39 => .srlIndexIndirectWz offset .IX (some .C)
  | 0x3A => .srlIndexIndirectWz offset .IX (some .D)
  | 0x3B => .srlIndexIndirectWz offset .IX (some .E)
  | 0x3C => .srlIndexIndirectWz offset .IX (some .H)
  | 0x3D => .srlIndexIndirectWz offset .IX (some .L)
  | 0x3E => .srlIndexIndirectWz offset .IX none
  | 0x3F => .srlIndexIndirectWz offset .IX (some .A)
  | 0x40 => .bitIndexIndirectWz 0x01 offset .IX
  | 0x41 => .bitIndexIndirectWz 0x01 offset .IX
  | 0x42 => .bitIndexIndirectWz 0x01 offset .IX
  | 0x43 => .bitIndexIndirectWz 0x01 offset .IX
  | 0x44 => .bitIndexIndirectWz 0x01 offset .IX
  | 0x45 => .bitIndexIndirectWz 0x01 offset .IX
  | 0x46 => .bitIndexIndirectWz 0x01 offset .IX
  | 0x47 => .bitIndexIndirectWz 0x01 offset .IX
  | 0x48 => .bitIndexIndirectWz 0x02 offset .IX
  | 0x49 => .bitIndexIndirectWz 0x02 offset .IX
  | 0x4A => .bitIndexIndirectWz 0x02 offset .IX
  | 0x4B => .bitIndexIndirectWz 0x02 offset .IX
  | 0x4C => .bitIndexIndirectWz 0x02 offset .IX
  | 0x4D => .bitIndexIndirectWz 0x02 offset .IX
  | 0x4E => .bitIndexIndirectWz 0x02 offset .IX
  | 0x4F => .bitIndexIndirectWz 0x02 offset .IX
  | 0x50 => .bitIndexIndirectWz 0x04 offset .IX
  | 0x51 => .bitIndexIndirectWz 0x04 offset .IX
  | 0x52 => .bitIndexIndirectWz 0x04 offset .IX
  | 0x53 => .bitIndexIndirectWz 0x04 offset .IX
  | 0x54 => .bitIndexIndirectWz 0x04 offset .IX
  | 0x55 => .bitIndexIndirectWz 0x04 offset .IX
  | 0x56 => .bitIndexIndirectWz 0x04 offset .IX
  | 0x57 => .bitIndexIndirectWz 0x04 offset .IX
  | 0x58 => .bitIndexIndirectWz 0x08 offset .IX
  | 0x59 => .bitIndexIndirectWz 0x08 offset .IX
  | 0x5A => .bitIndexIndirectWz 0x08 offset .IX
  | 0x5B => .bitIndexIndirectWz 0x08 offset .IX
  | 0x5C => .bitIndexIndirectWz 0x08 offset .IX
  | 0x5D => .bitIndexIndirectWz 0x08 offset .IX
  | 0x5E => .bitIndexIndirectWz 0x08 offset .IX
  | 0x5F => .bitIndexIndirectWz 0x08 offset .IX
  | 0x60 => .bitIndexIndirectWz 0x10 offset .IX
  | 0x61 => .bitIndexIndirectWz 0x10 offset .IX
  | 0x62 => .bitIndexIndirectWz 0x10 offset .IX
  | 0x63 => .bitIndexIndirectWz 0x10 offset .IX
  | 0x64 => .bitIndexIndirectWz 0x10 offset .IX
  | 0x65 => .bitIndexIndirectWz 0x10 offset .IX
  | 0x66 => .bitIndexIndirectWz 0x10 offset .IX
  | 0x67 => .bitIndexIndirectWz 0x10 offset .IX
  | 0x68 => .bitIndexIndirectWz 0x20 offset .IX
  | 0x69 => .bitIndexIndirectWz 0x20 offset .IX
  | 0x6A => .bitIndexIndirectWz 0x20 offset .IX
  | 0x6B => .bitIndexIndirectWz 0x20 offset .IX
  | 0x6C => .bitIndexIndirectWz 0x20 offset .IX
  | 0x6D => .bitIndexIndirectWz 0x20 offset .IX
  | 0x6E => .bitIndexIndirectWz 0x20 offset .IX
  | 0x6F => .bitIndexIndirectWz 0x20 offset .IX
  | 0x70 => .bitIndexIndirectWz 0x40 offset .IX
  | 0x71 => .bitIndexIndirectWz 0x40 offset .IX
  | 0x72 => .bitIndexIndirectWz 0x40 offset .IX
  | 0x73 => .bitIndexIndirectWz 0x40 offset .IX
  | 0x74 => .bitIndexIndirectWz 0x40 offset .IX
  | 0x75 => .bitIndexIndirectWz 0x40 offset .IX
  | 0x76 => .bitIndexIndirectWz 0x40 offset .IX
  | 0x77 => .bitIndexIndirectWz 0x40 offset .IX
  | 0x78 => .bitIndexIndirectWz 0x80 offset .IX
  | 0x79 => .bitIndexIndirectWz 0x80 offset .IX
  | 0x7A => .bitIndexIndirectWz 0x80 offset .IX
  | 0x7B => .bitIndexIndirectWz 0x80 offset .IX
  | 0x7C => .bitIndexIndirectWz 0x80 offset .IX
  | 0x7D => .bitIndexIndirectWz 0x80 offset .IX
  | 0x7E => .bitIndexIndirectWz 0x80 offset .IX
  | 0x7F => .bitIndexIndirectWz 0x80 offset .IX
  | 0x80 => .resetBitIndexIndirectWz 0x01 offset .IX (some .B)
  | 0x81 => .resetBitIndexIndirectWz 0x01 offset .IX (some .C)
  | 0x82 => .resetBitIndexIndirectWz 0x01 offset .IX (some .D)
  | 0x83 => .resetBitIndexIndirectWz 0x01 offset .IX (some .E)
  | 0x84 => .resetBitIndexIndirectWz 0x01 offset .IX (some .H)
  | 0x85 => .resetBitIndexIndirectWz 0x01 offset .IX (some .L)
  | 0x86 => .resetBitIndexIndirectWz 0x01 offset .IX none
  | 0x87 => .resetBitIndexIndirectWz 0x01 offset .IX (some .A)
  | 0x88 => .resetBitIndexIndirectWz 0x02 offset .IX (some .B)
  | 0x89 => .resetBitIndexIndirectWz 0x02 offset .IX (some .C)
  | 0x8A => .resetBitIndexIndirectWz 0x02 offset .IX (some .D)
  | 0x8B => .resetBitIndexIndirectWz 0x02 offset .IX (some .E)
  | 0x8C => .resetBitIndexIndirectWz 0x02 offset .IX (some .H)
  | 0x8D => .resetBitIndexIndirectWz 0x02 offset .IX (some .L)
  | 0x8E => .resetBitIndexIndirectWz 0x02 offset .IX none
  | 0x8F => .resetBitIndexIndirectWz 0x02 offset .IX (some .A)
  | 0x90 => .resetBitIndexIndirectWz 0x04 offset .IX (some .B)
  | 0x91 => .resetBitIndexIndirectWz 0x04 offset .IX (some .C)
  | 0x92 => .resetBitIndexIndirectWz 0x04 offset .IX (some .D)
  | 0x93 => .resetBitIndexIndirectWz 0x04 offset .IX (some .E)
  | 0x94 => .resetBitIndexIndirectWz 0x04 offset .IX (some .H)
  | 0x95 => .resetBitIndexIndirectWz 0x04 offset .IX (some .L)
  | 0x96 => .resetBitIndexIndirectWz 0x04 offset .IX none
  | 0x97 => .resetBitIndexIndirectWz 0x04 offset .IX (some .A)
  | 0x98 => .resetBitIndexIndirectWz 0x08 offset .IX (some .B)
  | 0x99 => .resetBitIndexIndirectWz 0x08 offset .IX (some .C)
  | 0x9A => .resetBitIndexIndirectWz 0x08 offset .IX (some .D)
  | 0x9B => .resetBitIndexIndirectWz 0x08 offset .IX (some .E)
  | 0x9C => .resetBitIndexIndirectWz 0x08 offset .IX (some .H)
  | 0x9D => .resetBitIndexIndirectWz 0x08 offset .IX (some .L)
  | 0x9E => .resetBitIndexIndirectWz 0x08 offset .IX none
  | 0x9F => .resetBitIndexIndirectWz 0x08 offset .IX (some .A)
  | 0xA0 => .resetBitIndexIndirectWz 0x10 offset .IX (some .B)
  | 0xA1 => .resetBitIndexIndirectWz 0x10 offset .IX (some .C)
  | 0xA2 => .resetBitIndexIndirectWz 0x10 offset .IX (some .D)
  | 0xA3 => .resetBitIndexIndirectWz 0x10 offset .IX (some .E)
  | 0xA4 => .resetBitIndexIndirectWz 0x10 offset .IX (some .H)
  | 0xA5 => .resetBitIndexIndirectWz 0x10 offset .IX (some .L)
  | 0xA6 => .resetBitIndexIndirectWz 0x10 offset .IX none
  | 0xA7 => .resetBitIndexIndirectWz 0x10 offset .IX (some .A)
  | 0xA8 => .resetBitIndexIndirectWz 0x20 offset .IX (some .B)
  | 0xA9 => .resetBitIndexIndirectWz 0x20 offset .IX (some .C)
  | 0xAA => .resetBitIndexIndirectWz 0x20 offset .IX (some .D)
  | 0xAB => .resetBitIndexIndirectWz 0x20 offset .IX (some .E)
  | 0xAC => .resetBitIndexIndirectWz 0x20 offset .IX (some .H)
  | 0xAD => .resetBitIndexIndirectWz 0x20 offset .IX (some .L)
  | 0xAE => .resetBitIndexIndirectWz 0x20 offset .IX none
  | 0xAF => .resetBitIndexIndirectWz 0x20 offset .IX (some .A)
  | 0xB0 => .resetBitIndexIndirectWz 0x40 offset .IX (some .B)
  | 0xB1 => .resetBitIndexIndirectWz 0x40 offset .IX (some .C)
  | 0xB2 => .resetBitIndexIndirectWz 0x40 offset .IX (some .D)
  | 0xB3 => .resetBitIndexIndirectWz 0x40 offset .IX (some .E)
  | 0xB4 => .resetBitIndexIndirectWz 0x40 offset .IX (some .H)
  | 0xB5 => .resetBitIndexIndirectWz 0x40 offset .IX (some .L)
  | 0xB6 => .resetBitIndexIndirectWz 0x40 offset .IX none
  | 0xB7 => .resetBitIndexIndirectWz 0x40 offset .IX (some .A)
  | 0xB8 => .resetBitIndexIndirectWz 0x80 offset .IX (some .B)
  | 0xB9 => .resetBitIndexIndirectWz 0x80 offset .IX (some .C)
  | 0xBA => .resetBitIndexIndirectWz 0x80 offset .IX (some .D)
  | 0xBB => .resetBitIndexIndirectWz 0x80 offset .IX (some .E)
  | 0xBC => .resetBitIndexIndirectWz 0x80 offset .IX (some .H)
  | 0xBD => .resetBitIndexIndirectWz 0x80 offset .IX (some .L)
  | 0xBE => .resetBitIndexIndirectWz 0x80 offset .IX none
  | 0xBF => .resetBitIndexIndirectWz 0x80 offset .IX (some .A)
  | 0xC0 => .setBitIndexIndirectWz 0x01 offset .IX (some .B)
  | 0xC1 => .setBitIndexIndirectWz 0x01 offset .IX (some .C)
  | 0xC2 => .setBitIndexIndirectWz 0x01 offset .IX (some .D)
  | 0xC3 => .setBitIndexIndirectWz 0x01 offset .IX (some .E)
  | 0xC4 => .setBitIndexIndirectWz 0x01 offset .IX (some .H)
  | 0xC5 => .setBitIndexIndirectWz 0x01 offset .IX (some .L)
  | 0xC6 => .setBitIndexIndirectWz 0x01 offset .IX none
  | 0xC7 => .setBitIndexIndirectWz 0x01 offset .IX (some .A)
  | 0xC8 => .setBitIndexIndirectWz 0x02 offset .IX (some .B)
  | 0xC9 => .setBitIndexIndirectWz 0x02 offset .IX (some .C)
  | 0xCA => .setBitIndexIndirectWz 0x02 offset .IX (some .D)
  | 0xCB => .setBitIndexIndirectWz 0x02 offset .IX (some .E)
  | 0xCC => .setBitIndexIndirectWz 0x02 offset .IX (some .H)
  | 0xCD => .setBitIndexIndirectWz 0x02 offset .IX (some .L)
  | 0xCE => .setBitIndexIndirectWz 0x02 offset .IX none
  | 0xCF => .setBitIndexIndirectWz 0x02 offset .IX (some .A)
  | 0xD0 => .setBitIndexIndirectWz 0x04 offset .IX (some .B)
  | 0xD1 => .setBitIndexIndirectWz 0x04 offset .IX (some .C)
  | 0xD2 => .setBitIndexIndirectWz 0x04 offset .IX (some .D)
  | 0xD3 => .setBitIndexIndirectWz 0x04 offset .IX (some .E)
  | 0xD4 => .setBitIndexIndirectWz 0x04 offset .IX (some .H)
  | 0xD5 => .setBitIndexIndirectWz 0x04 offset .IX (some .L)
  | 0xD6 => .setBitIndexIndirectWz 0x04 offset .IX none
  | 0xD7 => .setBitIndexIndirectWz 0x04 offset .IX (some .A)
  | 0xD8 => .setBitIndexIndirectWz 0x08 offset .IX (some .B)
  | 0xD9 => .setBitIndexIndirectWz 0x08 offset .IX (some .C)
  | 0xDA => .setBitIndexIndirectWz 0x08 offset .IX (some .D)
  | 0xDB => .setBitIndexIndirectWz 0x08 offset .IX (some .E)
  | 0xDC => .setBitIndexIndirectWz 0x08 offset .IX (some .H)
  | 0xDD => .setBitIndexIndirectWz 0x08 offset .IX (some .L)
  | 0xDE => .setBitIndexIndirectWz 0x08 offset .IX none
  | 0xDF => .setBitIndexIndirectWz 0x08 offset .IX (some .A)
  | 0xE0 => .setBitIndexIndirectWz 0x10 offset .IX (some .B)
  | 0xE1 => .setBitIndexIndirectWz 0x10 offset .IX (some .C)
  | 0xE2 => .setBitIndexIndirectWz 0x10 offset .IX (some .D)
  | 0xE3 => .setBitIndexIndirectWz 0x10 offset .IX (some .E)
  | 0xE4 => .setBitIndexIndirectWz 0x10 offset .IX (some .H)
  | 0xE5 => .setBitIndexIndirectWz 0x10 offset .IX (some .L)
  | 0xE6 => .setBitIndexIndirectWz 0x10 offset .IX none
  | 0xE7 => .setBitIndexIndirectWz 0x10 offset .IX (some .A)
  | 0xE8 => .setBitIndexIndirectWz 0x20 offset .IX (some .B)
  | 0xE9 => .setBitIndexIndirectWz 0x20 offset .IX (some .C)
  | 0xEA => .setBitIndexIndirectWz 0x20 offset .IX (some .D)
  | 0xEB => .setBitIndexIndirectWz 0x20 offset .IX (some .E)
  | 0xEC => .setBitIndexIndirectWz 0x20 offset .IX (some .H)
  | 0xED => .setBitIndexIndirectWz 0x20 offset .IX (some .L)
  | 0xEE => .setBitIndexIndirectWz 0x20 offset .IX none
  | 0xEF => .setBitIndexIndirectWz 0x20 offset .IX (some .A)
  | 0xF0 => .setBitIndexIndirectWz 0x40 offset .IX (some .B)
  | 0xF1 => .setBitIndexIndirectWz 0x40 offset .IX (some .C)
  | 0xF2 => .setBitIndexIndirectWz 0x40 offset .IX (some .D)
  | 0xF3 => .setBitIndexIndirectWz 0x40 offset .IX (some .E)
  | 0xF4 => .setBitIndexIndirectWz 0x40 offset .IX (some .H)
  | 0xF5 => .setBitIndexIndirectWz 0x40 offset .IX (some .L)
  | 0xF6 => .setBitIndexIndirectWz 0x40 offset .IX none
  | 0xF7 => .setBitIndexIndirectWz 0x40 offset .IX (some .A)
  | 0xF8 => .setBitIndexIndirectWz 0x80 offset .IX (some .B)
  | 0xF9 => .setBitIndexIndirectWz 0x80 offset .IX (some .C)
  | 0xFA => .setBitIndexIndirectWz 0x80 offset .IX (some .D)
  | 0xFB => .setBitIndexIndirectWz 0x80 offset .IX (some .E)
  | 0xFC => .setBitIndexIndirectWz 0x80 offset .IX (some .H)
  | 0xFD => .setBitIndexIndirectWz 0x80 offset .IX (some .L)
  | 0xFE => .setBitIndexIndirectWz 0x80 offset .IX none
  | _ => .setBitIndexIndirectWz 0x80 offset .IX (some .A)

def fdcbPrefixTable (offset : U16) (opcode : U8) : Instr :=
  match opcode.toNat with
  | 0x00 => .rlcIndexIndirectWz offset .IY (some .B)
  | 0x01 => .rlcIndexIndirectWz offset .IY (some .C)
  | 0x02 => .rlcIndexIndirectWz offset .IY (some .D)
  | 0x03 => .rlcIndexIndirectWz offset .IY (some .E)
  | 0x04 => .rlcIndexIndirectWz offset .IY (some .H)
  | 0x05 => .rlcIndexIndirectWz offset .IY (some .L)
  | 0x06 => .rlcIndexIndirectWz offset .IY none
  | 0x07 => .rlcIndexIndirectWz offset .IY (some .A)
  | 0x08 => .rrcIndexIndirectWz offset .IY (some .B)
  | 0x09 => .rrcIndexIndirectWz offset .IY (some .C)
  | 0x0A => .rrcIndexIndirectWz offset .IY (some .D)
  | 0x0B => .rrcIndexIndirectWz offset .IY (some .E)
  | 0x0C => .rrcIndexIndirectWz offset .IY (some .H)
  | 0x0D => .rrcIndexIndirectWz offset .IY (some .L)
  | 0x0E => .rrcIndexIndirectWz offset .IY none
  | 0x0F => .rrcIndexIndirectWz offset .IY (some .A)
  | 0x10 => .rlIndexIndirectWz offset .IY (some .B)
  | 0x11 => .rlIndexIndirectWz offset .IY (some .C)
  | 0x12 => .rlIndexIndirectWz offset .IY (some .D)
  | 0x13 => .rlIndexIndirectWz offset .IY (some .E)
  | 0x14 => .rlIndexIndirectWz offset .IY (some .H)
  | 0x15 => .rlIndexIndirectWz offset .IY (some .L)
  | 0x16 => .rlIndexIndirectWz offset .IY none
  | 0x17 => .rlIndexIndirectWz offset .IY (some .A)
  | 0x18 => .rrIndexIndirectWz offset .IY (some .B)
  | 0x19 => .rrIndexIndirectWz offset .IY (some .C)
  | 0x1A => .rrIndexIndirectWz offset .IY (some .D)
  | 0x1B => .rrIndexIndirectWz offset .IY (some .E)
  | 0x1C => .rrIndexIndirectWz offset .IY (some .H)
  | 0x1D => .rrIndexIndirectWz offset .IY (some .L)
  | 0x1E => .rrIndexIndirectWz offset .IY none
  | 0x1F => .rrIndexIndirectWz offset .IY (some .A)
  | 0x20 => .slaIndexIndirectWz offset .IY (some .B)
  | 0x21 => .slaIndexIndirectWz offset .IY (some .C)
  | 0x22 => .slaIndexIndirectWz offset .IY (some .D)
  | 0x23 => .slaIndexIndirectWz offset .IY (some .E)
  | 0x24 => .slaIndexIndirectWz offset .IY (some .H)
  | 0x25 => .slaIndexIndirectWz offset .IY (some .L)
  | 0x26 => .slaIndexIndirectWz offset .IY none
  | 0x27 => .slaIndexIndirectWz offset .IY (some .A)
  | 0x28 => .sraIndexIndirectWz offset .IY (some .B)
  | 0x29 => .sraIndexIndirectWz offset .IY (some .C)
  | 0x2A => .sraIndexIndirectWz offset .IY (some .D)
  | 0x2B => .sraIndexIndirectWz offset .IY (some .E)
  | 0x2C => .sraIndexIndirectWz offset .IY (some .H)
  | 0x2D => .sraIndexIndirectWz offset .IY (some .L)
  | 0x2E => .sraIndexIndirectWz offset .IY none
  | 0x2F => .sraIndexIndirectWz offset .IY (some .A)
  | 0x30 => .sllIndexIndirectWz offset .IY (some .B)
  | 0x31 => .sllIndexIndirectWz offset .IY (some .C)
  | 0x32 => .sllIndexIndirectWz offset .IY (some .D)
  | 0x33 => .sllIndexIndirectWz offset .IY (some .E)
  | 0x34 => .sllIndexIndirectWz offset .IY (some .H)
  | 0x35 => .sllIndexIndirectWz offset .IY (some .L)
  | 0x36 => .sllIndexIndirectWz offset .IY none
  | 0x37 => .sllIndexIndirectWz offset .IY (some .A)
  | 0x38 => .srlIndexIndirectWz offset .IY (some .B)
  | 0x39 => .srlIndexIndirectWz offset .IY (some .C)
  | 0x3A => .srlIndexIndirectWz offset .IY (some .D)
  | 0x3B => .srlIndexIndirectWz offset .IY (some .E)
  | 0x3C => .srlIndexIndirectWz offset .IY (some .H)
  | 0x3D => .srlIndexIndirectWz offset .IY (some .L)
  | 0x3E => .srlIndexIndirectWz offset .IY none
  | 0x3F => .srlIndexIndirectWz offset .IY (some .A)
  | 0x40 => .bitIndexIndirectWz 0x01 offset .IY
  | 0x41 => .bitIndexIndirectWz 0x01 offset .IY
  | 0x42 => .bitIndexIndirectWz 0x01 offset .IY
  | 0x43 => .bitIndexIndirectWz 0x01 offset .IY
  | 0x44 => .bitIndexIndirectWz 0x01 offset .IY
  | 0x45 => .bitIndexIndirectWz 0x01 offset .IY
  | 0x46 => .bitIndexIndirectWz 0x01 offset .IY
  | 0x47 => .bitIndexIndirectWz 0x01 offset .IY
  | 0x48 => .bitIndexIndirectWz 0x02 offset .IY
  | 0x49 => .bitIndexIndirectWz 0x02 offset .IY
  | 0x4A => .bitIndexIndirectWz 0x02 offset .IY
  | 0x4B => .bitIndexIndirectWz 0x02 offset .IY
  | 0x4C => .bitIndexIndirectWz 0x02 offset .IY
  | 0x4D => .bitIndexIndirectWz 0x02 offset .IY
  | 0x4E => .bitIndexIndirectWz 0x02 offset .IY
  | 0x4F => .bitIndexIndirectWz 0x02 offset .IY
  | 0x50 => .bitIndexIndirectWz 0x04 offset .IY
  | 0x51 => .bitIndexIndirectWz 0x04 offset .IY
  | 0x52 => .bitIndexIndirectWz 0x04 offset .IY
  | 0x53 => .bitIndexIndirectWz 0x04 offset .IY
  | 0x54 => .bitIndexIndirectWz 0x04 offset .IY
  | 0x55 => .bitIndexIndirectWz 0x04 offset .IY
  | 0x56 => .bitIndexIndirectWz 0x04 offset .IY
  | 0x57 => .bitIndexIndirectWz 0x04 offset .IY
  | 0x58 => .bitIndexIndirectWz 0x08 offset .IY
  | 0x59 => .bitIndexIndirectWz 0x08 offset .IY
  | 0x5A => .bitIndexIndirectWz 0x08 offset .IY
  | 0x5B => .bitIndexIndirectWz 0x08 offset .IY
  | 0x5C => .bitIndexIndirectWz 0x08 offset .IY
  | 0x5D => .bitIndexIndirectWz 0x08 offset .IY
  | 0x5E => .bitIndexIndirectWz 0x08 offset .IY
  | 0x5F => .bitIndexIndirectWz 0x08 offset .IY
  | 0x60 => .bitIndexIndirectWz 0x10 offset .IY
  | 0x61 => .bitIndexIndirectWz 0x10 offset .IY
  | 0x62 => .bitIndexIndirectWz 0x10 offset .IY
  | 0x63 => .bitIndexIndirectWz 0x10 offset .IY
  | 0x64 => .bitIndexIndirectWz 0x10 offset .IY
  | 0x65 => .bitIndexIndirectWz 0x10 offset .IY
  | 0x66 => .bitIndexIndirectWz 0x10 offset .IY
  | 0x67 => .bitIndexIndirectWz 0x10 offset .IY
  | 0x68 => .bitIndexIndirectWz 0x20 offset .IY
  | 0x69 => .bitIndexIndirectWz 0x20 offset .IY
  | 0x6A => .bitIndexIndirectWz 0x20 offset .IY
  | 0x6B => .bitIndexIndirectWz 0x20 offset .IY
  | 0x6C => .bitIndexIndirectWz 0x20 offset .IY
  | 0x6D => .bitIndexIndirectWz 0x20 offset .IY
  | 0x6E => .bitIndexIndirectWz 0x20 offset .IY
  | 0x6F => .bitIndexIndirectWz 0x20 offset .IY
  | 0x70 => .bitIndexIndirectWz 0x40 offset .IY
  | 0x71 => .bitIndexIndirectWz 0x40 offset .IY
  | 0x72 => .bitIndexIndirectWz 0x40 offset .IY
  | 0x73 => .bitIndexIndirectWz 0x40 offset .IY
  | 0x74 => .bitIndexIndirectWz 0x40 offset .IY
  | 0x75 => .bitIndexIndirectWz 0x40 offset .IY
  | 0x76 => .bitIndexIndirectWz 0x40 offset .IY
  | 0x77 => .bitIndexIndirectWz 0x40 offset .IY
  | 0x78 => .bitIndexIndirectWz 0x80 offset .IY
  | 0x79 => .bitIndexIndirectWz 0x80 offset .IY
  | 0x7A => .bitIndexIndirectWz 0x80 offset .IY
  | 0x7B => .bitIndexIndirectWz 0x80 offset .IY
  | 0x7C => .bitIndexIndirectWz 0x80 offset .IY
  | 0x7D => .bitIndexIndirectWz 0x80 offset .IY
  | 0x7E => .bitIndexIndirectWz 0x80 offset .IY
  | 0x7F => .bitIndexIndirectWz 0x80 offset .IY
  | 0x80 => .resetBitIndexIndirectWz 0x01 offset .IY (some .B)
  | 0x81 => .resetBitIndexIndirectWz 0x01 offset .IY (some .C)
  | 0x82 => .resetBitIndexIndirectWz 0x01 offset .IY (some .D)
  | 0x83 => .resetBitIndexIndirectWz 0x01 offset .IY (some .E)
  | 0x84 => .resetBitIndexIndirectWz 0x01 offset .IY (some .H)
  | 0x85 => .resetBitIndexIndirectWz 0x01 offset .IY (some .L)
  | 0x86 => .resetBitIndexIndirectWz 0x01 offset .IY none
  | 0x87 => .resetBitIndexIndirectWz 0x01 offset .IY (some .A)
  | 0x88 => .resetBitIndexIndirectWz 0x02 offset .IY (some .B)
  | 0x89 => .resetBitIndexIndirectWz 0x02 offset .IY (some .C)
  | 0x8A => .resetBitIndexIndirectWz 0x02 offset .IY (some .D)
  | 0x8B => .resetBitIndexIndirectWz 0x02 offset .IY (some .E)
  | 0x8C => .resetBitIndexIndirectWz 0x02 offset .IY (some .H)
  | 0x8D => .resetBitIndexIndirectWz 0x02 offset .IY (some .L)
  | 0x8E => .resetBitIndexIndirectWz 0x02 offset .IY none
  | 0x8F => .resetBitIndexIndirectWz 0x02 offset .IY (some .A)
  | 0x90 => .resetBitIndexIndirectWz 0x04 offset .IY (some .B)
  | 0x91 => .resetBitIndexIndirectWz 0x04 offset .IY (some .C)
  | 0x92 => .resetBitIndexIndirectWz 0x04 offset .IY (some .D)
  | 0x93 => .resetBitIndexIndirectWz 0x04 offset .IY (some .E)
  | 0x94 => .resetBitIndexIndirectWz 0x04 offset .IY (some .H)
  | 0x95 => .resetBitIndexIndirectWz 0x04 offset .IY (some .L)
  | 0x96 => .resetBitIndexIndirectWz 0x04 offset .IY none
  | 0x97 => .resetBitIndexIndirectWz 0x04 offset .IY (some .A)
  | 0x98 => .resetBitIndexIndirectWz 0x08 offset .IY (some .B)
  | 0x99 => .resetBitIndexIndirectWz 0x08 offset .IY (some .C)
  | 0x9A => .resetBitIndexIndirectWz 0x08 offset .IY (some .D)
  | 0x9B => .resetBitIndexIndirectWz 0x08 offset .IY (some .E)
  | 0x9C => .resetBitIndexIndirectWz 0x08 offset .IY (some .H)
  | 0x9D => .resetBitIndexIndirectWz 0x08 offset .IY (some .L)
  | 0x9E => .resetBitIndexIndirectWz 0x08 offset .IY none
  | 0x9F => .resetBitIndexIndirectWz 0x08 offset .IY (some .A)
  | 0xA0 => .resetBitIndexIndirectWz 0x10 offset .IY (some .B)
  | 0xA1 => .resetBitIndexIndirectWz 0x10 offset .IY (some .C)
  | 0xA2 => .resetBitIndexIndirectWz 0x10 offset .IY (some .D)
  | 0xA3 => .resetBitIndexIndirectWz 0x10 offset .IY (some .E)
  | 0xA4 => .resetBitIndexIndirectWz 0x10 offset .IY (some .H)
  | 0xA5 => .resetBitIndexIndirectWz 0x10 offset .IY (some .L)
  | 0xA6 => .resetBitIndexIndirectWz 0x10 offset .IY none
  | 0xA7 => .resetBitIndexIndirectWz 0x10 offset .IY (some .A)
  | 0xA8 => .resetBitIndexIndirectWz 0x20 offset .IY (some .B)
  | 0xA9 => .resetBitIndexIndirectWz 0x20 offset .IY (some .C)
  | 0xAA => .resetBitIndexIndirectWz 0x20 offset .IY (some .D)
  | 0xAB => .resetBitIndexIndirectWz 0x20 offset .IY (some .E)
  | 0xAC => .resetBitIndexIndirectWz 0x20 offset .IY (some .H)
  | 0xAD => .resetBitIndexIndirectWz 0x20 offset .IY (some .L)
  | 0xAE => .resetBitIndexIndirectWz 0x20 offset .IY none
  | 0xAF => .resetBitIndexIndirectWz 0x20 offset .IY (some .A)
  | 0xB0 => .resetBitIndexIndirectWz 0x40 offset .IY (some .B)
  | 0xB1 => .resetBitIndexIndirectWz 0x40 offset .IY (some .C)
  | 0xB2 => .resetBitIndexIndirectWz 0x40 offset .IY (some .D)
  | 0xB3 => .resetBitIndexIndirectWz 0x40 offset .IY (some .E)
  | 0xB4 => .resetBitIndexIndirectWz 0x40 offset .IY (some .H)
  | 0xB5 => .resetBitIndexIndirectWz 0x40 offset .IY (some .L)
  | 0xB6 => .resetBitIndexIndirectWz 0x40 offset .IY none
  | 0xB7 => .resetBitIndexIndirectWz 0x40 offset .IY (some .A)
  | 0xB8 => .resetBitIndexIndirectWz 0x80 offset .IY (some .B)
  | 0xB9 => .resetBitIndexIndirectWz 0x80 offset .IY (some .C)
  | 0xBA => .resetBitIndexIndirectWz 0x80 offset .IY (some .D)
  | 0xBB => .resetBitIndexIndirectWz 0x80 offset .IY (some .E)
  | 0xBC => .resetBitIndexIndirectWz 0x80 offset .IY (some .H)
  | 0xBD => .resetBitIndexIndirectWz 0x80 offset .IY (some .L)
  | 0xBE => .resetBitIndexIndirectWz 0x80 offset .IY none
  | 0xBF => .resetBitIndexIndirectWz 0x80 offset .IY (some .A)
  | 0xC0 => .setBitIndexIndirectWz 0x01 offset .IY (some .B)
  | 0xC1 => .setBitIndexIndirectWz 0x01 offset .IY (some .C)
  | 0xC2 => .setBitIndexIndirectWz 0x01 offset .IY (some .D)
  | 0xC3 => .setBitIndexIndirectWz 0x01 offset .IY (some .E)
  | 0xC4 => .setBitIndexIndirectWz 0x01 offset .IY (some .H)
  | 0xC5 => .setBitIndexIndirectWz 0x01 offset .IY (some .L)
  | 0xC6 => .setBitIndexIndirectWz 0x01 offset .IY none
  | 0xC7 => .setBitIndexIndirectWz 0x01 offset .IY (some .A)
  | 0xC8 => .setBitIndexIndirectWz 0x02 offset .IY (some .B)
  | 0xC9 => .setBitIndexIndirectWz 0x02 offset .IY (some .C)
  | 0xCA => .setBitIndexIndirectWz 0x02 offset .IY (some .D)
  | 0xCB => .setBitIndexIndirectWz 0x02 offset .IY (some .E)
  | 0xCC => .setBitIndexIndirectWz 0x02 offset .IY (some .H)
  | 0xCD => .setBitIndexIndirectWz 0x02 offset .IY (some .L)
  | 0xCE => .setBitIndexIndirectWz 0x02 offset .IY none
  | 0xCF => .setBitIndexIndirectWz 0x02 offset .IY (some .A)
  | 0xD0 => .setBitIndexIndirectWz 0x04 offset .IY (some .B)
  | 0xD1 => .setBitIndexIndirectWz 0x04 offset .IY (some .C)
  | 0xD2 => .setBitIndexIndirectWz 0x04 offset .IY (some .D)
  | 0xD3 => .setBitIndexIndirectWz 0x04 offset .IY (some .E)
  | 0xD4 => .setBitIndexIndirectWz 0x04 offset .IY (some .H)
  | 0xD5 => .setBitIndexIndirectWz 0x04 offset .IY (some .L)
  | 0xD6 => .setBitIndexIndirectWz 0x04 offset .IY none
  | 0xD7 => .setBitIndexIndirectWz 0x04 offset .IY (some .A)
  | 0xD8 => .setBitIndexIndirectWz 0x08 offset .IY (some .B)
  | 0xD9 => .setBitIndexIndirectWz 0x08 offset .IY (some .C)
  | 0xDA => .setBitIndexIndirectWz 0x08 offset .IY (some .D)
  | 0xDB => .setBitIndexIndirectWz 0x08 offset .IY (some .E)
  | 0xDC => .setBitIndexIndirectWz 0x08 offset .IY (some .H)
  | 0xDD => .setBitIndexIndirectWz 0x08 offset .IY (some .L)
  | 0xDE => .setBitIndexIndirectWz 0x08 offset .IY none
  | 0xDF => .setBitIndexIndirectWz 0x08 offset .IY (some .A)
  | 0xE0 => .setBitIndexIndirectWz 0x10 offset .IY (some .B)
  | 0xE1 => .setBitIndexIndirectWz 0x10 offset .IY (some .C)
  | 0xE2 => .setBitIndexIndirectWz 0x10 offset .IY (some .D)
  | 0xE3 => .setBitIndexIndirectWz 0x10 offset .IY (some .E)
  | 0xE4 => .setBitIndexIndirectWz 0x10 offset .IY (some .H)
  | 0xE5 => .setBitIndexIndirectWz 0x10 offset .IY (some .L)
  | 0xE6 => .setBitIndexIndirectWz 0x10 offset .IY none
  | 0xE7 => .setBitIndexIndirectWz 0x10 offset .IY (some .A)
  | 0xE8 => .setBitIndexIndirectWz 0x20 offset .IY (some .B)
  | 0xE9 => .setBitIndexIndirectWz 0x20 offset .IY (some .C)
  | 0xEA => .setBitIndexIndirectWz 0x20 offset .IY (some .D)
  | 0xEB => .setBitIndexIndirectWz 0x20 offset .IY (some .E)
  | 0xEC => .setBitIndexIndirectWz 0x20 offset .IY (some .H)
  | 0xED => .setBitIndexIndirectWz 0x20 offset .IY (some .L)
  | 0xEE => .setBitIndexIndirectWz 0x20 offset .IY none
  | 0xEF => .setBitIndexIndirectWz 0x20 offset .IY (some .A)
  | 0xF0 => .setBitIndexIndirectWz 0x40 offset .IY (some .B)
  | 0xF1 => .setBitIndexIndirectWz 0x40 offset .IY (some .C)
  | 0xF2 => .setBitIndexIndirectWz 0x40 offset .IY (some .D)
  | 0xF3 => .setBitIndexIndirectWz 0x40 offset .IY (some .E)
  | 0xF4 => .setBitIndexIndirectWz 0x40 offset .IY (some .H)
  | 0xF5 => .setBitIndexIndirectWz 0x40 offset .IY (some .L)
  | 0xF6 => .setBitIndexIndirectWz 0x40 offset .IY none
  | 0xF7 => .setBitIndexIndirectWz 0x40 offset .IY (some .A)
  | 0xF8 => .setBitIndexIndirectWz 0x80 offset .IY (some .B)
  | 0xF9 => .setBitIndexIndirectWz 0x80 offset .IY (some .C)
  | 0xFA => .setBitIndexIndirectWz 0x80 offset .IY (some .D)
  | 0xFB => .setBitIndexIndirectWz 0x80 offset .IY (some .E)
  | 0xFC => .setBitIndexIndirectWz 0x80 offset .IY (some .H)
  | 0xFD => .setBitIndexIndirectWz 0x80 offset .IY (some .L)
  | 0xFE => .setBitIndexIndirectWz 0x80 offset .IY none
  | _ => .setBitIndexIndirectWz 0x80 offset .IY (some .A)

end Possum
