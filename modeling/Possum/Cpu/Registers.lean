import Possum.Bus

/-!
# The registers of the processor

`cpu/mod.rs`, lines 10 to 236: the state of the Z80, its named registers, flags and
conditions, and the fetching of bytes at the program counter.  Register pairs are words, as
in the sources; a byte register is the half of a word that `u16_parts` gives it.

`Cpu.control` collects the five fields that govern interrupts.  Nothing that only moves data
touches them, and the simp lemmas here say so for every way of setting a register.
-/

set_option autoImplicit false

namespace Possum

inductive WideRegister
  | PC | SP | AF | BC | DE | HL | IX | IY | AFPrime | BCPrime | DEPrime | HLPrime
  deriving DecidableEq, Repr

inductive Register
  | A | B | C | D | E | H | L | IXH | IXL | IYH | IYL | I | R
  deriving DecidableEq, Repr

inductive Flag
  | C | N | PV | X | H | Y | Z | S
  deriving DecidableEq, Repr

/-- The discriminant of a flag: its bit in F. -/
def Flag.mask : Flag → U8
  | .C => 0x01
  | .N => 0x02
  | .PV => 0x04
  | .X => 0x08
  | .H => 0x10
  | .Y => 0x20
  | .Z => 0x40
  | .S => 0x80

/-- `(x & (flag as u8)) != 0` -/
def Flag.isIn (f : Flag) (x : U8) : Bool := x &&& f.mask != 0

inductive Condition
  | NZ | Z | NC | C | PO | PE | P | M
  deriving DecidableEq, Repr

inductive InterruptMode
  | zero | one | two
  deriving DecidableEq, Repr

structure Cpu where
  pc : U16 := 0
  sp : U16 := 0
  af : U16 := 0
  bc : U16 := 0
  de : U16 := 0
  hl : U16 := 0
  ix : U16 := 0
  iy : U16 := 0
  wz : U16 := 0
  ir : U16 := 0
  afPrime : U16 := 0
  bcPrime : U16 := 0
  dePrime : U16 := 0
  hlPrime : U16 := 0
  wzPrime : U16 := 0
  interruptMode : InterruptMode := .zero
  halted : Bool := false
  enableInterruptsNextCycle : Bool := false
  iff1 : Bool := false
  iff2 : Bool := false
  deriving DecidableEq, Repr

namespace Cpu

def flag (c : Cpu) (flag : Flag) : Bool := c.af &&& flag.mask.setWidth 16 != 0

def setFlag (c : Cpu) (flag : Flag) (value : Bool) : Cpu :=
  { c with
    af := if value then c.af ||| flag.mask.setWidth 16 else c.af &&& ~~~flag.mask.setWidth 16 }

/-- A flag is a bit of F. -/
theorem flag_eq (c : Cpu) (flag : Flag) : c.flag flag = flag.isIn (lo c.af) := by
  have hlow : c.af &&& flag.mask.setWidth 16 = (lo c.af &&& flag.mask).setWidth 16 := by
    apply BitVec.eq_of_getLsbD_eq
    intro i hi
    by_cases h8 : i < 8
    · simp [lo, h8, hi]
    · simp [lo, h8, BitVec.getLsbD_of_ge flag.mask i (by omega)]
  have hzero : ∀ x : U8, (x.setWidth 16 == 0) = (x == 0) := by decide +kernel
  rw [Cpu.flag, Flag.isIn, hlow, bne, bne, hzero]

def condition (c : Cpu) : Condition → Bool
  | .NZ => !c.flag .Z
  | .Z => c.flag .Z
  | .NC => !c.flag .C
  | .C => c.flag .C
  | .PO => c.flag .PV
  | .PE => !c.flag .PV
  | .P => c.flag .S
  | .M => !c.flag .S

def register (c : Cpu) : Register → U8
  | .A => hi c.af
  | .B => hi c.bc
  | .C => lo c.bc
  | .D => hi c.de
  | .E => lo c.de
  | .H => hi c.hl
  | .L => lo c.hl
  | .IXH => hi c.ix
  | .IXL => lo c.ix
  | .IYH => hi c.iy
  | .IYL => lo c.iy
  | .I => hi c.ir
  | .R => lo c.ir

def setRegister (c : Cpu) (reg : Register) (data : U8) : Cpu :=
  match reg with
  | .A => { c with af := word data (lo c.af) }
  | .B => { c with bc := word data (lo c.bc) }
  | .C => { c with bc := word (hi c.bc) data }
  | .D => { c with de := word data (lo c.de) }
  | .E => { c with de := word (hi c.de) data }
  | .H => { c with hl := word data (lo c.hl) }
  | .L => { c with hl := word (hi c.hl) data }
  | .IXH => { c with ix := word data (lo c.ix) }
  | .IXL => { c with ix := word (hi c.ix) data }
  | .IYH => { c with iy := word data (lo c.iy) }
  | .IYL => { c with iy := word (hi c.iy) data }
  | .I => { c with ir := word data (lo c.ir) }
  | .R => { c with ir := word (hi c.ir) data }

def wideRegister (c : Cpu) : WideRegister → U16
  | .PC => c.pc
  | .SP => c.sp
  | .AF => c.af
  | .BC => c.bc
  | .DE => c.de
  | .HL => c.hl
  | .IX => c.ix
  | .IY => c.iy
  | .AFPrime => c.afPrime
  | .BCPrime => c.bcPrime
  | .DEPrime => c.dePrime
  | .HLPrime => c.hlPrime

def setWideRegister (c : Cpu) (reg : WideRegister) (data : U16) : Cpu :=
  match reg with
  | .PC => { c with pc := data }
  | .SP => { c with sp := data }
  | .AF => { c with af := data }
  | .BC => { c with bc := data }
  | .DE => { c with de := data }
  | .HL => { c with hl := data }
  | .IX => { c with ix := data }
  | .IY => { c with iy := data }
  | .AFPrime => { c with afPrime := data }
  | .BCPrime => { c with bcPrime := data }
  | .DEPrime => { c with dePrime := data }
  | .HLPrime => { c with hlPrime := data }

/-! Assignments to one field. -/

def setPc (c : Cpu) (pc : U16) : Cpu := { c with pc := pc }
def setSp (c : Cpu) (sp : U16) : Cpu := { c with sp := sp }
def setBc (c : Cpu) (bc : U16) : Cpu := { c with bc := bc }
def setDe (c : Cpu) (de : U16) : Cpu := { c with de := de }
def setHl (c : Cpu) (hl : U16) : Cpu := { c with hl := hl }
def setWz (c : Cpu) (wz : U16) : Cpu := { c with wz := wz }

/-! ### Fetching -/

section

variable {β : Type} [Bus β]

/-- The byte at PC, and the processor past it. -/
def immediate (c : Cpu) (bus : β) : U8 × Cpu := (Bus.read bus c.pc, c.setPc (c.pc + 1))

/-- The word at PC, low byte first. -/
def wideImmediate (c : Cpu) (bus : β) : U16 × Cpu :=
  let (low, c) := c.immediate bus
  let (high, c) := c.immediate bus
  (word high low, c)

theorem wideImmediate_eq (c : Cpu) (bus : β) :
    c.wideImmediate bus =
      (word (Bus.read bus (c.pc + 1)) (Bus.read bus c.pc), c.setPc (c.pc + 2)) := by
  have htwo : c.pc + 1 + 1 = c.pc + 2 := by bv_omega
  rw [← htwo]
  rfl

/-- `immediate`, counting the low seven bits of the refresh register. -/
def fetch (c : Cpu) (bus : β) : U8 × Cpu :=
  let r := c.register .R
  let c := c.setRegister .R ((r &&& 0x80) ||| ((r + 1) &&& 0x7F))
  c.immediate bus

end

/-! ### The interrupt fields -/

/-- The fields of the processor that govern interrupts. -/
structure Control where
  interruptMode : InterruptMode
  halted : Bool
  enableInterruptsNextCycle : Bool
  iff1 : Bool
  iff2 : Bool
  deriving DecidableEq

def control (c : Cpu) : Control where
  interruptMode := c.interruptMode
  halted := c.halted
  enableInterruptsNextCycle := c.enableInterruptsNextCycle
  iff1 := c.iff1
  iff2 := c.iff2

@[simp] theorem control_setFlag (c : Cpu) (f : Flag) (v : Bool) :
    (c.setFlag f v).control = c.control := rfl

@[simp] theorem control_setRegister (c : Cpu) (reg : Register) (v : U8) :
    (c.setRegister reg v).control = c.control := by
  cases reg <;> rfl

@[simp] theorem control_setWideRegister (c : Cpu) (reg : WideRegister) (v : U16) :
    (c.setWideRegister reg v).control = c.control := by
  cases reg <;> rfl

@[simp] theorem control_setPc (c : Cpu) (v : U16) : (c.setPc v).control = c.control := rfl
@[simp] theorem control_setSp (c : Cpu) (v : U16) : (c.setSp v).control = c.control := rfl
@[simp] theorem control_setBc (c : Cpu) (v : U16) : (c.setBc v).control = c.control := rfl
@[simp] theorem control_setDe (c : Cpu) (v : U16) : (c.setDe v).control = c.control := rfl
@[simp] theorem control_setHl (c : Cpu) (v : U16) : (c.setHl v).control = c.control := rfl
@[simp] theorem control_setWz (c : Cpu) (v : U16) : (c.setWz v).control = c.control := rfl

section

variable {β : Type} [Bus β]

@[simp] theorem control_immediate (c : Cpu) (bus : β) :
    (c.immediate bus).2.control = c.control := rfl

@[simp] theorem control_wideImmediate (c : Cpu) (bus : β) :
    (c.wideImmediate bus).2.control = c.control := rfl

@[simp] theorem control_fetch (c : Cpu) (bus : β) : (c.fetch bus).2.control = c.control := rfl

end

end Cpu

end Possum
