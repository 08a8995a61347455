import Possum.Cpu.Registers

/-!
# Operations on registers

`cpu/mod.rs`, the methods of `Cpu` that leave the bus alone, and the flag computations that
the others share with them.  A method returns the processor it leaves and its cycles.

The sources write the flags of an eight-bit result out in each method.  They are set here by
`setResultFlags`, and the three methods of INC (register, `(hl)`, indexed) by one `setIncFlags`;
each `*_base` keeps its own carry and overflow.
-/

set_option autoImplicit false

namespace Possum.Cpu

/-! ### Flags of a result -/

/-- `(result.count_ones() & 1) == 0` -/
def evenParity (result : U8) : Bool := countOnes result &&& 1 == 0

/-- Every flag but C, where X and Y are copied from `xy`. -/
def setResultFlags (c : Cpu) (n pv h : Bool) (xy result : U8) : Cpu :=
  let c := c.setFlag .N n
  let c := c.setFlag .PV pv
  let c := c.setFlag .X (Flag.X.isIn xy)
  let c := c.setFlag .H h
  let c := c.setFlag .Y (Flag.Y.isIn xy)
  let c := c.setFlag .Z (result == 0)
  c.setFlag .S (Flag.S.isIn result)

def setIncFlags (c : Cpu) (data : U8) : Cpu :=
  let result := data + 1
  c.setResultFlags false (result == 0x80) (Flag.H.isIn (result ^^^ data)) result result

def setDecFlags (c : Cpu) (data : U8) : Cpu :=
  let result := data - 1
  c.setResultFlags true (result == 0x7F) (Flag.H.isIn (result ^^^ data)) result result

/-- The flags of BIT; X and Y come from the operand or from WZ. -/
def setBitFlags (c : Cpu) (xy result : U8) : Cpu :=
  c.setResultFlags false (result == 0) true xy result

/-- The flags of `in`, `rrd` and `rld`. -/
def setParityFlags (c : Cpu) (result : U8) : Cpu :=
  c.setResultFlags false (evenParity result) false result result

/-! ### Moves and counters -/

def nop (c : Cpu) : Cpu × ℕ := (c, 4)

def incWide (c : Cpu) (reg : WideRegister) : Cpu × ℕ :=
  (c.setWideRegister reg (c.wideRegister reg + 1), 6)

def decWide (c : Cpu) (reg : WideRegister) : Cpu × ℕ :=
  (c.setWideRegister reg (c.wideRegister reg - 1), 6)

def incWz (c : Cpu) (reg : Register) : Cpu × ℕ :=
  let data := c.register reg
  let result := data + 1
  let c := c.setWz (result.setWidth 16)
  let c := c.setIncFlags data
  (c.setRegister reg result, 4)

def decWz (c : Cpu) (reg : Register) : Cpu × ℕ :=
  let data := c.register reg
  let result := data - 1
  let c := c.setWz (result.setWidth 16)
  let c := c.setDecFlags data
  (c.setRegister reg result, 4)

def exchange (c : Cpu) (reg1 reg2 : WideRegister) : Cpu × ℕ :=
  let tmp := c.wideRegister reg1
  let c := c.setWideRegister reg1 (c.wideRegister reg2)
  (c.setWideRegister reg2 tmp, 4)

def exchangeExtra (c : Cpu) : Cpu × ℕ :=
  ({ c with
    bc := c.bcPrime
    bcPrime := c.bc
    de := c.dePrime
    dePrime := c.de
    hl := c.hlPrime
    hlPrime := c.hl
    wz := c.wzPrime
    wzPrime := c.wz }, 4)

def copyRegister (c : Cpu) (dst src : Register) : Cpu × ℕ :=
  (c.setRegister dst (c.register src), 4)

def copyWideRegister (c : Cpu) (dst src : WideRegister) : Cpu × ℕ :=
  (c.setWideRegister dst (c.wideRegister src), 6)

def copyIrRegister (c : Cpu) (reg : Register) : Cpu × ℕ :=
  let data := c.register reg
  let c := c.setRegister .A data
  (c.setResultFlags false c.iff2 false data data, 5)

/-! ### Rotations of A -/

/-- The four rotations of A leave PV, Z and S alone. -/
def rotateA (c : Cpu) (result : U8) (carry : Bool) : Cpu × ℕ :=
  let c := c.setFlag .C carry
  let c := c.setFlag .N false
  let c := c.setFlag .X (Flag.X.isIn result)
  let c := c.setFlag .H false
  let c := c.setFlag .Y (Flag.Y.isIn result)
  (c.setRegister .A result, 4)

def rlca (c : Cpu) : Cpu × ℕ :=
  let data := c.register .A
  c.rotateA ((data <<< 1) ||| (data >>> 7)) (data &&& 0x80 != 0)

def rrca (c : Cpu) : Cpu × ℕ :=
  let data := c.register .A
  c.rotateA ((data >>> 1) ||| (data <<< 7)) (data &&& 0x01 != 0)

def rla (c : Cpu) : Cpu × ℕ :=
  let data := c.register .A
  c.rotateA ((data <<< 1) ||| (if c.flag .C then 0x01 else 0x00)) (data &&& 0x80 != 0)

def rra (c : Cpu) : Cpu × ℕ :=
  let data := c.register .A
  c.rotateA ((data >>> 1) ||| (if c.flag .C then 0x80 else 0x00)) (data &&& 0x01 != 0)

/-! ### Corrections and carry -/

def daa (c : Cpu) : Cpu × ℕ :=
  let data := c.register .A
  let low := decide (0x09 < data &&& 0x0F) || c.flag .H
  let high := decide (0x99 < data) || c.flag .C
  let result :=
    if c.flag .N then
      let result := if low then data - 0x06 else data
      if high then result - 0x60 else result
    else
      let result := if low then data + 0x06 else data
      if high then result + 0x60 else result
  let c := c.setFlag .C (c.flag .C || decide (0x99 < data))
  let c := c.setFlag .PV (evenParity result)
  let c := c.setFlag .X (Flag.X.isIn result)
  let c := c.setFlag .H (Flag.H.isIn (data ^^^ result))
  let c := c.setFlag .Y (Flag.Y.isIn result)
  let c := c.setFlag .Z (result == 0)
  let c := c.setFlag .S (Flag.S.isIn result)
  (c.setRegister .A result, 4)

def cpl (c : Cpu) : Cpu × ℕ :=
  let result := c.register .A ^^^ 0xFF
  let c := c.setFlag .N true
  let c := c.setFlag .X (Flag.X.isIn result)
  let c := c.setFlag .H true
  let c := c.setFlag .Y (Flag.Y.isIn result)
  (c.setRegister .A result, 4)

def scf (c : Cpu) : Cpu × ℕ :=
  let c := c.setFlag .C true
  let c := c.setFlag .N false
  (c.setFlag .H false, 4)

def ccf (c : Cpu) : Cpu × ℕ :=
  let carry := c.flag .C
  let c := c.setFlag .C !carry
  let c := c.setFlag .N false
  (c.setFlag .H carry, 4)

/-! ### Eight-bit arithmetic -/

def addCarryBase (c : Cpu) (rhs : U8) (carry : Bool) : Cpu :=
  let lhs := c.register .A
  let (result, carry) := carryingAdd lhs rhs carry
  let pv := Flag.PV.isIn (((lhs ^^^ rhs ^^^ 0x80) &&& (rhs ^^^ result)) >>> 5)
  let c := c.setFlag .C carry
  let c := c.setResultFlags false pv (Flag.H.isIn (lhs ^^^ rhs ^^^ result)) result result
  c.setRegister .A result

def subCarryBase (c : Cpu) (rhs : U8) (carry : Bool) : Cpu :=
  let lhs := c.register .A
  let (result, carry) := borrowingSub lhs rhs carry
  let pv := Flag.PV.isIn (((lhs ^^^ rhs) &&& (result ^^^ lhs)) >>> 5)
  let c := c.setFlag .C carry
  let c := c.setResultFlags true pv (Flag.H.isIn (lhs ^^^ rhs ^^^ result)) result result
  c.setRegister .A result

/-- AND, XOR and OR differ in the result and in H. -/
def logicBase (c : Cpu) (result : U8) (h : Bool) : Cpu :=
  let c := c.setFlag .C false
  let c := c.setResultFlags false (evenParity result) h result result
  c.setRegister .A result

def andBase (c : Cpu) (rhs : U8) : Cpu := c.logicBase (c.register .A &&& rhs) true
def xorBase (c : Cpu) (rhs : U8) : Cpu := c.logicBase (c.register .A ^^^ rhs) false
def orBase (c : Cpu) (rhs : U8) : Cpu := c.logicBase (c.register .A ||| rhs) false

/-- X and Y are taken from the operand, and A stays. -/
def compareBase (c : Cpu) (rhs : U8) : Cpu :=
  let lhs := c.register .A
  let (result, carry) := borrowingSub lhs rhs false
  let pv := Flag.PV.isIn (((lhs ^^^ rhs) &&& (result ^^^ lhs)) >>> 5)
  let c := c.setFlag .C carry
  c.setResultFlags true pv (Flag.H.isIn (lhs ^^^ rhs ^^^ result)) rhs result

def addCarry (c : Cpu) (reg : Register) (carry : Bool) : Cpu × ℕ :=
  (c.addCarryBase (c.register reg) carry, 4)

def subCarry (c : Cpu) (reg : Register) (carry : Bool) : Cpu × ℕ :=
  (c.subCarryBase (c.register reg) carry, 4)

def and (c : Cpu) (reg : Register) : Cpu × ℕ := (c.andBase (c.register reg), 4)
def xor (c : Cpu) (reg : Register) : Cpu × ℕ := (c.xorBase (c.register reg), 4)
def or (c : Cpu) (reg : Register) : Cpu × ℕ := (c.orBase (c.register reg), 4)
def compare (c : Cpu) (reg : Register) : Cpu × ℕ := (c.compareBase (c.register reg), 4)

def neg (c : Cpu) : Cpu × ℕ :=
  let a := c.register .A
  let c := c.setRegister .A 0
  (c.subCarryBase a false, 4)

/-! ### Sixteen-bit arithmetic -/

def addWideWz (c : Cpu) (dst src : WideRegister) : Cpu × ℕ :=
  let lhs := c.wideRegister dst
  let rhs := c.wideRegister src
  let c := c.setWz (lhs + 1)
  let (result, carry) := carryingAdd lhs rhs false
  let c := c.setFlag .C carry
  let c := c.setFlag .N false
  let c := c.setFlag .X (Flag.X.isIn (hi result))
  let c := c.setFlag .H (Flag.H.isIn (hi (lhs ^^^ result ^^^ rhs)))
  let c := c.setFlag .Y (Flag.Y.isIn (hi result))
  (c.setWideRegister dst result, 11)

/-- The flags of a sixteen-bit ADC or SBC: those of the high byte, but for Z. -/
def setWideResultFlags (c : Cpu) (n pv h : Bool) (result : U16) : Cpu :=
  let c := c.setFlag .N n
  let c := c.setFlag .PV pv
  let c := c.setFlag .X (Flag.X.isIn (hi result))
  let c := c.setFlag .H h
  let c := c.setFlag .Y (Flag.Y.isIn (hi result))
  let c := c.setFlag .Z (result == 0)
  c.setFlag .S (Flag.S.isIn (hi result))

def addCarryWideWz (c : Cpu) (dst rhs : WideRegister) : Cpu × ℕ :=
  let lhs := c.wideRegister dst
  let rhs := c.wideRegister rhs
  let c := c.setWz (lhs + 1)
  let (result, carry) := carryingAdd lhs rhs (c.flag .C)
  let pv := ((rhs ^^^ lhs ^^^ 0x8000) &&& (rhs ^^^ result) &&& 0x8000) >>> 13 &&& 0x0004 != 0
  let c := c.setWideRegister dst result
  let c := c.setFlag .C carry
  (c.setWideResultFlags false pv (Flag.H.isIn (hi (lhs ^^^ result ^^^ rhs))) result, 11)

def subCarryWideWz (c : Cpu) (dst rhs : WideRegister) : Cpu × ℕ :=
  let lhs := c.wideRegister dst
  let rhs := c.wideRegister rhs
  let c := c.setWz (lhs + 1)
  let (result, carry) := borrowingSub lhs rhs (c.flag .C)
  let pv := ((rhs ^^^ lhs) &&& (lhs ^^^ result) &&& 0x8000) >>> 13 &&& 0x0004 != 0
  let c := c.setWideRegister dst result
  let c := c.setFlag .C carry
  (c.setWideResultFlags true pv (Flag.H.isIn (hi (lhs ^^^ result ^^^ rhs))) result, 11)

/-! ### Rotations, shifts and single bits

A base takes the operand and returns the result with the processor whose flags are set. -/

/-- The flags of the rotations and shifts of the CB page. -/
def setShiftFlags (c : Cpu) (carry : Bool) (result : U8) : Cpu :=
  let c := c.setFlag .C carry
  c.setParityFlags result

def rlcBase (c : Cpu) (data : U8) : U8 × Cpu :=
  let result := (data <<< 1) ||| (data >>> 7)
  (result, c.setShiftFlags (data &&& 0x80 != 0) result)

def rrcBase (c : Cpu) (data : U8) : U8 × Cpu :=
  let result := (data >>> 1) ||| (data <<< 7)
  (result, c.setShiftFlags (data &&& 0x01 != 0) result)

def rlBase (c : Cpu) (data : U8) : U8 × Cpu :=
  let result := (data <<< 1) ||| (if c.flag .C then 0x01 else 0x00)
  (result, c.setShiftFlags (data &&& 0x80 != 0) result)

def rrBase (c : Cpu) (data : U8) : U8 × Cpu :=
  let result := (data >>> 1) ||| (if c.flag .C then 0x80 else 0x00)
  (result, c.setShiftFlags (data &&& 0x01 != 0) result)

def slaBase (c : Cpu) (data : U8) : U8 × Cpu :=
  let result := data <<< 1
  (result, c.setShiftFlags (data &&& 0x80 != 0) result)

def sraBase (c : Cpu) (data : U8) : U8 × Cpu :=
  let result := (data >>> 1) ||| (data &&& 0x80)
  (result, c.setShiftFlags (data &&& 0x01 != 0) result)

def sllBase (c : Cpu) (data : U8) : U8 × Cpu :=
  let result := (data <<< 1) ||| 0x01
  (result, c.setShiftFlags (data &&& 0x80 != 0) result)

def srlBase (c : Cpu) (data : U8) : U8 × Cpu :=
  let result := data >>> 1
  (result, c.setShiftFlags (data &&& 0x01 != 0) result)

/-- RES and SET compute their result in place; no flag changes. -/
def resetBitBase (mask : U8) (c : Cpu) (data : U8) : U8 × Cpu := (data &&& ~~~mask, c)
def setBitBase (mask : U8) (c : Cpu) (data : U8) : U8 × Cpu := (data ||| mask, c)

/-- An operation of the CB page on a register. -/
def modifyRegister (base : Cpu → U8 → U8 × Cpu) (c : Cpu) (reg : Register) : Cpu × ℕ :=
  let (result, c) := base c (c.register reg)
  (c.setRegister reg result, 4)

def rlcRegister := modifyRegister rlcBase
def rrcRegister := modifyRegister rrcBase
def rlRegister := modifyRegister rlBase
def rrRegister := modifyRegister rrBase
def slaRegister := modifyRegister slaBase
def sraRegister := modifyRegister sraBase
def sllRegister := modifyRegister sllBase
def srlRegister := modifyRegister srlBase
def resetBitRegister (c : Cpu) (mask : U8) := modifyRegister (resetBitBase mask) c
def setBitRegister (c : Cpu) (mask : U8) := modifyRegister (setBitBase mask) c

def bitRegister (c : Cpu) (mask : U8) (reg : Register) : Cpu × ℕ :=
  let data := c.register reg
  (c.setBitFlags data (data &&& mask), 4)

/-! ### Processor control -/

def halt (c : Cpu) : Cpu × ℕ := ({ c with halted := true, pc := c.pc - 1 }, 4)

def disableInterrupts (c : Cpu) : Cpu × ℕ := ({ c with iff1 := false, iff2 := false }, 4)

def enableInterrupts (c : Cpu) : Cpu × ℕ := ({ c with enableInterruptsNextCycle := true }, 4)

def setInterruptMode (c : Cpu) (mode : InterruptMode) : Cpu × ℕ :=
  ({ c with interruptMode := mode }, 4)

end Possum.Cpu
