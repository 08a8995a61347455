import Possum.Cpu.Alu

/-!
# Operations on the bus

`cpu/mod.rs`, the methods of `Cpu` that read or write memory or ports.  A method returns the
processor, the bus and its cycles.

Methods that differ in the addressing only (`(hl)`, immediate, indexed) or in the direction
only (LDI and LDD, INI and IND, and so on) are one definition with the difference as an
argument; each keeps its own name.
-/

set_option autoImplicit false

namespace Possum

/-- What a method leaves behind. -/
structure Outcome (β : Type) where
  cpu : Cpu
  bus : β
  cycles : ℕ
  deriving DecidableEq

namespace Cpu

/-- A method that leaves the bus alone. -/
def still {β : Type} (bus : β) (r : Cpu × ℕ) : Outcome β := ⟨r.1, bus, r.2⟩

variable {β : Type} [Bus β]

/-! ### Loads and stores -/

def readWideImmediate (c : Cpu) (reg : WideRegister) (bus : β) : Outcome β :=
  let (data, c) := c.wideImmediate bus
  ⟨c.setWideRegister reg data, bus, 10⟩

def readImmediate (c : Cpu) (reg : Register) (bus : β) : Outcome β :=
  let (data, c) := c.immediate bus
  ⟨c.setRegister reg data, bus, 7⟩

def writeIndirectWz (c : Cpu) (addr : WideRegister) (reg : Register) (bus : β) : Outcome β :=
  let addr := c.wideRegister addr
  let bus := Bus.write bus addr (c.register reg)
  ⟨c.setWz ((c.register .A).setWidth 16 ||| ((addr + 1) &&& 0xFF)), bus, 7⟩

def readIndirectWz (c : Cpu) (reg : Register) (addr : WideRegister) (bus : β) : Outcome β :=
  let addr := c.wideRegister addr
  let c := c.setRegister reg (Bus.read bus addr)
  ⟨c.setWz (addr + 1), bus, 7⟩

def writeWideAbsoluteWz (c : Cpu) (reg : WideRegister) (bus : β) : Outcome β :=
  let (addr, c) := c.wideImmediate bus
  let data := c.wideRegister reg
  let bus := Bus.write bus addr (lo data)
  let addr := addr + 1
  let bus := Bus.write bus addr (hi data)
  ⟨c.setWz addr, bus, 16⟩

def readWideAbsoluteWz (c : Cpu) (reg : WideRegister) (bus : β) : Outcome β :=
  let (addr, c) := c.wideImmediate bus
  let low := Bus.read bus addr
  let addr := addr + 1
  let high := Bus.read bus addr
  let c := c.setWideRegister reg (word high low)
  ⟨c.setWz (addr + 1), bus, 16⟩

def writeAbsoluteWz (c : Cpu) (reg : Register) (bus : β) : Outcome β :=
  let (addr, c) := c.wideImmediate bus
  let bus := Bus.write bus addr (c.register reg)
  ⟨c.setWz ((c.register .A).setWidth 16 ||| ((addr + 1) &&& 0xFF)), bus, 13⟩

def readAbsoluteWz (c : Cpu) (reg : Register) (bus : β) : Outcome β :=
  let (addr, c) := c.wideImmediate bus
  let c := c.setRegister reg (Bus.read bus addr)
  ⟨c.setWz (addr + 1), bus, 13⟩

def writeImmediateHlIndirect (c : Cpu) (bus : β) : Outcome β :=
  let addr := c.hl
  let (data, c) := c.immediate bus
  ⟨c, Bus.write bus addr data, 10⟩

def copyRegisterHlIndirect (c : Cpu) (reg : Register) (bus : β) : Outcome β :=
  ⟨c.setRegister reg (Bus.read bus c.hl), bus, 7⟩

def copyHlIndirectRegister (c : Cpu) (reg : Register) (bus : β) : Outcome β :=
  ⟨c, Bus.write bus c.hl (c.register reg), 7⟩

/-- The address of `(index+*)`; it goes to WZ. -/
def indexAddress (c : Cpu) (index : WideRegister) (bus : β) : U16 × Cpu :=
  let addr := c.wideRegister index
  let (offset, c) := c.immediate bus
  let addr := addr + signExtend offset
  (addr, c.setWz addr)

def writeImmediateIndexIndirectWz (c : Cpu) (index : WideRegister) (bus : β) : Outcome β :=
  let (addr, c) := c.indexAddress index bus
  let (data, c) := c.immediate bus
  ⟨c, Bus.write bus addr data, 15⟩

def readIndexIndirectWz (c : Cpu) (reg : Register) (index : WideRegister) (bus : β) :
    Outcome β :=
  let (addr, c) := c.indexAddress index bus
  ⟨c.setRegister reg (Bus.read bus addr), bus, 15⟩

def writeIndexIndirectWz (c : Cpu) (index : WideRegister) (reg : Register) (bus : β) :
    Outcome β :=
  let (addr, c) := c.indexAddress index bus
  ⟨c, Bus.write bus addr (c.register reg), 15⟩

/-! ### Increments in memory -/

def incHlIndirect (c : Cpu) (bus : β) : Outcome β :=
  let addr := c.hl
  let data := Bus.read bus addr
  ⟨c.setIncFlags data, Bus.write bus addr (data + 1), 11⟩

def decHlIndirect (c : Cpu) (bus : β) : Outcome β :=
  let addr := c.hl
  let data := Bus.read bus addr
  ⟨c.setDecFlags data, Bus.write bus addr (data - 1), 11⟩

def incIndexIndirectWz (c : Cpu) (index : WideRegister) (bus : β) : Outcome β :=
  let (addr, c) := c.indexAddress index bus
  let data := Bus.read bus addr
  ⟨c.setIncFlags data, Bus.write bus addr (data + 1), 19⟩

def decIndexIndirectWz (c : Cpu) (index : WideRegister) (bus : β) : Outcome β :=
  let (addr, c) := c.indexAddress index bus
  let data := Bus.read bus addr
  ⟨c.setDecFlags data, Bus.write bus addr (data - 1), 19⟩

/-! ### Eight-bit arithmetic with a memory operand -/

def hlIndirect (base : Cpu → U8 → Cpu) (c : Cpu) (bus : β) : Outcome β :=
  ⟨base c (Bus.read bus c.hl), bus, 7⟩

def withImmediate (base : Cpu → U8 → Cpu) (c : Cpu) (bus : β) : Outcome β :=
  let (rhs, c) := c.immediate bus
  ⟨base c rhs, bus, 7⟩

def indexIndirectWz (base : Cpu → U8 → Cpu) (c : Cpu) (index : WideRegister) (bus : β) :
    Outcome β :=
  let (addr, c) := c.indexAddress index bus
  ⟨base c (Bus.read bus addr), bus, 15⟩

def addCarryHlIndirect (c : Cpu) (carry : Bool) (bus : β) : Outcome β :=
  hlIndirect (fun c rhs => c.addCarryBase rhs carry) c bus

def subCarryHlIndirect (c : Cpu) (carry : Bool) (bus : β) : Outcome β :=
  hlIndirect (fun c rhs => c.subCarryBase rhs carry) c bus

def andHlIndirect (c : Cpu) (bus : β) : Outcome β := hlIndirect andBase c bus
def xorHlIndirect (c : Cpu) (bus : β) : Outcome β := hlIndirect xorBase c bus
def orHlIndirect (c : Cpu) (bus : β) : Outcome β := hlIndirect orBase c bus
def compareHlIndirect (c : Cpu) (bus : β) : Outcome β := hlIndirect compareBase c bus

def addCarryImmediate (c : Cpu) (carry : Bool) (bus : β) : Outcome β :=
  withImmediate (fun c rhs => c.addCarryBase rhs carry) c bus

def subCarryImmediate (c : Cpu) (carry : Bool) (bus : β) : Outcome β :=
  withImmediate (fun c rhs => c.subCarryBase rhs carry) c bus

def andImmediate (c : Cpu) (bus : β) : Outcome β := withImmediate andBase c bus
def xorImmediate (c : Cpu) (bus : β) : Outcome β := withImmediate xorBase c bus
def orImmediate (c : Cpu) (bus : β) : Outcome β := withImmediate orBase c bus
def compareImmediate (c : Cpu) (bus : β) : Outcome β := withImmediate compareBase c bus

def addCarryIndexIndirectWz (c : Cpu) (index : WideRegister) (carry : Bool) (bus : β) :
    Outcome β :=
  indexIndirectWz (fun c rhs => c.addCarryBase rhs carry) c index bus

def subCarryIndexIndirectWz (c : Cpu) (index : WideRegister) (carry : Bool) (bus : β) :
    Outcome β :=
  indexIndirectWz (fun c rhs => c.subCarryBase rhs carry) c index bus

def andIndexIndirectWz (c : Cpu) (index : WideRegister) (bus : β) : Outcome β :=
  indexIndirectWz andBase c index bus

def xorIndexIndirectWz (c : Cpu) (index : WideRegister) (bus : β) : Outcome β :=
  indexIndirectWz xorBase c index bus

def orIndexIndirectWz (c : Cpu) (index : WideRegister) (bus : β) : Outcome β :=
  indexIndirectWz orBase c index bus

def compareIndexIndirectWz (c : Cpu) (index : WideRegister) (bus : β) : Outcome β :=
  indexIndirectWz compareBase c index bus

/-! ### Rotations, shifts and single bits in memory -/

def modifyHlIndirect (base : Cpu → U8 → U8 × Cpu) (c : Cpu) (bus : β) : Outcome β :=
  let data := Bus.read bus c.hl
  let (result, c) := base c data
  ⟨c, Bus.write bus c.hl result, 11⟩

def rlcHlIndirect (c : Cpu) (bus : β) : Outcome β := modifyHlIndirect rlcBase c bus
def rrcHlIndirect (c : Cpu) (bus : β) : Outcome β := modifyHlIndirect rrcBase c bus
def rlHlIndirect (c : Cpu) (bus : β) : Outcome β := modifyHlIndirect rlBase c bus
def rrHlIndirect (c : Cpu) (bus : β) : Outcome β := modifyHlIndirect rrBase c bus
def slaHlIndirect (c : Cpu) (bus : β) : Outcome β := modifyHlIndirect slaBase c bus
def sraHlIndirect (c : Cpu) (bus : β) : Outcome β := modifyHlIndirect sraBase c bus
def sllHlIndirect (c : Cpu) (bus : β) : Outcome β := modifyHlIndirect sllBase c bus
def srlHlIndirect (c : Cpu) (bus : β) : Outcome β := modifyHlIndirect srlBase c bus

def resetBitHlIndirect (c : Cpu) (mask : U8) (bus : β) : Outcome β :=
  modifyHlIndirect (resetBitBase mask) c bus

def setBitHlIndirect (c : Cpu) (mask : U8) (bus : β) : Outcome β :=
  modifyHlIndirect (setBitBase mask) c bus

def bitHlIndirectWz (c : Cpu) (mask : U8) (bus : β) : Outcome β :=
  let result := Bus.read bus c.hl &&& mask
  let w := hi c.wz
  ⟨c.setBitFlags w result, bus, 8⟩

/-- The result is also copied to a register when one is given. -/
def modifyIndexIndirectWz (base : Cpu → U8 → U8 × Cpu) (c : Cpu) (offset : U16)
    (index : WideRegister) (reg : Option Register) (bus : β) : Outcome β :=
  let addr := c.wideRegister index
  let addr := addr + offset
  let c := c.setWz addr
  let data := Bus.read bus addr
  let (result, c) := base c data
  let bus := Bus.write bus addr result
  match reg with
  | some reg => ⟨c.setRegister reg result, bus, 15⟩
  | none => ⟨c, bus, 15⟩

def rlcIndexIndirectWz (c : Cpu) (offset : U16) (index : WideRegister) (reg : Option Register)
    (bus : β) : Outcome β :=
  modifyIndexIndirectWz rlcBase c offset index reg bus

def rrcIndexIndirectWz (c : Cpu) (offset : U16) (index : WideRegister) (reg : Option Register)
    (bus : β) : Outcome β :=
  modifyIndexIndirectWz rrcBase c offset index reg bus

def rlIndexIndirectWz (c : Cpu) (offset : U16) (index : WideRegister) (reg : Option Register)
    (bus : β) : Outcome β :=
  modifyIndexIndirectWz rlBase c offset index reg bus

def rrIndexIndirectWz (c : Cpu) (offset : U16) (index : WideRegister) (reg : Option Register)
    (bus : β) : Outcome β :=
  modifyIndexIndirectWz rrBase c offset index reg bus

def slaIndexIndirectWz (c : Cpu) (offset : U16) (index : WideRegister) (reg : Option Register)
    (bus : β) : Outcome β :=
  modifyIndexIndirectWz slaBase c offset index reg bus

def sraIndexIndirectWz (c : Cpu) (offset : U16) (index : WideRegister) (reg : Option Register)
    (bus : β) : Outcome β :=
  modifyIndexIndirectWz sraBase c offset index reg bus

def sllIndexIndirectWz (c : Cpu) (offset : U16) (index : WideRegister) (reg : Option Register)
    (bus : β) : Outcome β :=
  modifyIndexIndirectWz sllBase c offset index reg bus

def srlIndexIndirectWz (c : Cpu) (offset : U16) (index : WideRegister) (reg : Option Register)
    (bus : β) : Outcome β :=
  modifyIndexIndirectWz srlBase c offset index reg bus

def resetBitIndexIndirectWz (c : Cpu) (mask : U8) (offset : U16) (index : WideRegister)
    (reg : Option Register) (bus : β) : Outcome β :=
  modifyIndexIndirectWz (resetBitBase mask) c offset index reg bus

def setBitIndexIndirectWz (c : Cpu) (mask : U8) (offset : U16) (index : WideRegister)
    (reg : Option Register) (bus : β) : Outcome β :=
  modifyIndexIndirectWz (setBitBase mask) c offset index reg bus

def bitIndexIndirectWz (c : Cpu) (mask : U8) (offset : U16) (index : WideRegister)
    (bus : β) : Outcome β :=
  let addr := c.wideRegister index
  let addr := addr + offset
  let c := c.setWz addr
  let result := Bus.read bus addr &&& mask
  let w := hi c.wz
  ⟨c.setBitFlags w result, bus, 11⟩

/-- The low nibbles of A and memory, rotated: `rrd` takes the new nibble of A from the low
half of memory, `rld` from the high half. -/
def rrdWz (c : Cpu) (bus : β) : Outcome β :=
  let addr := c.hl
  let data := Bus.read bus addr
  let a := c.register .A
  let result := (a &&& 0xF0) ||| (data &&& 0x0F)
  let c := c.setRegister .A result
  let bus := Bus.write bus addr ((data >>> 4) ||| (a <<< 4))
  let c := c.setWz (addr + 1)
  ⟨c.setParityFlags result, bus, 14⟩

def rldWz (c : Cpu) (bus : β) : Outcome β :=
  let addr := c.hl
  let data := Bus.read bus addr
  let a := c.register .A
  let result := (a &&& 0xF0) ||| (data >>> 4)
  let c := c.setRegister .A result
  let bus := Bus.write bus addr ((data <<< 4) ||| (a &&& 0x0F))
  let c := c.setWz (addr + 1)
  ⟨c.setParityFlags result, bus, 14⟩

/-! ### The stack -/

def pushBase (c : Cpu) (data : U16) (bus : β) : Cpu × β :=
  let c := c.setSp (c.sp - 1)
  let bus := Bus.write bus c.sp (hi data)
  let c := c.setSp (c.sp - 1)
  let bus := Bus.write bus c.sp (lo data)
  (c, bus)

def popBase (c : Cpu) (bus : β) : U16 × Cpu :=
  let low := Bus.read bus c.sp
  let c := c.setSp (c.sp + 1)
  let high := Bus.read bus c.sp
  let c := c.setSp (c.sp + 1)
  (word high low, c)

theorem pushBase_eq (c : Cpu) (data : U16) (bus : β) :
    c.pushBase data bus =
      (c.setSp (c.sp - 2), Bus.write (Bus.write bus (c.sp - 1) (hi data)) (c.sp - 2) (lo data)) := by
  have htwo : c.sp - 1 - 1 = c.sp - 2 := by bv_omega
  rw [← htwo]
  rfl

theorem popBase_eq (c : Cpu) (bus : β) :
    c.popBase bus = (word (Bus.read bus (c.sp + 1)) (Bus.read bus c.sp), c.setSp (c.sp + 2)) := by
  have htwo : c.sp + 1 + 1 = c.sp + 2 := by bv_omega
  rw [← htwo]
  rfl

/-- The low byte is written twice. -/
def push (c : Cpu) (reg : WideRegister) (bus : β) : Outcome β :=
  let data := c.wideRegister reg
  let (c, bus) := c.pushBase data bus
  ⟨c, Bus.write bus c.sp (lo data), 11⟩

def pop (c : Cpu) (reg : WideRegister) (bus : β) : Outcome β :=
  let (data, c) := c.popBase bus
  ⟨c.setWideRegister reg data, bus, 10⟩

def exchangeStackPointerIndirectWz (c : Cpu) (reg : WideRegister) (bus : β) : Outcome β :=
  let (wz, c) := c.popBase bus
  let c := c.setWz wz
  let data := c.wideRegister reg
  let (c, bus) := c.pushBase data bus
  ⟨c.setWideRegister reg c.wz, bus, 19⟩

/-! ### Jumps, calls and returns -/

def jumpRelativeWz (c : Cpu) (bus : β) : Outcome β :=
  let offset := signExtend (Bus.read bus c.pc)
  let wz := (carryingAdd c.pc offset true).1
  ⟨(c.setWz wz).setPc wz, bus, 12⟩

def conditionalJumpRelativeWz (c : Cpu) (condition : Condition) (bus : β) : Outcome β :=
  if c.condition condition then c.jumpRelativeWz bus
  else ⟨c.setPc (c.pc + 1), bus, 7⟩

def djnzWz (c : Cpu) (bus : β) : Outcome β :=
  let b := c.register .B - 1
  let c := c.setRegister .B b
  if 0 < b then
    let offset := signExtend (Bus.read bus c.pc)
    let wz := (carryingAdd c.pc offset true).1
    ⟨(c.setWz wz).setPc wz, bus, 13⟩
  else ⟨c.setPc (c.pc + 1), bus, 8⟩

def jumpWz (c : Cpu) (bus : β) : Outcome β :=
  let (addr, c) := c.wideImmediate bus
  ⟨(c.setWz addr).setPc addr, bus, 10⟩

def conditionalJumpWz (c : Cpu) (condition : Condition) (bus : β) : Outcome β :=
  let (addr, c) := c.wideImmediate bus
  let c := c.setWz addr
  ⟨if c.condition condition then c.setPc addr else c, bus, 10⟩

def jumpIndirect (c : Cpu) (reg : WideRegister) (bus : β) : Outcome β :=
  let addr := c.wideRegister reg
  let low := Bus.read bus addr
  let high := Bus.read bus (addr + 1)
  ⟨c.setPc (word high low), bus, 4⟩

def callWz (c : Cpu) (bus : β) : Outcome β :=
  let (wz, c) := c.wideImmediate bus
  let (c, bus) := c.pushBase c.pc bus
  ⟨(c.setPc wz).setWz wz, bus, 17⟩

def conditionalCallWz (c : Cpu) (condition : Condition) (bus : β) : Outcome β :=
  if c.condition condition then c.callWz bus
  else
    let (wz, c) := c.wideImmediate bus
    ⟨c.setWz wz, bus, 10⟩

def resetWz (c : Cpu) (offset : U8) (bus : β) : Outcome β :=
  let (c, bus) := c.pushBase c.pc bus
  ⟨(c.setPc (offset.setWidth 16)).setWz (offset.setWidth 16), bus, 11⟩

def returnWz (c : Cpu) (bus : β) : Outcome β :=
  let (wz, c) := c.popBase bus
  ⟨(c.setPc wz).setWz wz, bus, 10⟩

def conditionalReturnWz (c : Cpu) (condition : Condition) (bus : β) : Outcome β :=
  if c.condition condition then
    let o := c.returnWz bus
    { o with cycles := o.cycles + 1 }
  else ⟨c, bus, 5⟩

def retnWz (c : Cpu) (bus : β) : Outcome β :=
  let o := c.returnWz bus
  { o with cpu := { o.cpu with iff1 := o.cpu.iff2 } }

/-- No pin is raised to the devices: it is `retn`. -/
def retiWz (c : Cpu) (bus : β) : Outcome β :=
  let o := c.returnWz bus
  { o with cpu := { o.cpu with iff1 := o.cpu.iff2 } }

/-! ### Ports -/

def outputImmediateIndirect (c : Cpu) (bus : β) : Outcome β :=
  let a := c.register .A
  let (low, c) := c.immediate bus
  let port := word a low
  ⟨c, Bus.output bus port a, 11⟩

def inputImmediateIndirect (c : Cpu) (bus : β) : Outcome β :=
  let a := c.register .A
  let (low, c) := c.immediate bus
  let port := word a low
  let (data, bus) := Bus.input bus port
  ⟨c.setRegister .A data, bus, 11⟩

def input (c : Cpu) (reg : Register) (bus : β) : Outcome β :=
  let (data, bus) := Bus.input bus c.bc
  let c := c.setRegister reg data
  ⟨c.setParityFlags data, bus, 8⟩

def output (c : Cpu) (reg : Register) (bus : β) : Outcome β :=
  ⟨c, Bus.output bus c.bc (c.register reg), 8⟩

def inputAndDrop (c : Cpu) (bus : β) : Outcome β := ⟨c, (Bus.input bus c.bc).2, 8⟩

def outputZero (c : Cpu) (bus : β) : Outcome β := ⟨c, Bus.output bus c.bc 0, 8⟩

/-! ### Block instructions

`move` steps an address: up for the `i` forms, down for the `d` forms. -/

def up (addr : U16) : U16 := addr + 1
def down (addr : U16) : U16 := addr - 1

def loadBlock (move : U16 → U16) (c : Cpu) (bus : β) : Outcome β :=
  let data := Bus.read bus c.hl
  let bus := Bus.write bus c.de data
  let c := c.setHl (move c.hl)
  let c := c.setDe (move c.de)
  let c := c.setBc (c.bc - 1)
  let result := data + c.register .A
  let c := c.setFlag .N false
  let c := c.setFlag .PV (c.bc != 0)
  let c := c.setFlag .X (result &&& 0x08 != 0)
  let c := c.setFlag .H false
  let c := c.setFlag .Y (result &&& 0x02 != 0)
  ⟨c, bus, 12⟩

def compareBlock (move : U16 → U16) (c : Cpu) (bus : β) : Outcome β :=
  let c := c.setWz (move c.wz)
  let hl := c.hl
  let c := c.setHl (move hl)
  let c := c.setBc (c.bc - 1)
  let a := c.register .A
  let result := a - Bus.read bus hl
  let c := c.setFlag .N true
  let c := c.setFlag .PV (c.bc != 0)
  let c := c.setFlag .H (decide (a &&& 0x0F < result &&& 0x0F))
  let c := c.setFlag .Z (result == 0)
  let c := c.setFlag .S (Flag.S.isIn result)
  let result := if c.flag .H then result - 1 else result
  let c := c.setFlag .X (Flag.X.isIn result)
  let c := c.setFlag .Y (Flag.Y.isIn result)
  ⟨c, bus, 12⟩

/-- The body of `ini_wz` and `inir_wz`, and with `down` of `ind_wz` and `indr_wz`. -/
def inputBlock (move : U16 → U16) (c : Cpu) (bus : β) : Cpu × β :=
  let (data, bus) := Bus.input bus c.bc
  let c := c.setWz (move c.bc)
  let c := c.setRegister .B (c.register .B - 1)
  let bus := Bus.write bus c.hl data
  let c := c.setHl (move c.hl)
  let b := c.register .B
  let c := c.setFlag .N true
  let c := c.setFlag .Z (b == 0)
  (c, bus)

/-- The body of `outi_wz` and `otir_wz`, and with `down` of `outd_wz` and `otdr_wz`. -/
def outputBlock (move : U16 → U16) (c : Cpu) (bus : β) : Cpu × β :=
  let data := Bus.read bus c.hl
  let c := c.setHl (move c.hl)
  let c := c.setRegister .B (c.register .B - 1)
  let bus := Bus.output bus c.bc data
  let c := c.setWz (move c.bc)
  let b := c.register .B
  let c := c.setFlag .N true
  let c := c.setFlag .Z (b == 0)
  (c, bus)

/-- Back to the two bytes of a repeating load or comparison. -/
def rewound (o : Outcome β) : Outcome β :=
  let pc := o.cpu.pc
  ⟨(o.cpu.setPc (pc - 2)).setWz (pc + 1), o.bus, 5 + o.cycles⟩

/-- The end of a repeating input or output: it goes back while B is not zero. -/
def repeatPort (r : Cpu × β) : Outcome β :=
  let (c, bus) := r
  if c.register .B != 0 then
    let c := c.setWz (c.pc - 1)
    ⟨c.setPc (c.wz - 1), bus, 16⟩
  else ⟨c, bus, 12⟩

def ldi (c : Cpu) (bus : β) : Outcome β := loadBlock up c bus
def ldd (c : Cpu) (bus : β) : Outcome β := loadBlock down c bus
def cpiWz (c : Cpu) (bus : β) : Outcome β := compareBlock up c bus
def cpdWz (c : Cpu) (bus : β) : Outcome β := compareBlock down c bus

def iniWz (c : Cpu) (bus : β) : Outcome β :=
  let (c, bus) := inputBlock up c bus
  ⟨c, bus, 12⟩

def indWz (c : Cpu) (bus : β) : Outcome β :=
  let (c, bus) := inputBlock down c bus
  ⟨c, bus, 12⟩

def outiWz (c : Cpu) (bus : β) : Outcome β :=
  let (c, bus) := outputBlock up c bus
  ⟨c, bus, 12⟩

def outdWz (c : Cpu) (bus : β) : Outcome β :=
  let (c, bus) := outputBlock down c bus
  ⟨c, bus, 12⟩

def ldir (c : Cpu) (bus : β) : Outcome β :=
  let o := c.ldi bus
  if o.cpu.flag .PV then rewound o else o

def lddr (c : Cpu) (bus : β) : Outcome β :=
  let o := c.ldd bus
  if o.cpu.flag .PV then rewound o else o

def cpir (c : Cpu) (bus : β) : Outcome β :=
  let o := c.cpiWz bus
  if o.cpu.flag .PV && !o.cpu.flag .Z then rewound o else o

def cpdrWz (c : Cpu) (bus : β) : Outcome β :=
  let o := c.cpdWz bus
  if o.cpu.flag .PV && !o.cpu.flag .Z then rewound o else o

def inirWz (c : Cpu) (bus : β) : Outcome β := repeatPort (inputBlock up c bus)
def indrWz (c : Cpu) (bus : β) : Outcome β := repeatPort (inputBlock down c bus)
def otirWz (c : Cpu) (bus : β) : Outcome β := repeatPort (outputBlock up c bus)
def otdrWz (c : Cpu) (bus : β) : Outcome β := repeatPort (outputBlock down c bus)

end Cpu

end Possum
