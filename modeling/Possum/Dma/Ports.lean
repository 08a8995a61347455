import Possum.Dma.Chip
import Possum.Lib.Overflow

/-!
# The ports of the DMA controller

A byte written is a base register where no parameter is awaited, and else the parameter on top
of the stack `write_order`; a base register, and the interrupt control byte, push the
parameters they announce, the last one first.  Bytes written while the device is enabled are
ignored.  A read pops `read_order`.

`todo!`, `unimplemented!` and `unreachable!` are nothing, and so is a failing `debug_assert!` in
a build that checks.
-/

set_option autoImplicit false

namespace Possum

open Lib

/-- `debug_assert!`: the builds that check arithmetic check it too. -/
def debugAssert (m : Overflow) (condition : Bool) : Option Unit :=
  match m with
  | .panics => if condition then some () else none
  | .wraps => some ()

theorem debugAssert_of (m : Overflow) {condition : Bool} (h : condition = true) :
    debugAssert m condition = some () := by
  cases m with
  | panics => exact if_pos h
  | wraps => rfl

namespace Dma

/-! ### Reads -/

/-- What a read of a register answers. -/
def register (d : Dma) : ReadRegister → U8
  | .status => d.status
  | .byteCounterLow => lo d.byteCounter
  | .byteCounterHigh => hi d.byteCounter
  | .portAAddressLow => lo d.portACounter
  | .portAAddressHigh => hi d.portACounter
  | .portBAddressLow => lo d.portBCounter
  | .portBAddressHigh => hi d.portBCounter

def read (m : Overflow) (d : Dma) : Option (U8 × Dma) :=
  (debugAssert m (d.readOrder.length ≤ 8)).map fun _ =>
    match d.readOrder with
    | r :: rest => (d.register r, { d with readOrder := rest })
    | [] => (0, d)

/-! ### Base registers -/

/-- The device awaiting the given parameters. -/
def await (d : Dma) (order : List WriteRegister) : Dma := { d with writeOrder := order }

/-- Push a parameter where the base register announces it. -/
def announce (d : Dma) (data bit : U8) (r : WriteRegister) : Dma :=
  if data &&& bit ≠ 0 then d.await (r :: d.writeOrder) else d

/-- Queue a register to read where the mask selects it. -/
def queue (d : Dma) (bit : U8) (r : ReadRegister) : Dma :=
  if d.readMask &&& bit ≠ 0 then { d with readOrder := r :: d.readOrder } else d

/-- The increment mode of WR1 and WR2: `(data & 0x30) >> 4`. -/
def incrementMode (data : U8) : Option IncrementMode :=
  match ((data &&& 0x30) >>> 4).toNat with
  | 0 => some .decrement
  | 1 => some .increment
  | 2 | 3 => some .fixed
  | _ => none

/-- The access mode of WR4.  The mask is that of the bits 1 and 2, the shift that of 5 and 6. -/
def accessModeOf (data : U8) : Option AccessMode :=
  match ((data &&& 0x06) >>> 5).toNat with
  | 0 => some .byte
  | 1 => some .continuous
  | 3 => some .burst
  | _ => none

def writeWR1 (d : Dma) (data : U8) : Option Dma :=
  (incrementMode data).map fun mode =>
    { d with portAIsMemory := data &&& 0x08 == 0, portAIncrementMode := mode }.announce
      data 0x40 .portATiming

def writeWR2 (d : Dma) (data : U8) : Option Dma :=
  (incrementMode data).map fun mode =>
    { d with portBIsMemory := data &&& 0x08 == 0, portBIncrementMode := mode }.announce
      data 0x40 .portBTiming

/-- The mode of WR0.  It only ever sets `transfer` and `search`. -/
def setMode (d : Dma) (data : U8) : Option Dma :=
  match (data &&& 0x03).toNat with
  | 1 => some { d with transfer := true }
  | 2 => some { d with search := true }
  | 3 => some { d with transfer := true, search := true }
  | _ => none

def setDirection (d : Dma) (data : U8) : Dma :=
  { d with direction := if data &&& 0x04 = 0 then .portBToA else .portAToB }

def writeWR0 (d : Dma) (data : U8) : Option Dma :=
  (d.setMode data).map fun d =>
    ((((d.setDirection data).announce data 0x40 .blockLengthHigh).announce
      data 0x20 .blockLengthLow).announce
      data 0x10 .portAAddressHigh).announce data 0x08 .portAAddressLow

/-- WR3 sets the two enables and clears neither. -/
def writeWR3 (d : Dma) (data : U8) : Dma :=
  ({ d with
    stopOnMatch := data &&& 0x04 != 0
    interruptsEnabled := data &&& 0x20 != 0 || d.interruptsEnabled
    enabled := data &&& 0x40 != 0 || d.enabled }.announce
      data 0x10 .matchByte).announce data 0x08 .maskByte

def writeWR4 (d : Dma) (data : U8) : Option Dma :=
  (accessModeOf data).map fun mode =>
    (({ d with accessMode := mode }.announce data 0x10 .interruptControl).announce
      data 0x08 .portBAddressHigh).announce data 0x04 .portBAddressLow

def writeWR5 (d : Dma) (data : U8) : Option Dma :=
  if data &&& 0x10 ≠ 0 then none
  else some { d with restartAtEndOfBlock := data &&& 0x20 != 0 }

/-- 0xC3.  The other bits of the status stay. -/
def reset (d : Dma) : Dma :=
  { d with
    interruptsEnabled := false
    restartAtEndOfBlock := false
    status := d.status &&& ~~~RR0Mask.INTERRUPT_PENDING }

/-- 0xCF, which loads the source counter only. -/
def load (d : Dma) : Dma :=
  match d.direction with
  | .portAToB => { d with portACounter := d.portAStartAddress, byteCounter := 0 }
  | .portBToA => { d with portBCounter := d.portBStartAddress, byteCounter := 0 }

/-- 0x8B -/
def reinitializeStatus (d : Dma) : Dma :=
  { d with status := (d.status ||| RR0Mask.MATCH_NOT_FOUND) ||| RR0Mask.NOT_END_OF_BLOCK }

/-- 0xA7 -/
def initiateRead (d : Dma) : Dma :=
  (((((((d.queue 0x40 .portBAddressHigh).queue 0x20 .portBAddressLow).queue
    0x10 .portAAddressHigh).queue 0x08 .portAAddressLow).queue
    0x02 .byteCounterLow).queue 0x04 .byteCounterHigh).queue 0x01 .status)

/-- The control bytes. -/
def command (d : Dma) (data : U8) : Option Dma :=
  match data.toNat with
  | 0xC3 => some d.reset
  | 0xCF => some d.load
  | 0xD3 => some { d with byteCounter := 0 }
  | 0xAB => some { d with interruptsEnabled := true }
  | 0xBF => some { d with readOrder := .status :: d.readOrder }
  | 0x8B => some d.reinitializeStatus
  | 0xBB => some (d.await (.readMask :: d.writeOrder))
  | 0xA7 => some d.initiateRead
  | 0x87 => some { d with enabled := true }
  | 0x83 => some { d with enabled := false }
  -- 0xC7, 0xCB, 0xAF, 0xA3, 0xB7 and 0xB3 are `todo!()`, the rest is no command
  | _ => none

def writeWR6 (d : Dma) (data : U8) : Option Dma := { d with enabled := false }.command data

/-- A byte written where no parameter is awaited. -/
def writeBase (d : Dma) (data : U8) : Option Dma :=
  if data &&& 0x87 = 0x04 then d.writeWR1 data
  else if data &&& 0x87 = 0x00 then d.writeWR2 data
  else if data &&& 0x80 = 0x00 then d.writeWR0 data
  else if data &&& 0x83 = 0x80 then some (d.writeWR3 data)
  else if data &&& 0x83 = 0x81 then d.writeWR4 data
  else if data &&& 0xC7 = 0x82 then d.writeWR5 data
  else if data &&& 0x83 = 0x83 then d.writeWR6 data
  else some d

/-! ### Parameters -/

/-- The low byte of an address or a length, as the device stores it. -/
def storeLow (old : U16) (data : U8) : U16 := (old &&& (0xF0 : U16)) ||| data.setWidth 16

/-- The high byte of an address or a length, as the device stores it. -/
def storeHigh (old : U16) (data : U8) : U16 :=
  (old &&& (0x0F : U16)) ||| (data.setWidth 16 <<< 8)

def writeInterruptControl (d : Dma) (data : U8) : Option Dma :=
  if data &&& 0x04 ≠ 0 then none
  else
    some (({ d with
      interruptOnMatch := data &&& 0x01 != 0
      interruptAtEndOfBlock := data &&& 0x02 != 0
      statusAffectsVector := data &&& 0x20 != 0
      interruptOnReady := data &&& 0x40 != 0 }.announce data 0x10 .interruptVector).announce
        data 0x08 .pulseControl)

def writeParameter (d : Dma) (r : WriteRegister) (data : U8) : Option Dma :=
  match r with
  | .portAAddressLow => some { d with portAStartAddress := storeLow d.portAStartAddress data }
  | .portAAddressHigh => some { d with portAStartAddress := storeHigh d.portAStartAddress data }
  | .blockLengthLow => some { d with blockLength := storeLow d.blockLength data }
  | .blockLengthHigh => some { d with blockLength := storeHigh d.blockLength data }
  | .portATiming => none
  | .portBTiming => none
  | .portBAddressLow => some { d with portBStartAddress := storeLow d.portBStartAddress data }
  | .portBAddressHigh => some { d with portBStartAddress := storeHigh d.portBStartAddress data }
  | .interruptControl => d.writeInterruptControl data
  | .pulseControl => none
  | .interruptVector => some { d with interruptVector := data }
  | .readMask => some { d with readMask := data }
  | .maskByte => some { d with maskByte := data }
  | .matchByte => some { d with matchByte := data }

def write (m : Overflow) (d : Dma) (data : U8) : Option Dma :=
  (debugAssert m (d.writeOrder.length ≤ 8)).bind fun _ =>
    if d.enabled then some d
    else
      match d.writeOrder with
      | [] => d.writeBase data
      | r :: rest => (d.await rest).writeParameter r data

/-! ### Runs -/

/-- Write bytes one after the other. -/
def feed (m : Overflow) : Dma → List U8 → Option Dma
  | d, [] => some d
  | d, data :: rest => (d.write m data).bind fun d' => feed m d' rest

/-- What a device can have gone through since power-up, on any bus. -/
inductive Reachable (m : Overflow) : Dma → Prop where
  | power : Reachable m default
  | write {d d' : Dma} {data : U8} : Reachable m d → d.write m data = some d' → Reachable m d'
  | read {d d' : Dma} {data : U8} : Reachable m d → d.read m = some (data, d') → Reachable m d'
  | tick {d d' : Dma} {β : Type} [DeviceBus β] {bus bus' : β} :
      Reachable m d → d.tick bus = (some d', bus') → Reachable m d'

end Dma

end Possum
