import Possum.Bus

/-!
# The DMA controller

`dma/mod.rs`.  A z8410 between two ports, A and B, each in memory or among the i/o ports.  This
file is its state and its `tick`, which moves one byte from the source port to the destination
port.

The destination counter is not loaded with the source counter but on the first tick of a
transfer, the one that finds `TRANSFER_OCCURRED` clear.  A restart at the end of a block is a
`todo!()`: the tick is nothing then, but its accesses have been made, so a tick leaves the bus in
any case.
-/

set_option autoImplicit false

namespace Possum

namespace RR0Mask

def TRANSFER_OCCURRED : U8 := 0x01
def READY : U8 := 0x02
def INTERRUPT_PENDING : U8 := 0x08
def MATCH_NOT_FOUND : U8 := 0x10
def NOT_END_OF_BLOCK : U8 := 0x20

end RR0Mask

inductive ReadRegister where
  | status
  | byteCounterLow | byteCounterHigh
  | portAAddressLow | portAAddressHigh
  | portBAddressLow | portBAddressHigh
  deriving DecidableEq, Repr

inductive WriteRegister where
  | portAAddressLow | portAAddressHigh
  | blockLengthLow | blockLengthHigh
  | portATiming
  | portBTiming
  | maskByte | matchByte
  | portBAddressLow | portBAddressHigh
  | interruptControl | pulseControl | interruptVector
  | readMask
  deriving DecidableEq, Repr

inductive Direction where
  | portBToA | portAToB
  deriving DecidableEq, Repr

inductive IncrementMode where
  | decrement | increment | fixed
  deriving DecidableEq, Repr

inductive AccessMode where
  | byte | continuous | burst
  deriving DecidableEq, Repr

/-- The counter after one access. -/
def IncrementMode.step : IncrementMode → U16 → U16
  | .increment, counter => counter + 1
  | .decrement, counter => counter - 1
  | .fixed, counter => counter

/-- The defaults are those of `Dma::default`.  The two stacks have their top first. -/
structure Dma where
  status : U8 := 0
  byteCounter : U16 := 0
  portACounter : U16 := 0
  portBCounter : U16 := 0
  readOrder : List ReadRegister := []
  enabled : Bool := false
  interruptsEnabled : Bool := false
  accessMode : AccessMode := .byte
  stopOnMatch : Bool := false
  maskByte : U8 := 0
  matchByte : U8 := 0
  interruptOnMatch : Bool := false
  interruptAtEndOfBlock : Bool := false
  restartAtEndOfBlock : Bool := false
  interruptOnReady : Bool := false
  statusAffectsVector : Bool := false
  interruptVector : U8 := 0
  readMask : U8 := 0
  search : Bool := false
  transfer : Bool := false
  direction : Direction := .portBToA
  portAStartAddress : U16 := 0
  portBStartAddress : U16 := 0
  blockLength : U16 := 0
  portAIsMemory : Bool := false
  portAIncrementMode : IncrementMode := .decrement
  portBIsMemory : Bool := false
  portBIncrementMode : IncrementMode := .decrement
  writeOrder : List WriteRegister := []
  deriving DecidableEq, Repr

namespace Dma

/-- `Dma::default` -/
instance : Inhabited Dma := ⟨{}⟩

def interrupting (d : Dma) : Bool := d.status &&& RR0Mask.INTERRUPT_PENDING != 0

/-! ### One tick -/

section

variable {β : Type} [DeviceBus β]

/-- Step 1: read the source byte. -/
def readSource (d : Dma) (bus : β) : U8 × β :=
  match d.direction with
  | .portAToB =>
    if d.portAIsMemory then DeviceBus.read bus d.portACounter
    else DeviceBus.input bus d.portACounter
  | .portBToA =>
    if d.portBIsMemory then DeviceBus.read bus d.portBCounter
    else DeviceBus.input bus d.portBCounter

/-- Step 4: write the source byte. -/
def writeDestination (d : Dma) (bus : β) (byte : U8) : β :=
  if d.transfer then
    match d.direction with
    | .portAToB =>
      if d.portBIsMemory then DeviceBus.write bus d.portBCounter byte
      else DeviceBus.output bus d.portBCounter byte
    | .portBToA =>
      if d.portAIsMemory then DeviceBus.write bus d.portACounter byte
      else DeviceBus.output bus d.portACounter byte
  else bus

end

/-- Step 2: increment the source counter. -/
def stepSource (d : Dma) : Dma :=
  match d.direction with
  | .portAToB => { d with portACounter := d.portAIncrementMode.step d.portACounter }
  | .portBToA => { d with portBCounter := d.portBIncrementMode.step d.portBCounter }

/-- Step 3: load the destination counter, on the first tick and unless the port is fixed. -/
def loadDestination (d : Dma) : Dma :=
  if d.status &&& RR0Mask.TRANSFER_OCCURRED = 0 then
    match d.direction with
    | .portAToB =>
      if d.portBIncrementMode ≠ .fixed then { d with portBCounter := d.portBStartAddress } else d
    | .portBToA =>
      if d.portAIncrementMode ≠ .fixed then { d with portACounter := d.portAStartAddress } else d
  else d

/-- `TRANSFER_OCCURRED` is set whether or not there is a transfer. -/
def markStarted (d : Dma) : Dma := { d with status := d.status ||| RR0Mask.TRANSFER_OCCURRED }

/-- Step 5: increment the destination counter. -/
def stepDestination (d : Dma) : Dma :=
  match d.direction with
  | .portAToB => { d with portBCounter := d.portBIncrementMode.step d.portBCounter }
  | .portBToA => { d with portACounter := d.portAIncrementMode.step d.portACounter }

/-- Raise the interrupt under a condition. -/
def pendIf (d : Dma) (raise : Bool) : Dma :=
  if raise then { d with status := d.status ||| RR0Mask.INTERRUPT_PENDING } else d

/-- What a match does before the tick looks at `stop_on_match`. -/
def found (d : Dma) : Dma :=
  { d with status := d.status &&& ~~~RR0Mask.MATCH_NOT_FOUND, enabled := false }.pendIf
    (d.interruptsEnabled && d.interruptOnMatch)

/-- The end of the block. -/
def ended (d : Dma) : Dma :=
  { d with status := d.status &&& ~~~RR0Mask.NOT_END_OF_BLOCK, enabled := false }.pendIf
    d.interruptAtEndOfBlock

/-- The end of a tick that was not stopped by a match. -/
def ready (d : Dma) : Dma := d.pendIf d.interruptOnReady

def counted (d : Dma) : Dma := { d with byteCounter := d.byteCounter + 1 }

/-- Step 7: count the byte and check for the end of the block. -/
def countByte (d : Dma) : Option Dma :=
  if d.counted.byteCounter = d.blockLength then
    if d.restartAtEndOfBlock then none else some d.counted.ended.ready
  else some d.counted.ready

/-- Step 6: check for a match, then step 7 unless the match stops the device. -/
def checkMatch (d : Dma) (byte : U8) : Option Dma :=
  if d.search ∧ ~~~d.maskByte &&& d.matchByte = byte then
    if d.stopOnMatch then some d.found else d.found.countByte
  else d.countByte

def tick {β : Type} [DeviceBus β] (d : Dma) (bus : β) : Option Dma × β :=
  if d.enabled then
    let r := d.readSource bus
    let d := d.stepSource.loadDestination
    (d.markStarted.stepDestination.checkMatch r.1, d.writeDestination r.2 r.1)
  else (some d, bus)

end Dma

end Possum
