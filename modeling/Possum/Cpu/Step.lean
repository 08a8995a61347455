import Possum.Cpu.Tables
import Possum.Cpu.BitTables

/-!
# One step of the processor

`cpu/mod.rs`: the prefix methods, `do_opcode`, `do_irq` and `step`.

`do_opcode` and the prefix methods call each other until a table lists the opcode, and over
a memory of prefixes they never return.  The number of calls of `do_opcode` is bounded here;
`Decode` shows that the bound `callLimit` loses nothing.
-/

set_option autoImplicit false

namespace Possum

def Outcome.addCycles {β : Type} (o : Outcome β) (cycles : ℕ) : Outcome β :=
  { o with cycles := cycles + o.cycles }

namespace Cpu

variable {β : Type} [Bus β]

/-! ### Prefixes -/

def cbPrefix (c : Cpu) (bus : β) : Outcome β :=
  let (opcode, c) := c.fetch bus
  (c.exec bus (cbPrefixTable opcode)).addCycles 4

def ddcbPrefix (c : Cpu) (bus : β) : Outcome β :=
  let (offset, c) := c.immediate bus
  let (opcode, c) := c.fetch bus
  (c.exec bus (ddcbPrefixTable (signExtend offset) opcode)).addCycles 4

def fdcbPrefix (c : Cpu) (bus : β) : Outcome β :=
  let (offset, c) := c.immediate bus
  let (opcode, c) := c.fetch bus
  (c.exec bus (fdcbPrefixTable (signExtend offset) opcode)).addCycles 4

/-- `dd_prefix` and `fd_prefix`; `again` is `do_opcode`. -/
def indexPrefix (table : U8 → IndexArm) (bits : Cpu → β → Outcome β)
    (again : U8 → Cpu → Option (Outcome β)) (c : Cpu) (bus : β) : Option (Outcome β) :=
  let (opcode, c) := c.fetch bus
  let o :=
    match table opcode with
    | .run i => some (c.exec bus i)
    | .bits => some (bits c bus)
    | .fallback => again opcode c
  o.map fun o => o.addCycles 4

def ddPrefix (again : U8 → Cpu → Option (Outcome β)) (c : Cpu) (bus : β) : Option (Outcome β) :=
  indexPrefix ddPrefixTable ddcbPrefix again c bus

def fdPrefix (again : U8 → Cpu → Option (Outcome β)) (c : Cpu) (bus : β) : Option (Outcome β) :=
  indexPrefix fdPrefixTable fdcbPrefix again c bus

def edPrefix (again : U8 → Cpu → Option (Outcome β)) (c : Cpu) (bus : β) : Option (Outcome β) :=
  let (opcode, c) := c.fetch bus
  let o :=
    match edPrefixTable opcode with
    | some i => some (c.exec bus i)
    | none => again opcode c
  o.map fun o => o.addCycles 4

/-- `do_opcode`, in at most `fuel` calls of itself. -/
def doOpcode (bus : β) : ℕ → U8 → Cpu → Option (Outcome β)
  | 0, _, _ => none
  | fuel + 1, opcode, c =>
    match doOpcodeTable opcode with
    | .run i => some (c.exec bus i)
    | .cb => some (c.cbPrefix bus)
    | .dd => c.ddPrefix (doOpcode bus fuel) bus
    | .ed => c.edPrefix (doOpcode bus fuel) bus
    | .fd => c.fdPrefix (doOpcode bus fuel) bus

/-- One more call than there are addresses. -/
@[irreducible] def callLimit : ℕ := 65536 + 1

theorem callLimit_eq : callLimit = 65536 + 1 := by
  unfold callLimit
  rfl

/-! ### Interrupts and steps -/

/-- Why a call of `step` does not return. -/
inductive Fault
  /-- The calls of `do_opcode` never end. -/
  | endless
  /-- `unimplemented!`: an interrupt in mode 0 or 2. -/
  | unimplemented
  deriving DecidableEq, Repr

/-- The enabling of interrupts that an `ei` put off to the start of the next step. -/
def takeEnable (c : Cpu) : Cpu :=
  if c.enableInterruptsNextCycle then
    { c with iff1 := true, iff2 := true, enableInterruptsNextCycle := false }
  else c

/-- The part of `step` before `do_irq`. -/
def instruction (c : Cpu) (bus : β) : Option (Outcome β) :=
  let c := c.takeEnable
  let (opcode, c) := c.fetch bus
  doOpcode bus callLimit opcode c

end Cpu

namespace Cpu

variable {β : Type} [InterruptBus β]

def doIrq (c : Cpu) (bus : β) : Except Fault (Outcome β) :=
  if !InterruptBus.interrupted bus then .ok ⟨c, bus, 0⟩
  else
    let c := { c with halted := false }
    if c.iff1 then
      let c := { c with iff1 := false, iff2 := false }
      match c.interruptMode with
      | .zero => .error .unimplemented
      | .one =>
        let (c, bus) := c.pushBase c.pc bus
        .ok ⟨c.setPc 0x0038, bus, 13⟩
      | .two => .error .unimplemented
    else .ok ⟨c.setWz c.pc, bus, 2⟩

def step (c : Cpu) (bus : β) : Except Fault (Outcome β) :=
  match c.instruction bus with
  | none => .error .endless
  | some o => (doIrq o.cpu o.bus).map fun irq => irq.addCycles o.cycles

end Cpu

end Possum
