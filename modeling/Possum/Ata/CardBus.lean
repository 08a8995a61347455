import Possum.Ata.Card
import Possum.Lib.Run

/-!
# The card bus

`ata/mod.rs`, `CardBus`: one or two cards behind eight ports.  The task-file registers are
shared; bit 4 of the drive/head register selects the card that the data, error, status and
command ports reach.  A port access is a `PortOp`, and `step` makes the bus a machine in
the sense of `Lib.Run`: a read answers its byte, a panic aborts.

After the model come the two drives: `card` and `setCard` are what every later file says about
the cards, and `Access` says once what an access does in terms of the selected one (`step_card`).
-/

set_option autoImplicit false

namespace Possum.Ata

structure CardBus (M : Type) where
  card0 : Card M
  card1 : Option (Card M)
  registers : SharedRegisters

namespace CardBus

variable {M : Type} [MemoryMap M]

def new (mmap0 : M) (mmap1 : Option M) : CardBus M where
  card0 := Card.new mmap0
  card1 := mmap1.map Card.new
  registers := {}

def single (mmap : M) : CardBus M := new mmap none

def dual (mmap0 mmap1 : M) : CardBus M := new mmap0 (some mmap1)

def read (bus : CardBus M) (port : U16) : Option (U8 × CardBus M) :=
  match (port &&& 0x07).toNat with
  | 0 => -- data port
      if bus.registers.driveHead &&& 0x10 = 0 then
        bus.card0.readData.map fun r => (r.1, { bus with card0 := r.2 })
      else
        match bus.card1 with
        | some card1 => card1.readData.map fun r => (r.1, { bus with card1 := some r.2 })
        | none => some (0, bus)
  | 1 => -- error code
      if bus.registers.driveHead &&& 0x10 = 0 then some (bus.card0.error, bus)
      else
        match bus.card1 with
        | some card1 => some (card1.error, bus)
        | none => some (0, bus)
  | 2 => some (bus.registers.sectorCount, bus)
  | 3 => some (bus.registers.sectorNumber, bus)
  | 4 => some (bus.registers.cylinderLow, bus)
  | 5 => some (bus.registers.cylinderHigh, bus)
  | 6 => some (bus.registers.driveHead, bus)
  | 7 => -- status: reading it clears the interrupt
      if bus.registers.driveHead &&& 0x10 = 0 then
        some (bus.card0.status, { bus with card0 := { bus.card0 with interrupt := false } })
      else
        match bus.card1 with
        | some card1 =>
            some (card1.status, { bus with card1 := some { card1 with interrupt := false } })
        | none => some (0, bus)
  | _ => none -- unreachable!()

def write (bus : CardBus M) (port : U16) (data : U8) : Option (CardBus M) :=
  match (port &&& 0x07).toNat with
  | 0 => -- data port
      if bus.registers.driveHead &&& 0x10 = 0 then
        (bus.card0.writeData data).map fun c => { bus with card0 := c }
      else
        match bus.card1 with
        | some card1 => (card1.writeData data).map fun c => { bus with card1 := some c }
        | none => some bus
  | 1 => some { bus with registers := { bus.registers with feature := data } }
  | 2 => some { bus with registers := { bus.registers with sectorCount := data } }
  | 3 => some { bus with registers := { bus.registers with sectorNumber := data } }
  | 4 => some { bus with registers := { bus.registers with cylinderLow := data } }
  | 5 => some { bus with registers := { bus.registers with cylinderHigh := data } }
  | 6 => some { bus with registers := { bus.registers with driveHead := data } }
  | 7 => -- command
      if bus.registers.driveHead &&& 0x10 = 0 then
        (bus.card0.writeCommand bus.registers data).map fun c => { bus with card0 := c }
      else
        match bus.card1 with
        | some card1 =>
            (card1.writeCommand bus.registers data).map fun c => { bus with card1 := some c }
        | none => some bus
  | _ => none -- unreachable!()

def interrupting (bus : CardBus M) : Bool :=
  if bus.card0.interruptEnabled && bus.card0.interrupt then true
  else
    match bus.card1 with
    | some card1 => card1.interruptEnabled && card1.interrupt
    | none => false

end CardBus

/-! ### Port accesses as a machine -/

/-- An access of the guest to a port of the bus. -/
inductive PortOp
  | read (port : U16)
  | write (port : U16) (data : U8)
  deriving DecidableEq, Repr

/-- One access: the byte it answers (`none` for a write) and the next bus, or a panic. -/
def step {M : Type} [MemoryMap M] : Lib.Machine (CardBus M) PortOp (Option U8)
  | bus, .read port => (bus.read port).map fun r => (some r.1, r.2)
  | bus, .write port data => (bus.write port data).map fun bus => (none, bus)

/-! ### Drives -/

/-- The two drives of a bus. -/
inductive Drive
  | zero
  | one
  deriving DecidableEq, Repr

/-- The drive that bit 4 of the drive/head register selects. -/
def SharedRegisters.drive (registers : SharedRegisters) : Drive :=
  if registers.driveHead &&& 0x10 = 0 then .zero else .one

namespace CardBus

variable {M : Type}

/-- The card in a drive. -/
def card (bus : CardBus M) : Drive → Option (Card M)
  | .zero => some bus.card0
  | .one => bus.card1

/-- Replace the card in a drive. -/
def setCard (bus : CardBus M) (c : Card M) : Drive → CardBus M
  | .zero => { bus with card0 := c }
  | .one => { bus with card1 := some c }

/-- Replace the task-file registers. -/
def setRegisters (bus : CardBus M) (registers : SharedRegisters) : CardBus M :=
  { bus with registers := registers }

@[simp] theorem card_setCard_self (bus : CardBus M) (c : Card M) (d : Drive) :
    (bus.setCard c d).card d = some c := by
  cases d <;> rfl

theorem card_setCard_of_ne (bus : CardBus M) (c : Card M) {d d' : Drive} (h : d' ≠ d) :
    (bus.setCard c d).card d' = bus.card d' := by
  cases d <;> cases d' <;> first | rfl | exact absurd rfl h

@[simp] theorem registers_setCard (bus : CardBus M) (c : Card M) (d : Drive) :
    (bus.setCard c d).registers = bus.registers := by
  cases d <;> rfl

@[simp] theorem card_setRegisters (bus : CardBus M) (r : SharedRegisters) (d : Drive) :
    (bus.setRegisters r).card d = bus.card d := by
  cases d <;> rfl

@[simp] theorem registers_setRegisters (bus : CardBus M) (r : SharedRegisters) :
    (bus.setRegisters r).registers = r := rfl

/-- What holds of a new card holds of the cards of a new bus. -/
theorem forall_card_new [MemoryMap M] {P : Card M → Prop} (h : ∀ m, P (Card.new m))
    (mmap0 : M) (mmap1 : Option M) :
    ∀ d c, (CardBus.new mmap0 mmap1).card d = some c → P c := by
  intro d c hc
  cases d with
  | zero =>
    cases hc
    exact h mmap0
  | one =>
    obtain ⟨m, -, rfl⟩ := Option.map_eq_some_iff.1 hc
    exact h m

end CardBus

end Possum.Ata
