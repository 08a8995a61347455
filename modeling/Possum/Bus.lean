import Possum.Words

/-!
# The system bus

`bus/mod.rs`.  `Bus` is what the processor sees of the system: memory and ports.  Reading
memory changes nothing on either bus of the repository, so `read` is a function of the bus;
reading a port may change a device, so `input` returns the next bus.

`DeviceBus` is the bus as a device on it drives it, where a read may change the bus as well, and
`Traced β` is such a bus with a record of what was done on it.

`Wired β` is a bus with its interrupt line held at a given level, `RamBus` the law of a bus
whose memory is plain RAM, and `TestBus` the bus of the repository's own tests.
-/

set_option autoImplicit false

namespace Possum

class Bus (β : Type) where
  read : β → U16 → U8
  write : β → U16 → U8 → β
  input : β → U16 → U8 × β
  output : β → U16 → U8 → β

class InterruptBus (β : Type) extends Bus β where
  interrupted : β → Bool

/-- Memory is RAM: a read returns what was last written. -/
class RamBus (β : Type) [Bus β] : Prop where
  read_write : ∀ (bus : β) (a b : U16) (v : U8),
    Bus.read (Bus.write bus a v) b = if b = a then v else Bus.read bus b

/-! ### The bus under a device -/

class DeviceBus (β : Type) where
  read : β → U16 → U8 × β
  write : β → U16 → U8 → β
  input : β → U16 → U8 × β
  output : β → U16 → U8 → β

instance (β : Type) [Bus β] : DeviceBus β where
  read bus a := (Bus.read bus a, bus)
  write := Bus.write
  input := Bus.input
  output := Bus.output

/-- An access to the bus, with the byte that was read or written. -/
inductive BusAccess where
  | read (a : U16) (v : U8)
  | write (a : U16) (v : U8)
  | input (p : U16) (v : U8)
  | output (p : U16) (v : U8)
  deriving DecidableEq, Repr

/-- A bus with the accesses made to it, in order. -/
structure Traced (β : Type) where
  bus : β
  accesses : List BusAccess

instance (β : Type) [DeviceBus β] : DeviceBus (Traced β) where
  read t a :=
    let r := DeviceBus.read t.bus a
    (r.1, ⟨r.2, t.accesses ++ [.read a r.1]⟩)
  write t a v := ⟨DeviceBus.write t.bus a v, t.accesses ++ [.write a v]⟩
  input t p :=
    let r := DeviceBus.input t.bus p
    (r.1, ⟨r.2, t.accesses ++ [.input p r.1]⟩)
  output t p v := ⟨DeviceBus.output t.bus p v, t.accesses ++ [.output p v]⟩

/-! ### A bus with its interrupt line held -/

structure Wired (β : Type) where
  bus : β
  line : Bool

instance (β : Type) [Bus β] : InterruptBus (Wired β) where
  read w a := Bus.read w.bus a
  write w a v := { w with bus := Bus.write w.bus a v }
  input w p := ((Bus.input w.bus p).1, { w with bus := (Bus.input w.bus p).2 })
  output w p v := { w with bus := Bus.output w.bus p v }
  interrupted w := w.line

instance (β : Type) [Bus β] [RamBus β] : RamBus (Wired β) where
  read_write w a b v := RamBus.read_write w.bus a b v

/-! ### The bus of the tests -/

/-- `TestBus`: 64 KiB of memory and 64 KiB of ports that hold what is written to them. -/
structure TestBus where
  mem : U16 → U8
  io : U16 → U8

instance : InterruptBus TestBus where
  read bus a := bus.mem a
  write bus a v := { bus with mem := Function.update bus.mem a v }
  input bus p := (bus.io p, bus)
  output bus p v := { bus with io := Function.update bus.io p v }
  interrupted _ := false

instance : RamBus TestBus where
  read_write bus a b v := by
    show Function.update bus.mem a v b = _
    rw [Function.update_apply]
    rfl

/-- `TestBus::with_mem`: the bytes from address 0 on, the rest zero. -/
def TestBus.withMem (mem : List U8) : TestBus where
  mem a := mem.getD a.toNat 0
  io _ := 0

end Possum
