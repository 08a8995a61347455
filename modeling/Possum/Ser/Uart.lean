import Possum.Words
import Possum.Lib.Run
import Possum.Lib.Overflow
import Mathlib.Data.Nat.Notation

/-!
# The UART

`ser/mod.rs`.  The chip between the guest's ports and a stream of the host, its `handle`.  The
handle is any type with the source's `Read` and `Write`: an operation of it answers and leaves
the handle in its next state.  A `VecDeque` is a list with its front first.

`Event` and `step` make the chip a machine of ticks and port accesses.
-/

set_option autoImplicit false

namespace Possum

open Lib

/-- `Read + Write`, as far as the chip uses them: an `Err` is `none`. -/
class Handle (τ : Type) where
  /-- `read(&mut buf)`: the count, what the buffer holds then, and the handle. -/
  read : τ → Vector U8 16 → Option ℕ × Vector U8 16 × τ
  /-- `write_all(buf)` -/
  writeAll : τ → List U8 → Option Unit × τ

structure Uart (τ : Type) where
  handle : τ
  txFifo : List U8
  rxFifo : List U8
  interruptEnable : U8
  interruptStatus : U8
  fifoControl : U8
  lineControl : U8
  modemControl : U8
  lineStatus : U8
  modemStatus : U8
  divisorLatch : U16

namespace Uart

variable {τ : Type}

/-- `Uart::new` -/
def new (handle : τ) : Uart τ where
  handle := handle
  txFifo := []
  rxFifo := []
  interruptEnable := 0
  interruptStatus := 0
  fifoControl := 0
  lineControl := 0
  modemControl := 0
  lineStatus := 0
  modemStatus := 0
  divisorLatch := 0

/-! ### Ticks -/

section

variable [Handle τ]

/-- The first half of `tick`: refill the receive queue when it is empty.  It panics where the
handle claims more bytes than the buffer holds. -/
def refill (u : Uart τ) : Option (Uart τ) :=
  if u.rxFifo.isEmpty then
    let r := Handle.read u.handle (Vector.replicate 16 0)
    let read := r.1.getD 0
    if read ≤ 16 then
      some { u with handle := r.2.2, rxFifo := u.rxFifo ++ r.2.1.toList.take read }
    else none
  else some u

/-- The second half of `tick`: send the oldest byte of the transmit queue.  What the handle
answers is ignored. -/
def drain (u : Uart τ) : Uart τ :=
  match u.txFifo with
  | data :: rest => { u with txFifo := rest, handle := (Handle.writeAll u.handle [data]).2 }
  | [] => u

def tick (u : Uart τ) : Option (Uart τ) := u.refill.map drain

end

/-! ### Ports -/

/-- DLAB, as `read` and most of `write` test it: bit 7 of the line control is clear. -/
def dataPort (u : Uart τ) : Bool := u.lineControl &&& 0x80 == 0

theorem dataPort_eq (u : Uart τ) : u.dataPort = !u.lineControl.getLsbD 7 := by
  have htable : ∀ b : U8, (b &&& 0x80 == 0) = !b.getLsbD 7 := by decide +kernel
  exact htable u.lineControl

def read (u : Uart τ) (port : U16) : U8 × Uart τ :=
  match (port &&& 0x07).toNat with
  | 0 =>
    if u.dataPort then (u.rxFifo.head?.getD 0, { u with rxFifo := u.rxFifo.tail })
    else (lo u.divisorLatch, u)
  | 1 => if u.dataPort then (u.interruptEnable, u) else (hi u.divisorLatch, u)
  | 2 => (u.interruptStatus, u)
  | 3 => (u.lineControl, u)
  | 4 => (u.modemControl, u)
  | 5 => (u.lineStatus, u)
  | 6 => (u.modemStatus, u)
  | _ => (0, u)

def write (m : Overflow) (u : Uart τ) (port : U16) (data : U8) : Option (Uart τ) :=
  match (port &&& 0x07).toNat with
  | 0 =>
    if u.dataPort then some { u with txFifo := u.txFifo ++ [data] }
    else some { u with divisorLatch := (u.divisorLatch &&& 0xFF00) ||| data.setWidth 16 }
  | 1 =>
    -- a product where port 0 has the mask
    (m.mul 8 u.lineControl.toNat 0x80).map fun product =>
      if product = 0 then { u with interruptEnable := data }
      else
        { u with
          divisorLatch := (u.divisorLatch &&& 0x00FF) ||| (data.setWidth 16 <<< 8) }
  | 2 => some { u with fifoControl := data }
  | 3 => some { u with lineControl := data }
  | 4 => some { u with modemControl := data }
  | _ => some u

/-! ### The chip as a machine -/

end Uart

/-- What happens to a UART. -/
inductive Uart.Event
  | tick
  | read (port : U16)
  | write (port : U16) (data : U8)

namespace Uart

variable {τ : Type} [Handle τ]

/-- One event; only a read answers. -/
def step (m : Overflow) : Machine (Uart τ) Event (Option U8)
  | u, .tick => u.tick.map fun u' => (none, u')
  | u, .read port => some (some (u.read port).1, (u.read port).2)
  | u, .write port data => (u.write m port data).map fun u' => (none, u')

end Uart

end Possum
