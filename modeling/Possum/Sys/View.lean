import Possum.Sys.Memory
import Possum.Ata.CardBus
import Possum.Vdc.Ports
import Possum.Cpu.Step

/-!
# The processor's view of the system

`sys/mod.rs`, `CpuView`: the RAM behind the bank select, and the ports with the devices behind
them.  The disk and the keyboard are any devices; an access of a device may panic, and so may an
access of the view (`none`).

`Guest` is the view as the processor's bus: a panic of the view stops it for good.  `System` is
the processor with its view, and `System.step` the source's, with the ticks of the video chip
behind every instruction.
-/

set_option autoImplicit false

namespace Possum

open Lib

/-- `trait Device`, as far as the system uses it. -/
class Device (δ : Type) where
  read : δ → U16 → Option (U8 × δ)
  write : δ → U16 → U8 → Option δ
  interrupting : δ → Bool

instance (M : Type) [Ata.MemoryMap M] : Device (Ata.CardBus M) where
  read bus port := bus.read port
  write bus port data := bus.write port data
  interrupting bus := bus.interrupting

namespace Sys

namespace IOAddr

def IC : U16 := 0x00
def BANK : U16 := 0x01
def KB : U16 := 0x02
def HD : U16 := 0x20
def VDC : U16 := 0x40

end IOAddr

namespace InterruptPriority

def HD : U8 := 0x02
def VDC : U8 := 0x03

end InterruptPriority

/-- `Vdc::interrupting` -/
def vdcInterrupting (_ : Vdc) : Bool := false

structure View (H K : Type) where
  bank : BankSelect
  ram : Ram
  hd : Option H
  vdc : Vdc
  kb : K

variable {H K : Type}

namespace View

/-- The view of `System::new`. -/
def new (kb : K) (hd : Option H) : View H K where
  bank := {}
  ram := Vector.replicate RAM_SIZE 0
  hd := hd
  vdc := Vdc.new
  kb := kb

def read (v : View H K) (addr : U16) : Option U8 := Sys.read v.ram v.bank.offset addr

def write (v : View H K) (addr : U16) (data : U8) : Option (View H K) :=
  (Sys.write v.ram v.bank.offset addr data).map fun ram => { v with ram := ram }

section

variable [Device H] [Device K]

/-- `hd.interrupting()`, if there is a disk. -/
def hdInterrupting (v : View H K) : Bool :=
  match v.hd with
  | some hd => Device.interrupting hd
  | none => false

def input (m : Overflow) (v : View H K) (port : U16) : Option (U8 × View H K) :=
  -- the upper byte of the port is not something we want
  let port := port &&& 0xFF
  match (port &&& 0xF0).toNat with
  -- the lowest devices all mask to the same space as the IC
  | 0x00 =>
    if port = IOAddr.IC then
      if v.hdInterrupting then some (InterruptPriority.HD, v)
      else if vdcInterrupting v.vdc then some (InterruptPriority.VDC, v)
      else none -- todo!()
    else if port = IOAddr.KB then
      (Device.read v.kb port).map fun r => (r.1, { v with kb := r.2 })
    else if port = IOAddr.BANK then some (v.bank.number, v)
    else some (0, v)
  | 0x20 =>
    match v.hd with
    | some hd => (Device.read hd port).map fun r => (r.1, { v with hd := some r.2 })
    | none => some (0, v)
  | 0x40 => (v.vdc.read m port).map fun r => (r.1, { v with vdc := r.2 })
  | _ => some (0, v)

def output (m : Overflow) (v : View H K) (port : U16) (data : U8) : Option (View H K) :=
  let port := port &&& 0xFF
  match (port &&& 0xF0).toNat with
  | 0x00 =>
    if port = IOAddr.KB then (Device.write v.kb port data).map fun kb => { v with kb := kb }
    else if port = IOAddr.BANK then some { v with bank := v.bank.select data }
    else some v
  | 0x20 =>
    match v.hd with
    | some hd => (Device.write hd port data).map fun hd => { v with hd := some hd }
    | none => some v
  | 0x40 => (v.vdc.write m port data).map fun vdc => { v with vdc := vdc }
  | _ => some v

def interrupted (v : View H K) : Bool := v.hdInterrupting || vdcInterrupting v.vdc

end

end View

/-! ### The view as a bus -/

/-- The view, or `none` after a panic of it. -/
structure Guest (m : Overflow) (H K : Type) where
  view : Option (View H K)

instance (m : Overflow) (H K : Type) [Device H] [Device K] : InterruptBus (Guest m H K) where
  read g addr := (g.view.bind fun v => v.read addr).getD 0
  write g addr data := ⟨g.view.bind fun v => v.write addr data⟩
  input g port :=
    match g.view.bind fun v => v.input m port with
    | some r => (r.1, ⟨some r.2⟩)
    | none => (0, ⟨none⟩)
  output g port data := ⟨g.view.bind fun v => v.output m port data⟩
  interrupted g :=
    match g.view with
    | some v => v.interrupted
    | none => false

section

variable {m : Overflow} [Device H] [Device K]

theorem Guest.input_some {v v' : View H K} {port : U16} {b : U8}
    (h : v.input m port = some (b, v')) :
    Bus.input (⟨some v⟩ : Guest m H K) port = (b, ⟨some v'⟩) := by
  simp only [Bus.input, Option.bind_some, h]

theorem Guest.output_some {v v' : View H K} {port : U16} {b : U8}
    (h : v.output m port b = some v') :
    Bus.output (⟨some v⟩ : Guest m H K) port b = ⟨some v'⟩ := by
  simp only [Bus.output, Option.bind_some, h]

theorem Guest.write_some {v v' : View H K} {addr : U16} {b : U8} (h : v.write addr b = some v') :
    Bus.write (⟨some v⟩ : Guest m H K) addr b = ⟨some v'⟩ := by
  simp only [Bus.write, Option.bind_some, h]

end

/-! ### The system -/

structure System (H K : Type) where
  cpu : Cpu
  view : View H K

/-- `n` ticks of the video chip. -/
def ticks (m : Overflow) : ℕ → Vdc → Option Vdc
  | 0, vdc => some vdc
  | n + 1, vdc => (vdc.tick m).bind (ticks m n)

/-- `System::step`, without the number of cycles it returns. -/
def System.step [Device H] [Device K] (m : Overflow) (s : System H K) : Option (System H K) :=
  match s.cpu.step (⟨some s.view⟩ : Guest m H K) with
  | .ok o =>
    match o.bus.view with
    | some view =>
      (ticks m o.cycles view.vdc).map fun vdc => ⟨o.cpu, { view with vdc := vdc }⟩
    | none => none
  | .error _ => none

end Sys

end Possum
