import Possum.Vdc.Tick
import Possum.Lib.Run

/-!
# The ports of the video chip

`vdc/mod.rs`, `Vdc::read` and `Vdc::write`: the status and register-select port and the data
port.  With the ticks they make the chip a machine in the sense of `Lib.Run`; a panic aborts.
-/

set_option autoImplicit false

namespace Possum.Vdc

open Lib

/-- `(old & 0x00FF) | ((data as u16) << 8)` -/
def withHigh (old : U16) (data : U8) : U16 := (old &&& 0x00FF#16) ||| (data.setWidth 16 <<< 8)

/-- `(old & 0xFF00) | ((data as u16) << 0)` -/
def withLow (old : U16) (data : U8) : U16 := (old &&& 0xFF00#16) ||| data.setWidth 16

/-- `(self.update_addr + 1) & (VRAM_ADDR_MAX as u16)` -/
def nextAddr (m : Overflow) (addr : U16) : Option U16 :=
  (m.add 16 addr.toNat 1).map fun a => BitVec.ofNat 16 a &&& BitVec.ofNat 16 VRAM_ADDR_MAX

/-! ### Reading -/

/-- What the data port shows of register `select`. -/
def readRegister (vram : Vector U8 VRAM_SIZE) (select : U8) (r : Registers) : U8 :=
  match select.toNat with
  | 0x00 => r.horizTotal
  | 0x01 => r.horizDisplayed
  | 0x02 => r.horizSync
  | 0x03 => r.syncWidths
  | 0x04 => r.vertTotal
  | 0x05 => r.vertAdjust ||| 0xE0
  | 0x06 => r.vertDisplayed
  | 0x07 => r.vertSync
  | 0x08 => r.interlaceMode ||| 0xFC
  | 0x09 => r.charTotalVert ||| 0xE0
  | 0x0A => r.cursorModeStartScan ||| 0x80
  | 0x0B => r.cursorEndScanLine ||| 0xE0
  | 0x0C => hi r.dispStartAddr
  | 0x0D => lo r.dispStartAddr
  | 0x0E => hi r.cursorPos
  | 0x0F => lo r.cursorPos
  | 0x12 => hi r.updateAddr
  | 0x13 => lo r.updateAddr
  | 0x14 => hi r.attrAddr
  | 0x15 => lo r.attrAddr
  | 0x16 => r.charTotalDispHoriz
  | 0x17 => r.charDispVert ||| 0xE0
  | 0x18 => r.vertScrollCtrl
  | 0x19 => r.horizScrollCtrl
  | 0x1A => r.fgBgColor
  | 0x1B => r.addrInc
  | 0x1C => hi r.charBaseAddr
  | 0x1D => r.underlineCtrl ||| 0xEF
  | 0x1E => r.wordCount
  | 0x1F => vram.get (vramIndex r.updateAddr.toNat)
  | 0x20 => hi r.blockStartAddr
  | 0x21 => lo r.blockStartAddr
  | 0x22 => r.dispEnableBegin
  | 0x23 => r.dispEnableEnd
  -- unused bits seem to read high?
  | _ => 0xFF

/-- What a read of register `select` does to the registers. -/
def readEffect (m : Overflow) (select : U8) (r : Registers) : Option Registers :=
  match select.toNat with
  -- reads automatically increment the address to update :-)
  | 0x1F => (nextAddr m r.updateAddr).map fun a => { r with updateAddr := a }
  | _ => some r

def read (m : Overflow) (v : Vdc) (port : U16) : Option (U8 × Vdc) :=
  match (port &&& 0x01).toNat with
  -- read status
  | 0 => some (v.status, v)
  -- read data
  | _ =>
    (readEffect m v.registerSelect v.registers).map fun r =>
      (readRegister v.vram v.registerSelect v.registers, { v with registers := r })

/-! ### Writing -/

/-- What a write to register `select` does to the registers. -/
def writeRegister (m : Overflow) (select data : U8) (r : Registers) : Option Registers :=
  match select.toNat with
  | 0x00 => some { r with horizTotal := data }
  | 0x01 => some { r with horizDisplayed := data }
  | 0x02 => some { r with horizSync := data }
  | 0x03 => some { r with syncWidths := data }
  | 0x04 => some { r with vertTotal := data }
  | 0x05 => some { r with vertAdjust := data &&& 0x1F }
  | 0x06 => some { r with vertDisplayed := data }
  | 0x07 => some { r with vertSync := data }
  | 0x08 => some { r with interlaceMode := data &&& 0x03 }
  | 0x09 => some { r with charTotalVert := data &&& 0x1F }
  | 0x0A => some { r with cursorModeStartScan := data &&& 0x7F }
  | 0x0B => some { r with cursorEndScanLine := data &&& 0x1F }
  | 0x0C => some { r with dispStartAddr := withHigh r.dispStartAddr data }
  | 0x0D => some { r with dispStartAddr := withLow r.dispStartAddr data }
  | 0x0E => some { r with cursorPos := withHigh r.cursorPos data }
  | 0x0F => some { r with cursorPos := withLow r.cursorPos data }
  | 0x12 => some { r with updateAddr := withHigh r.updateAddr data }
  | 0x13 => some { r with updateAddr := withLow r.updateAddr data }
  | 0x14 => some { r with attrAddr := withHigh r.attrAddr data }
  | 0x15 => some { r with attrAddr := withLow r.attrAddr data }
  | 0x16 => some { r with charTotalDispHoriz := data }
  | 0x17 => some { r with charDispVert := data &&& 0x1F }
  | 0x18 => some { r with vertScrollCtrl := data }
  | 0x19 => some { r with horizScrollCtrl := data }
  | 0x1A => some { r with fgBgColor := data }
  | 0x1B => some { r with addrInc := data }
  | 0x1C => some { r with charBaseAddr := (data &&& 0xE0).setWidth 16 <<< 8 }
  | 0x1D => some { r with underlineCtrl := data &&& 0x1F }
  | 0x1E => some { r with wordCount := data }
  -- writes automatically increment the address to update :-)
  | 0x1F => (nextAddr m r.updateAddr).map fun a => { r with updateAddr := a }
  | 0x20 => some { r with blockStartAddr := withHigh r.blockStartAddr data }
  | 0x21 => some { r with blockStartAddr := withLow r.blockStartAddr data }
  | 0x22 => some { r with dispEnableEnd := data }
  | 0x23 => some { r with dispEnableBegin := data }
  | _ => some r

/-- What a write to register `select` does to the VRAM. -/
def writeVram (select data : U8) (r : Registers) (vram : Vector U8 VRAM_SIZE) :
    Vector U8 VRAM_SIZE :=
  match select.toNat with
  | 0x1F => vram.set (vramIndex r.updateAddr.toNat) data
  | _ => vram

def write (m : Overflow) (v : Vdc) (port : U16) (data : U8) : Option Vdc :=
  let v := { v with parametersDirty := true }
  match (port &&& 0x01).toNat with
  -- select register
  | 0 => some { v with registerSelect := data &&& 0x3F }
  | _ =>
    (writeRegister m v.registerSelect data v.registers).map fun r =>
      { v with registers := r, vram := writeVram v.registerSelect data v.registers v.vram }

/-! ### Runs -/

/-- What happens to the chip. -/
inductive Op
  | tick
  | read (port : U16)
  | write (port : U16) (data : U8)
  deriving DecidableEq, Repr

/-- The chip as a machine; a read answers its byte. -/
def step (m : Overflow) : Machine Vdc Op (Option U8)
  | v, .tick => (v.tick m).map fun v => (none, v)
  | v, .read port => (v.read m port).map fun r => (some r.1, r.2)
  | v, .write port data => (v.write m port data).map fun v => (none, v)

end Possum.Vdc
