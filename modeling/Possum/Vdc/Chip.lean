import Possum.Words
import Possum.Lib.Overflow

/-!
# The video chip

`vdc/mod.rs`: the state of the MOS 8563, its constants and colours, and the recomputation of
the derived sizes.  The source keeps registers and derived sizes in one struct; here they are
two records in the state, `Registers` and `Parameters`.

A `usize` is a natural number.  Where a plain operation of the source can leave its word, the
model uses the one of `Overflow`, and a build that checks arithmetic panics (`none`); the sums
and products written plainly have small operands.
-/

set_option autoImplicit false

namespace Possum

open Lib

namespace Vdc

def VRAM_SIZE : ℕ := 0x4000

def VRAM_ADDR_MAX : ℕ := VRAM_SIZE - 1

namespace Attribute

def BLINK : U8 := 0x10
def UNDERLINE : U8 := 0x20
def REVERSE : U8 := 0x40
def ALTERNATE_CHARACTER : U8 := 0x80

end Attribute

/-- Enable attributes, in the horizontal scroll register. -/
def HScrollControl.ATR : U8 := 0x40

/-- Reverse graphics, in the vertical scroll register. -/
def VScrollControl.RVS : U8 := 0x40

namespace Status

def VBLANK : U8 := 0x20

/-- Register a11y status. -/
def STATUS : U8 := 0x80

end Status

def colorLookup (bits : U8) : U32 :=
  match (bits &&& 0x0F).toNat with
  -- black
  | 0b0000 => 0xFF000000
  | 0b0001 => 0xFF555555
  -- blue
  | 0b0010 => 0xFFAA0000
  | 0b0011 => 0xFFFF5555
  -- green
  | 0b0100 => 0xFF00AA00
  | 0b0101 => 0xFF55FF55
  -- cyan
  | 0b0110 => 0xFFAAAA00
  | 0b0111 => 0xFFFFFF55
  -- red
  | 0b1000 => 0xFF0000AA
  | 0b1001 => 0xFF5555FF
  -- purple
  | 0b1010 => 0xFFAA00AA
  | 0b1011 => 0xFFFF55FF
  -- yellow
  | 0b1100 => 0xFF00AAAA
  | 0b1101 => 0xFF55FFFF
  -- white
  | 0b1110 => 0xFFAAAAAA
  | _ => 0xFFFFFFFF

structure Framebuffer where
  pixels : List U32 := []
  width : ℕ := 0
  height : ℕ := 0
  deriving DecidableEq, Repr

/-- `Vec::resize` of the pixels, with new ones black and transparent. -/
def Framebuffer.resize (fb : Framebuffer) (width height : ℕ) : Bool × Framebuffer :=
  let changed := width != fb.width || height != fb.height
  let n := width * height
  (changed,
    { pixels := fb.pixels.take n ++ List.replicate (n - fb.pixels.length) 0
      width := width
      height := height })

theorem Framebuffer.length_resize (fb : Framebuffer) (width height : ℕ) :
    (fb.resize width height).2.pixels.length = width * height := by
  simp only [Framebuffer.resize, List.length_append, List.length_take, List.length_replicate]
  omega

/-- The rendering state that `recompute_parameters` derives from the registers. -/
structure Parameters where
  signalWidth : ℕ := 0
  signalHeight : ℕ := 0
  topBorderHeight : ℕ := 0
  leftBorderWidth : ℕ := 0
  visibleWidth : ℕ := 0
  visibleHeight : ℕ := 0
  rightBorderWidth : ℕ := 0
  bottomBorderHeight : ℕ := 0
  hsyncStart : ℕ := 0
  vsyncStart : ℕ := 0
  hsyncWidth : ℕ := 0
  vsyncHeight : ℕ := 0
  cellWidth : ℕ := 0
  cellHeight : ℕ := 0
  cellVisibleWidth : ℕ := 0
  cellVisibleHeight : ℕ := 0
  cursorStartLine : ℕ := 0
  cursorEndLine : ℕ := 0
  deriving DecidableEq, Repr

structure Registers where
  horizTotal : U8 := 0
  horizDisplayed : U8 := 0
  horizSync : U8 := 0
  syncWidths : U8 := 0
  vertTotal : U8 := 0
  vertAdjust : U8 := 0
  vertDisplayed : U8 := 0
  vertSync : U8 := 0
  interlaceMode : U8 := 0
  charTotalVert : U8 := 0
  cursorModeStartScan : U8 := 0
  cursorEndScanLine : U8 := 0
  dispStartAddr : U16 := 0
  cursorPos : U16 := 0
  updateAddr : U16 := 0
  attrAddr : U16 := 0
  charTotalDispHoriz : U8 := 0
  charDispVert : U8 := 0
  vertScrollCtrl : U8 := 0
  horizScrollCtrl : U8 := 0
  fgBgColor : U8 := 0
  addrInc : U8 := 0
  charBaseAddr : U16 := 0
  underlineCtrl : U8 := 0
  wordCount : U8 := 0
  blockStartAddr : U16 := 0
  dispEnableBegin : U8 := 0
  dispEnableEnd : U8 := 0
  deriving DecidableEq, Repr

end Vdc

open Vdc in
structure Vdc where
  framebufferReady : Bool := false
  framebuffer : Framebuffer := {}
  blinkTimer : ℕ := 0
  vram : Vector U8 VRAM_SIZE
  parametersDirty : Bool := true
  parameters : Parameters := {}
  rasterX : ℕ := 0
  rasterY : ℕ := 0
  status : U8 := Status.STATUS
  registerSelect : U8 := 0
  registers : Registers := {}

namespace Vdc

def new : Vdc where
  vram := Vector.replicate VRAM_SIZE 0

/-- `addr & VRAM_ADDR_MAX`, an index of the VRAM. -/
def vramIndex (addr : ℕ) : Fin VRAM_SIZE :=
  ⟨addr &&& VRAM_ADDR_MAX, Nat.lt_of_le_of_lt Nat.and_le_right (by decide)⟩

/-- `self.vram[addr & VRAM_ADDR_MAX]` -/
def vramByte (v : Vdc) (addr : ℕ) : U8 := v.vram.get (vramIndex addr)

/-! ### Derived sizes -/

/-- `self.cell_width` -/
def Registers.cellWidth (r : Registers) : ℕ :=
  wrappingAdd 64 (r.charTotalDispHoriz >>> 4).toNat 1 &&& 0x0F

/-- `let v_disable = 0;` -/
def vDisable : ℕ := 0

/-- The derived sizes, from the registers and the two values whose computation can overflow:
the difference of the display enables and `horiz_sync_pos`. -/
def sizes (r : Registers) (enabled horizSyncPos : ℕ) : Parameters :=
  let cellsX := (r.horizTotal + 1).toNat
  let cellsY := (r.vertTotal + 1).toNat
  let cellWidth := r.cellWidth
  let cellHeight := (r.charTotalVert + 1).toNat &&& 0x1F
  let cellVisibleWidth := (r.charTotalDispHoriz &&& 0x0F).toNat
  let cellVisibleHeight := r.charDispVert.toNat
  let signalWidth := cellsX * cellWidth
  let signalHeight := cellsY * cellHeight
  let visibleWidth := r.horizDisplayed.toNat * cellWidth
  let visibleHeight := r.vertDisplayed.toNat * cellHeight
  let hsyncWidth := (wrappingSub 64 (r.syncWidths &&& 0x0F).toNat 1 &&& 0x0F) * cellWidth
  let vsyncHeight := (r.syncWidths >>> 4).toNat
  let hDisable := enabled * cellWidth
  let hsyncStart := wrappingSub 64 (wrappingSub 64 signalWidth hsyncWidth) hDisable &&& 0x3FF
  let vsyncStart := wrappingSub 64 (wrappingSub 64 signalHeight vsyncHeight) vDisable &&& 0x3FF
  let vertSyncPos := r.vertSync.toNat * cellHeight
  let topBorderHeight :=
    wrappingSub 64 (wrappingSub 64 (wrappingSub 64 signalHeight vertSyncPos) vsyncHeight)
      (vDisable / 2) &&& 0xFF
  let bottomBorderHeight :=
    wrappingSub 64 (wrappingSub 64 (wrappingSub 64 (wrappingSub 64 signalHeight topBorderHeight)
      visibleHeight) vsyncHeight) (vDisable / 2) &&& 0xFF
  let leftBorderWidth :=
    wrappingSub 64 (wrappingSub 64 (wrappingSub 64 signalWidth horizSyncPos) hsyncWidth)
      (hDisable / 2) &&& 0xFF
  let rightBorderWidth :=
    wrappingSub 64 (wrappingSub 64 (wrappingSub 64 (wrappingSub 64 signalWidth leftBorderWidth)
      visibleWidth) hsyncWidth) (hDisable / 2) &&& 0xFF
  let cursorStartLine := (r.cursorModeStartScan &&& 0x0F).toNat
  let cursorEndLine := (r.cursorEndScanLine - 1).toNat &&& 0x1F
  { signalWidth, signalHeight, topBorderHeight, leftBorderWidth, visibleWidth, visibleHeight,
    rightBorderWidth, bottomBorderHeight, hsyncStart, vsyncStart, hsyncWidth, vsyncHeight,
    cellWidth, cellHeight, cellVisibleWidth, cellVisibleHeight, cursorStartLine, cursorEndLine }

/-- The chip with new sizes.  The framebuffer's width and height are `hsync_start` and
`vsync_start`, spelled out again in the source. -/
def resized (v : Vdc) (p : Parameters) : Vdc :=
  let (changedSize, framebuffer) := v.framebuffer.resize p.hsyncStart p.vsyncStart
  { v with
    parametersDirty := false
    framebufferReady := if changedSize then false else false
    framebuffer := framebuffer
    parameters := p }

section

variable (v : Vdc) (p : Parameters)

@[simp] theorem resized_registers : (v.resized p).registers = v.registers := rfl

@[simp] theorem resized_registerSelect : (v.resized p).registerSelect = v.registerSelect := rfl

@[simp] theorem resized_vram : (v.resized p).vram = v.vram := rfl

@[simp] theorem resized_parameters : (v.resized p).parameters = p := rfl

@[simp] theorem resized_parametersDirty : (v.resized p).parametersDirty = false := rfl

@[simp] theorem resized_framebufferReady : (v.resized p).framebufferReady = false :=
  ite_self _

@[simp] theorem resized_framebuffer :
    (v.resized p).framebuffer = (v.framebuffer.resize p.hsyncStart p.vsyncStart).2 := rfl

@[simp] theorem resized_rasterX : (v.resized p).rasterX = v.rasterX := rfl

@[simp] theorem resized_rasterY : (v.resized p).rasterY = v.rasterY := rfl

end

def recomputeParameters (m : Overflow) (v : Vdc) : Option Vdc := do
  let r := v.registers
  let enabled ← m.sub 8 r.dispEnableEnd.toNat r.dispEnableBegin.toNat
  let horizSyncPos ← m.mul 64 (wrappingSub 64 r.horizSync.toNat 2) r.cellWidth
  some (v.resized (sizes r enabled horizSyncPos))

end Vdc

end Possum
