import Possum.Vdc.Chip

/-!
# A tick of the video chip

`vdc/mod.rs`, `Vdc::tick`: at the start of the horizontal blank the line is rendered into the
framebuffer, and then the raster moves on.  A write outside the framebuffer panics in every
build.  Every loop of the source is a recursion on the number of rounds it has left.
-/

set_option autoImplicit false

namespace Possum.Vdc

open Lib

/-! ### Pixels -/

/-- `pixels[i] = color`, which panics out of range. -/
def put (pixels : List U32) (i : ℕ) (color : U32) : Option (List U32) :=
  if i < pixels.length then some (pixels.set i color) else none

/-- `n` pixels of one colour, from pixel `i` on. -/
def fill (color : U32) : ℕ → ℕ → List U32 → Option (List U32)
  | _, 0, pixels => some pixels
  | i, n + 1, pixels => (put pixels i color).bind (fill color (i + 1) n)

/-- The first `n` pixels of a character's line, from pixel `i` on. -/
def blit (fg bg : U32) : ℕ → ℕ → U8 → List U32 → Option (List U32)
  | _, 0, _, pixels => some pixels
  | i, n + 1, pix, pixels =>
    (put pixels i (if pix &&& 0x80 != 0 then fg else bg)).bind (blit fg bg (i + 1) n (pix <<< 1))

/-! ### Cells -/

/-- `mem::swap` under a condition. -/
def swapIf (b : Bool) (colors : U32 × U32) : U32 × U32 := if b then colors.swap else colors

/-- `(self.blink_timer & 0x0F) < 0x07` -/
def blinking (v : Vdc) : Bool := decide (v.blinkTimer &&& 0x0F < 0x07)

/-- The foreground and background of a cell and its character set.  The attributes swap their
foreground with the background of the line, which the cells behind inherit. -/
def cellColors (v : Vdc) (fg bg : U32) (cellYOffset : ℕ) (cellIndex : U8) :
    (U32 × U32) × ℕ :=
  if v.registers.horizScrollCtrl &&& HScrollControl.ATR != 0 then
    let attrIndex := v.registers.attrAddr.toNat + cellIndex.toNat
    let attr := v.vramByte attrIndex
    let charSetOffset := if attr &&& Attribute.ALTERNATE_CHARACTER != 0 then 0 else 256
    let colors := (colorLookup attr, bg)
    let colors := swapIf (attr &&& Attribute.REVERSE != 0) colors
    let colors := swapIf (attr &&& Attribute.BLINK != 0 && v.blinking) colors
    let colors := swapIf (attr &&& Attribute.UNDERLINE != 0 &&
      cellYOffset == (v.registers.underlineCtrl &&& 0x0F).toNat) colors
    (colors, charSetOffset)
  else ((fg, bg), 0)

/-- The pixels of a cell, from `x` of the row on: the glyph and, to the right of it, the
background. -/
def drawCell (m : Overflow) (p : Parameters) (row : ℕ) (colors : U32 × U32) (pix : U8) (x : ℕ)
    (pixels : List U32) : Option (ℕ × List U32) := do
  let pixels ← blit colors.1 colors.2 (x + row) p.cellVisibleWidth pix pixels
  let x := x + p.cellVisibleWidth
  let rest ← m.sub 64 p.cellWidth p.cellVisibleWidth
  let pixels ← fill colors.2 (x + row) rest pixels
  some (x + rest, pixels)

/-- The cell loop's variables: the background of the line, `x` and the pixels. -/
structure Line where
  bg : U32
  x : ℕ
  pixels : List U32

/-- One round of the cell loop. -/
def renderCell (m : Overflow) (v : Vdc) (fg : U32) (cellY cellYOffset : ℕ) (cellX addr : ℕ)
    (l : Line) : Option Line :=
  let row := v.rasterY * v.framebuffer.width
  let cellIndex := v.vramByte addr
  let (colors, charSetOffset) := v.cellColors fg l.bg cellYOffset cellIndex
  let bg := colors.2
  let isCursor := cellX + cellY * v.registers.horizDisplayed.toNat == v.registers.cursorPos.toNat
  let colors := swapIf (isCursor && v.blinking &&
    (decide (v.parameters.cursorStartLine ≤ cellYOffset) &&
      decide (cellYOffset ≤ v.parameters.cursorEndLine))) colors
  -- 16 rows of 8 pixels for each character, whatever the cell's size
  let pixIndex := v.registers.charBaseAddr.toNat + (charSetOffset + cellIndex.toNat) * 16 +
    cellYOffset
  let pix := v.vramByte pixIndex
  (drawCell m v.parameters row colors pix l.x l.pixels).map fun r =>
    { bg := bg, x := r.1, pixels := r.2 }

/-- The cell loop, with `n` cells left. -/
def renderCells (m : Overflow) (v : Vdc) (fg : U32) (cellY cellYOffset : ℕ) :
    ℕ → ℕ → ℕ → Line → Option Line
  | _, _, 0, l => some l
  | cellX, addr, n + 1, l =>
    (v.renderCell m fg cellY cellYOffset cellX addr l).bind
      (renderCells m v fg cellY cellYOffset (cellX + 1) (addr + 1) n)

/-! ### Lines -/

/-- The foreground and background of the line. -/
def lineColors (v : Vdc) : U32 × U32 :=
  swapIf (v.registers.vertScrollCtrl &&& VScrollControl.RVS != 0)
    (colorLookup (v.registers.fgBgColor >>> 4), colorLookup v.registers.fgBgColor)

/-- A line of the top or bottom border. -/
def renderBorder (v : Vdc) : Option (List U32) :=
  fill v.lineColors.2 (v.rasterY * v.framebuffer.width) v.framebuffer.width v.framebuffer.pixels

/-- The cells of a line between the borders, over pixels in which its own left and right border
are drawn. -/
def renderRow (m : Overflow) (v : Vdc) (fg bg : U32) (pixels : List U32) : Option (List U32) :=
  let p := v.parameters
  -- adjust the line to the vertical scroll
  let scrollY := (v.registers.vertScrollCtrl &&& 0x1F).toNat
  let scrolledY := v.rasterY - p.topBorderHeight + scrollY
  -- a division by zero panics
  if p.cellHeight = 0 then none
  else
    let cellY := scrolledY / p.cellHeight
    let cellYOffset := scrolledY % p.cellHeight
    let cellStride := v.registers.horizDisplayed.toNat
    -- and make sure we aren't clipping the bottom of the cell
    if cellYOffset ≤ p.cellVisibleHeight then
      let rowStartAddr := v.registers.dispStartAddr.toNat + cellY * cellStride
      (v.renderCells m fg cellY cellYOffset 0 rowStartAddr cellStride
        { bg := bg, x := p.leftBorderWidth, pixels := pixels }).map Line.pixels
    else some pixels

/-- A line between the borders. -/
def renderVisible (m : Overflow) (v : Vdc) : Option (List U32) := do
  let p := v.parameters
  let row := v.rasterY * v.framebuffer.width
  let pixels ← fill v.lineColors.2 row p.leftBorderWidth v.framebuffer.pixels
  let right := p.leftBorderWidth + p.visibleWidth
  let stop ← m.sub 64 p.signalWidth p.hsyncWidth
  let pixels ← fill v.lineColors.2 (right + row) (stop - right) pixels
  v.renderRow m v.lineColors.1 v.lineColors.2 pixels

/-- The chip with the given pixels. -/
def withPixels (v : Vdc) (pixels : List U32) : Vdc :=
  { v with framebuffer := { v.framebuffer with pixels := pixels } }

/-- The start of the horizontal blank. -/
def hblank (m : Overflow) (v : Vdc) : Option Vdc :=
  let p := v.parameters
  if v.rasterY < p.topBorderHeight then v.renderBorder.map v.withPixels
  else if v.rasterY < p.topBorderHeight + p.visibleHeight then
    (v.renderVisible m).map v.withPixels
  else if v.rasterY < p.vsyncStart then v.renderBorder.map v.withPixels
  else some { v with status := v.status ||| Status.VBLANK }

/-- The raster moves on by one pixel. -/
def advance (m : Overflow) (v : Vdc) : Option Vdc := do
  let rasterX ← m.add 64 v.rasterX 1
  if rasterX = v.parameters.signalWidth then
    let rasterY ← m.add 64 v.rasterY 1
    let v := { v with
      rasterX := 0
      rasterY := rasterY
      framebufferReady := rasterY == v.parameters.vsyncStart }
    if rasterY = v.parameters.signalHeight then
      some { v with rasterY := 0, blinkTimer := wrappingAdd 64 v.blinkTimer 1 }
    else some v
  else some { v with rasterX := rasterX }

/-- The derived sizes, recomputed if a register was written. -/
def refresh (m : Overflow) (v : Vdc) : Option Vdc :=
  if v.parametersDirty then v.recomputeParameters m else some v

/-- The line, rendered at the start of the horizontal blank. -/
def render (m : Overflow) (v : Vdc) : Option Vdc :=
  if v.rasterX = v.parameters.hsyncStart then v.hblank m else some v

def tick (m : Overflow) (v : Vdc) : Option Vdc := do
  let v := { v with status := v.status &&& ~~~Status.VBLANK }
  let v ← v.refresh m
  let v ← v.render m
  v.advance m

end Possum.Vdc
