import Possum.Vdc.Scanline

/-!
# Text without attributes

With attributes off every cell has the background of the line, so a line of text is one formula in
the registers, the blink timer and the VRAM: the line of each character's glyph, in the colours of
the line, exchanged for reversed graphics and once more under the cursor (**`text_scanline`**).
-/

set_option autoImplicit false

namespace Possum.Vdc

open Lib

variable {v : Vdc}

/-- The byte of the VRAM at an address, which wraps at 16K. -/
def memory (v : Vdc) (addr : ℕ) : U8 := v.vram.get ⟨addr % VRAM_SIZE, Nat.mod_lt addr (by decide)⟩

theorem vramByte_eq (v : Vdc) (addr : ℕ) : v.vramByte addr = v.memory addr := by
  have hmask : addr &&& VRAM_ADDR_MAX = addr % VRAM_SIZE := Nat.and_two_pow_sub_one_eq_mod addr 14
  exact congrArg v.vram.get (Fin.ext hmask)

theorem memory_vramOf {f : ℕ → U8} (h : v.vram = vramOf f) (addr : ℕ) :
    v.memory addr = f (addr % VRAM_SIZE) := by
  rw [memory, h]
  exact Vector.getElem_ofFn _

/-! ### Cells without attributes -/

/-- Attributes are off. -/
def PlainText (v : Vdc) : Prop := v.registers.horizScrollCtrl &&& HScrollControl.ATR = 0

theorem cellColors_plain (h : v.PlainText) (fg bg : U32) (yoffset : ℕ) (index : U8) :
    v.cellColors fg bg yoffset index = ((fg, bg), 0) := by
  have hoff : (v.registers.horizScrollCtrl &&& HScrollControl.ATR != 0) = false := by
    rw [h]
    rfl
  rw [cellColors, hoff]
  rfl

/-- No cell changes the background of the line. -/
theorem background_plain (h : v.PlainText) (c : ℕ) : v.background c = v.lineColors.2 := by
  induction c with
  | zero => rfl
  | succ c ih => rw [background, cellColors_plain h, ih]

theorem look_plain (h : v.PlainText) (c : ℕ) : v.look c = (v.lineColors, 0) := by
  rw [look, cellColors_plain h, background_plain h]

/-- The character code of cell `c`, and the line of its glyph. -/
def textCode (v : Vdc) (c : ℕ) : U8 :=
  v.memory (v.registers.dispStartAddr.toNat + v.cellY * v.registers.horizDisplayed.toNat + c)

def textGlyph (v : Vdc) (c : ℕ) : U8 :=
  v.memory (v.registers.charBaseAddr.toNat + 16 * (v.textCode c).toNat + v.cellYOffset)

/-- The colours of cell `c`, foreground first: the register's, exchanged for the RVS bit and once
more for the cursor. -/
def textColors (v : Vdc) (c : ℕ) : U32 × U32 :=
  let r := v.registers
  let p := v.parameters
  let cursor := c + v.cellY * r.horizDisplayed.toNat == r.cursorPos.toNat
  let lit := decide (p.cursorStartLine ≤ v.cellYOffset) && decide (v.cellYOffset ≤ p.cursorEndLine)
  let phase := decide (v.blinkTimer % 16 < 7)
  let reversed := r.vertScrollCtrl &&& VScrollControl.RVS != 0
  swapIf (cursor && phase && lit)
    (swapIf reversed (colorLookup (r.fgBgColor >>> 4), colorLookup r.fgBgColor))

theorem pixel_plain (h : v.PlainText) (c dx : ℕ) :
    v.pixel c dx = cellPixel v.parameters.cellVisibleWidth (v.textColors c) (v.textGlyph c) dx := by
  have hcode : v.code c = v.textCode c := vramByte_eq v _
  have hglyph : v.glyph c = v.textGlyph c := by
    rw [glyph, textGlyph, look_plain h, hcode, vramByte_eq, Nat.zero_add, Nat.mul_comm 16]
  have hphase : v.blinking = decide (v.blinkTimer % 16 < 7) := by
    rw [blinking]
    exact decide_eq_decide.2 (by rw [Nat.and_two_pow_sub_one_eq_mod v.blinkTimer 4])
  have hcolors : swapIf (v.cursorLit c) v.lineColors = v.textColors c := by
    rw [cursorLit, hphase]
    rfl
  rw [pixel, look_plain h, hglyph, hcolors]

/-! ### A line of text -/

/-- All columns that the line draws are in the framebuffer. -/
structure RowInRange (v : Vdc) : Prop where
  sync : v.parameters.hsyncWidth ≤ v.parameters.signalWidth
  columns : ∀ x, x < v.parameters.leftBorderWidth + v.parameters.visibleWidth ∨
    x < v.parameters.signalWidth - v.parameters.hsyncWidth →
      v.column x < v.framebuffer.pixels.length

theorem lineFits_of_rowInRange (hv : Sized v) (hvisible : v.VisibleLine)
    (hglyph : v.parameters.cellVisibleWidth ≤ v.parameters.cellWidth) (h : RowInRange v) :
    v.registers.LineFits v.rasterY := by
  have hp := hv.programmed
  obtain ⟨hlow, hhigh⟩ := hvisible
  obtain ⟨hsync, hcolumns⟩ := h
  unfold column at hcolumns
  rw [hv.length, ← Registers.bufferSize, hv.width, hp.leftBorderWidth, hp.visibleWidth,
    hp.signalWidth, hp.hsyncWidth] at hcolumns
  rw [hp.topBorderHeight] at hlow hhigh
  rw [hp.visibleHeight] at hhigh
  rw [hp.hsyncWidth, hp.signalWidth] at hsync
  rw [hp.cellVisibleWidth, hp.cellWidth] at hglyph
  rw [Registers.LineFits, if_neg (Nat.not_lt.2 hlow), if_pos hhigh]
  refine ⟨?_, hsync, ?_, ?_⟩
  · have hleft := fits_of_columns (a := 0) (n := v.registers.leftW)
      fun x _ hx => hcolumns x (Or.inl (by omega))
    rwa [Nat.zero_add] at hleft
  · exact fits_of_columns fun x _ hx => hcolumns x (Or.inr (by omega))
  · intro _
    exact Or.inr ⟨hglyph, fits_of_columns fun x _ hx => hcolumns x (Or.inl (by omega))⟩

/-- **A line of text is rendered exactly.**  With attributes off, one tick at the start of the
horizontal blank of a line that shows cells draws each cell from its character's glyph in the
colours of the line, its left border and what is right of the cells up to the sync in the
background, and nothing else. -/
theorem text_scanline (m : Overflow) {v : Vdc} (hv : Clean v) (hplain : v.PlainText)
    (hx : v.rasterX = v.parameters.hsyncStart) (hvisible : v.VisibleLine) (hshows : v.ShowsCells)
    (hglyph : v.parameters.cellVisibleWidth ≤ v.parameters.cellWidth) (hrange : RowInRange v) :
    ∃ v', v.tick m = some v' ∧
      (∀ c < v.registers.horizDisplayed.toNat, ∀ dx < v.parameters.cellWidth,
        v'.framebuffer.pixels[v.column
          (v.parameters.leftBorderWidth + (c * v.parameters.cellWidth + dx))]? =
            some (if dx < min v.parameters.cellVisibleWidth 8 ∧ (v.textGlyph c).getLsbD (7 - dx)
              then (v.textColors c).1 else (v.textColors c).2)) ∧
      (∀ x, x < v.parameters.leftBorderWidth ∨
          v.parameters.leftBorderWidth + v.parameters.visibleWidth ≤ x ∧
            x < v.parameters.signalWidth - v.parameters.hsyncWidth →
        v'.framebuffer.pixels[v.column x]? = some v.lineColors.2) ∧
      ∀ i, (∀ x, x < v.parameters.leftBorderWidth + v.parameters.visibleWidth ∨
          x < v.parameters.signalWidth - v.parameters.hsyncWidth → i ≠ v.column x) →
        v'.framebuffer.pixels[i]? = v.framebuffer.pixels[i]? := by
  have hfits := lineFits_of_rowInRange hv.toSized hvisible hglyph hrange
  have hy := rasterY_lt_of_visible hv.toSized hvisible
  obtain ⟨v', htick⟩ := tick_of_fits (m := m) hv hx hy hfits
  obtain ⟨-, hdrawn⟩ := tick_drawn hv hx htick
  refine ⟨v', htick, ?_, ?_, ?_⟩
  · intro c hc dx hdx
    rw [tick_cell hv hx hvisible hshows htick hc hdx, pixel_plain hplain]
    rfl
  · rintro x (hleft | ⟨hright, hend⟩)
    · rw [hdrawn, lineDrawn_left hvisible hleft]
      rfl
    · rw [hdrawn, lineDrawn_right hv.toSized hvisible hright hend]
      rfl
  · intro i hout
    rw [hdrawn, lineDrawn_of_not hv.toSized hvisible hout, Option.none_or]

/-- The first line of the demo's picture, with every other bit of the VRAM set: the first two
columns of the cell under the cursor, and the left border. -/
theorem text_scanline_helloVdc :
    ∃ v', (atBlank helloVdc (vramOf fun _ => 0xAA) 28).tick .panics = some v' ∧
      v'.framebuffer.pixels[28 * 752 + 52]? = some 0xFFAA0000 ∧
      v'.framebuffer.pixels[28 * 752 + 53]? = some 0xFFFFFFFF ∧
      v'.framebuffer.pixels[28 * 752 + 51]? = some 0xFFAA0000 := by
  have hclean : Clean (atBlank helloVdc (vramOf fun _ => 0xAA) 28) :=
    clean_atBlank (by decide) (by decide) _ _
  have hrange : RowInRange (atBlank helloVdc (vramOf fun _ => 0xAA) 28) := by
    refine ⟨by decide, ?_⟩
    intro x hx
    rw [hclean.length]
    have hx' : x < 692 ∨ x < 952 := hx
    show x + 28 * 752 < 752 * 260
    omega
  have hglyph : (atBlank helloVdc (vramOf fun _ => 0xAA) 28).textGlyph 0 = 0xAA :=
    memory_vramOf (vram_atBlank ..) _
  obtain ⟨v', htick, hcells, hborder, -⟩ := text_scanline .panics hclean rfl rfl
    (by decide) (by decide) (by decide) hrange
  have hfirst := hcells 0 (by decide) 0 (by decide)
  have hsecond := hcells 0 (by decide) 1 (by decide)
  rw [hglyph] at hfirst hsecond
  exact ⟨v', htick, hfirst, hsecond, hborder 51 (Or.inl (by decide))⟩

end Possum.Vdc
