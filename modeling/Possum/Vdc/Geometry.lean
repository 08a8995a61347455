import Possum.Vdc.Frame

/-!
# The geometry that the registers program

The derived sizes in the arithmetic of the integers, each as one formula in the registers with a
single residue where the source masks (`programmed_sizes`).  Between two refreshes the chip's
sizes are those of its registers and the framebuffer has their dimensions (`UpToDate`), in every
state of every run.
-/

set_option autoImplicit false

namespace Possum.Vdc

open Lib

namespace Registers

variable (r : Registers)

/-- The width of a cell. -/
def cellW : ℕ := (r.charTotalDispHoriz.toNat / 16 + 1) % 16

/-- The height of a cell. -/
def cellH : ℕ := (r.charTotalVert.toNat + 1) % 32

/-- The pixels of a character that a cell shows. -/
def glyphW : ℕ := r.charTotalDispHoriz.toNat % 16

/-- The width of the signal. -/
def signalW : ℕ := (r.horizTotal.toNat + 1) % 256 * r.cellW

/-- The height of the signal. -/
def signalH : ℕ := (r.vertTotal.toNat + 1) % 256 * r.cellH

/-- The width of the cells that are shown. -/
def shownW : ℕ := r.horizDisplayed.toNat * r.cellW

/-- The height of the cells that are shown. -/
def shownH : ℕ := r.vertDisplayed.toNat * r.cellH

/-- The width of the horizontal sync. -/
def syncW : ℕ := (r.syncWidths.toNat % 16 + 15) % 16 * r.cellW

/-- The height of the vertical sync. -/
def syncH : ℕ := r.syncWidths.toNat / 16

/-- The width between the display enables. -/
def disabledW : ℕ :=
  (((r.dispEnableEnd.toNat : ℤ) - r.dispEnableBegin.toNat) % 2 ^ 8).toNat * r.cellW

/-- The width of the framebuffer, where the horizontal sync starts. -/
def bufferW : ℕ := (((r.signalW : ℤ) - r.syncW - r.disabledW) % 2 ^ 10).toNat

/-- The height of the framebuffer, where the vertical sync starts. -/
def bufferH : ℕ := (((r.signalH : ℤ) - r.syncH) % 2 ^ 10).toNat

/-- The height of the top border. -/
def topH : ℕ := (((r.signalH : ℤ) - r.vertSync.toNat * r.cellH - r.syncH) % 2 ^ 8).toNat

/-- The width of the left border. -/
def leftW : ℕ :=
  (((r.signalW : ℤ) - (r.horizSync.toNat - 2) * r.cellW - r.syncW - (r.disabledW / 2 : ℕ)) %
    2 ^ 8).toNat

/-! ### Bounds -/

theorem cellW_lt : r.cellW < 16 := Nat.mod_lt _ (by decide)

theorem cellH_lt : r.cellH < 32 := Nat.mod_lt _ (by decide)

theorem syncW_lt : r.syncW < 256 := by
  have hcells : (r.syncWidths.toNat % 16 + 15) % 16 ≤ 15 := by omega
  have hcell : r.cellW ≤ 15 := Nat.le_of_lt_succ r.cellW_lt
  calc r.syncW ≤ 15 * 15 := Nat.mul_le_mul hcells hcell
    _ < 256 := by decide

theorem disabledW_lt : r.disabledW < 4096 := by
  have hcells : (((r.dispEnableEnd.toNat : ℤ) - r.dispEnableBegin.toNat) % 2 ^ 8).toNat ≤ 255 := by
    omega
  have hcell : r.cellW ≤ 15 := Nat.le_of_lt_succ r.cellW_lt
  calc r.disabledW ≤ 255 * 15 := Nat.mul_le_mul hcells hcell
    _ < 4096 := by decide

end Registers

/-! ### The derived sizes -/

/-- The sizes that the registers program. -/
structure Programmed (p : Parameters) (r : Registers) : Prop where
  cellWidth : p.cellWidth = r.cellW
  cellHeight : p.cellHeight = r.cellH
  cellVisibleWidth : p.cellVisibleWidth = r.glyphW
  cellVisibleHeight : p.cellVisibleHeight = r.charDispVert.toNat
  signalWidth : p.signalWidth = r.signalW
  signalHeight : p.signalHeight = r.signalH
  visibleWidth : p.visibleWidth = r.shownW
  visibleHeight : p.visibleHeight = r.shownH
  hsyncWidth : p.hsyncWidth = r.syncW
  hsyncStart : p.hsyncStart = r.bufferW
  vsyncStart : p.vsyncStart = r.bufferH
  topBorderHeight : p.topBorderHeight = r.topH
  leftBorderWidth : p.leftBorderWidth = r.leftW

section

variable (r : Registers) (x : U8)

theorem toNat_and_0x0F : (x &&& 0x0F).toNat = x.toNat % 16 := by
  rw [BitVec.toNat_and]
  exact Nat.and_two_pow_sub_one_eq_mod x.toNat 4

theorem toNat_shiftRight_4 : (x >>> 4).toNat = x.toNat / 16 := by
  rw [BitVec.toNat_ushiftRight, Nat.shiftRight_eq_div_pow]

theorem toNat_add_one : (x + 1).toNat = (x.toNat + 1) % 256 := BitVec.toNat_add x 1

theorem cellWidth_eq : r.cellWidth = r.cellW := by
  have hlt : r.charTotalDispHoriz.toNat / 16 + 1 < 2 ^ 64 := by omega
  rw [Registers.cellWidth, Registers.cellW, toNat_shiftRight_4, wrappingAdd, Nat.mod_eq_of_lt hlt]
  exact Nat.and_two_pow_sub_one_eq_mod _ 4

theorem cellHeight_eq : (r.charTotalVert + 1).toNat &&& 0x1F = r.cellH := by
  rw [toNat_add_one, Registers.cellH]
  exact (Nat.and_two_pow_sub_one_eq_mod _ 5).trans (Nat.mod_mod_of_dvd _ (by decide))

theorem hsyncWidth_eq :
    (wrappingSub 64 (r.syncWidths &&& 0x0F).toNat 1 &&& 0x0F) * r.cellWidth = r.syncW := by
  have hmask := and_mask (n := 64) (k := 4) (by decide)
    (wrappingSub_modEq (x := r.syncWidths.toNat % 16) (y := 1) (by decide) rfl)
  rw [toNat_and_0x0F, cellWidth_eq, Registers.syncW]
  congr 1
  exact hmask.trans (by omega)

end

variable {r : Registers} {m : Overflow} {enabled pos : ℕ}

theorem hDisable_eq
    (henabled : m.sub 8 r.dispEnableEnd.toNat r.dispEnableBegin.toNat = some enabled) :
    enabled * r.cellWidth = r.disabledW := by
  rw [Overflow.sub_eq_some r.dispEnableEnd.isLt r.dispEnableBegin.isLt henabled, cellWidth_eq,
    Registers.disabledW]

theorem masked_two {s a b : ℕ} (ha : a < 4096) (hb : b < 4096) :
    wrappingSub 64 (wrappingSub 64 s a) b &&& 0x3FF = (((s : ℤ) - a - b) % 2 ^ 10).toNat :=
  and_mask (n := 64) (k := 10) (by decide)
    (wrappingSub_modEq (by omega) (wrappingSub_modEq (by omega) rfl))

theorem masked_three {s a b c : ℕ} {e : ℤ} (ha : a < 2 ^ 64) (hb : b < 4096) (hc : c < 4096)
    (he : (s : ℤ) - a ≡ e [ZMOD 2 ^ 64]) :
    wrappingSub 64 (wrappingSub 64 (wrappingSub 64 s a) b) c &&& 0xFF =
      ((e - b - c) % 2 ^ 8).toNat :=
  and_mask (n := 64) (k := 8) (by decide)
    (wrappingSub_modEq (by omega) (wrappingSub_modEq (by omega)
      ((wrappingSub_modEq (by omega) rfl).trans he)))

theorem horizSyncPos_modEq (hpos : m.mul 64 (wrappingSub 64 r.horizSync.toNat 2) r.cellWidth =
    some pos) : (pos : ℤ) ≡ (r.horizSync.toNat - 2) * r.cellW [ZMOD 2 ^ 64] := by
  rw [cellWidth_eq] at hpos
  exact (Overflow.mul_modEq hpos).trans
    ((wrappingSub_modEq (by decide) rfl).mul_right _)

/-- **The derived sizes are those that the registers program.** -/
theorem programmed_sizes
    (henabled : m.sub 8 r.dispEnableEnd.toNat r.dispEnableBegin.toNat = some enabled)
    (hpos : m.mul 64 (wrappingSub 64 r.horizSync.toNat 2) r.cellWidth = some pos) :
    Programmed (sizes r enabled pos) r := by
  have hsignalW : (r.horizTotal + 1).toNat * r.cellWidth = r.signalW := by
    rw [toNat_add_one, cellWidth_eq, Registers.signalW]
  have hsignalH : (r.vertTotal + 1).toNat * r.cellH = r.signalH := by
    rw [toNat_add_one, Registers.signalH]
  have hsyncH : (r.syncWidths >>> 4).toNat = r.syncH := toNat_shiftRight_4 _
  have hsyncH_lt : r.syncH < 4096 := by
    have := r.syncWidths.isLt
    rw [Registers.syncH]
    omega
  have hsyncW_lt : r.syncW < 4096 := r.syncW_lt.trans (by decide)
  have hvertPos : r.vertSync.toNat * r.cellH < 2 ^ 64 :=
    calc r.vertSync.toNat * r.cellH ≤ 256 * 32 :=
          Nat.mul_le_mul r.vertSync.isLt.le r.cellH_lt.le
      _ < 2 ^ 64 := by decide
  constructor <;> simp only [sizes, hsignalW, cellHeight_eq, hsignalH, hsyncH, hsyncWidth_eq,
    hDisable_eq henabled]
  case cellWidth => exact cellWidth_eq r
  case cellVisibleWidth => exact toNat_and_0x0F _
  case visibleWidth => rw [cellWidth_eq, Registers.shownW]
  case visibleHeight => rfl
  case hsyncStart => exact masked_two hsyncW_lt r.disabledW_lt
  case vsyncStart =>
    rw [masked_two hsyncH_lt (by decide), Registers.bufferH]
    simp only [vDisable, Nat.cast_zero, sub_zero]
  case topBorderHeight =>
    rw [masked_three hvertPos hsyncH_lt (by decide) rfl, Registers.topH]
    simp only [vDisable, Nat.zero_div, Nat.cast_zero, sub_zero, Nat.cast_mul]
  case leftBorderWidth =>
    exact masked_three (Overflow.mul_lt hpos) hsyncW_lt
      ((Nat.div_le_self _ 2).trans_lt r.disabledW_lt) ((horizSyncPos_modEq hpos).sub_left _)

/-! ### The sizes are up to date -/

/-- The sizes are those of the registers and the framebuffer has their dimensions. -/
structure Sized (v : Vdc) : Prop where
  programmed : Programmed v.parameters v.registers
  width : v.framebuffer.width = v.registers.bufferW
  length : v.framebuffer.pixels.length = v.registers.bufferW * v.registers.bufferH

/-- The sizes are up to date unless a refresh is due. -/
def UpToDate (v : Vdc) : Prop := v.parametersDirty = false → Sized v

theorem upToDate_new : UpToDate new := nofun

variable {v v' : Vdc}

theorem sized_resized {p : Parameters} (hp : Programmed p v.registers) : Sized (v.resized p) := by
  constructor
  case programmed => exact hp
  case width => exact hp.hsyncStart
  case length =>
    rw [resized_framebuffer, Framebuffer.length_resize, hp.hsyncStart, hp.vsyncStart,
      resized_registers]

theorem sized_refresh (hv : UpToDate v) (h : v.refresh m = some v') : Sized v' := by
  obtain ⟨hclean, rfl⟩ | ⟨-, enabled, pos, henabled, hpos, rfl⟩ := refresh_cases h
  · exact hv hclean
  · exact sized_resized (programmed_sizes henabled hpos)

theorem Sized.rendered (hv : Sized v) (h : Rendered v v') : Sized v' := by
  obtain ⟨⟨pixels, status, rfl⟩, hlen⟩ := h
  exact ⟨hv.programmed, hv.width, hlen.trans hv.length⟩

theorem Sized.advance (hv : Sized v) (h : v.advance m = some v') : Sized v' := by
  obtain ⟨x, -, ⟨-, rfl⟩ | ⟨-, y, -, rfl⟩⟩ := advance_cases h
  · exact ⟨hv.programmed, hv.width, hv.length⟩
  · exact ⟨hv.programmed, hv.width, hv.length⟩

theorem UpToDate.cleared (hv : UpToDate v) : UpToDate v.cleared := by
  intro hclean
  exact ⟨(hv hclean).programmed, (hv hclean).width, (hv hclean).length⟩

theorem sized_tick (hv : UpToDate v) (h : v.tick m = some v') : Sized v' := by
  obtain ⟨v₁, v₂, hrefresh, hrender, hadvance⟩ := tick_cases h
  exact ((sized_refresh hv.cleared hrefresh).rendered (rendered_render hrender)).advance hadvance

/-- The geometry does not depend on the update address. -/
theorem Programmed.updateAddr {p : Parameters} (h : Programmed p r) (a : U16) :
    Programmed p { r with updateAddr := a } := by
  constructor
  case cellWidth => exact h.cellWidth
  case cellHeight => exact h.cellHeight
  case cellVisibleWidth => exact h.cellVisibleWidth
  case cellVisibleHeight => exact h.cellVisibleHeight
  case signalWidth => exact h.signalWidth
  case signalHeight => exact h.signalHeight
  case visibleWidth => exact h.visibleWidth
  case visibleHeight => exact h.visibleHeight
  case hsyncWidth => exact h.hsyncWidth
  case hsyncStart => exact h.hsyncStart
  case vsyncStart => exact h.vsyncStart
  case topBorderHeight => exact h.topBorderHeight
  case leftBorderWidth => exact h.leftBorderWidth

/-- **The sizes stay up to date**, step by step. -/
theorem upToDate_step {op : Op} {o : Option U8} (hv : UpToDate v)
    (h : step m v op = some (o, v')) : UpToDate v' := by
  intro hclean
  obtain ⟨rfl, htick⟩ | ⟨port, b, rfl, hread⟩ | ⟨port, data, rfl, hwrite⟩ := step_cases h
  · exact sized_tick hv htick
  · obtain rfl | ⟨a, rfl⟩ := read_cases hread
    · exact hv hclean
    · have hsized := hv hclean
      exact ⟨hsized.programmed.updateAddr a, hsized.width, hsized.length⟩
  · exact Bool.noConfusion (hclean.symm.trans (write_frame hwrite).parametersDirty)

end Possum.Vdc
