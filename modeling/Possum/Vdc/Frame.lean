import Possum.Vdc.Ports

/-!
# What a tick changes

`tick_cases` takes a tick apart: the derived sizes are refreshed, the line may be rendered, the
raster moves on.  Rendering changes pixels and the status alone and keeps the number of pixels
(`Rendered`); the raster's move changes the raster, `framebuffer_ready` and the blink timer.
What every later file uses about a tick follows from these.
-/

set_option autoImplicit false

namespace Possum.Vdc

open Lib

/-! ### Pixels keep their number -/

theorem put_eq_some {pixels pixels' : List U32} {i : ℕ} {color : U32}
    (h : put pixels i color = some pixels') : i < pixels.length ∧ pixels' = pixels.set i color := by
  by_cases hi : i < pixels.length
  · rw [put, if_pos hi] at h
    exact ⟨hi, (Option.some.inj h).symm⟩
  · rw [put, if_neg hi] at h
    cases h

theorem length_put {pixels pixels' : List U32} {i : ℕ} {color : U32}
    (h : put pixels i color = some pixels') : pixels'.length = pixels.length := by
  rw [(put_eq_some h).2, List.length_set]

theorem length_fill {color : U32} {i n : ℕ} {pixels pixels' : List U32}
    (h : fill color i n pixels = some pixels') : pixels'.length = pixels.length := by
  induction n generalizing i pixels with
  | zero => rw [← Option.some.inj h]
  | succ n ih =>
    obtain ⟨pixels₁, hput, hrest⟩ := Option.bind_eq_some_iff.1 h
    rw [ih hrest, length_put hput]

theorem length_blit {fg bg : U32} {i n : ℕ} {pix : U8} {pixels pixels' : List U32}
    (h : blit fg bg i n pix pixels = some pixels') : pixels'.length = pixels.length := by
  induction n generalizing i pix pixels with
  | zero => rw [← Option.some.inj h]
  | succ n ih =>
    obtain ⟨pixels₁, hput, hrest⟩ := Option.bind_eq_some_iff.1 h
    rw [ih hrest, length_put hput]

variable {m : Overflow} {v v' : Vdc}

theorem length_drawCell {p : Parameters} {row x : ℕ} {colors : U32 × U32} {pix : U8}
    {pixels : List U32} {r : ℕ × List U32} (h : drawCell m p row colors pix x pixels = some r) :
    r.2.length = pixels.length := by
  obtain ⟨pixels₁, hblit, h⟩ := Option.bind_eq_some_iff.1 h
  obtain ⟨rest, -, h⟩ := Option.bind_eq_some_iff.1 h
  obtain ⟨pixels₂, hfill, h⟩ := Option.bind_eq_some_iff.1 h
  rw [← Option.some.inj h]
  exact (length_fill hfill).trans (length_blit hblit)

theorem length_renderCell {fg : U32} {cellY yoffset cellX addr : ℕ} {l l' : Line}
    (h : v.renderCell m fg cellY yoffset cellX addr l = some l') :
    l'.pixels.length = l.pixels.length := by
  obtain ⟨r, hdraw, rfl⟩ := Option.map_eq_some_iff.1 h
  exact length_drawCell hdraw

theorem length_renderCells {fg : U32} {cellY yoffset cellX addr n : ℕ} {l l' : Line}
    (h : v.renderCells m fg cellY yoffset cellX addr n l = some l') :
    l'.pixels.length = l.pixels.length := by
  induction n generalizing cellX addr l with
  | zero => rw [← Option.some.inj h]
  | succ n ih =>
    obtain ⟨l₁, hcell, hrest⟩ := Option.bind_eq_some_iff.1 h
    rw [ih hrest, length_renderCell hcell]

theorem length_renderRow {fg bg : U32} {pixels pixels' : List U32}
    (h : v.renderRow m fg bg pixels = some pixels') : pixels'.length = pixels.length := by
  simp only [renderRow] at h
  split at h
  · cases h
  · split at h
    · obtain ⟨l, hcells, rfl⟩ := Option.map_eq_some_iff.1 h
      exact length_renderCells hcells
    · rw [← Option.some.inj h]

theorem length_renderVisible {pixels : List U32} (h : v.renderVisible m = some pixels) :
    pixels.length = v.framebuffer.pixels.length := by
  obtain ⟨pixels₁, hleft, h⟩ := Option.bind_eq_some_iff.1 h
  obtain ⟨stop, -, h⟩ := Option.bind_eq_some_iff.1 h
  obtain ⟨pixels₂, hright, h⟩ := Option.bind_eq_some_iff.1 h
  exact (length_renderRow h).trans ((length_fill hright).trans (length_fill hleft))

/-! ### The parts of a tick -/

/-- `v'` is `v` with other pixels, as many of them, and another status. -/
structure Rendered (v v' : Vdc) : Prop where
  eq : ∃ pixels status, v' = { v.withPixels pixels with status := status }
  length : v'.framebuffer.pixels.length = v.framebuffer.pixels.length

theorem Rendered.refl (v : Vdc) : Rendered v v := ⟨⟨v.framebuffer.pixels, v.status, rfl⟩, rfl⟩

theorem rendered_withPixels {pixels : List U32}
    (h : pixels.length = v.framebuffer.pixels.length) : Rendered v (v.withPixels pixels) :=
  ⟨⟨pixels, v.status, rfl⟩, h⟩

theorem rendered_hblank (h : v.hblank m = some v') : Rendered v v' := by
  have hborder (h : v.renderBorder.map v.withPixels = some v') : Rendered v v' := by
    obtain ⟨pixels, hpixels, rfl⟩ := Option.map_eq_some_iff.1 h
    exact rendered_withPixels (length_fill hpixels)
  rw [hblank] at h
  split at h
  · exact hborder h
  · split at h
    · obtain ⟨pixels, hpixels, rfl⟩ := Option.map_eq_some_iff.1 h
      exact rendered_withPixels (length_renderVisible hpixels)
    · split at h
      · exact hborder h
      · cases h
        exact ⟨⟨v.framebuffer.pixels, _, rfl⟩, rfl⟩

/-- The chip at the start of a tick. -/
def cleared (v : Vdc) : Vdc := { v with status := v.status &&& ~~~Status.VBLANK }

theorem rendered_render (h : v.render m = some v') : Rendered v v' := by
  rw [render] at h
  split at h
  · exact rendered_hblank h
  · cases h
    exact .refl v

/-- **The parts of a tick.** -/
theorem tick_cases (h : v.tick m = some v') :
    ∃ v₁ v₂, v.cleared.refresh m = some v₁ ∧ v₁.render m = some v₂ ∧ v₂.advance m = some v' := by
  obtain ⟨v₁, hrefresh, h⟩ := Option.bind_eq_some_iff.1 h
  obtain ⟨v₂, hrender, hadvance⟩ := Option.bind_eq_some_iff.1 h
  exact ⟨v₁, v₂, hrefresh, hrender, hadvance⟩

/-! ### The derived sizes -/

/-- **What a refresh does**: nothing, or the sizes are those of the registers. -/
theorem refresh_cases (h : v.refresh m = some v') :
    v.parametersDirty = false ∧ v' = v ∨
      v.parametersDirty = true ∧ ∃ enabled pos,
        m.sub 8 v.registers.dispEnableEnd.toNat v.registers.dispEnableBegin.toNat =
          some enabled ∧
        m.mul 64 (wrappingSub 64 v.registers.horizSync.toNat 2) v.registers.cellWidth =
          some pos ∧
        v' = v.resized (sizes v.registers enabled pos) := by
  rw [refresh] at h
  cases hdirty : v.parametersDirty with
  | false =>
    rw [hdirty] at h
    exact .inl ⟨rfl, (Option.some.inj h).symm⟩
  | true =>
    rw [hdirty, if_pos rfl] at h
    obtain ⟨enabled, henabled, h⟩ := Option.bind_eq_some_iff.1 h
    obtain ⟨pos, hpos, h⟩ := Option.bind_eq_some_iff.1 h
    exact .inr ⟨rfl, enabled, pos, henabled, hpos, (Option.some.inj h).symm⟩

/-- New sizes leave the registers and the raster. -/
theorem refresh_frame (h : v.refresh m = some v') :
    v'.registers = v.registers ∧ v'.rasterX = v.rasterX ∧ v'.rasterY = v.rasterY := by
  obtain ⟨-, rfl⟩ | ⟨-, enabled, pos, -, -, rfl⟩ := refresh_cases h
  · exact ⟨rfl, rfl, rfl⟩
  · exact ⟨resized_registers _ _, resized_rasterX _ _, resized_rasterY _ _⟩

/-! ### The raster -/

/-- **What the raster's move does.** -/
theorem advance_cases (h : v.advance m = some v') :
    ∃ x, m.add 64 v.rasterX 1 = some x ∧
      (x ≠ v.parameters.signalWidth ∧ v' = { v with rasterX := x } ∨
        x = v.parameters.signalWidth ∧ ∃ y, m.add 64 v.rasterY 1 = some y ∧
          v' = { v with
            rasterX := 0
            rasterY := if y = v.parameters.signalHeight then 0 else y
            framebufferReady := y == v.parameters.vsyncStart
            blinkTimer :=
              if y = v.parameters.signalHeight then wrappingAdd 64 v.blinkTimer 1
              else v.blinkTimer }) := by
  obtain ⟨x, hx, h⟩ := Option.bind_eq_some_iff.1 h
  refine ⟨x, hx, ?_⟩
  by_cases hend : x = v.parameters.signalWidth
  · rw [if_pos hend] at h
    obtain ⟨y, hy, h⟩ := Option.bind_eq_some_iff.1 h
    refine .inr ⟨hend, y, hy, ?_⟩
    by_cases hlast : y = v.parameters.signalHeight
    · simp only [if_pos hlast] at h ⊢
      exact (Option.some.inj h).symm
    · simp only [if_neg hlast] at h ⊢
      exact (Option.some.inj h).symm
  · rw [if_neg hend] at h
    exact .inl ⟨hend, (Option.some.inj h).symm⟩

/-! ### A tick -/

/-- A tick leaves the registers and the VRAM alone, and the sizes are up to date behind it. -/
structure Ticked (v v' : Vdc) : Prop where
  registers : v'.registers = v.registers
  registerSelect : v'.registerSelect = v.registerSelect
  vram : v'.vram = v.vram
  parametersDirty : v'.parametersDirty = false

theorem tick_frame (h : v.tick m = some v') : Ticked v v' := by
  obtain ⟨v₁, v₂, hrefresh, hrender, hadvance⟩ := tick_cases h
  have hfirst : Ticked v v₁ := by
    obtain ⟨hclean, rfl⟩ | ⟨-, enabled, pos, -, -, rfl⟩ := refresh_cases hrefresh
    · exact ⟨rfl, rfl, rfl, hclean⟩
    · exact ⟨resized_registers _ _, resized_registerSelect _ _, resized_vram _ _,
        resized_parametersDirty _ _⟩
  obtain ⟨⟨pixels, status, rfl⟩, -⟩ := rendered_render hrender
  obtain ⟨x, -, ⟨-, rfl⟩ | ⟨-, y, -, rfl⟩⟩ := advance_cases hadvance
  · exact ⟨hfirst.registers, hfirst.registerSelect, hfirst.vram, hfirst.parametersDirty⟩
  · exact ⟨hfirst.registers, hfirst.registerSelect, hfirst.vram, hfirst.parametersDirty⟩

/-! ### A read and a write -/

theorem readEffect_cases {select : U8} {regs regs' : Registers}
    (h : readEffect m select regs = some regs') :
    select ≠ 0x1F ∧ regs' = regs ∨
      select = 0x1F ∧ ∃ a, regs' = { regs with updateAddr := a } := by
  unfold readEffect at h
  split at h
  case h_1 hselect =>
    obtain ⟨a, -, rfl⟩ := Option.map_eq_some_iff.1 h
    exact .inr ⟨BitVec.eq_of_toNat_eq hselect, a, rfl⟩
  case h_2 hselect =>
    exact .inl ⟨fun h0 => hselect (congrArg BitVec.toNat h0), (Option.some.inj h).symm⟩

section

variable {port : U16} {b data : U8}

/-- A read of the status. -/
theorem read_status (v : Vdc) (hport : port &&& 0x01 = 0) :
    v.read m port = some (v.status, v) := by
  unfold read
  rw [hport]
  rfl

/-- A read of the data port. -/
theorem read_register (hport : port &&& 0x01 ≠ 0) (h : v.read m port = some (b, v')) :
    b = readRegister v.vram v.registerSelect v.registers ∧
      ∃ regs, readEffect m v.registerSelect v.registers = some regs ∧
        v' = { v with registers := regs } := by
  unfold read at h
  split at h
  case h_1 hzero => exact absurd (BitVec.eq_of_toNat_eq hzero) hport
  case h_2 =>
    obtain ⟨regs, heffect, h⟩ := Option.map_eq_some_iff.1 h
    cases h
    exact ⟨rfl, regs, heffect, rfl⟩

/-- A write of the register select. -/
theorem write_select (v : Vdc) (hport : port &&& 0x01 = 0) (data : U8) :
    v.write m port data =
      some { v with parametersDirty := true, registerSelect := data &&& 0x3F } := by
  unfold write
  rw [hport]
  rfl

/-- A write to the data port. -/
theorem write_register (hport : port &&& 0x01 ≠ 0) (h : v.write m port data = some v') :
    ∃ regs, writeRegister m v.registerSelect data v.registers = some regs ∧
      v' = { v with
        parametersDirty := true
        registers := regs
        vram := writeVram v.registerSelect data v.registers v.vram } := by
  unfold write at h
  split at h
  case h_1 hzero => exact absurd (BitVec.eq_of_toNat_eq hzero) hport
  case h_2 =>
    obtain ⟨regs, hregs, rfl⟩ := Option.map_eq_some_iff.1 h
    exact ⟨regs, hregs, rfl⟩

/-- A read of the data register counts the update address up and changes nothing else. -/
theorem read_cases (h : v.read m port = some (b, v')) :
    v' = v ∨ ∃ a, v' = { v with registers := { v.registers with updateAddr := a } } := by
  by_cases hport : port &&& 0x01 = 0
  · rw [read_status v hport] at h
    cases h
    exact .inl rfl
  · obtain ⟨-, regs, heffect, rfl⟩ := read_register hport h
    obtain ⟨-, rfl⟩ | ⟨-, a, rfl⟩ := readEffect_cases heffect
    · exact .inl rfl
    · exact .inr ⟨a, rfl⟩

/-- A write leaves the raster alone and makes a refresh due. -/
structure Written (v v' : Vdc) : Prop where
  parametersDirty : v'.parametersDirty = true
  rasterX : v'.rasterX = v.rasterX
  rasterY : v'.rasterY = v.rasterY

theorem write_frame (h : v.write m port data = some v') : Written v v' := by
  by_cases hport : port &&& 0x01 = 0
  · rw [write_select v hport] at h
    cases h
    exact ⟨rfl, rfl, rfl⟩
  · obtain ⟨regs, -, rfl⟩ := write_register hport h
    exact ⟨rfl, rfl, rfl⟩

end

/-- **A step is a tick, a read or a write.** -/
theorem step_cases {op : Op} {o : Option U8} (h : step m v op = some (o, v')) :
    op = .tick ∧ v.tick m = some v' ∨
      (∃ port b, op = .read port ∧ v.read m port = some (b, v')) ∨
        ∃ port data, op = .write port data ∧ v.write m port data = some v' := by
  cases op with
  | tick =>
    obtain ⟨w, htick, heq⟩ := Option.map_eq_some_iff.1 h
    cases heq
    exact .inl ⟨rfl, htick⟩
  | read port =>
    obtain ⟨⟨b, w⟩, hread, heq⟩ := Option.map_eq_some_iff.1 h
    cases heq
    exact .inr (.inl ⟨port, b, rfl, hread⟩)
  | write port data =>
    obtain ⟨w, hwrite, heq⟩ := Option.map_eq_some_iff.1 h
    cases heq
    exact .inr (.inr ⟨port, data, rfl, hwrite⟩)

end Possum.Vdc
