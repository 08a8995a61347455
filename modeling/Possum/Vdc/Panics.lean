import Possum.Vdc.Geometry

/-!
# When the video chip panics

In a build that checks its arithmetic a run of a fresh chip completes exactly if none of its steps
is harmful (`run_isSome_iff_harmless`), and which steps are is said in the registers, the raster
and the update address alone (`Harmless`): the display enables are out of order, the sync position
is below two, the line under the raster does not fit the framebuffer, or a counter is at its end.

`isSome_bind_iff` composes such conditions along the code; the lemmas follow the renderer from the
pixel to the line.
-/

set_option autoImplicit false

namespace Possum.Vdc

open Lib

theorem isSome_bind_iff {α β : Type*} {x : Option α} {f : α → Option β} {P : Prop}
    (h : ∀ a, x = some a → ((f a).isSome ↔ P)) : (x.bind f).isSome ↔ x.isSome ∧ P := by
  cases x with
  | none => simp
  | some a => simpa using h a rfl

/-! ### Pixels -/

/-- `n` pixels from pixel `i` on are among the first `len`. -/
def Fits (len i n : ℕ) : Prop := n = 0 ∨ i + n ≤ len

instance (len i n : ℕ) : Decidable (Fits len i n) := inferInstanceAs (Decidable (_ ∨ _))

theorem fits_succ {len i n : ℕ} : i < len ∧ Fits len (i + 1) n ↔ Fits len i (n + 1) := by
  unfold Fits
  omega

theorem fits_add {len i k n : ℕ} : Fits len i k ∧ Fits len (i + k) n ↔ Fits len i (k + n) := by
  unfold Fits
  omega

theorem put_isSome {pixels : List U32} {i : ℕ} {color : U32} :
    (put pixels i color).isSome ↔ i < pixels.length := by
  by_cases h : i < pixels.length <;> simp [put, h]

theorem fill_isSome (color : U32) {i n : ℕ} {pixels : List U32} :
    (fill color i n pixels).isSome ↔ Fits pixels.length i n := by
  induction n generalizing i pixels with
  | zero => simp [fill, Fits]
  | succ n ih =>
    have hrest : ∀ pixels', put pixels i color = some pixels' →
        ((fill color (i + 1) n pixels').isSome ↔ Fits pixels.length (i + 1) n) := by
      intro pixels' hput
      rw [ih, length_put hput]
    rw [fill, isSome_bind_iff hrest, put_isSome, fits_succ]

theorem blit_isSome {fg bg : U32} {i n : ℕ} {pix : U8} {pixels : List U32} :
    (blit fg bg i n pix pixels).isSome ↔ Fits pixels.length i n := by
  induction n generalizing i pix pixels with
  | zero => simp [blit, Fits]
  | succ n ih =>
    have hrest : ∀ pixels',
        put pixels i (if pix &&& 0x80 != 0 then fg else bg) = some pixels' →
          ((blit fg bg (i + 1) n (pix <<< 1) pixels').isSome ↔ Fits pixels.length (i + 1) n) := by
      intro pixels' hput
      rw [ih, length_put hput]
    rw [blit, isSome_bind_iff hrest, put_isSome, fits_succ]

/-! ### Cells -/

section

variable {p : Parameters} {row x : ℕ} {colors : U32 × U32} {pix : U8} {pixels : List U32}

/-- A cell is drawn if its pixels are in the framebuffer and the glyph in the cell. -/
theorem drawCell_isSome : (drawCell .panics p row colors pix x pixels).isSome ↔
    p.cellVisibleWidth ≤ p.cellWidth ∧ Fits pixels.length (x + row) p.cellWidth := by
  have hparts : (drawCell .panics p row colors pix x pixels).isSome ↔
      Fits pixels.length (x + row) p.cellVisibleWidth ∧ p.cellVisibleWidth ≤ p.cellWidth ∧
        Fits pixels.length (x + row + p.cellVisibleWidth)
          (p.cellWidth - p.cellVisibleWidth) := by
    rw [← blit_isSome]
    refine isSome_bind_iff ?_
    intro pixels₁ hblit
    rw [← Overflow.sub_panics_isSome]
    refine isSome_bind_iff ?_
    intro rest hrest
    have hle := Overflow.sub_panics_isSome.1 (Option.isSome_of_eq_some hrest)
    rw [Overflow.sub_of_le hle] at hrest
    rw [← length_blit hblit, Option.some.inj hrest, Nat.add_right_comm x row,
      ← fill_isSome colors.2]
    exact (isSome_bind_iff (P := True) fun pixels₂ _ => by simp).trans (and_iff_left trivial)
  rw [hparts]
  constructor
  · rintro ⟨hglyph, hle, hrest⟩
    have hboth := fits_add.1 ⟨hglyph, hrest⟩
    rw [Nat.add_sub_cancel' hle] at hboth
    exact ⟨hle, hboth⟩
  · rintro ⟨hle, hfits⟩
    rw [← Nat.add_sub_cancel' hle] at hfits
    obtain ⟨hglyph, hrest⟩ := fits_add.2 hfits
    exact ⟨hglyph, hle, hrest⟩

theorem drawCell_x {r : ℕ × List U32} (h : drawCell .panics p row colors pix x pixels = some r) :
    r.1 = x + p.cellWidth := by
  obtain ⟨pixels₁, -, h⟩ := Option.bind_eq_some_iff.1 h
  obtain ⟨rest, hrest, h⟩ := Option.bind_eq_some_iff.1 h
  obtain ⟨pixels₂, -, h⟩ := Option.bind_eq_some_iff.1 h
  have hle := Overflow.sub_panics_isSome.1 (Option.isSome_of_eq_some hrest)
  rw [Overflow.sub_of_le hle] at hrest
  have hsub := Option.some.inj hrest
  rw [← Option.some.inj h]
  show x + p.cellVisibleWidth + rest = x + p.cellWidth
  omega

end

variable {v v' : Vdc} {fg bg : U32} {cellY yoffset cellX addr : ℕ} {l l' : Line}

theorem renderCell_isSome : (v.renderCell .panics fg cellY yoffset cellX addr l).isSome ↔
    v.parameters.cellVisibleWidth ≤ v.parameters.cellWidth ∧
      Fits l.pixels.length (l.x + v.rasterY * v.framebuffer.width) v.parameters.cellWidth := by
  rw [renderCell, Option.isSome_map]
  exact drawCell_isSome

theorem renderCell_x (h : v.renderCell .panics fg cellY yoffset cellX addr l = some l') :
    l'.x = l.x + v.parameters.cellWidth := by
  obtain ⟨r, hdraw, rfl⟩ := Option.map_eq_some_iff.1 h
  exact drawCell_x hdraw

/-- A row of `n` cells. -/
theorem renderCells_isSome {n : ℕ} :
    (v.renderCells .panics fg cellY yoffset cellX addr n l).isSome ↔
      n = 0 ∨ v.parameters.cellVisibleWidth ≤ v.parameters.cellWidth ∧
        Fits l.pixels.length (l.x + v.rasterY * v.framebuffer.width)
          (n * v.parameters.cellWidth) := by
  induction n generalizing cellX addr l with
  | zero => simp [renderCells]
  | succ n ih =>
    let cell := v.parameters.cellWidth
    let i := l.x + v.rasterY * v.framebuffer.width
    have hrest : ∀ l', v.renderCell .panics fg cellY yoffset cellX addr l = some l' →
        ((v.renderCells .panics fg cellY yoffset (cellX + 1) (addr + 1) n l').isSome ↔
          n = 0 ∨ v.parameters.cellVisibleWidth ≤ cell ∧
            Fits l.pixels.length (i + cell) (n * cell)) := by
      intro l' hcell
      rw [ih, length_renderCell hcell, renderCell_x hcell, Nat.add_right_comm]
    rw [renderCells, isSome_bind_iff hrest, renderCell_isSome]
    have hrow : Fits l.pixels.length i cell ∧ Fits l.pixels.length (i + cell) (n * cell) ↔
        Fits l.pixels.length i ((n + 1) * cell) := by
      rw [fits_add, Nat.succ_mul, Nat.add_comm cell]
    constructor
    · rintro ⟨⟨hglyph, hcell⟩, rfl | ⟨-, hcells⟩⟩
      · refine .inr ⟨hglyph, ?_⟩
        rwa [Nat.zero_add, Nat.one_mul]
      · exact .inr ⟨hglyph, hrow.1 ⟨hcell, hcells⟩⟩
    · rintro (h | ⟨hglyph, hcells⟩)
      · exact absurd h (Nat.succ_ne_zero n)
      · obtain ⟨hcell, hcells⟩ := hrow.2 hcells
        exact ⟨⟨hglyph, hcell⟩, .inr ⟨hglyph, hcells⟩⟩

/-! ### Lines -/

namespace Registers

variable (r : Registers) (y : ℕ)

/-- The number of pixels of the framebuffer. -/
def bufferSize : ℕ := r.bufferW * r.bufferH

variable {y} in
/-- A line of the framebuffer is in it. -/
theorem fits_line (hy : y < r.bufferH) : Fits r.bufferSize (y * r.bufferW) r.bufferW := by
  refine .inr ?_
  calc y * r.bufferW + r.bufferW = r.bufferW * (y + 1) := by rw [Nat.mul_succ, Nat.mul_comm]
    _ ≤ r.bufferSize := Nat.mul_le_mul_left _ hy

/-- The row of cells at line `y` can be drawn. -/
def CellsFit : Prop :=
  (y - r.topH + r.vertScrollCtrl.toNat % 32) % r.cellH ≤ r.charDispVert.toNat →
    r.horizDisplayed.toNat = 0 ∨
      r.glyphW ≤ r.cellW ∧ Fits r.bufferSize (r.leftW + y * r.bufferW) r.shownW

/-- Line `y` can be drawn. -/
def LineFits : Prop :=
  if y < r.topH then Fits r.bufferSize (y * r.bufferW) r.bufferW
  else if y < r.topH + r.shownH then
    Fits r.bufferSize (y * r.bufferW) r.leftW ∧ r.syncW ≤ r.signalW ∧
      Fits r.bufferSize (r.leftW + r.shownW + y * r.bufferW)
        (r.signalW - r.syncW - (r.leftW + r.shownW)) ∧
      r.CellsFit y
  else True

instance : Decidable (r.CellsFit y) := inferInstanceAs (Decidable (_ → _))

instance : Decidable (r.LineFits y) := inferInstanceAs (Decidable (ite _ _ _))

end Registers

theorem toNat_and_0x1F (x : U8) : (x &&& 0x1F).toNat = x.toNat % 32 := by
  rw [BitVec.toNat_and]
  exact Nat.and_two_pow_sub_one_eq_mod x.toNat 5

theorem renderBorder_isSome (hv : Sized v) :
    v.renderBorder.isSome ↔
      Fits v.registers.bufferSize (v.rasterY * v.registers.bufferW) v.registers.bufferW := by
  rw [renderBorder, fill_isSome, hv.length, hv.width, Registers.bufferSize]

theorem renderRow_isSome (hv : Sized v) (hcell : v.registers.cellH ≠ 0) {pixels : List U32}
    (hlen : pixels.length = v.registers.bufferSize) :
    (v.renderRow .panics fg bg pixels).isSome ↔ v.registers.CellsFit v.rasterY := by
  have hp := hv.programmed
  rw [renderRow, Registers.CellsFit]
  simp only [hp.cellHeight, hp.cellVisibleHeight, hp.topBorderHeight, hp.leftBorderWidth,
    toNat_and_0x1F, if_neg hcell]
  split
  case isTrue hoffset =>
    rw [Option.isSome_map, renderCells_isSome, hp.cellVisibleWidth, hp.cellWidth, hv.width, hlen]
    exact (imp_iff_right hoffset).symm
  case isFalse hoffset =>
    exact ⟨fun _ h => absurd h hoffset, fun _ => rfl⟩

theorem renderVisible_isSome (hv : Sized v) (hcell : v.registers.cellH ≠ 0) :
    (v.renderVisible .panics).isSome ↔
      Fits v.registers.bufferSize (v.rasterY * v.registers.bufferW) v.registers.leftW ∧
        v.registers.syncW ≤ v.registers.signalW ∧
        Fits v.registers.bufferSize
          (v.registers.leftW + v.registers.shownW + v.rasterY * v.registers.bufferW)
          (v.registers.signalW - v.registers.syncW -
            (v.registers.leftW + v.registers.shownW)) ∧
        v.registers.CellsFit v.rasterY := by
  have hp := hv.programmed
  have hlen : v.framebuffer.pixels.length = v.registers.bufferSize := hv.length
  rw [renderVisible, ← hlen, ← fill_isSome v.lineColors.2, hp.leftBorderWidth, hv.width]
  refine isSome_bind_iff ?_
  intro pixels₁ hleft
  rw [hp.signalWidth, hp.hsyncWidth, ← Overflow.sub_panics_isSome (n := 64)]
  refine isSome_bind_iff ?_
  intro stop hstop
  have hle := Overflow.sub_panics_isSome.1 (Option.isSome_of_eq_some hstop)
  rw [Overflow.sub_of_le hle] at hstop
  rw [Option.some.inj hstop, hp.visibleWidth, ← length_fill hleft,
    ← fill_isSome v.lineColors.2]
  refine isSome_bind_iff ?_
  intro pixels₂ hright
  exact renderRow_isSome hv hcell ((length_fill hright).trans ((length_fill hleft).trans hlen))

/-- **A line is drawn exactly if it fits.** -/
theorem hblank_isSome (hv : Sized v) :
    (v.hblank .panics).isSome ↔ v.registers.LineFits v.rasterY := by
  have hp := hv.programmed
  rw [hblank, Registers.LineFits]
  simp only [hp.topBorderHeight, hp.visibleHeight, hp.vsyncStart]
  split
  case isTrue htop => rw [Option.isSome_map, renderBorder_isSome hv]
  case isFalse htop =>
    split
    case isTrue hvisible =>
      have hcell : v.registers.cellH ≠ 0 := by
        intro hzero
        rw [Registers.shownH, hzero] at hvisible
        omega
      rw [Option.isSome_map, renderVisible_isSome hv hcell]
    case isFalse hvisible =>
      split
      case isTrue hbottom =>
        rw [Option.isSome_map, renderBorder_isSome hv]
        exact iff_of_true (v.registers.fits_line hbottom) trivial
      case isFalse hbottom => exact iff_of_true rfl trivial

/-! ### Steps -/

/-- The sizes can be derived: the display enables are in order, and the sync position does not
wrap. -/
def Registers.Derivable (r : Registers) : Prop :=
  r.dispEnableBegin.toNat ≤ r.dispEnableEnd.toNat ∧ (2 ≤ r.horizSync.toNat ∨ r.cellW ≤ 1)

/-- **The steps that do not panic**, in the registers, the raster and the update address. -/
def Harmless (v : Vdc) : Op → Prop
  | .tick =>
    (v.parametersDirty = true → v.registers.Derivable) ∧
      (v.rasterX = v.registers.bufferW → v.registers.LineFits v.rasterY) ∧
      v.rasterX + 1 < 2 ^ 64 ∧
      (v.rasterX + 1 = v.registers.signalW → v.rasterY + 1 < 2 ^ 64)
  | .read port | .write port _ =>
    port &&& 0x01 ≠ 0 → v.registerSelect = 0x1F → v.registers.updateAddr ≠ 0xFFFF

theorem horizSyncPos_isSome (r : Registers) :
    (Overflow.panics.mul 64 (wrappingSub 64 r.horizSync.toNat 2) r.cellWidth).isSome ↔
      2 ≤ r.horizSync.toNat ∨ r.cellW ≤ 1 := by
  have hcell := r.cellW_lt
  have hsync := r.horizSync.isLt
  rw [Overflow.mul_panics_isSome, cellWidth_eq]
  by_cases hwrap : 2 ≤ r.horizSync.toNat
  · have hsub : wrappingSub 64 r.horizSync.toNat 2 ≤ 256 := by
      rw [wrappingSub]
      omega
    refine iff_of_true ?_ (.inl hwrap)
    calc wrappingSub 64 r.horizSync.toNat 2 * r.cellW ≤ 256 * 16 :=
          Nat.mul_le_mul hsub hcell.le
      _ < 2 ^ 64 := by decide
  · have hsub : 2 ^ 64 - 2 ≤ wrappingSub 64 r.horizSync.toNat 2 ∧
        wrappingSub 64 r.horizSync.toNat 2 < 2 ^ 64 := by
      rw [wrappingSub]
      omega
    rw [or_iff_right hwrap]
    constructor
    · intro hlt
      by_contra hwide
      have hprod := Nat.mul_le_mul hsub.1 (show 2 ≤ r.cellW by omega)
      omega
    · intro hthin
      have hprod := Nat.mul_le_mul_left (wrappingSub 64 r.horizSync.toNat 2) hthin
      omega

theorem refresh_isSome :
    (v.refresh .panics).isSome ↔ (v.parametersDirty = true → v.registers.Derivable) := by
  rw [refresh]
  split
  case isTrue hdirty =>
    have hpos : ∀ enabled, (Overflow.panics.sub 8 v.registers.dispEnableEnd.toNat
        v.registers.dispEnableBegin.toNat) = some enabled →
        (((Overflow.panics.mul 64 (wrappingSub 64 v.registers.horizSync.toNat 2)
          v.registers.cellWidth).bind fun pos => some (v.resized (sizes v.registers enabled pos))).isSome ↔
            (2 ≤ v.registers.horizSync.toNat ∨ v.registers.cellW ≤ 1)) := by
      intro enabled _
      rw [← horizSyncPos_isSome]
      exact (isSome_bind_iff (P := True) fun pos _ => by simp).trans (and_iff_left trivial)
    rw [hdirty, Registers.Derivable, ← Overflow.sub_panics_isSome (n := 8)]
    exact (isSome_bind_iff hpos).trans (imp_iff_right rfl).symm
  case isFalse hclean =>
    exact iff_of_true rfl fun hdirty => absurd hdirty hclean

theorem render_isSome (hv : Sized v) :
    (v.render .panics).isSome ↔
      (v.rasterX = v.registers.bufferW → v.registers.LineFits v.rasterY) := by
  rw [render, hv.programmed.hsyncStart]
  split
  case isTrue hblank =>
    rw [hblank_isSome hv]
    exact (imp_iff_right hblank).symm
  case isFalse hblank =>
    exact iff_of_true rfl fun h => absurd h hblank

theorem advance_isSome (hv : Sized v) :
    (v.advance .panics).isSome ↔
      v.rasterX + 1 < 2 ^ 64 ∧ (v.rasterX + 1 = v.registers.signalW → v.rasterY + 1 < 2 ^ 64) := by
  rw [← Overflow.add_panics_isSome]
  refine isSome_bind_iff ?_
  intro x hx
  have hlt := Overflow.add_panics_isSome.1 (Option.isSome_of_eq_some hx)
  rw [Overflow.add_of_lt hlt] at hx
  obtain rfl := Option.some.inj hx
  rw [hv.programmed.signalWidth]
  split
  case isTrue hend =>
    rw [← Overflow.add_panics_isSome]
    refine ((isSome_bind_iff (P := True) fun y _ => ?_).trans (and_iff_left trivial)).trans
      (imp_iff_right hend).symm
    by_cases hlast : y = v.parameters.signalHeight <;> simp [hlast]
  case isFalse hend =>
    exact iff_of_true rfl fun h => absurd h hend

theorem tick_isSome (hv : UpToDate v) : (v.tick .panics).isSome ↔ Harmless v .tick := by
  have hrefresh : (v.cleared.refresh .panics).isSome ↔
      (v.parametersDirty = true → v.registers.Derivable) := refresh_isSome
  rw [Harmless, ← hrefresh]
  refine isSome_bind_iff ?_
  intro v₁ h₁
  have hsized := sized_refresh hv.cleared h₁
  obtain ⟨hregs, hx, hy⟩ := refresh_frame h₁
  rw [← hregs, ← hx, ← hy, ← render_isSome hsized]
  refine isSome_bind_iff ?_
  intro v₂ h₂
  have hrendered := rendered_render h₂
  rw [advance_isSome (hsized.rendered hrendered)]
  obtain ⟨⟨pixels, status, rfl⟩, -⟩ := hrendered
  exact Iff.rfl

theorem nextAddr_isSome (addr : U16) : (nextAddr .panics addr).isSome ↔ addr ≠ 0xFFFF := by
  rw [nextAddr, Option.isSome_map, Overflow.add_panics_isSome]
  constructor
  · rintro hlt rfl
    exact absurd hlt (by decide)
  · intro hne
    have hlt := addr.isLt
    have hmax : addr.toNat ≠ 0xFFFF := fun h => hne (BitVec.eq_of_toNat_eq h)
    omega

section

variable {select data : U8} {r : Registers}

/-- An access that moves the update address, but only through the data register. -/
theorem moves_isSome {α : Type} {access : Option α}
    (hdata : select = 0x1F → access.isSome = (nextAddr .panics r.updateAddr).isSome)
    (hother : select ≠ 0x1F → access.isSome) :
    access.isSome ↔ (select = 0x1F → r.updateAddr ≠ 0xFFFF) := by
  by_cases hselect : select = 0x1F
  · rw [hdata hselect, nextAddr_isSome]
    exact (imp_iff_right hselect).symm
  · exact iff_of_true (hother hselect) fun h => absurd h hselect

theorem readEffect_isSome :
    (readEffect .panics select r).isSome ↔ (select = 0x1F → r.updateAddr ≠ 0xFFFF) := by
  refine moves_isSome ?_ ?_
  · rintro rfl
    exact Option.isSome_map
  · intro hselect
    unfold readEffect
    split
    case h_1 h => exact absurd (BitVec.eq_of_toNat_eq h) hselect
    case h_2 => rfl

theorem writeRegister_isSome :
    (writeRegister .panics select data r).isSome ↔ (select = 0x1F → r.updateAddr ≠ 0xFFFF) := by
  refine moves_isSome ?_ ?_
  · rintro rfl
    exact Option.isSome_map
  · intro hselect
    unfold writeRegister
    split
    all_goals first
      | rfl
      | exact absurd (BitVec.eq_of_toNat_eq (by assumption)) hselect

end

theorem read_isSome {port : U16} : (v.read .panics port).isSome ↔ Harmless v (.read port) := by
  unfold read
  split
  case h_1 hport => exact iff_of_true rfl fun h => absurd (BitVec.eq_of_toNat_eq hport) h
  case h_2 hport =>
    rw [Option.isSome_map, readEffect_isSome]
    have hport : port &&& 0x01 ≠ 0 := by
      intro h0
      exact hport (congrArg BitVec.toNat h0)
    exact (imp_iff_right hport).symm

theorem write_isSome {port : U16} {data : U8} :
    (v.write .panics port data).isSome ↔ Harmless v (.write port data) := by
  unfold write
  split
  case h_1 hport => exact iff_of_true rfl fun h => absurd (BitVec.eq_of_toNat_eq hport) h
  case h_2 hport =>
    rw [Option.isSome_map, writeRegister_isSome]
    have hport : port &&& 0x01 ≠ 0 := by
      intro h0
      exact hport (congrArg BitVec.toNat h0)
    exact (imp_iff_right hport).symm

/-- **A step panics exactly if it is harmful.** -/
theorem step_isSome {op : Op} (hv : UpToDate v) :
    (step .panics v op).isSome ↔ Harmless v op := by
  cases op with
  | tick => rw [step, Option.isSome_map, tick_isSome hv]
  | read port => rw [step, Option.isSome_map, read_isSome]
  | write port data => rw [step, Option.isSome_map, write_isSome]

/-- **A run of a fresh chip completes exactly if every step of it is harmless.** -/
theorem run_isSome_iff_harmless (ops : List Op) :
    (Machine.run (step .panics) new ops).isSome ↔
      Machine.Along (step .panics) Harmless new ops :=
  Machine.run_isSome_iff_along (fun _ _ _ _ hv h => upToDate_step hv h)
    (fun _ _ hv => step_isSome hv) upToDate_new ops

/-! ### Builds that do not check -/

section

variable {m : Overflow}

theorem bind_of_bind {α β : Type*} {x y : Option α} {f g : α → Option β} {b : β}
    (hx : ∀ a, x = some a → y = some a) (hf : ∀ a, f a = some b → g a = some b)
    (h : x.bind f = some b) : y.bind g = some b := by
  obtain ⟨a, hxa, hfa⟩ := Option.bind_eq_some_iff.1 h
  rw [hx a hxa, Option.bind_some, hf a hfa]

theorem map_of_map {α β : Type*} {x y : Option α} {f : α → β} {b : β}
    (hx : ∀ a, x = some a → y = some a) (h : x.map f = some b) : y.map f = some b := by
  obtain ⟨a, hxa, hfa⟩ := Option.map_eq_some_iff.1 h
  rw [hx a hxa, Option.map_some, hfa]

theorem drawCell_of_panics {p : Parameters} {row x : ℕ} {colors : U32 × U32} {pix : U8}
    {pixels : List U32} {r : ℕ × List U32} (h : drawCell .panics p row colors pix x pixels = some r) :
    drawCell m p row colors pix x pixels = some r := by
  refine bind_of_bind (fun _ => id) ?_ h
  intro pixels₁ h
  exact bind_of_bind (fun _ => Overflow.sub_of_panics) (fun _ => id) h

theorem renderCells_of_panics {n : ℕ}
    (h : v.renderCells .panics fg cellY yoffset cellX addr n l = some l') :
    v.renderCells m fg cellY yoffset cellX addr n l = some l' := by
  induction n generalizing cellX addr l with
  | zero => exact h
  | succ n ih => exact bind_of_bind (fun _ => map_of_map fun _ => drawCell_of_panics) (fun _ => ih) h

theorem renderRow_of_panics {pixels pixels' : List U32}
    (h : v.renderRow .panics fg bg pixels = some pixels') :
    v.renderRow m fg bg pixels = some pixels' := by
  simp only [renderRow] at h ⊢
  split at h
  case isTrue hzero => cases h
  case isFalse hcell =>
    rw [if_neg hcell]
    split at h
    case isTrue hoffset =>
      rw [if_pos hoffset]
      exact map_of_map (fun _ => renderCells_of_panics) h
    case isFalse hoffset =>
      rw [if_neg hoffset]
      exact h

theorem renderVisible_of_panics {pixels : List U32} (h : v.renderVisible .panics = some pixels) :
    v.renderVisible m = some pixels := by
  refine bind_of_bind (fun _ => id) ?_ h
  intro pixels₁ h
  refine bind_of_bind (fun _ => Overflow.sub_of_panics) ?_ h
  intro stop h
  exact bind_of_bind (fun _ => id) (fun _ => renderRow_of_panics) h

theorem hblank_of_panics (h : v.hblank .panics = some v') : v.hblank m = some v' := by
  rw [hblank] at h ⊢
  split at h
  case isTrue htop =>
    rw [if_pos htop]
    exact h
  case isFalse htop =>
    rw [if_neg htop]
    split at h
    case isTrue hvisible =>
      rw [if_pos hvisible]
      exact map_of_map (fun _ => renderVisible_of_panics) h
    case isFalse hvisible =>
      rw [if_neg hvisible]
      exact h

theorem refresh_of_panics (h : v.refresh .panics = some v') : v.refresh m = some v' := by
  rw [refresh] at h ⊢
  split at h
  case isTrue hdirty =>
    rw [if_pos hdirty]
    refine bind_of_bind (fun _ => Overflow.sub_of_panics) ?_ h
    intro enabled h
    exact bind_of_bind (fun _ => Overflow.mul_of_panics) (fun _ => id) h
  case isFalse hclean =>
    rw [if_neg hclean]
    exact h

theorem render_of_panics (h : v.render .panics = some v') : v.render m = some v' := by
  rw [render] at h ⊢
  split at h
  case isTrue hblank =>
    rw [if_pos hblank]
    exact hblank_of_panics h
  case isFalse hblank =>
    rw [if_neg hblank]
    exact h

theorem advance_of_panics (h : v.advance .panics = some v') : v.advance m = some v' := by
  refine bind_of_bind (fun _ => Overflow.add_of_panics) ?_ h
  intro x h
  split at h
  case isTrue hend =>
    rw [if_pos hend]
    exact bind_of_bind (fun _ => Overflow.add_of_panics) (fun _ => id) h
  case isFalse hend =>
    rw [if_neg hend]
    exact h

/-- **What a tick of a checked build does, a tick of every build does.** -/
theorem tick_of_panics (h : v.tick .panics = some v') : v.tick m = some v' := by
  refine bind_of_bind (fun _ => refresh_of_panics) ?_ h
  intro v₁ h
  exact bind_of_bind (fun _ => render_of_panics) (fun _ => advance_of_panics) h

end

/-! ### A run that panics -/

/-- The display enables out of order. -/
theorem run_panics : Machine.run (step .panics) new [.write 0 0x23, .write 1 0x01, .tick] = none :=
  rfl

end Possum.Vdc
