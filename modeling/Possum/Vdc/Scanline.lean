import Possum.Vdc.Raster
import Possum.Lib.Paint

/-!
# What a line draws

`lineDrawn` says, for every position of the framebuffer, the colour that the line under the raster
draws there at the horizontal blank, as one function of the chip that never looks at the pixels:
the borders in the background of the line, and each cell in its own colours and from its own line
of a glyph.  The lemmas follow the renderer from the pixel to the line (`hblank_drawn`) and the
tick (`tick_drawn`): a loop of the source draws a stretch of positions.

The background of a cell is that of the line, or the attribute's colour of the nearest cell to its
left whose attribute exchanges the colours (`background`): the exchange is done on the variable
of the line.
-/

set_option autoImplicit false

namespace Possum.Vdc

open Lib

variable {m : Overflow} {a a' : List U32}

/-! ### Pixels -/

theorem put_drawn {i : ℕ} {color : U32} (h : put a i color = some a') :
    Drawn (stretch i 1 fun _ => color) a a' := by
  obtain ⟨hi, rfl⟩ := put_eq_some h
  exact Drawn.set hi color

theorem fill_drawn {color : U32} {i n : ℕ} (h : fill color i n a = some a') :
    Drawn (stretch i n fun _ => color) a a' := by
  induction n generalizing i a with
  | zero =>
    cases h
    exact Drawn.nil i _ _
  | succ n ih =>
    obtain ⟨a₁, hput, hrest⟩ := Option.bind_eq_some_iff.1 h
    rw [Nat.add_comm n 1]
    exact (put_drawn hput).append (ih hrest) (fun _ _ => rfl) fun _ _ => rfl

/-- The leftmost bit, shifted out. -/
theorem and_0x80_bne_zero : ∀ pix : U8, (pix &&& 0x80 != 0) = pix.getMsbD 0 := by
  decide +kernel

theorem blit_drawn {fg bg : U32} {i n : ℕ} {pix : U8} (h : blit fg bg i n pix a = some a') :
    Drawn (stretch i n fun dx => if pix.getMsbD dx then fg else bg) a a' := by
  induction n generalizing i pix a with
  | zero =>
    cases h
    exact Drawn.nil i _ _
  | succ n ih =>
    obtain ⟨a₁, hput, hrest⟩ := Option.bind_eq_some_iff.1 h
    rw [Nat.add_comm n 1]
    refine (put_drawn hput).append (ih hrest) ?_ ?_
    · intro dx hdx
      rw [Nat.lt_one_iff.1 hdx, and_0x80_bne_zero]
    · intro dx _
      rw [BitVec.getMsbD_shiftLeft, Nat.add_comm 1 dx]

/-! ### Cells -/

/-- A difference that was drawn did not wrap: a wrapped one is larger than any framebuffer. -/
theorem sub_of_fits {x y k rest len i : ℕ} (hlen : len < 2 ^ 32) (hx : x < 2 ^ 32)
    (hy : y < 2 ^ 32) (hk : k < 2 ^ 32) (hsub : m.sub 64 x y = some rest)
    (hfits : Fits len i (rest - k)) : y ≤ x ∧ rest = x - y := by
  by_cases hle : y ≤ x
  · rw [Overflow.sub_of_le hle] at hsub
    exact ⟨hle, (Option.some.inj hsub).symm⟩
  · unfold Overflow.sub at hsub
    rw [if_neg hle] at hsub
    cases m with
    | panics => cases hsub
    | wraps =>
      obtain rfl := Option.some.inj hsub
      have hwrapped : wrappingSub 64 x y = 2 ^ 64 - (y - x) := by
        unfold wrappingSub
        omega
      unfold Fits at hfits
      rw [hwrapped] at hfits
      omega

/-- Column `dx` of a cell: the foreground where the glyph's line has a bit, of which there are
eight, and the background elsewhere. -/
def cellPixel (glyphW : ℕ) (colors : U32 × U32) (pix : U8) (dx : ℕ) : U32 :=
  if dx < min glyphW 8 ∧ pix.getLsbD (7 - dx) then colors.1 else colors.2

theorem cellPixel_of_lt {glyphW dx : ℕ} (colors : U32 × U32) (pix : U8) (h : dx < glyphW) :
    cellPixel glyphW colors pix dx = if pix.getMsbD dx then colors.1 else colors.2 := by
  have hbit : (dx < min glyphW 8 ∧ pix.getLsbD (7 - dx)) ↔ pix.getMsbD dx := by
    rw [BitVec.getMsbD, Bool.and_eq_true, decide_eq_true_iff, Nat.lt_min, and_iff_right h]
  rw [cellPixel]
  simp only [hbit]

theorem cellPixel_of_le {glyphW dx : ℕ} (colors : U32 × U32) (pix : U8) (h : glyphW ≤ dx) :
    cellPixel glyphW colors pix dx = colors.2 :=
  if_neg fun hbit => absurd hbit.1 (by omega)

/-- **A cell.** -/
theorem drawCell_drawn {p : Parameters} {row x : ℕ} {colors : U32 × U32} {pix : U8}
    {r : ℕ × List U32} (hlen : a.length < 2 ^ 32) (hcell : p.cellWidth < 2 ^ 32)
    (hglyph : p.cellVisibleWidth < 2 ^ 32) (h : drawCell m p row colors pix x a = some r) :
    p.cellVisibleWidth ≤ p.cellWidth ∧ r.1 = x + p.cellWidth ∧
      Drawn (stretch (x + row) p.cellWidth (cellPixel p.cellVisibleWidth colors pix)) a r.2 := by
  obtain ⟨a₁, hblit, h⟩ := Option.bind_eq_some_iff.1 h
  obtain ⟨rest, hrest, h⟩ := Option.bind_eq_some_iff.1 h
  obtain ⟨a₂, hfill, h⟩ := Option.bind_eq_some_iff.1 h
  obtain rfl := Option.some.inj h
  have hfits := (fill_isSome colors.2).1 (Option.isSome_of_eq_some hfill)
  rw [length_blit hblit] at hfits
  obtain ⟨hle, hsub⟩ := sub_of_fits (k := 0) hlen hcell hglyph (by decide) hrest hfits
  have hwidth : p.cellVisibleWidth + rest = p.cellWidth := by omega
  have hboth := blit_drawn hblit
  have hfilled := fill_drawn hfill
  rw [Nat.add_right_comm x p.cellVisibleWidth row] at hfilled
  refine ⟨hle, ?_, ?_⟩
  · show x + p.cellVisibleWidth + rest = _
    omega
  · rw [← hwidth]
    refine hboth.append hfilled ?_ ?_
    · intro dx hdx
      exact cellPixel_of_lt colors pix hdx
    · intro dx _
      exact cellPixel_of_le colors pix (Nat.le_add_right _ dx)

/-- `mem::swap` twice over. -/
theorem swapIf_swapIf (b c : Bool) (colors : U32 × U32) :
    swapIf b (swapIf c colors) = swapIf (b ^^ c) colors := by
  cases b <;> cases c <;> rfl

variable (v : Vdc)

/-- The line of the picture that the raster's line shows, with the vertical scroll. -/
def scrolledY : ℕ :=
  v.rasterY - v.parameters.topBorderHeight + (v.registers.vertScrollCtrl &&& 0x1F).toNat

/-- The row of cells. -/
def cellY : ℕ := v.scrolledY / v.parameters.cellHeight

/-- The line of the cells. -/
def cellYOffset : ℕ := v.scrolledY % v.parameters.cellHeight

/-- The character code of cell `c`. -/
def code (c : ℕ) : U8 :=
  v.vramByte (v.registers.dispStartAddr.toNat + v.cellY * v.registers.horizDisplayed.toNat + c)

/-- The background of the line, as cell `c` finds it. -/
def background : ℕ → U32
  | 0 => v.lineColors.2
  | c + 1 => (v.cellColors v.lineColors.1 (background c) v.cellYOffset (v.code c)).1.2

/-- The cursor reverses cell `c`. -/
def cursorLit (c : ℕ) : Bool :=
  c + v.cellY * v.registers.horizDisplayed.toNat == v.registers.cursorPos.toNat && v.blinking &&
    (decide (v.parameters.cursorStartLine ≤ v.cellYOffset) &&
      decide (v.cellYOffset ≤ v.parameters.cursorEndLine))

/-- The colours of cell `c` and its character set. -/
def look (c : ℕ) : (U32 × U32) × ℕ :=
  v.cellColors v.lineColors.1 (v.background c) v.cellYOffset (v.code c)

/-- The line of its glyph that cell `c` shows. -/
def glyph (c : ℕ) : U8 :=
  v.vramByte (v.registers.charBaseAddr.toNat + ((v.look c).2 + (v.code c).toNat) * 16 +
    v.cellYOffset)

/-- Column `dx` of cell `c`. -/
def pixel (c dx : ℕ) : U32 :=
  cellPixel v.parameters.cellVisibleWidth (swapIf (v.cursorLit c) (v.look c).1) (v.glyph c) dx

variable {v}

/-- **A row of cells**, from cell `c` on. -/
theorem renderCells_drawn {c n : ℕ} {l l' : Line} (hlen : l.pixels.length < 2 ^ 32)
    (hcell : v.parameters.cellWidth < 2 ^ 32) (hglyph : v.parameters.cellVisibleWidth < 2 ^ 32)
    (hbg : l.bg = v.background c)
    (h : v.renderCells m v.lineColors.1 v.cellY v.cellYOffset c
      (v.registers.dispStartAddr.toNat + v.cellY * v.registers.horizDisplayed.toNat + c) n l =
        some l') :
    (n = 0 ∨ v.parameters.cellVisibleWidth ≤ v.parameters.cellWidth) ∧
      Drawn (stretch (l.x + v.rasterY * v.framebuffer.width) (n * v.parameters.cellWidth)
        fun j => v.pixel (c + j / v.parameters.cellWidth) (j % v.parameters.cellWidth))
        l.pixels l'.pixels := by
  induction n generalizing c l with
  | zero =>
    cases h
    rw [Nat.zero_mul]
    exact ⟨Or.inl rfl, Drawn.nil _ _ _⟩
  | succ n ih =>
    obtain ⟨l₁, hround, hrest⟩ := Option.bind_eq_some_iff.1 h
    have hlen₁ : l₁.pixels.length < 2 ^ 32 := by
      rw [length_renderCell hround]
      exact hlen
    obtain ⟨r, hdraw, rfl⟩ := Option.map_eq_some_iff.1 hround
    rw [hbg] at hdraw
    obtain ⟨hle, hx, hfirst⟩ := drawCell_drawn hlen hcell hglyph hdraw
    obtain ⟨-, hnext⟩ := ih hlen₁ (by rw [hbg]; rfl) hrest
    simp only [hx, Nat.add_right_comm l.x v.parameters.cellWidth] at hnext
    rw [Nat.succ_mul, Nat.add_comm (n * _)]
    refine ⟨Or.inr hle, hfirst.append hnext ?_ ?_⟩
    · intro dx hdx
      rw [Nat.div_eq_of_lt hdx, Nat.mod_eq_of_lt hdx]
      rfl
    · intro j hj
      have hpos : 0 < v.parameters.cellWidth := Nat.pos_of_mul_pos_left (Nat.zero_lt_of_lt hj)
      rw [Nat.add_div_left _ hpos, Nat.add_mod_left, Nat.add_right_comm]
      rfl

/-! ### Lines -/

section

variable (v)

/-- The position of column `x` in the raster's line. -/
def column (x : ℕ) : ℕ := x + v.rasterY * v.framebuffer.width

/-- `n` columns of border, from column `x` on. -/
def border (x n : ℕ) : ℕ → Option U32 := stretch (v.column x) n fun _ => v.lineColors.2

/-- The cells, if the line is one that they show. -/
def cellsDrawn : ℕ → Option U32 :=
  if v.cellYOffset ≤ v.parameters.cellVisibleHeight then
    stretch (v.column v.parameters.leftBorderWidth)
      (v.registers.horizDisplayed.toNat * v.parameters.cellWidth)
      fun j => v.pixel (j / v.parameters.cellWidth) (j % v.parameters.cellWidth)
  else fun _ => none

/-- **What the raster's line draws** at the horizontal blank. -/
def lineDrawn : ℕ → Option U32 :=
  let p := v.parameters
  let right := p.leftBorderWidth + p.visibleWidth
  if v.rasterY < p.topBorderHeight then v.border 0 v.framebuffer.width
  else if v.rasterY < p.topBorderHeight + p.visibleHeight then
    covering v.cellsDrawn
      (covering (v.border right (p.signalWidth - p.hsyncWidth - right))
        (v.border 0 p.leftBorderWidth))
  else if v.rasterY < p.vsyncStart then v.border 0 v.framebuffer.width
  else fun _ => none

end

theorem renderBorder_drawn (h : v.renderBorder = some a') :
    Drawn (v.border 0 v.framebuffer.width) v.framebuffer.pixels a' := by
  rw [border, column, Nat.zero_add]
  exact fill_drawn h

theorem bufferSize_lt (r : Registers) : r.bufferW * r.bufferH < 2 ^ 32 := by
  have hw : r.bufferW < 2 ^ 10 := by
    unfold Registers.bufferW
    omega
  have hh : r.bufferH < 2 ^ 10 := by
    unfold Registers.bufferH
    omega
  calc r.bufferW * r.bufferH < 2 ^ 10 * 2 ^ 10 := Nat.mul_lt_mul'' hw hh
    _ < 2 ^ 32 := by decide

theorem renderRow_eq (hcell : v.parameters.cellHeight ≠ 0) (fg bg : U32) (a : List U32) :
    v.renderRow m fg bg a =
      if v.cellYOffset ≤ v.parameters.cellVisibleHeight then
        (v.renderCells m fg v.cellY v.cellYOffset 0
          (v.registers.dispStartAddr.toNat + v.cellY * v.registers.horizDisplayed.toNat)
          v.registers.horizDisplayed.toNat
          { bg := bg, x := v.parameters.leftBorderWidth, pixels := a }).map Line.pixels
      else some a := if_neg hcell

theorem renderRow_drawn (hv : Sized v) (hlen : a.length < 2 ^ 32)
    (h : v.renderRow m v.lineColors.1 v.lineColors.2 a = some a') :
    (v.cellYOffset ≤ v.parameters.cellVisibleHeight → v.registers.horizDisplayed.toNat = 0 ∨
      v.parameters.cellVisibleWidth ≤ v.parameters.cellWidth) ∧ Drawn v.cellsDrawn a a' := by
  have hp := hv.programmed
  have hcellW : v.parameters.cellWidth < 2 ^ 32 := by
    rw [hp.cellWidth]
    exact v.registers.cellW_lt.trans (by decide)
  have hglyphW : v.parameters.cellVisibleWidth < 2 ^ 32 := by
    rw [hp.cellVisibleWidth, Registers.glyphW]
    omega
  by_cases hcell : v.parameters.cellHeight = 0
  · rw [renderRow, if_pos hcell] at h
    cases h
  · rw [renderRow_eq hcell] at h
    unfold cellsDrawn
    by_cases hoffset : v.cellYOffset ≤ v.parameters.cellVisibleHeight
    · rw [if_pos hoffset] at h ⊢
      obtain ⟨l, hcells, rfl⟩ := Option.map_eq_some_iff.1 h
      have hfirst : Line.bg ⟨v.lineColors.2, v.parameters.leftBorderWidth, a⟩ = v.background 0 :=
        rfl
      obtain ⟨hglyph, hrow⟩ := renderCells_drawn hlen hcellW hglyphW hfirst hcells
      simp only [Nat.zero_add] at hrow
      exact ⟨fun _ => hglyph, hrow⟩
    · rw [if_neg hoffset] at h ⊢
      cases h
      exact ⟨fun h => absurd h hoffset, Drawn.nothing (fun _ => rfl) _⟩

theorem renderVisible_drawn (hv : Sized v) (h : v.renderVisible m = some a') :
    v.parameters.hsyncWidth ≤ v.parameters.signalWidth ∧
      (v.cellYOffset ≤ v.parameters.cellVisibleHeight → v.registers.horizDisplayed.toNat = 0 ∨
        v.parameters.cellVisibleWidth ≤ v.parameters.cellWidth) ∧
      Drawn
        (covering v.cellsDrawn
          (covering
            (v.border (v.parameters.leftBorderWidth + v.parameters.visibleWidth)
              (v.parameters.signalWidth - v.parameters.hsyncWidth -
                (v.parameters.leftBorderWidth + v.parameters.visibleWidth)))
            (v.border 0 v.parameters.leftBorderWidth)))
        v.framebuffer.pixels a' := by
  have hp := hv.programmed
  have hlen : v.framebuffer.pixels.length < 2 ^ 32 := by
    rw [hv.length]
    exact bufferSize_lt v.registers
  have hsignal : v.parameters.signalWidth < 2 ^ 32 := by
    rw [hp.signalWidth]
    exact v.registers.signalW_le.trans_lt (by decide)
  have hsync : v.parameters.hsyncWidth < 2 ^ 32 := by
    rw [hp.hsyncWidth]
    exact v.registers.syncW_lt.trans (by decide)
  have hcells : v.parameters.leftBorderWidth + v.parameters.visibleWidth < 2 ^ 32 := by
    have hleftW : v.registers.leftW < 2 ^ 8 := by
      unfold Registers.leftW
      omega
    have hshownW : v.registers.shownW ≤ 255 * 15 :=
      Nat.mul_le_mul (Nat.le_of_lt_succ v.registers.horizDisplayed.isLt)
        (Nat.le_of_lt_succ v.registers.cellW_lt)
    rw [hp.leftBorderWidth, hp.visibleWidth]
    omega
  obtain ⟨a₁, hleft, h⟩ := Option.bind_eq_some_iff.1 h
  obtain ⟨stop, hstop, h⟩ := Option.bind_eq_some_iff.1 h
  obtain ⟨a₂, hright, hrow⟩ := Option.bind_eq_some_iff.1 h
  have hfits := (fill_isSome v.lineColors.2).1 (Option.isSome_of_eq_some hright)
  rw [length_fill hleft] at hfits
  obtain ⟨hle, hsub⟩ := sub_of_fits hlen hsignal hsync hcells hstop hfits
  have hlen₂ : a₂.length < 2 ^ 32 := by
    rw [length_fill hright, length_fill hleft]
    exact hlen
  have hleft' := fill_drawn hleft
  have hright' := fill_drawn hright
  rw [hsub] at hright'
  obtain ⟨hglyph, hcells⟩ := renderRow_drawn hv hlen₂ hrow
  refine ⟨hle, hglyph, Drawn.cover (Drawn.cover ?_ hright') hcells⟩
  rw [border, column, Nat.zero_add]
  exact hleft'

/-- **What a line draws.** -/
theorem hblank_drawn {v' : Vdc} (hv : Sized v) (h : v.hblank m = some v') :
    Drawn v.lineDrawn v.framebuffer.pixels v'.framebuffer.pixels := by
  rw [hblank] at h
  unfold lineDrawn
  by_cases htop : v.rasterY < v.parameters.topBorderHeight
  · rw [if_pos htop] at h ⊢
    obtain ⟨a', hborder, rfl⟩ := Option.map_eq_some_iff.1 h
    exact renderBorder_drawn hborder
  · rw [if_neg htop] at h ⊢
    by_cases hvisible :
        v.rasterY < v.parameters.topBorderHeight + v.parameters.visibleHeight
    · rw [if_pos hvisible] at h ⊢
      obtain ⟨a', hpixels, rfl⟩ := Option.map_eq_some_iff.1 h
      exact (renderVisible_drawn hv hpixels).2.2
    · rw [if_neg hvisible] at h ⊢
      by_cases hbottom : v.rasterY < v.parameters.vsyncStart
      · rw [if_pos hbottom] at h ⊢
        obtain ⟨a', hborder, rfl⟩ := Option.map_eq_some_iff.1 h
        exact renderBorder_drawn hborder
      · rw [if_neg hbottom] at h ⊢
        cases h
        exact Drawn.nothing (fun _ => rfl) _

/-! ### Positions of a visible line -/

section

variable (v)

theorem column_add (x k : ℕ) : v.column (x + k) = v.column x + k :=
  Nat.add_right_comm x k (v.rasterY * v.framebuffer.width)

/-- The line is between the top and the bottom border. -/
def VisibleLine : Prop :=
  v.parameters.topBorderHeight ≤ v.rasterY ∧
    v.rasterY < v.parameters.topBorderHeight + v.parameters.visibleHeight

/-- The line is one that the cells show. -/
def ShowsCells : Prop := v.cellYOffset ≤ v.parameters.cellVisibleHeight

instance : Decidable v.VisibleLine := inferInstanceAs (Decidable (_ ∧ _))

instance : Decidable v.ShowsCells := inferInstanceAs (Decidable (_ ≤ _))

end

theorem lineDrawn_of_visible (h : v.VisibleLine) :
    v.lineDrawn =
      covering v.cellsDrawn
        (covering
          (v.border (v.parameters.leftBorderWidth + v.parameters.visibleWidth)
            (v.parameters.signalWidth - v.parameters.hsyncWidth -
              (v.parameters.leftBorderWidth + v.parameters.visibleWidth)))
          (v.border 0 v.parameters.leftBorderWidth)) := by
  rw [lineDrawn]
  exact (if_neg (Nat.not_lt.2 h.1)).trans (if_pos h.2)

theorem border_column (x n : ℕ) {k : ℕ} (h : k < n) :
    v.border x n (v.column (x + k)) = some v.lineColors.2 := by
  rw [border, column_add]
  exact stretch_of_lt _ h

theorem border_of_not {x n i : ℕ} (h : ¬ (v.column x ≤ i ∧ i < v.column x + n)) :
    v.border x n i = none := stretch_of_not _ h

theorem cellsDrawn_of_not {i : ℕ}
    (h : ¬ (v.column v.parameters.leftBorderWidth ≤ i ∧
      i < v.column v.parameters.leftBorderWidth +
        v.registers.horizDisplayed.toNat * v.parameters.cellWidth)) :
    v.cellsDrawn i = none := by
  unfold cellsDrawn
  split
  · exact stretch_of_not _ h
  · rfl

/-- **Column `dx` of cell `c`.** -/
theorem lineDrawn_cell (hvisible : v.VisibleLine) (hshows : v.ShowsCells) {c dx : ℕ}
    (hc : c < v.registers.horizDisplayed.toNat) (hdx : dx < v.parameters.cellWidth) :
    v.lineDrawn (v.column (v.parameters.leftBorderWidth + (c * v.parameters.cellWidth + dx))) =
      some (v.pixel c dx) := by
  have hin : c * v.parameters.cellWidth + dx <
      v.registers.horizDisplayed.toNat * v.parameters.cellWidth :=
    calc c * v.parameters.cellWidth + dx < (c + 1) * v.parameters.cellWidth := by
          rw [Nat.succ_mul]
          omega
      _ ≤ v.registers.horizDisplayed.toNat * v.parameters.cellWidth := Nat.mul_le_mul_right _ hc
  have hcell : (c * v.parameters.cellWidth + dx) / v.parameters.cellWidth = c := by
    rw [Nat.add_comm, Nat.add_mul_div_right _ _ (Nat.zero_lt_of_lt hdx), Nat.div_eq_of_lt hdx,
      Nat.zero_add]
  have hcolumn : (c * v.parameters.cellWidth + dx) % v.parameters.cellWidth = dx := by
    rw [Nat.add_comm, Nat.add_mul_mod_self_right, Nat.mod_eq_of_lt hdx]
  rw [lineDrawn_of_visible hvisible, covering, cellsDrawn,
    if_pos (show v.cellYOffset ≤ _ from hshows), column_add, stretch_of_lt _ hin, hcell, hcolumn]
  rfl

/-- A column of the left border. -/
theorem lineDrawn_left (hvisible : v.VisibleLine) {x : ℕ} (hx : x < v.parameters.leftBorderWidth) :
    v.lineDrawn (v.column x) = some v.lineColors.2 := by
  have hborder := border_column (v := v) 0 _ hx
  rw [Nat.zero_add] at hborder
  rw [lineDrawn_of_visible hvisible, covering, cellsDrawn_of_not (by unfold column; omega),
    Option.none_or, covering, border_of_not (by unfold column; omega), Option.none_or, hborder]

/-- The cells of a row are as wide as the visible part of the line. -/
theorem Sized.visibleWidth (hv : Sized v) : v.parameters.visibleWidth =
    v.registers.horizDisplayed.toNat * v.parameters.cellWidth := by
  rw [hv.programmed.visibleWidth, hv.programmed.cellWidth, Registers.shownW]

/-- A column of the right border, which goes on to the sync. -/
theorem lineDrawn_right (hv : Sized v) (hvisible : v.VisibleLine) {x : ℕ}
    (hright : v.parameters.leftBorderWidth + v.parameters.visibleWidth ≤ x)
    (hx : x < v.parameters.signalWidth - v.parameters.hsyncWidth) :
    v.lineDrawn (v.column x) = some v.lineColors.2 := by
  have hwidth := hv.visibleWidth
  obtain ⟨k, rfl⟩ := Nat.exists_eq_add_of_le hright
  rw [lineDrawn_of_visible hvisible, covering, cellsDrawn_of_not (by unfold column; omega),
    Option.none_or, covering, border_column _ _ (by omega)]
  rfl

/-- Nothing else is drawn. -/
theorem lineDrawn_of_not (hv : Sized v) (hvisible : v.VisibleLine) {i : ℕ}
    (hout : ∀ x, x < v.parameters.leftBorderWidth + v.parameters.visibleWidth ∨
      x < v.parameters.signalWidth - v.parameters.hsyncWidth → i ≠ v.column x) :
    v.lineDrawn i = none := by
  have hwidth := hv.visibleWidth
  have hcolumn := hout (i - v.rasterY * v.framebuffer.width)
  unfold column at hcolumn
  rw [lineDrawn_of_visible hvisible, covering, cellsDrawn_of_not (by unfold column; omega),
    Option.none_or, covering, border_of_not (by unfold column; omega), Option.none_or,
    border_of_not (by unfold column; omega)]

/-! ### The positions that a line draws -/

/-- The rows of a cell's line that are drawn. -/
def Registers.Shows (r : Registers) (y : ℕ) : Prop :=
  (y - r.topH + r.vertScrollCtrl.toNat % 32) % r.cellH ≤ r.charDispVert.toNat

instance (r : Registers) (y : ℕ) : Decidable (r.Shows y) := inferInstanceAs (Decidable (_ ≤ _))

/-- The positions that line `y` of a frame draws, in the order of the pixels: a border line all
its width; a line between them its left border, what is right of the cells up to the sync, and
the cells if the line shows a row of them. -/
def Registers.drawn (r : Registers) (y : ℕ) : Set ℕ :=
  if y < r.topH then Set.Ico (y * r.bufferW) (y * r.bufferW + r.bufferW)
  else if y < r.topH + r.shownH then
    Set.Ico (y * r.bufferW) (y * r.bufferW + r.leftW) ∪
      Set.Ico (y * r.bufferW + (r.leftW + r.shownW)) (y * r.bufferW + (r.signalW - r.syncW)) ∪
      if r.Shows y then
        Set.Ico (y * r.bufferW + r.leftW) (y * r.bufferW + (r.leftW + r.shownW))
      else ∅
  else if y < r.bufferH then Set.Ico (y * r.bufferW) (y * r.bufferW + r.bufferW)
  else ∅

theorem Sized.visibleLine (hv : Sized v) : v.VisibleLine ↔
    v.registers.topH ≤ v.rasterY ∧ v.rasterY < v.registers.topH + v.registers.shownH := by
  rw [VisibleLine, hv.programmed.topBorderHeight, hv.programmed.visibleHeight]

theorem Sized.showsCells (hv : Sized v) : v.ShowsCells ↔ v.registers.Shows v.rasterY := by
  rw [ShowsCells, cellYOffset, scrolledY, hv.programmed.topBorderHeight, hv.programmed.cellHeight,
    hv.programmed.cellVisibleHeight, toNat_and_0x1F]
  exact Iff.rfl

theorem border_isSome {x n i : ℕ} :
    (v.border x n i).isSome ↔ v.column x ≤ i ∧ i < v.column x + n := stretch_isSome

theorem cellsDrawn_isSome {i : ℕ} :
    (v.cellsDrawn i).isSome ↔ v.ShowsCells ∧ v.column v.parameters.leftBorderWidth ≤ i ∧
      i < v.column v.parameters.leftBorderWidth +
        v.registers.horizDisplayed.toNat * v.parameters.cellWidth := by
  unfold cellsDrawn
  by_cases hshows : v.cellYOffset ≤ v.parameters.cellVisibleHeight
  · rw [if_pos hshows, stretch_isSome]
    exact (and_iff_right hshows).symm
  · rw [if_neg hshows]
    exact iff_of_false nofun fun h => hshows h.1

/-- **The positions that a line draws** are those that the registers say. -/
theorem lineDrawn_isSome (hv : Sized v) {i : ℕ} :
    (v.lineDrawn i).isSome ↔ i ∈ v.registers.drawn v.rasterY := by
  have hp := hv.programmed
  have hwidth := hv.visibleWidth
  have hborder : (v.border 0 v.framebuffer.width i).isSome ↔
      i ∈ Set.Ico (v.rasterY * v.registers.bufferW)
        (v.rasterY * v.registers.bufferW + v.registers.bufferW) := by
    rw [border_isSome, column, hv.width, Nat.zero_add]
    exact Iff.rfl
  unfold lineDrawn Registers.drawn
  rw [hp.topBorderHeight, hp.visibleHeight, hp.vsyncStart]
  by_cases htop : v.rasterY < v.registers.topH
  · rw [if_pos htop, if_pos htop]
    exact hborder
  · rw [if_neg htop, if_neg htop]
    by_cases hvisible : v.rasterY < v.registers.topH + v.registers.shownH
    · rw [if_pos hvisible, if_pos hvisible, covering_isSome, covering_isSome, cellsDrawn_isSome,
        border_isSome, border_isSome, hv.showsCells, ← hwidth]
      unfold column
      rw [hv.width, hp.leftBorderWidth, hp.visibleWidth, hp.signalWidth, hp.hsyncWidth]
      by_cases hshows : v.registers.Shows v.rasterY
      · simp only [hshows, true_and, if_true, Set.mem_union, Set.mem_Ico]
        omega
      · simp only [hshows, false_and, false_or, if_false, Set.mem_union, Set.mem_Ico,
          Set.mem_empty_iff_false, or_false]
        omega
    · rw [if_neg hvisible, if_neg hvisible]
      by_cases hbottom : v.rasterY < v.registers.bufferH
      · rw [if_pos hbottom, if_pos hbottom]
        exact hborder
      · rw [if_neg hbottom, if_neg hbottom]
        exact iff_of_false nofun id

/-! ### Chips that draw the same -/

/-- All that a line is drawn from. -/
structure Alike (v w : Vdc) : Prop where
  registers : w.registers = v.registers
  parameters : w.parameters = v.parameters
  width : w.framebuffer.width = v.framebuffer.width
  rasterY : w.rasterY = v.rasterY
  vram : w.vram = v.vram
  blinkTimer : w.blinkTimer = v.blinkTimer

namespace Alike

variable {w : Vdc}

theorem cellColors (h : Alike v w) : w.cellColors = v.cellColors := by
  funext fg bg yoffset index
  unfold Vdc.cellColors vramByte blinking
  rw [h.registers, h.vram, h.blinkTimer]

theorem cellYOffset (h : Alike v w) : w.cellYOffset = v.cellYOffset := by
  unfold Vdc.cellYOffset scrolledY
  rw [h.registers, h.parameters, h.rasterY]

theorem cellY (h : Alike v w) : w.cellY = v.cellY := by
  unfold Vdc.cellY scrolledY
  rw [h.registers, h.parameters, h.rasterY]

theorem lineColors (h : Alike v w) : w.lineColors = v.lineColors := by
  unfold Vdc.lineColors
  rw [h.registers]

theorem code (h : Alike v w) : w.code = v.code := by
  funext c
  unfold Vdc.code vramByte
  rw [h.registers, h.vram, h.cellY]

theorem background (h : Alike v w) : w.background = v.background := by
  funext c
  induction c with
  | zero => rw [Vdc.background, Vdc.background, h.lineColors]
  | succ c ih =>
    rw [Vdc.background, Vdc.background, h.cellColors, h.lineColors, h.cellYOffset, h.code, ih]

theorem look (h : Alike v w) : w.look = v.look := by
  funext c
  rw [Vdc.look, Vdc.look, h.cellColors, h.lineColors, h.background, h.cellYOffset, h.code]

theorem pixel (h : Alike v w) : w.pixel = v.pixel := by
  have hlit : w.cursorLit = v.cursorLit := by
    funext c
    unfold cursorLit blinking
    rw [h.registers, h.parameters, h.cellY, h.cellYOffset, h.blinkTimer]
  have hglyph : w.glyph = v.glyph := by
    funext c
    unfold glyph vramByte
    rw [h.registers, h.vram, h.look, h.code, h.cellYOffset]
  funext c dx
  rw [Vdc.pixel, Vdc.pixel, h.parameters, h.look, hlit, hglyph]

/-- **What a line draws does not depend on anything else**, the pixels least of all. -/
theorem lineDrawn (h : Alike v w) : w.lineDrawn = v.lineDrawn := by
  unfold Vdc.lineDrawn cellsDrawn border column
  rw [h.registers, h.parameters, h.rasterY, h.width, h.lineColors, h.cellYOffset, h.pixel]

end Alike

/-! ### Ticks -/

/-- The sizes are those of the registers, and no refresh is due. -/
structure Clean (v : Vdc) : Prop extends Sized v where
  dirty : v.parametersDirty = false

theorem cleared_cleared (v : Vdc) : v.cleared.cleared = v.cleared := by
  have hstatus : v.status &&& ~~~Status.VBLANK &&& ~~~Status.VBLANK =
      v.status &&& ~~~Status.VBLANK := by rw [BitVec.and_assoc, BitVec.and_self]
  rw [cleared, cleared]
  simp only [hstatus]

/-- A tick renders the line from the refreshed chip. -/
theorem tick_of_refresh {v₁ : Vdc} (hv : UpToDate v) (h : v.cleared.refresh m = some v₁) :
    Clean v₁ ∧ v.tick m = v₁.tick m := by
  have hsized := sized_refresh hv.cleared h
  have hsettled : v₁.parametersDirty = false ∧ v₁.cleared = v₁ := by
    obtain ⟨hclean, rfl⟩ | ⟨-, enabled, pos, -, -, rfl⟩ := refresh_cases h
    · exact ⟨hclean, cleared_cleared v⟩
    · refine ⟨resized_parametersDirty _ _, ?_⟩
      show v.cleared.cleared.resized _ = _
      rw [cleared_cleared]
  obtain ⟨hclean, hcleared⟩ := hsettled
  refine ⟨⟨hsized, hclean⟩, ?_⟩
  have hsame : v₁.cleared.refresh m = some v₁ := by
    rw [hcleared, refresh, hclean]
    rfl
  show (v.cleared.refresh m).bind _ = (v₁.cleared.refresh m).bind _
  rw [h, hsame]

/-- At the start of the horizontal blank a tick renders a line. -/
theorem hblank_of_tick {v' : Vdc} (hv : Clean v) (hx : v.rasterX = v.parameters.hsyncStart)
    (h : v.tick m = some v') :
    ∃ v₂, v.cleared.hblank m = some v₂ ∧ v'.framebuffer = v₂.framebuffer := by
  obtain ⟨v₁, v₂, hrefresh, hrender, hadvance⟩ := tick_cases h
  have hv₁ : v₁ = v.cleared := by
    obtain ⟨-, heq⟩ | ⟨hdirty, -⟩ := refresh_cases hrefresh
    · exact heq
    · exact Bool.noConfusion (hv.dirty.symm.trans hdirty)
  subst hv₁
  rw [render, if_pos (show v.cleared.rasterX = v.cleared.parameters.hsyncStart from hx)] at hrender
  refine ⟨v₂, hrender, ?_⟩
  obtain ⟨x, -, ⟨-, rfl⟩ | ⟨-, y, -, rfl⟩⟩ := advance_cases hadvance
  · rfl
  · rfl

theorem Sized.cleared (hv : Sized v) : Sized v.cleared := ⟨hv.programmed, hv.width, hv.length⟩

/-- **What a tick draws** at the start of the horizontal blank. -/
theorem tick_drawn {v' : Vdc} (hv : Clean v) (hx : v.rasterX = v.parameters.hsyncStart)
    (h : v.tick m = some v') :
    v'.framebuffer.pixels.length = v.framebuffer.pixels.length ∧
      Drawn v.lineDrawn v.framebuffer.pixels v'.framebuffer.pixels := by
  obtain ⟨v₂, hblank, hframe⟩ := hblank_of_tick hv hx h
  have hline := hblank_drawn hv.toSized.cleared hblank
  have halike : Alike v v.cleared := ⟨rfl, rfl, rfl, rfl, rfl, rfl⟩
  rw [halike.lineDrawn] at hline
  rw [hframe]
  exact ⟨(rendered_hblank hblank).length, hline⟩

/-- **A cell behind a tick.** -/
theorem tick_cell {v' : Vdc} (hv : Clean v) (hx : v.rasterX = v.parameters.hsyncStart)
    (hvisible : v.VisibleLine) (hshows : v.ShowsCells) (h : v.tick m = some v') {c dx : ℕ}
    (hc : c < v.registers.horizDisplayed.toNat) (hdx : dx < v.parameters.cellWidth) :
    v'.framebuffer.pixels[v.column
        (v.parameters.leftBorderWidth + (c * v.parameters.cellWidth + dx))]? =
      some (v.pixel c dx) := by
  rw [(tick_drawn hv hx h).2, lineDrawn_cell hvisible hshows hc hdx]
  rfl

theorem fits_of_columns {len row a n : ℕ} (h : ∀ x, a ≤ x → x < a + n → x + row < len) :
    Fits len (a + row) n := by
  cases n with
  | zero => exact Or.inl rfl
  | succ n =>
    have hlast := h (a + n) (by omega) (by omega)
    exact Or.inr (by omega)

theorem renderVisible_of_hblank {v' : Vdc} (hvisible : v.VisibleLine)
    (h : v.hblank m = some v') : ∃ pixels, v.renderVisible m = some pixels := by
  rw [hblank, if_neg (Nat.not_lt.2 hvisible.1), if_pos hvisible.2] at h
  obtain ⟨pixels, hpixels, -⟩ := Option.map_eq_some_iff.1 h
  exact ⟨pixels, hpixels⟩

/-- **A visible line that is drawn fits**, in every build. -/
theorem lineFits_of_tick {v' : Vdc} (hv : Clean v) (hx : v.rasterX = v.parameters.hsyncStart)
    (hvisible : v.VisibleLine) (h : v.tick m = some v') : v.registers.LineFits v.rasterY := by
  have hp := hv.programmed
  obtain ⟨hlen, hdrawn⟩ := tick_drawn hv hx h
  obtain ⟨v₂, hblank, -⟩ := hblank_of_tick hv hx h
  have hin : ∀ x, (v.lineDrawn (v.column x)).isSome →
      x + v.rasterY * v.registers.bufferW < v.registers.bufferSize := by
    intro x hx
    obtain ⟨color, hcolor⟩ := Option.isSome_iff_exists.1 hx
    have hpixel := hdrawn (v.column x)
    rw [hcolor, Option.some_or] at hpixel
    obtain ⟨hlt, -⟩ := List.getElem?_eq_some_iff.1 hpixel
    rw [hlen, hv.length, column, hv.width] at hlt
    exact hlt
  have hvisible' : v.cleared.VisibleLine := hvisible
  obtain ⟨a', hpixels⟩ := renderVisible_of_hblank hvisible' hblank
  obtain ⟨hsync, hglyph, -⟩ := renderVisible_drawn hv.toSized.cleared hpixels
  obtain ⟨hlow, hhigh⟩ := hv.toSized.visibleLine.1 hvisible
  rw [Registers.LineFits, if_neg (Nat.not_lt.2 hlow), if_pos hhigh]
  refine ⟨?_, ?_, ?_, ?_⟩
  · have hleft := fits_of_columns (a := 0) (n := v.registers.leftW) fun x _ hx => hin x (by
      rw [lineDrawn_left hvisible (by rw [hp.leftBorderWidth]; omega)]
      rfl)
    rwa [Nat.zero_add] at hleft
  · rw [← hp.hsyncWidth, ← hp.signalWidth]
    exact hsync
  · refine fits_of_columns fun x hright hend => hin x ?_
    rw [lineDrawn_right hv.toSized hvisible
      (by rw [hp.leftBorderWidth, hp.visibleWidth]; exact hright)
      (by rw [hp.signalWidth, hp.hsyncWidth]; omega)]
    rfl
  · intro hoffset
    have hshows : v.ShowsCells := hv.toSized.showsCells.2 hoffset
    obtain hnone | hwide := hglyph hshows
    · exact Or.inl hnone
    · rw [← hp.cellVisibleWidth, ← hp.cellWidth]
      refine Or.inr ⟨hwide, fits_of_columns fun x hleft hend => hin x ?_⟩
      rw [lineDrawn_of_visible hvisible, covering_isSome, cellsDrawn_isSome]
      refine Or.inl ⟨hshows, ?_⟩
      rw [← hv.toSized.visibleWidth, hp.visibleWidth, hp.leftBorderWidth]
      unfold column
      omega

/-- A line that fits is drawn, in every build. -/
theorem tick_of_fits (hv : Clean v) (hx : v.rasterX = v.parameters.hsyncStart)
    (hy : v.rasterY + 1 < 2 ^ 64) (hfits : v.registers.LineFits v.rasterY) :
    ∃ v', v.tick m = some v' := by
  have hbuffer : v.rasterX < 2 ^ 10 := by
    rw [hx, hv.programmed.hsyncStart, Registers.bufferW]
    omega
  have hharmless : Harmless v .tick := by
    refine ⟨?_, fun _ => hfits, by omega, fun _ => hy⟩
    intro hdirty
    exact Bool.noConfusion (hv.dirty.symm.trans hdirty)
  have hsome : (v.tick .panics).isSome := (tick_isSome fun _ => hv.toSized).2 hharmless
  obtain ⟨v', htick⟩ := Option.isSome_iff_exists.1 hsome
  exact ⟨v', tick_of_panics htick⟩

theorem rasterY_lt_of_visible (hv : Sized v) (h : v.VisibleLine) : v.rasterY + 1 < 2 ^ 64 := by
  have hhigh := h.2
  have htop : v.registers.topH < 2 ^ 8 := by
    unfold Registers.topH
    omega
  have hshown : v.registers.shownH ≤ 255 * 31 :=
    Nat.mul_le_mul (Nat.le_of_lt_succ v.registers.vertDisplayed.isLt)
      (Nat.le_of_lt_succ v.registers.cellH_lt)
  rw [hv.programmed.topBorderHeight, hv.programmed.visibleHeight] at hhigh
  omega

/-! ### A chip at the horizontal blank -/

/-- A new chip with these registers and this VRAM, its sizes up to date, at the start of the
horizontal blank of line `y`. -/
def atBlank (r : Registers) (vram : Vector U8 VRAM_SIZE) (y : ℕ) : Vdc :=
  let p := sizes r (r.dispEnableEnd.toNat - r.dispEnableBegin.toNat)
    ((r.horizSync.toNat - 2) * r.cellWidth)
  { ({ new with registers := r, vram := vram } : Vdc).resized p with
    rasterX := p.hsyncStart
    rasterY := y }

section

variable (r : Registers) (vram : Vector U8 VRAM_SIZE) (y : ℕ)

@[simp] theorem registers_atBlank : (atBlank r vram y).registers = r := rfl

@[simp] theorem vram_atBlank : (atBlank r vram y).vram = vram := rfl

@[simp] theorem rasterY_atBlank : (atBlank r vram y).rasterY = y := rfl

@[simp] theorem blinkTimer_atBlank : (atBlank r vram y).blinkTimer = 0 := rfl

/-- It is the chip that its line is rendered from. -/
theorem refresh_atBlank : (atBlank r vram y).cleared.refresh m = some (atBlank r vram y) := by
  have hstatus : (atBlank r vram y).status &&& ~~~Status.VBLANK = (atBlank r vram y).status :=
    show Status.STATUS &&& ~~~Status.VBLANK = Status.STATUS by decide
  have hcleared : (atBlank r vram y).cleared = atBlank r vram y := by rw [cleared, hstatus]
  have hclean : (atBlank r vram y).parametersDirty = false := rfl
  rw [hcleared, refresh, hclean]
  exact if_neg Bool.false_ne_true

end

theorem clean_atBlank {r : Registers} (henables : r.dispEnableBegin.toNat ≤ r.dispEnableEnd.toNat)
    (hsync : 2 ≤ r.horizSync.toNat) (vram : Vector U8 VRAM_SIZE) (y : ℕ) :
    Clean (atBlank r vram y) := by
  have hlt := r.horizSync.isLt
  have hcell := r.cellW_lt
  have hpos : wrappingSub 64 r.horizSync.toNat 2 = r.horizSync.toNat - 2 := by
    rw [wrappingSub]
    omega
  have hprod : (r.horizSync.toNat - 2) * r.cellWidth < 2 ^ 64 :=
    calc (r.horizSync.toNat - 2) * r.cellWidth ≤ 256 * 16 := by
          rw [cellWidth_eq]
          exact Nat.mul_le_mul (by omega) hcell.le
      _ < 2 ^ 64 := by decide
  have hp := programmed_sizes (m := .panics) (Overflow.sub_of_le henables)
    (by rw [hpos]; exact Overflow.mul_of_lt hprod)
  have hsized : Sized (({ new with registers := r, vram := vram } : Vdc).resized _) :=
    sized_resized hp
  exact ⟨⟨hsized.programmed, hsized.width, hsized.length⟩, rfl⟩

/-- The VRAM with byte `f addr` at address `addr`. -/
def vramOf (f : ℕ → U8) : Vector U8 VRAM_SIZE := Vector.ofFn fun i => f i

/-- The table of `hello_vdc.az8`. -/
def VDC_INIT_VALUES : List (U8 × U8) :=
  [(0, 126), (1, 80), (2, 102), (3, 0x49), (4, 32), (5, 0), (6, 25), (7, 29), (8, 0), (9, 7),
    (10, 0x60), (11, 7), (12, 0x00), (13, 0x00), (14, 0x00), (15, 0x00), (20, 0x08), (21, 0x00),
    (22, 0x78), (23, 0x08), (26, 0xF2), (28, 0x20), (29, 7), (34, 125), (35, 100)]

/-- The registers that it programs: 80 columns and 25 rows of cells of 8 by 8 pixels. -/
def helloVdc : Registers where
  horizTotal := 126
  horizDisplayed := 80
  horizSync := 102
  syncWidths := 0x49
  vertTotal := 32
  vertDisplayed := 25
  vertSync := 29
  charTotalVert := 7
  cursorModeStartScan := 0x60
  cursorEndScanLine := 7
  attrAddr := 0x0800
  charTotalDispHoriz := 0x78
  charDispVert := 8
  fgBgColor := 0xF2
  charBaseAddr := 0x2000
  underlineCtrl := 7
  dispEnableEnd := 125
  dispEnableBegin := 100

theorem run_vdcInitValues (m : Overflow) :
    Machine.run (step m) new (VDC_INIT_VALUES.flatMap fun s => [.write 0 s.1, .write 1 s.2]) =
      some (List.replicate 50 none,
        { new with registerSelect := 35, registers := helloVdc }) := rfl

end Possum.Vdc
