import Possum.Vdc.Text

/-!
# Cells with attributes

With attributes on, a pixel of a cell is the colour of the cell's attribute or the background that
the cell finds (`pixel_attributed`).  That background is not the line's: an attribute that
exchanges its colours leaves its own colour to the cells on the right (`inherited`), so a cell
depends on what is to its left, and exactly when is said in **`cells_independent_iff`**.

The attribute itself is found through the character code, and it selects the character set the
other way round (**`attributes_of_code`**).
-/

set_option autoImplicit false

namespace Possum.Vdc

open Lib

variable {m : Overflow} {v w v₁ w₁ v' w' : Vdc} {k : ℕ}

/-! ### The attribute of a cell -/

section

variable (v)

/-- Attributes are on. -/
def Attributed : Prop := v.registers.horizScrollCtrl &&& HScrollControl.ATR ≠ 0

instance : Decidable v.Attributed := inferInstanceAs (Decidable (_ ≠ _))

/-- The attribute that the renderer applies to cell `c`. -/
def attr (c : ℕ) : U8 := v.memory (v.registers.attrAddr.toNat + (v.code c).toNat)

/-- The attribute exchanges the colours of its cell: reverse, blink and underline do once each. -/
def exchanges (attr : U8) : Bool :=
  (attr &&& Attribute.UNDERLINE != 0 &&
      v.cellYOffset == (v.registers.underlineCtrl &&& 0x0F).toNat) ^^
    ((attr &&& Attribute.BLINK != 0 && v.blinking) ^^ (attr &&& Attribute.REVERSE != 0))

/-- The background that cell `c` finds: the colour of the nearest attribute to its left that
exchanges, or the background of the line. -/
def inherited : ℕ → U32
  | 0 => v.lineColors.2
  | c + 1 => if v.exchanges (v.attr c) then colorLookup (v.attr c) else inherited c

/-- The foreground and the background of cell `c` are exchanged in the end. -/
def exchanged (c : ℕ) : Bool := v.cursorLit c ^^ v.exchanges (v.attr c)

/-- Column `dx` of cell `c` has a bit of the glyph. -/
def glyphBit (c dx : ℕ) : Bool :=
  decide (dx < min v.parameters.cellVisibleWidth 8) && (v.glyph c).getLsbD (7 - dx)

end

theorem cellColors_attributed (h : v.Attributed) (fg bg : U32) (c : ℕ) :
    v.cellColors fg bg v.cellYOffset (v.code c) =
      (swapIf (v.exchanges (v.attr c)) (colorLookup (v.attr c), bg),
        if v.attr c &&& Attribute.ALTERNATE_CHARACTER != 0 then 0 else 256) := by
  have hon : (v.registers.horizScrollCtrl &&& HScrollControl.ATR != 0) = true := bne_iff_ne.2 h
  rw [cellColors, hon, if_pos rfl]
  simp only [swapIf_swapIf, vramByte_eq]
  rfl

theorem swapIf_snd (b : Bool) (colors : U32 × U32) :
    (swapIf b colors).2 = if b then colors.1 else colors.2 := by
  cases b <;> rfl

theorem background_attributed (h : v.Attributed) (c : ℕ) : v.background c = v.inherited c := by
  induction c with
  | zero => rfl
  | succ c ih => rw [background, cellColors_attributed h, swapIf_snd, ih, inherited]

theorem look_attributed (h : v.Attributed) (c : ℕ) :
    v.look c =
      (swapIf (v.exchanges (v.attr c)) (colorLookup (v.attr c), v.inherited c),
        if v.attr c &&& Attribute.ALTERNATE_CHARACTER != 0 then 0 else 256) := by
  rw [look, cellColors_attributed h, background_attributed h]

theorem glyph_attributed (h : v.Attributed) (c : ℕ) :
    v.glyph c = v.memory (v.registers.charBaseAddr.toNat +
      ((if v.attr c &&& Attribute.ALTERNATE_CHARACTER != 0 then 0 else 256) +
        (v.code c).toNat) * 16 + v.cellYOffset) := by
  rw [glyph, look_attributed h, vramByte_eq]

/-- **A pixel with attributes** is the colour of the attribute or the inherited background. -/
theorem pixel_attributed (h : v.Attributed) (c dx : ℕ) :
    v.pixel c dx =
      if v.glyphBit c dx = v.exchanged c then v.inherited c else colorLookup (v.attr c) := by
  have hbit : (dx < min v.parameters.cellVisibleWidth 8 ∧ (v.glyph c).getLsbD (7 - dx) = true) ↔
      v.glyphBit c dx = true := by
    rw [glyphBit, Bool.and_eq_true, decide_eq_true_iff]
  have hexchanged : (v.cursorLit c ^^ v.exchanges (v.attr c)) = v.exchanged c := rfl
  rw [pixel, cellPixel, look_attributed h, swapIf_swapIf, hexchanged]
  simp only [hbit]
  cases v.glyphBit c dx <;> cases v.exchanged c <;> rfl

/-! ### A cell and what is to its left -/

/-- The same chip but for the VRAM and what nothing is drawn from. -/
structure SameScreen (v w : Vdc) : Prop where
  registers : w.registers = v.registers
  parameters : w.parameters = v.parameters
  parametersDirty : w.parametersDirty = v.parametersDirty
  rasterX : w.rasterX = v.rasterX
  rasterY : w.rasterY = v.rasterY
  blinkTimer : w.blinkTimer = v.blinkTimer
  framebuffer : w.framebuffer = v.framebuffer

/-- Cell `k` has the same character and, with attributes, the same attribute, and shows the same
line of a glyph. -/
structure SameCell (v w : Vdc) (k : ℕ) : Prop where
  code : w.code k = v.code k
  attr : v.Attributed → w.attr k = v.attr k
  glyph : w.glyph k = v.glyph k

namespace SameScreen

theorem upToDate (h : SameScreen v w) (hv : UpToDate v) : UpToDate w := by
  intro hclean
  have hsized := hv (h.parametersDirty.symm.trans hclean)
  constructor
  · rw [h.parameters, h.registers]
    exact hsized.programmed
  · rw [h.framebuffer, h.registers]
    exact hsized.width
  · rw [h.framebuffer, h.registers]
    exact hsized.length

theorem resized (h : SameScreen v w) (p : Parameters) :
    SameScreen (v.cleared.resized p) (w.cleared.resized p) := by
  have hbuffer : w.cleared.framebuffer = v.cleared.framebuffer := h.framebuffer
  constructor
  case registers => exact h.registers
  case parameters => rw [resized_parameters, resized_parameters]
  case parametersDirty => rw [resized_parametersDirty, resized_parametersDirty]
  case rasterX => exact h.rasterX
  case rasterY => exact h.rasterY
  case blinkTimer => exact h.blinkTimer
  case framebuffer => rw [resized_framebuffer, resized_framebuffer, hbuffer]

theorem refresh (h : SameScreen v w) (hv : v.cleared.refresh m = some v₁)
    (hw : w.cleared.refresh m = some w₁) : SameScreen v₁ w₁ := by
  have hdirty : w.cleared.parametersDirty = v.cleared.parametersDirty := h.parametersDirty
  have hregs : w.cleared.registers = v.cleared.registers := h.registers
  obtain ⟨hclean, rfl⟩ | ⟨hdue, enabled, pos, henabled, hpos, hsizes⟩ := refresh_cases hv
  · obtain ⟨-, rfl⟩ | ⟨hdue, -⟩ := refresh_cases hw
    · exact ⟨h.registers, h.parameters, h.parametersDirty, h.rasterX, h.rasterY, h.blinkTimer,
        h.framebuffer⟩
    · exact Bool.noConfusion (hclean.symm.trans (hdirty.symm.trans hdue))
  · obtain ⟨hclean, -⟩ | ⟨-, enabled', pos', henabled', hpos', hsizes'⟩ := refresh_cases hw
    · exact Bool.noConfusion (hclean.symm.trans (hdirty.trans hdue))
    · rw [hregs] at henabled' hpos' hsizes'
      have henabledw : enabled = enabled' := Option.some.inj (henabled.symm.trans henabled')
      have hposw : pos = pos' := Option.some.inj (hpos.symm.trans hpos')
      rw [hsizes, hsizes', henabledw, hposw]
      exact h.resized _

theorem cellYOffset (h : SameScreen v w) : w.cellYOffset = v.cellYOffset := by
  unfold Vdc.cellYOffset scrolledY
  rw [h.registers, h.parameters, h.rasterY]

theorem cellY (h : SameScreen v w) : w.cellY = v.cellY := by
  unfold Vdc.cellY scrolledY
  rw [h.registers, h.parameters, h.rasterY]

theorem cursorLit (h : SameScreen v w) (k : ℕ) : w.cursorLit k = v.cursorLit k := by
  unfold Vdc.cursorLit blinking
  rw [h.registers, h.parameters, h.cellY, h.cellYOffset, h.blinkTimer]

theorem exchanges (h : SameScreen v w) (attr : U8) : w.exchanges attr = v.exchanges attr := by
  unfold Vdc.exchanges blinking
  rw [h.registers, h.cellYOffset, h.blinkTimer]

theorem column (h : SameScreen v w) : w.column = v.column := by
  funext x
  rw [Vdc.column, Vdc.column, h.rasterY, h.framebuffer]

end SameScreen

/-- The colour of a cell that depends on the cell alone, and the background that does not. -/
theorem pixel_eq_iff (hsame : SameScreen v w) (hcell : SameCell v w k) (hattr : v.Attributed)
    (dx : ℕ) :
    v.pixel k dx = w.pixel k dx ↔
      v.inherited k = w.inherited k ∨ v.glyphBit k dx ≠ v.exchanged k := by
  have hattrw : w.Attributed := by
    unfold Attributed
    rw [hsame.registers]
    exact hattr
  have hbit : w.glyphBit k dx = v.glyphBit k dx := by
    rw [glyphBit, glyphBit, hsame.parameters, hcell.glyph]
  have hexchanged : w.exchanged k = v.exchanged k := by
    rw [exchanged, exchanged, hsame.cursorLit, hcell.attr hattr, hsame.exchanges]
  rw [pixel_attributed hattr, pixel_attributed hattrw, hbit, hexchanged, hcell.attr hattr]
  by_cases hshows : v.glyphBit k dx = v.exchanged k
  · rw [if_pos hshows, if_pos hshows]
    exact ⟨Or.inl, fun h => h.resolve_right fun hne => hne hshows⟩
  · rw [if_neg hshows, if_neg hshows]
    exact iff_of_true rfl (Or.inr hshows)

/-- Without attributes a cell depends on nothing to its left. -/
theorem pixel_eq_plain (hsame : SameScreen v w) (hcell : SameCell v w k) (hplain : v.PlainText)
    (dx : ℕ) : v.pixel k dx = w.pixel k dx := by
  have hplainw : w.PlainText := by
    unfold PlainText
    rw [hsame.registers]
    exact hplain
  have hlines : w.lineColors = v.lineColors := by
    unfold lineColors
    rw [hsame.registers]
  rw [pixel, pixel, look_plain hplain, look_plain hplainw, hsame.parameters, hcell.glyph, hlines,
    hsame.cursorLit]

/-- **A cell depends on its background.**  Two chips that agree on all but the VRAM draw a cell
with the same character, attribute and line of a glyph alike, exactly if attributes are off, or
the cell finds the same background in both, or shows it nowhere. -/
theorem cells_independent_iff (m : Overflow) {v w v₁ w₁ v' w' : Vdc} {k : ℕ} (hv : UpToDate v)
    (hsame : SameScreen v w) (hv₁ : v.cleared.refresh m = some v₁)
    (hw₁ : w.cleared.refresh m = some w₁) (hx : v₁.rasterX = v₁.parameters.hsyncStart)
    (hvisible : v₁.VisibleLine) (hshows : v₁.ShowsCells) (hv' : v.tick m = some v')
    (hw' : w.tick m = some w') (hk : k < v₁.registers.horizDisplayed.toNat)
    (hcell : SameCell v₁ w₁ k) :
    (∀ dx < v₁.parameters.cellWidth,
      v'.framebuffer.pixels[v₁.column
          (v₁.parameters.leftBorderWidth + (k * v₁.parameters.cellWidth + dx))]? =
        w'.framebuffer.pixels[v₁.column
          (v₁.parameters.leftBorderWidth + (k * v₁.parameters.cellWidth + dx))]?) ↔
      (v₁.Attributed → v₁.inherited k = w₁.inherited k ∨
        ∀ dx < v₁.parameters.cellWidth, v₁.glyphBit k dx ≠ v₁.exchanged k) := by
  have hsame₁ := hsame.refresh hv₁ hw₁
  obtain ⟨hclean, htickv⟩ := tick_of_refresh hv hv₁
  obtain ⟨hcleanw, htickw⟩ := tick_of_refresh (hsame.upToDate hv) hw₁
  rw [htickv] at hv'
  rw [htickw] at hw'
  have hxw : w₁.rasterX = w₁.parameters.hsyncStart := by
    rw [hsame₁.rasterX, hsame₁.parameters]
    exact hx
  have hvisiblew : w₁.VisibleLine := by
    unfold VisibleLine
    rw [hsame₁.rasterY, hsame₁.parameters]
    exact hvisible
  have hshowsw : w₁.ShowsCells := by
    unfold ShowsCells
    rw [hsame₁.cellYOffset, hsame₁.parameters]
    exact hshows
  have hkw : k < w₁.registers.horizDisplayed.toNat := by
    rw [hsame₁.registers]
    exact hk
  have hpixel : ∀ dx < v₁.parameters.cellWidth,
      (v'.framebuffer.pixels[v₁.column
          (v₁.parameters.leftBorderWidth + (k * v₁.parameters.cellWidth + dx))]? =
        w'.framebuffer.pixels[v₁.column
          (v₁.parameters.leftBorderWidth + (k * v₁.parameters.cellWidth + dx))]?) ↔
        v₁.pixel k dx = w₁.pixel k dx := by
    intro dx hdx
    have hleft := tick_cell hclean hx hvisible hshows hv' hk hdx
    have hright := tick_cell hcleanw hxw hvisiblew hshowsw hw' hkw
      (show dx < w₁.parameters.cellWidth by rw [hsame₁.parameters]; exact hdx)
    rw [hsame₁.parameters, hsame₁.column] at hright
    rw [hleft, hright]
    exact Option.some_inj
  rw [forall₂_congr hpixel]
  by_cases hattr : v₁.Attributed
  · rw [forall₂_congr fun dx _ => pixel_eq_iff hsame₁ hcell hattr dx, imp_iff_right hattr]
    constructor
    · intro h
      by_cases hbg : v₁.inherited k = w₁.inherited k
      · exact Or.inl hbg
      · exact Or.inr fun dx hdx => (h dx hdx).resolve_left hbg
    · rintro (hbg | hnone) dx hdx
      · exact Or.inl hbg
      · exact Or.inr (hnone dx hdx)
  · exact iff_of_true (fun dx _ => pixel_eq_plain hsame₁ hcell (not_not.1 hattr) dx)
      fun hon => absurd hon hattr

/-! ### Where the attribute and the glyph come from -/

section

variable (v)

/-- The character set of cell `c`, by its first character. -/
def charSet (c : ℕ) : ℕ := (v.look c).2

/-- Cell `c` has the attribute of its position, and its glyph is of the second set exactly if the
attribute says so. -/
structure ByPosition (c : ℕ) : Prop where
  attr : v.attr c = v.memory (v.registers.attrAddr.toNat +
    (v.cellY * v.registers.horizDisplayed.toNat + c))
  glyph : v.charSet c = 256 ↔ v.attr c &&& Attribute.ALTERNATE_CHARACTER ≠ 0

end

theorem charSet_attributed (h : v.Attributed) (c : ℕ) :
    v.charSet c = if v.attr c &&& Attribute.ALTERNATE_CHARACTER ≠ 0 then 0 else 256 := by
  rw [charSet, look_attributed h]
  simp only [bne_iff_ne]

/-- The attribute selects the set the other way round. -/
theorem not_byPosition (h : v.Attributed) (c : ℕ) : ¬ v.ByPosition c := by
  intro hpos
  have hglyph := hpos.glyph
  rw [charSet_attributed h] at hglyph
  by_cases halt : v.attr c &&& Attribute.ALTERNATE_CHARACTER ≠ 0
  · rw [if_pos halt] at hglyph
    exact absurd (hglyph.2 halt) (by decide)
  · rw [if_neg halt] at hglyph
    exact halt (hglyph.1 rfl)

/-- **Attributes belong to characters.**  With attributes on, a cell is drawn in the colours of
the attribute that its character code selects, from the set that the attribute does not name;
cells with the same character have the same attribute, and no cell has what belongs to its
position. -/
theorem attributes_of_code (m : Overflow) {v v₁ v' : Vdc} {c : ℕ} (hv : UpToDate v)
    (hv₁ : v.cleared.refresh m = some v₁) (hattr : v₁.Attributed)
    (hx : v₁.rasterX = v₁.parameters.hsyncStart) (hvisible : v₁.VisibleLine)
    (hshows : v₁.ShowsCells) (hv' : v.tick m = some v')
    (hc : c < v₁.registers.horizDisplayed.toNat) :
    (∀ dx < v₁.parameters.cellWidth,
      v'.framebuffer.pixels[v₁.column
          (v₁.parameters.leftBorderWidth + (c * v₁.parameters.cellWidth + dx))]? =
        some (cellPixel v₁.parameters.cellVisibleWidth
          (swapIf (v₁.exchanged c) (colorLookup (v₁.attr c), v₁.inherited c))
          (v₁.memory (v₁.registers.charBaseAddr.toNat +
            (v₁.charSet c + (v₁.code c).toNat) * 16 + v₁.cellYOffset)) dx)) ∧
      v₁.charSet c = (if v₁.attr c &&& Attribute.ALTERNATE_CHARACTER ≠ 0 then 0 else 256) ∧
      (∀ c', v₁.code c' = v₁.code c → v₁.attr c' = v₁.attr c) ∧
      ¬ v₁.ByPosition c := by
  obtain ⟨hclean, htick⟩ := tick_of_refresh hv hv₁
  rw [htick] at hv'
  refine ⟨?_, charSet_attributed hattr c, ?_, not_byPosition hattr c⟩
  · intro dx hdx
    rw [tick_cell hclean hx hvisible hshows hv' hc hdx, pixel, glyph, vramByte_eq]
    rw [look_attributed hattr, swapIf_swapIf, charSet, look_attributed hattr]
    rfl
  · intro c' hcode
    rw [attr, attr, hcode]

/-! ### Two cells -/

theorem sameScreen_atBlank (r : Registers) (vram vram' : Vector U8 VRAM_SIZE) (y : ℕ) :
    SameScreen (atBlank r vram y) (atBlank r vram' y) :=
  ⟨rfl, rfl, rfl, rfl, rfl, rfl, rfl⟩

/-- A line of two cells of one pixel each, with attributes, and one pixel of right border. -/
def twoCells : Registers where
  horizTotal := 2
  horizDisplayed := 2
  horizSync := 5
  syncWidths := 1
  vertTotal := 1
  vertDisplayed := 1
  vertSync := 2
  cursorPos := 9
  attrAddr := 2
  charTotalDispHoriz := 1
  horizScrollCtrl := HScrollControl.ATR

section

variable (f : ℕ → U8)

theorem clean_twoCells : Clean (atBlank twoCells (vramOf f) 0) :=
  clean_atBlank (by decide) (by decide) _ _

theorem shows_twoCells : (atBlank twoCells (vramOf f) 0).VisibleLine ∧
    (atBlank twoCells (vramOf f) 0).ShowsCells :=
  ⟨(clean_twoCells f).visibleLine.2
      (show twoCells.topH ≤ 0 ∧ 0 < twoCells.topH + twoCells.shownH by decide),
    (clean_twoCells f).showsCells.2 (show twoCells.Shows 0 by decide)⟩

theorem tick_twoCells : ∃ v', (atBlank twoCells (vramOf f) 0).tick .panics = some v' ∧
    ∀ c < 2, v'.framebuffer.pixels[c]? = some ((atBlank twoCells (vramOf f) 0).pixel c 0) := by
  obtain ⟨v', htick⟩ := tick_of_fits (m := .panics) (clean_twoCells f) rfl
    (show 0 + 1 < 2 ^ 64 by decide) (show twoCells.LineFits 0 by decide)
  refine ⟨v', htick, ?_⟩
  intro c hc
  obtain ⟨hvisible, hshows⟩ := shows_twoCells f
  have hcell := tick_cell (clean_twoCells f) rfl hvisible hshows htick hc (show 0 < 1 by decide)
  have hcolumn : 0 + (c * 1 + 0) + 0 * 3 = c := by omega
  change v'.framebuffer.pixels[0 + (c * 1 + 0) + 0 * 3]? = _ at hcell
  rw [hcolumn] at hcell
  exact hcell

/-- The line is the first one of the first row of cells. -/
theorem cellY_twoCells : (atBlank twoCells (vramOf f) 0).cellY = 0 ∧
    (atBlank twoCells (vramOf f) 0).cellYOffset = 0 := by
  have hp := (clean_twoCells f).programmed
  rw [cellY, cellYOffset, scrolledY, hp.topBorderHeight, hp.cellHeight, registers_atBlank,
    rasterY_atBlank]
  decide

/-- The character codes are at the start of the VRAM. -/
theorem code_twoCells (c : ℕ) : (atBlank twoCells (vramOf f) 0).code c = f (c % VRAM_SIZE) := by
  have hfirst : twoCells.dispStartAddr.toNat + 0 * twoCells.horizDisplayed.toNat + c = c := by
    rw [Nat.zero_mul]
    exact Nat.zero_add c
  rw [code, vramByte_eq, memory_vramOf (vram_atBlank ..), (cellY_twoCells f).1, registers_atBlank,
    hfirst]

theorem attr_twoCells (c : ℕ) :
    (atBlank twoCells (vramOf f) 0).attr c =
      f ((2 + ((atBlank twoCells (vramOf f) 0).code c).toNat) % VRAM_SIZE) := by
  rw [attr, memory_vramOf (vram_atBlank ..), registers_atBlank]
  rfl

theorem attributed_twoCells : (atBlank twoCells (vramOf f) 0).Attributed := by
  rw [Attributed, registers_atBlank]
  decide

theorem exchanges_twoCells (attr : U8) :
    (atBlank twoCells (vramOf f) 0).exchanges attr =
      ((attr &&& Attribute.UNDERLINE != 0) ^^
        ((attr &&& Attribute.BLINK != 0) ^^ (attr &&& Attribute.REVERSE != 0))) := by
  have hblinking : (atBlank twoCells (vramOf f) 0).blinking = true := by
    rw [blinking, blinkTimer_atBlank]
    decide
  have hline : ((0 : ℕ) == (twoCells.underlineCtrl &&& 0x0F).toNat) = true := by decide
  rw [exchanges, (cellY_twoCells f).2, registers_atBlank, hline, hblinking, Bool.and_true,
    Bool.and_true]

/-- The cursor is elsewhere. -/
theorem cursorLit_twoCells {c : ℕ} (hc : c < 2) :
    (atBlank twoCells (vramOf f) 0).cursorLit c = false := by
  have hcursor : (c + 0 * twoCells.horizDisplayed.toNat == twoCells.cursorPos.toNat) = false := by
    rw [Nat.zero_mul, Nat.add_zero]
    exact beq_false_of_ne (show c ≠ 9 by omega)
  rw [cursorLit, (cellY_twoCells f).1, registers_atBlank, hcursor]
  rfl

theorem glyph_twoCells (c : ℕ) :
    (atBlank twoCells (vramOf f) 0).glyph c =
      f (((if (atBlank twoCells (vramOf f) 0).attr c &&& Attribute.ALTERNATE_CHARACTER != 0
        then 0 else 256) + ((atBlank twoCells (vramOf f) 0).code c).toNat) * 16 % VRAM_SIZE) := by
  have hbase : ∀ n, twoCells.charBaseAddr.toNat + n + 0 = n := Nat.zero_add
  rw [glyph_attributed (attributed_twoCells f), memory_vramOf (vram_atBlank ..),
    (cellY_twoCells f).2, registers_atBlank, hbase]

end

/-- Characters 0 and 1, with the attributes `attr` and 0. -/
def besidesBytes (attr : U8) (addr : ℕ) : U8 :=
  if addr = 1 then 1 else if addr = 2 then attr else 0

def besides (attr : U8) : Vdc := atBlank twoCells (vramOf (besidesBytes attr)) 0

section

variable (attr : U8)

/-- The second cell is the same whatever the attribute of the first. -/
theorem second_besides :
    (besides attr).code 1 = 1 ∧ (besides attr).attr 1 = 0 ∧ (besides attr).glyph 1 = 0 := by
  have hcode : (besides attr).code 1 = 1 := code_twoCells _ 1
  have hattr : (besides attr).attr 1 = 0 := by
    rw [besides, attr_twoCells, ← besides, hcode]
    rfl
  refine ⟨hcode, hattr, ?_⟩
  rw [besides, glyph_twoCells, ← besides, hattr, hcode]
  rfl

theorem inherited_besides : (besides attr).inherited 1 =
    if (besides attr).exchanges attr then colorLookup attr else 0xFF000000 := by
  have hcode : (besides attr).code 0 = 0 := code_twoCells _ 0
  have hattr : (besides attr).attr 0 = attr := by
    rw [besides, attr_twoCells, ← besides, hcode]
    rfl
  have hline : (besides attr).lineColors.2 = 0xFF000000 := by
    rw [lineColors, besides, registers_atBlank]
    decide
  rw [inherited, inherited, hattr, hline]

/-- The second cell shows the background that it finds. -/
theorem pixel_besides : (besides attr).pixel 1 0 =
    if (besides attr).exchanges attr then colorLookup attr else 0xFF000000 := by
  obtain ⟨-, hattr, hglyph⟩ := second_besides attr
  have hbit : (besides attr).glyphBit 1 0 = (besides attr).exchanged 1 := by
    rw [glyphBit, exchanged, hglyph, hattr, besides, cursorLit_twoCells _ (by decide),
      exchanges_twoCells]
    exact Bool.and_false _
  have hon : (besides attr).Attributed := attributed_twoCells _
  rw [pixel_attributed hon, if_pos hbit, inherited_besides]

theorem sameCell_besides (attr' : U8) : SameCell (besides attr) (besides attr') 1 := by
  obtain ⟨hcode, hattr, hglyph⟩ := second_besides attr
  obtain ⟨hcode', hattr', hglyph'⟩ := second_besides attr'
  exact ⟨hcode'.trans hcode.symm, fun _ => hattr'.trans hattr.symm, hglyph'.trans hglyph.symm⟩

end

/-- The colour of the first cell does not show in the second. -/
theorem cells_independent_iff_colour :
    ∃ v' w', (besides 0x00).tick .panics = some v' ∧ (besides 0x0F).tick .panics = some w' ∧
      v'.framebuffer.pixels[1]? = w'.framebuffer.pixels[1]? := by
  obtain ⟨v', hv', -⟩ := tick_twoCells (besidesBytes 0x00)
  obtain ⟨w', hw', -⟩ := tick_twoCells (besidesBytes 0x0F)
  obtain ⟨hvisible, hshows⟩ := shows_twoCells (besidesBytes 0x00)
  have hinherited : (besides 0x00).inherited 1 = (besides 0x0F).inherited 1 := by
    rw [inherited_besides, inherited_besides, besides, besides, exchanges_twoCells,
      exchanges_twoCells]
    decide
  refine ⟨v', w', hv', hw', ?_⟩
  have hcells := (cells_independent_iff .panics (fun _ => (clean_twoCells _).toSized)
    (sameScreen_atBlank ..) (refresh_atBlank ..) (refresh_atBlank ..) rfl hvisible hshows hv' hw'
    (show 1 < 2 by decide) (sameCell_besides 0x00 0x0F)).2 (fun _ => Or.inl hinherited)
  exact hcells 0 (show 0 < 1 by decide)

/-- An attribute that reverses shows in the next cell. -/
theorem cells_leak :
    SameScreen (besides 0x00) (besides 0x4F) ∧ SameCell (besides 0x00) (besides 0x4F) 1 ∧
      ∃ v' w', (besides 0x00).tick .panics = some v' ∧ (besides 0x4F).tick .panics = some w' ∧
        v'.framebuffer.pixels[1]? = some 0xFF000000 ∧
        w'.framebuffer.pixels[1]? = some 0xFFFFFFFF := by
  obtain ⟨v', hv', hpixelv⟩ := tick_twoCells (besidesBytes 0x00)
  obtain ⟨w', hw', hpixelw⟩ := tick_twoCells (besidesBytes 0x4F)
  refine ⟨sameScreen_atBlank .., sameCell_besides _ _, v', w', hv', hw', ?_, ?_⟩
  · rw [hpixelv 1 (by decide), ← besides, pixel_besides, besides, exchanges_twoCells]
    decide
  · rw [hpixelw 1 (by decide), ← besides, pixel_besides, besides, exchanges_twoCells]
    decide

/-! ### Two cells with the same character -/

/-- Character 0 twice.  Its attribute is white and its glyph in the second set has a bit; the
attribute of the second position is green, and the glyph in the first set has none. -/
def sameBytes (addr : ℕ) : U8 :=
  if addr = 2 then 0x0F else if addr = 3 then 0x04 else if addr = 4096 then 0x80 else 0

def sameCharacter : Vdc := atBlank twoCells (vramOf sameBytes) 0

theorem pixel_sameCharacter {c : ℕ} (hc : c < 2) : sameCharacter.pixel c 0 = 0xFFFFFFFF := by
  have hmod : c % VRAM_SIZE = c := Nat.mod_eq_of_lt (hc.trans (by decide))
  have hcode : sameCharacter.code c = 0 := by
    rw [sameCharacter, code_twoCells, hmod, sameBytes, if_neg (by omega), if_neg (by omega),
      if_neg (by omega)]
  have hattr : sameCharacter.attr c = 0x0F := by
    rw [sameCharacter, attr_twoCells, ← sameCharacter, hcode]
    rfl
  have hglyph : sameCharacter.glyph c = 0x80 := by
    rw [sameCharacter, glyph_twoCells, ← sameCharacter, hattr, hcode]
    rfl
  have hbit : sameCharacter.glyphBit c 0 = true := by
    rw [glyphBit, hglyph]
    rfl
  have hexchanged : sameCharacter.exchanged c = false := by
    rw [exchanged, hattr, sameCharacter, cursorLit_twoCells _ hc, exchanges_twoCells]
    decide
  have hon : sameCharacter.Attributed := attributed_twoCells _
  rw [pixel_attributed hon, hbit, hexchanged, hattr]
  rfl

/-- The second cell has the attribute of the first and the set it does not name. -/
theorem attributes_of_code_second :
    ∃ v', sameCharacter.tick .panics = some v' ∧
      sameCharacter.charSet 1 =
        (if sameCharacter.attr 1 &&& Attribute.ALTERNATE_CHARACTER ≠ 0 then 0 else 256) ∧
      sameCharacter.attr 0 = sameCharacter.attr 1 := by
  obtain ⟨v', hv', -⟩ := tick_twoCells sameBytes
  obtain ⟨hvisible, hshows⟩ := shows_twoCells sameBytes
  have hon : sameCharacter.Attributed := attributed_twoCells _
  have hcode : sameCharacter.code 0 = sameCharacter.code 1 := by
    rw [sameCharacter, code_twoCells, code_twoCells]
    rfl
  obtain ⟨-, hset, hsame, -⟩ := attributes_of_code .panics (fun _ => (clean_twoCells _).toSized)
    (refresh_atBlank ..) hon rfl hvisible hshows hv' (show 1 < 2 by decide)
  exact ⟨v', hv', hset, hsame 0 hcode⟩

/-- Both cells are white, where the second should have been green, and from the other set. -/
theorem attributes_shared :
    sameCharacter.memory (2 + (0 * 2 + 1)) = 0x04 ∧ ¬ sameCharacter.ByPosition 1 ∧
      ∃ v', sameCharacter.tick .panics = some v' ∧
        v'.framebuffer.pixels[0]? = some 0xFFFFFFFF ∧
        v'.framebuffer.pixels[1]? = some 0xFFFFFFFF := by
  obtain ⟨v', hv', hpixel⟩ := tick_twoCells sameBytes
  have hon : sameCharacter.Attributed := attributed_twoCells _
  refine ⟨?_, not_byPosition hon 1, v', hv', ?_, ?_⟩
  · rw [sameCharacter, memory_vramOf (vram_atBlank ..)]
    rfl
  · rw [hpixel 0 (by decide), ← sameCharacter, pixel_sameCharacter (by decide)]
  · rw [hpixel 1 (by decide), ← sameCharacter, pixel_sameCharacter (by decide)]

end Possum.Vdc
