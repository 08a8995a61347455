import Possum.Vdc.Scanline

/-!
# Lines and rows

A line between the borders draws its right border up to the sync, while the framebuffer is
narrower by what is between the display enables.  So it goes on into the next row, and does not
show exactly where the colours are there already (**`row_confined_iff`**).  Which geometries keep
every line in its row, whatever the pixels, is a matter of the registers alone
(`Registers.StaysInRow`); that of the demo does not (`helloVdc_spills`).
-/

set_option autoImplicit false

namespace Possum.Vdc

open Lib

variable {m : Overflow} {v v' : Vdc}

/-- The positions of the row under the raster. -/
def row (v : Vdc) : Set ℕ :=
  Set.Ico (v.rasterY * v.framebuffer.width)
    (v.rasterY * v.framebuffer.width + v.framebuffer.width)

/-- Between `v` and `v'` no pixel outside the row has changed. -/
def RowConfined (v v' : Vdc) : Prop :=
  ∀ i, i ∉ v.row → v'.framebuffer.pixels[i]? = v.framebuffer.pixels[i]?

/-- Line `y` ends in its row: what it draws is as wide as the framebuffer at most. -/
def Registers.StaysInRow (r : Registers) (y : ℕ) : Prop :=
  r.topH ≤ y ∧ y < r.topH + r.shownH →
    r.leftW ≤ r.bufferW ∧
      (r.signalW - r.syncW ≤ r.bufferW ∨ r.signalW - r.syncW ≤ r.leftW + r.shownW) ∧
      (r.Shows y → r.shownW = 0 ∨ r.leftW + r.shownW ≤ r.bufferW)

instance (r : Registers) (y : ℕ) : Decidable (r.StaysInRow y) :=
  inferInstanceAs (Decidable (_ → _))

/-! ### Positions -/

theorem Ico_subset_row {y w a b : ℕ} :
    Set.Ico (y * w + a) (y * w + b) ⊆ Set.Ico (y * w) (y * w + w) ↔ b ≤ a ∨ b ≤ w := by
  constructor
  · intro h
    by_contra hne
    have hlast : y * w + (b - 1) ∈ Set.Ico (y * w + a) (y * w + b) := ⟨by omega, by omega⟩
    have hin := (h hlast).2
    omega
  · intro h i hi
    rw [Set.mem_Ico] at hi ⊢
    omega

theorem drawn_subset_row (r : Registers) (y : ℕ) :
    r.drawn y ⊆ Set.Ico (y * r.bufferW) (y * r.bufferW + r.bufferW) ↔ r.StaysInRow y := by
  unfold Registers.drawn Registers.StaysInRow
  by_cases htop : y < r.topH
  · rw [if_pos htop]
    exact iff_of_true subset_rfl fun h => absurd htop (Nat.not_lt.2 h.1)
  · rw [if_neg htop]
    by_cases hvisible : y < r.topH + r.shownH
    · rw [if_pos hvisible, imp_iff_right ⟨Nat.not_lt.1 htop, hvisible⟩, Set.union_subset_iff,
        Set.union_subset_iff, Ico_subset_row, and_assoc]
      have hleft := Ico_subset_row (y := y) (w := r.bufferW) (a := 0) (b := r.leftW)
      rw [Nat.add_zero] at hleft
      have hcells : (if r.Shows y then
            Set.Ico (y * r.bufferW + r.leftW) (y * r.bufferW + (r.leftW + r.shownW))
          else ∅) ⊆ Set.Ico (y * r.bufferW) (y * r.bufferW + r.bufferW) ↔
            (r.Shows y → r.shownW = 0 ∨ r.leftW + r.shownW ≤ r.bufferW) := by
        by_cases hshows : r.Shows y
        · rw [if_pos hshows, Ico_subset_row, imp_iff_right hshows]
          omega
        · rw [if_neg hshows]
          exact iff_of_true (Set.empty_subset _) fun h => absurd h hshows
      rw [hleft, hcells, or_comm (a := r.signalW - r.syncW ≤ _)]
      exact and_congr_left fun _ => by omega
    · rw [if_neg hvisible]
      refine iff_of_true ?_ fun h => absurd h.2 hvisible
      split
      · exact subset_rfl
      · exact Set.empty_subset _

/-! ### A tick -/

/-- The row of a chip whose sizes are up to date. -/
theorem row_eq (hv : Sized v) : v.row =
    Set.Ico (v.rasterY * v.registers.bufferW)
      (v.rasterY * v.registers.bufferW + v.registers.bufferW) := by
  rw [row, hv.width]

theorem rowConfined_iff (h : Drawn v.lineDrawn v.framebuffer.pixels v'.framebuffer.pixels) :
    RowConfined v v' ↔ ∀ i ∉ v.row, ∀ color, v.lineDrawn i = some color →
      v.framebuffer.pixels[i]? = some color := by
  refine forall₂_congr fun i _ => ?_
  rw [h]
  cases v.lineDrawn i with
  | none => exact iff_of_true (Option.none_or) nofun
  | some color =>
    rw [Option.some_or]
    constructor
    · rintro hsame color' hcolor
      rw [← hsame, hcolor]
    · intro hsame
      exact (hsame color rfl).symm

/-- A line that ends in its row changes nothing outside of it, whatever the pixels. -/
theorem rowConfined_of_stays (hv : Clean v) (hx : v.rasterX = v.parameters.hsyncStart)
    (h : v.tick m = some v') (hstays : v.registers.StaysInRow v.rasterY) : RowConfined v v' := by
  rw [rowConfined_iff (tick_drawn hv hx h).2]
  intro i hi color hcolor
  have hdrawn : i ∈ v.registers.drawn v.rasterY :=
    (lineDrawn_isSome hv.toSized).1 (Option.isSome_of_eq_some hcolor)
  have hin := (drawn_subset_row _ _).2 hstays hdrawn
  rw [← row_eq hv.toSized] at hin
  exact absurd hin hi

/-- The same chip with other pixels. -/
theorem clean_withPixels (hv : Clean v) {pixels : List U32}
    (hlen : pixels.length = v.framebuffer.pixels.length) : Clean (v.withPixels pixels) :=
  ⟨⟨hv.programmed, hv.width, hlen.trans hv.length⟩, hv.dirty⟩

/-- A line that does not end in its row changes a pixel outside of it that is not drawn yet. -/
theorem exists_not_rowConfined (hv : Clean v) (hx : v.rasterX = v.parameters.hsyncStart)
    (h : v.tick m = some v') (hspills : ¬ v.registers.StaysInRow v.rasterY) :
    ∃ pixels w', pixels.length = v.framebuffer.pixels.length ∧
      (v.withPixels pixels).tick m = some w' ∧ ¬ RowConfined (v.withPixels pixels) w' := by
  have hvisible : v.VisibleLine := by
    rw [hv.toSized.visibleLine]
    by_contra hborder
    exact hspills fun h => absurd h hborder
  rw [← drawn_subset_row, ← row_eq hv.toSized, Set.not_subset] at hspills
  obtain ⟨i, hdrawn, hout⟩ := hspills
  obtain ⟨color, hcolor⟩ := Option.isSome_iff_exists.1 ((lineDrawn_isSome hv.toSized).2 hdrawn)
  obtain ⟨hlen, hpixels⟩ := tick_drawn hv hx h
  have hi : i < v.framebuffer.pixels.length := by
    have hpixel := hpixels i
    rw [hcolor, Option.some_or] at hpixel
    obtain ⟨hlt, -⟩ := List.getElem?_eq_some_iff.1 hpixel
    rwa [hlen] at hlt
  -- a chip with another colour there
  let pixels := v.framebuffer.pixels.set i (color + 1)
  have hcount : pixels.length = v.framebuffer.pixels.length := List.length_set
  have hclean := clean_withPixels hv hcount
  have hy := rasterY_lt_of_visible hv.toSized hvisible
  have hfits := lineFits_of_tick hv hx hvisible h
  obtain ⟨w', hw'⟩ := tick_of_fits (m := m) hclean hx hy hfits
  refine ⟨pixels, w', hcount, hw', ?_⟩
  intro hconfined
  have halike : Alike v (v.withPixels pixels) := ⟨rfl, rfl, rfl, rfl, rfl, rfl⟩
  have hkept : pixels[i]? = some color := by
    rw [rowConfined_iff (tick_drawn hclean hx hw').2, halike.lineDrawn] at hconfined
    exact hconfined i hout color hcolor
  rw [List.getElem?_set_self hi] at hkept
  have hne : color + 1 ≠ color := by bv_omega
  exact hne (Option.some.inj hkept)

/-- **A line and its row.**  A tick at the start of the horizontal blank changes nothing outside
the row of the raster exactly if what it draws there is there already; with any pixels, exactly
if the line ends in its row. -/
theorem row_confined_iff (m : Overflow) {v v' : Vdc} (hv : Clean v)
    (hx : v.rasterX = v.parameters.hsyncStart) (h : v.tick m = some v') :
    (RowConfined v v' ↔ ∀ i ∉ v.row, ∀ color, v.lineDrawn i = some color →
      v.framebuffer.pixels[i]? = some color) ∧
    ((∀ pixels w', pixels.length = v.framebuffer.pixels.length →
        (v.withPixels pixels).tick m = some w' → RowConfined (v.withPixels pixels) w') ↔
      v.registers.StaysInRow v.rasterY) := by
  refine ⟨rowConfined_iff (tick_drawn hv hx h).2, ?_, ?_⟩
  · intro hall
    by_contra hspills
    obtain ⟨pixels, w', hcount, hw', hnot⟩ := exists_not_rowConfined hv hx h hspills
    exact hnot (hall pixels w' hcount hw')
  · intro hstays pixels w' hcount hw'
    exact rowConfined_of_stays (clean_withPixels hv hcount) hx hw' hstays

/-! ### The demo -/

theorem pixels_atBlank (r : Registers) (vram : Vector U8 VRAM_SIZE) (y : ℕ) :
    (atBlank r vram y).framebuffer.pixels =
      List.replicate
        ((atBlank r vram y).framebuffer.width * (atBlank r vram y).framebuffer.height) 0 := by
  show List.take _ [] ++ List.replicate (_ - 0) 0 = _
  rw [List.take_nil, List.nil_append, Nat.sub_zero]
  rfl

/-- Without the display enables the demo's first line ends in its row. -/
theorem row_confined_iff_enabled :
    ∃ v', (atBlank { helloVdc with dispEnableEnd := 100 } (vramOf fun _ => 0) 28).tick .panics =
        some v' ∧
      RowConfined (atBlank { helloVdc with dispEnableEnd := 100 } (vramOf fun _ => 0) 28) v' := by
  have hclean : Clean (atBlank { helloVdc with dispEnableEnd := 100 } (vramOf fun _ => 0) 28) :=
    clean_atBlank (by decide) (by decide) _ _
  obtain ⟨v', htick⟩ := tick_of_fits (m := .panics) hclean rfl (show 28 + 1 < 2 ^ 64 by decide)
    (show Registers.LineFits { helloVdc with dispEnableEnd := 100 } 28 by decide)
  refine ⟨v', htick, ?_⟩
  exact (row_confined_iff .panics hclean rfl htick).2.2
    (show Registers.StaysInRow { helloVdc with dispEnableEnd := 100 } 28 by decide) _ _ rfl htick

/-- The demo's first line goes on for 200 pixels of the second. -/
theorem helloVdc_spills :
    ∃ v', (atBlank helloVdc (vramOf fun _ => 0) 28).tick .panics = some v' ∧
      (atBlank helloVdc (vramOf fun _ => 0) 28).framebuffer.pixels[29 * 752 + 199]? = some 0 ∧
      v'.framebuffer.pixels[29 * 752 + 199]? = some 0xFFAA0000 ∧
      ¬ RowConfined (atBlank helloVdc (vramOf fun _ => 0) 28) v' := by
  have hclean : Clean (atBlank helloVdc (vramOf fun _ => 0) 28) :=
    clean_atBlank (by decide) (by decide) _ _
  obtain ⟨v', htick⟩ := tick_of_fits (m := .panics) hclean rfl (show 28 + 1 < 2 ^ 64 by decide)
    (show helloVdc.LineFits 28 by decide)
  have hbefore : (atBlank helloVdc (vramOf fun _ => 0) 28).framebuffer.pixels[29 * 752 + 199]? =
      some 0 := by
    rw [pixels_atBlank]
    exact List.getElem?_replicate_of_lt (show 29 * 752 + 199 < 752 * 260 by decide)
  have hvisible : (atBlank helloVdc (vramOf fun _ => 0) 28).VisibleLine :=
    hclean.visibleLine.2 (show helloVdc.topH ≤ 28 ∧ 28 < helloVdc.topH + helloVdc.shownH by decide)
  have hdrawn : (atBlank helloVdc (vramOf fun _ => 0) 28).lineDrawn (29 * 752 + 199) =
      some 0xFFAA0000 := by
    have hcolumn : (atBlank helloVdc (vramOf fun _ => 0) 28).column 951 = 29 * 752 + 199 := rfl
    rw [← hcolumn, lineDrawn_right hclean.toSized hvisible (show 52 + 640 ≤ 951 by decide)
      (show 951 < 1016 - 64 by decide), lineColors, registers_atBlank]
    decide
  have hafter : v'.framebuffer.pixels[29 * 752 + 199]? = some 0xFFAA0000 := by
    rw [(tick_drawn hclean rfl htick).2, hdrawn]
    rfl
  refine ⟨v', htick, hbefore, hafter, ?_⟩
  intro hconfined
  have hout : 29 * 752 + 199 ∉ (atBlank helloVdc (vramOf fun _ => 0) 28).row := by
    rintro ⟨-, hlt⟩
    exact absurd hlt (show ¬ 29 * 752 + 199 < 28 * 752 + 752 by decide)
  have hsame := hconfined (29 * 752 + 199) hout
  rw [hbefore, hafter] at hsame
  exact absurd hsame (by decide)

end Possum.Vdc
