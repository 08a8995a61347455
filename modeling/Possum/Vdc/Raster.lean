import Possum.Vdc.Panics
import Possum.Lib.Scan

/-!
# The raster

The raster is compared with the size of the signal for equality alone, and the signal can change
under it.  If every tick that derives new sizes finds the raster inside the signal that the
registers ask for (`Covered`), then it stays inside, in every state of every run: it scans the
signal line by line (`ticks_scan`), so lines and frames complete, the framebuffer is presented in
every frame, and whatever the registers hold, some program presents it again
(`raster_stays_inside`).
-/

set_option autoImplicit false

namespace Possum.Vdc

open Lib

/-- The position of the raster. -/
def raster (v : Vdc) : ℕ × ℕ := (v.rasterX, v.rasterY)

/-- The signal is as the registers ask, `horiz_total + 1` cells wide and `vert_total + 1` cells
high, and the raster is in it. -/
structure Inside (v : Vdc) : Prop where
  width : v.parameters.signalWidth = (v.registers.horizTotal.toNat + 1) * v.parameters.cellWidth
  height : v.parameters.signalHeight = (v.registers.vertTotal.toNat + 1) * v.parameters.cellHeight
  inGrid : Scan.InGrid v.parameters.signalWidth v.parameters.signalHeight v.raster

/-- A tick that derives new sizes finds the raster inside the signal the registers ask for, and
their number of cells does not wrap. -/
def Covered (v : Vdc) : Op → Prop
  | .tick => v.parametersDirty = true →
    v.registers.horizTotal ≠ 255 ∧ v.registers.vertTotal ≠ 255 ∧
      v.rasterX < (v.registers.horizTotal.toNat + 1) * v.registers.cellW ∧
      v.rasterY < (v.registers.vertTotal.toNat + 1) * v.registers.cellH
  | _ => True

variable {m : Overflow} {v v' : Vdc}

/-! ### One tick -/

theorem signalW_eq {r : Registers} (h : r.horizTotal ≠ 255) :
    r.signalW = (r.horizTotal.toNat + 1) * r.cellW := by
  have hlt := r.horizTotal.isLt
  have hne : r.horizTotal.toNat ≠ 255 := by
    intro h0
    exact h (BitVec.eq_of_toNat_eq h0)
  rw [Registers.signalW, Nat.mod_eq_of_lt (by omega)]

theorem signalH_eq {r : Registers} (h : r.vertTotal ≠ 255) :
    r.signalH = (r.vertTotal.toNat + 1) * r.cellH := by
  have hlt := r.vertTotal.isLt
  have hne : r.vertTotal.toNat ≠ 255 := by
    intro h0
    exact h (BitVec.eq_of_toNat_eq h0)
  rw [Registers.signalH, Nat.mod_eq_of_lt (by omega)]

theorem Registers.signalW_le (r : Registers) : r.signalW ≤ 255 * 15 :=
  Nat.mul_le_mul (Nat.le_of_lt_succ (Nat.mod_lt _ (by decide))) (Nat.le_of_lt_succ r.cellW_lt)

theorem Registers.signalH_le (r : Registers) : r.signalH ≤ 255 * 31 :=
  Nat.mul_le_mul (Nat.le_of_lt_succ (Nat.mod_lt _ (by decide))) (Nat.le_of_lt_succ r.cellH_lt)

/-- What holds of the raster in every state of a covered run. -/
structure Contained (v : Vdc) : Prop where
  upToDate : UpToDate v
  inside : v.parametersDirty = false → Inside v
  rasterX : v.rasterX < 255 * 15
  rasterY : v.rasterY < 255 * 31

theorem contained_new : Contained new where
  upToDate := upToDate_new
  inside := nofun
  rasterX := by decide
  rasterY := by decide

theorem inside_refresh (hv : Contained v) (hc : Covered v .tick) (h : v.refresh m = some v') :
    Sized v' ∧ Inside v' ∧ v'.raster = v.raster := by
  have hsized := sized_refresh hv.upToDate h
  obtain ⟨hclean, rfl⟩ | ⟨hdirty, enabled, pos, henabled, hpos, rfl⟩ := refresh_cases h
  · exact ⟨hsized, hv.inside hclean, rfl⟩
  · obtain ⟨hwidth, hheight, hx, hy⟩ := hc hdirty
    have hp := programmed_sizes henabled hpos
    have hw : (sizes v.registers enabled pos).signalWidth =
        (v.registers.horizTotal.toNat + 1) * v.registers.cellW := by
      rw [hp.signalWidth, signalW_eq hwidth]
    have hh : (sizes v.registers enabled pos).signalHeight =
        (v.registers.vertTotal.toNat + 1) * v.registers.cellH := by
      rw [hp.signalHeight, signalH_eq hheight]
    refine ⟨hsized, ?_, ?_⟩
    · constructor
      case width => rw [resized_parameters, resized_registers, hw, hp.cellWidth]
      case height => rw [resized_parameters, resized_registers, hh, hp.cellHeight]
      case inGrid =>
        rw [resized_parameters, raster, resized_rasterX, resized_rasterY, hw, hh]
        exact ⟨hx, hy⟩
    · rw [raster, resized_rasterX, resized_rasterY, raster]

/-- `v'` is `v` with the raster moved on. -/
structure Moved (v v' : Vdc) : Prop where
  parameters : v'.parameters = v.parameters
  registers : v'.registers = v.registers
  raster : v'.raster =
    Scan.next v.parameters.signalWidth v.parameters.signalHeight v.raster
  ready : v.rasterX + 1 = v.parameters.signalWidth →
    v'.framebufferReady = (v.rasterY + 1 == v.parameters.vsyncStart)

/-- **The raster's move**, where neither coordinate leaves its word. -/
theorem advance_eq (hx : v.rasterX + 1 < 2 ^ 64)
    (hy : v.rasterX + 1 = v.parameters.signalWidth → v.rasterY + 1 < 2 ^ 64)
    (h : v.advance m = some v') :
    v' = { v with
      rasterX := (Scan.next v.parameters.signalWidth v.parameters.signalHeight v.raster).1
      rasterY := (Scan.next v.parameters.signalWidth v.parameters.signalHeight v.raster).2
      framebufferReady :=
        if v.rasterX + 1 = v.parameters.signalWidth then v.rasterY + 1 == v.parameters.vsyncStart
        else v.framebufferReady
      blinkTimer :=
        if v.rasterX + 1 = v.parameters.signalWidth ∧ v.rasterY + 1 = v.parameters.signalHeight then
          wrappingAdd 64 v.blinkTimer 1
        else v.blinkTimer } := by
  obtain ⟨x, hxsum, hcases⟩ := advance_cases h
  rw [Overflow.add_of_lt hx] at hxsum
  obtain rfl := Option.some.inj hxsum
  obtain ⟨hne, rfl⟩ | ⟨hend, y, hysum, rfl⟩ := hcases
  · have hnext : Scan.next v.parameters.signalWidth v.parameters.signalHeight v.raster =
        (v.rasterX + 1, v.rasterY) := if_neg hne
    rw [hnext, if_neg hne, if_neg fun hlast => hne hlast.1]
  · rw [Overflow.add_of_lt (hy hend)] at hysum
    obtain rfl := Option.some.inj hysum
    have hnext : Scan.next v.parameters.signalWidth v.parameters.signalHeight v.raster =
        (0, if v.rasterY + 1 = v.parameters.signalHeight then 0 else v.rasterY + 1) := if_pos hend
    rw [hnext, if_pos hend, if_congr (and_iff_right hend) rfl rfl]

theorem moved_advance (hx : v.rasterX + 1 < 2 ^ 64)
    (hy : v.rasterX + 1 = v.parameters.signalWidth → v.rasterY + 1 < 2 ^ 64)
    (h : v.advance m = some v') : Moved v v' := by
  obtain rfl := advance_eq hx hy h
  constructor
  case parameters => rfl
  case registers => rfl
  case raster => rfl
  case ready => exact fun hend => if_pos hend

/-- **A covered tick scans**: from inside the signal of the refreshed sizes the raster moves to the
next position of it. -/
theorem tick_scans (hv : Contained v) (hc : Covered v .tick) (h : v.tick m = some v') :
    ∃ v₂, Inside v₂ ∧ v₂.raster = v.raster ∧ v₂.registers = v.registers ∧
      (v.parametersDirty = false → v₂.parameters = v.parameters) ∧ Moved v₂ v' := by
  obtain ⟨v₁, v₂, hrefresh, hrender, hadvance⟩ := tick_cases h
  have hcleared : Contained v.cleared :=
    { upToDate := hv.upToDate.cleared
      inside := fun hclean =>
        ⟨(hv.inside hclean).width, (hv.inside hclean).height, (hv.inside hclean).inGrid⟩
      rasterX := hv.rasterX
      rasterY := hv.rasterY }
  obtain ⟨-, hin, hraster⟩ := inside_refresh hcleared hc hrefresh
  have hregs : v₁.registers = v.registers ∧
      (v.parametersDirty = false → v₁.parameters = v.parameters) := by
    obtain ⟨-, rfl⟩ | ⟨hdirty, enabled, pos, -, -, rfl⟩ := refresh_cases hrefresh
    · exact ⟨rfl, fun _ => rfl⟩
    · exact ⟨resized_registers _ _, fun hclean => Bool.noConfusion (hclean.symm.trans hdirty)⟩
  obtain ⟨⟨pixels, status, rfl⟩, -⟩ := rendered_render hrender
  have hx : v₁.rasterX = v.rasterX := congrArg Prod.fst hraster
  have hy : v₁.rasterY = v.rasterY := congrArg Prod.snd hraster
  have hxlt := hv.rasterX
  have hylt := hv.rasterY
  refine ⟨{ v₁.withPixels pixels with status := status }, ⟨hin.width, hin.height, hin.inGrid⟩,
    hraster, hregs.1, hregs.2, moved_advance ?_ ?_ hadvance⟩
  · show v₁.rasterX + 1 < 2 ^ 64
    omega
  · intro _
    show v₁.rasterY + 1 < 2 ^ 64
    omega

theorem Inside.moved (hv : Inside v) (h : Moved v v') : Inside v' := by
  constructor
  case width => rw [h.parameters, h.registers, hv.width]
  case height => rw [h.parameters, h.registers, hv.height]
  case inGrid =>
    rw [h.parameters, h.raster]
    exact Scan.inGrid_next hv.inGrid

theorem contained_tick (hv : Contained v) (hc : Covered v .tick) (h : v.tick m = some v') :
    Contained v' := by
  obtain ⟨v₂, hin, -, -, -, hmoved⟩ := tick_scans hv hc h
  have hsized := sized_tick hv.upToDate h
  have hin' := hin.moved hmoved
  have hgrid := hin'.inGrid
  rw [hsized.programmed.signalWidth, hsized.programmed.signalHeight] at hgrid
  constructor
  case upToDate => exact fun _ => hsized
  case inside => exact fun _ => hin'
  case rasterX => exact hgrid.1.trans_le v'.registers.signalW_le
  case rasterY => exact hgrid.2.trans_le v'.registers.signalH_le

/-- **A covered step keeps the raster inside.** -/
theorem contained_step (v : Vdc) (op : Op) (o : Option U8) (v' : Vdc) (hv : Contained v)
    (hc : Covered v op) (h : step m v op = some (o, v')) : Contained v' := by
  have hup := upToDate_step hv.upToDate h
  obtain ⟨rfl, htick⟩ | ⟨port, b, rfl, hread⟩ | ⟨port, data, rfl, hwrite⟩ := step_cases h
  · exact contained_tick hv hc htick
  · obtain rfl | ⟨a, rfl⟩ := read_cases hread
    · exact hv
    · exact
        { upToDate := hup
          inside := fun hclean =>
            ⟨(hv.inside hclean).width, (hv.inside hclean).height, (hv.inside hclean).inGrid⟩
          rasterX := hv.rasterX
          rasterY := hv.rasterY }
  · have hframe := write_frame hwrite
    exact
      { upToDate := hup
        inside := fun hclean => Bool.noConfusion (hclean.symm.trans hframe.parametersDirty)
        rasterX := hframe.rasterX ▸ hv.rasterX
        rasterY := hframe.rasterY ▸ hv.rasterY }

/-! ### Ticks alone -/

/-- Lines and frames complete: `n` ticks move the raster on by `n` positions of the signal. -/
def Scans (m : Overflow) (v : Vdc) : Prop :=
  ∀ n os v', Machine.run (step m) v (List.replicate n .tick) = some (os, v') →
    v'.raster = (Scan.next v.parameters.signalWidth v.parameters.signalHeight)^[n] v.raster

/-- Every frame is presented: with the vertical sync in the signal, within as many ticks as the
signal has positions. -/
def Presents (m : Overflow) (v : Vdc) : Prop :=
  1 ≤ v.parameters.vsyncStart → v.parameters.vsyncStart ≤ v.parameters.signalHeight →
    ∃ n, 0 < n ∧ n ≤ v.parameters.signalWidth * v.parameters.signalHeight ∧
      ∀ os v', Machine.run (step m) v (List.replicate n .tick) = some (os, v') →
        v'.framebufferReady = true

theorem tick_of_clean (hv : Contained v) (hclean : v.parametersDirty = false)
    (h : v.tick m = some v') : Contained v' ∧ v'.parametersDirty = false ∧ Moved v v' := by
  have hc : Covered v .tick := fun hdirty => Bool.noConfusion (hclean.symm.trans hdirty)
  obtain ⟨v₂, hin, hraster, hregs, hparams, hmoved⟩ := tick_scans hv hc h
  have hp := hparams hclean
  have hx : v₂.rasterX = v.rasterX := congrArg Prod.fst hraster
  have hy : v₂.rasterY = v.rasterY := congrArg Prod.snd hraster
  refine ⟨contained_tick hv hc h, (tick_frame h).parametersDirty, ?_⟩
  constructor
  case parameters => rw [hmoved.parameters, hp]
  case registers => rw [hmoved.registers, hregs]
  case raster => rw [hmoved.raster, hp, hraster]
  case ready => rw [← hp, ← hx, ← hy]; exact hmoved.ready

/-- What a run of ticks from an up-to-date state leaves. -/
theorem ticks_scan (hv : Contained v) (hclean : v.parametersDirty = false) {n : ℕ}
    {os : List (Option U8)} (h : Machine.run (step m) v (List.replicate n .tick) = some (os, v')) :
    Contained v' ∧ v'.parametersDirty = false ∧ v'.parameters = v.parameters ∧
      v'.raster =
        (Scan.next v.parameters.signalWidth v.parameters.signalHeight)^[n] v.raster := by
  induction n generalizing v os with
  | zero =>
    cases h
    exact ⟨hv, hclean, rfl, rfl⟩
  | succ n ih =>
    obtain ⟨o, v₁, os', hstep, hrest, -⟩ := Machine.run_cons_eq_some h
    obtain ⟨w, htick, heq⟩ := Option.map_eq_some_iff.1 hstep
    cases heq
    obtain ⟨hv₁, hclean₁, hmoved⟩ := tick_of_clean hv hclean htick
    obtain ⟨hv', hclean', hparams, hraster⟩ := ih hv₁ hclean₁ hrest
    refine ⟨hv', hclean', hparams.trans hmoved.parameters, ?_⟩
    rw [hraster, hmoved.parameters, hmoved.raster, Function.iterate_succ_apply]

theorem scans_of_contained (hv : Contained v) (hclean : v.parametersDirty = false) :
    Scans m v := by
  intro n os v' h
  exact (ticks_scan hv hclean h).2.2.2

theorem presents_of_contained (hv : Contained v) (hclean : v.parametersDirty = false) :
    Presents m v := by
  intro hfirst hlast
  have hgrid := (hv.inside hclean).inGrid
  -- the last position of the line before the vertical sync
  have hline : Scan.InGrid v.parameters.signalWidth v.parameters.signalHeight
      (v.parameters.signalWidth - 1, v.parameters.vsyncStart - 1) := by
    have hw : v.raster.1 < v.parameters.signalWidth := hgrid.1
    exact ⟨by omega, by omega⟩
  obtain ⟨n, hn, hreach⟩ := Scan.reaches hgrid hline
  refine ⟨n + 1, Nat.succ_pos n, hn, ?_⟩
  intro os v' h
  rw [List.replicate_succ'] at h
  obtain ⟨os₁, v₁, os₂, hticks, hlast, -⟩ := Machine.run_append_eq_some h
  obtain ⟨hv₁, hclean₁, hparams, hraster⟩ := ticks_scan hv hclean hticks
  obtain ⟨o, w, os', hstep, hnil, -⟩ := Machine.run_cons_eq_some hlast
  obtain ⟨w', htick, heq⟩ := Option.map_eq_some_iff.1 hstep
  cases heq
  cases hnil
  have hmoved := (tick_of_clean hv₁ hclean₁ htick).2.2
  have hpos := hraster.trans hreach
  have hx : v₁.rasterX = v.parameters.signalWidth - 1 := congrArg Prod.fst hpos
  have hy : v₁.rasterY = v.parameters.vsyncStart - 1 := congrArg Prod.snd hpos
  have hw : v.raster.1 < v.parameters.signalWidth := hgrid.1
  rw [hmoved.ready (by rw [hparams]; omega), hparams, hy, beq_iff_eq]
  omega

/-! ### A program that presents the framebuffer -/

/-- The largest signal, with nothing shown in it. -/
def Registers.largest (r : Registers) : Registers :=
  { r with
    horizTotal := 254
    horizSync := 2
    syncWidths := 1
    vertTotal := 254
    vertDisplayed := 0
    vertSync := 255
    charTotalVert := 30
    charTotalDispHoriz := 0xE0
    dispEnableEnd := 0
    dispEnableBegin := 0 }

/-- The writes that program it. -/
def largestProgram : List Op :=
  [(0x00, 254), (0x02, 2), (0x03, 1), (0x04, 254), (0x06, 0), (0x07, 255), (0x09, 30),
    (0x16, 0xE0), (0x22, 0), ((0x23, 0) : U8 × U8)].flatMap
      fun s => [.write 0 s.1, .write 1 s.2]

theorem run_largestProgram (m : Overflow) (v : Vdc) :
    Machine.run (step m) v largestProgram =
      some (List.replicate 20 none,
        { v with
          parametersDirty := true
          registerSelect := 0x23
          registers := v.registers.largest }) := rfl

theorem largest_cellW (r : Registers) : r.largest.cellW = 15 := by
  simp [Registers.largest, Registers.cellW]

theorem largest_cellH (r : Registers) : r.largest.cellH = 31 := by
  simp [Registers.largest, Registers.cellH]

theorem largest_signalH (r : Registers) : r.largest.signalH = 255 * 31 := by
  rw [Registers.signalH, largest_cellH]
  simp [Registers.largest]

theorem largest_syncH (r : Registers) : r.largest.syncH = 0 := by
  simp [Registers.largest, Registers.syncH]

theorem largest_shownH (r : Registers) : r.largest.shownH = 0 := Nat.zero_mul _

theorem largest_topH (r : Registers) : r.largest.topH = 0 := by
  rw [Registers.topH, largest_signalH, largest_syncH, largest_cellH]
  simp [Registers.largest]

theorem largest_bufferH (r : Registers) : r.largest.bufferH = 737 := by
  rw [Registers.bufferH, largest_signalH, largest_syncH]
  rfl

theorem largest_derivable (r : Registers) : r.largest.Derivable :=
  ⟨Nat.le_refl _, .inl (Nat.le_refl _)⟩

theorem largest_covered (hv : Contained v) {r : Registers} (hregs : v.registers = r.largest) :
    Covered v .tick := by
  intro _
  rw [hregs, largest_cellW, largest_cellH]
  exact ⟨by simp [Registers.largest], by simp [Registers.largest], hv.rasterX, hv.rasterY⟩

/-- A refresh completes when the sizes can be derived. -/
theorem refresh_of_derivable (m : Overflow) (hd : v.registers.Derivable) :
    ∃ v', v.refresh m = some v' := by
  have hprod : wrappingSub 64 v.registers.horizSync.toNat 2 * v.registers.cellWidth < 2 ^ 64 :=
    Overflow.mul_panics_isSome.1 ((horizSyncPos_isSome v.registers).2 hd.2)
  rw [refresh]
  split
  case isTrue hdirty =>
    rw [recomputeParameters, Overflow.sub_of_le hd.1, Overflow.mul_of_lt hprod]
    exact ⟨_, rfl⟩
  case isFalse hclean => exact ⟨v, rfl⟩

/-- A line completes where nothing is shown. -/
theorem render_of_blank (m : Overflow) (hv : Sized v) (htop : v.registers.topH = 0)
    (hshown : v.registers.shownH = 0) : ∃ v', v.render m = some v' := by
  have hp := hv.programmed
  rw [render]
  split
  case isTrue hx =>
    rw [hblank]
    simp only [hp.topBorderHeight, hp.visibleHeight, hp.vsyncStart, htop, hshown, Nat.add_zero,
      Nat.not_lt_zero, if_false]
    split
    case isTrue hbottom =>
      have hborder : v.renderBorder.isSome :=
        (renderBorder_isSome hv).2 (v.registers.fits_line hbottom)
      obtain ⟨pixels, hpixels⟩ := Option.isSome_iff_exists.1 hborder
      exact ⟨v.withPixels pixels, by rw [hpixels, Option.map_some]⟩
    case isFalse hbottom => exact ⟨_, rfl⟩
  case isFalse hx => exact ⟨v, rfl⟩

theorem advance_of_lt (m : Overflow) (hx : v.rasterX + 1 < 2 ^ 64) (hy : v.rasterY + 1 < 2 ^ 64) :
    ∃ v', v.advance m = some v' := by
  rw [advance, Overflow.add_of_lt hx, Overflow.add_of_lt hy]
  by_cases hend : v.rasterX + 1 = v.parameters.signalWidth
  · by_cases hlast : v.rasterY + 1 = v.parameters.signalHeight <;> simp [hend, hlast]
  · simp [hend]

/-- A tick completes while nothing is shown. -/
theorem tick_of_largest (m : Overflow) (hv : Contained v) {r : Registers}
    (hregs : v.registers = r.largest) : ∃ v', v.tick m = some v' := by
  have hxlt := hv.rasterX
  have hylt := hv.rasterY
  have hd : v.cleared.registers.Derivable := by
    show v.registers.Derivable
    rw [hregs]
    exact largest_derivable r
  obtain ⟨v₁, h₁⟩ := refresh_of_derivable m hd
  have hsized := sized_refresh hv.upToDate.cleared h₁
  obtain ⟨hkept, hcol, hline⟩ := refresh_frame h₁
  have hregs₁ : v₁.registers = r.largest := hkept.trans hregs
  have hx : v₁.rasterX = v.rasterX := hcol
  have hy : v₁.rasterY = v.rasterY := hline
  obtain ⟨v₂, h₂⟩ := render_of_blank m hsized (by rw [hregs₁, largest_topH])
    (by rw [hregs₁, largest_shownH])
  obtain ⟨⟨pixels, status, hv₂⟩, -⟩ := rendered_render h₂
  have hx₂ : v₂.rasterX = v₁.rasterX := by rw [hv₂]; rfl
  have hy₂ : v₂.rasterY = v₁.rasterY := by rw [hv₂]; rfl
  obtain ⟨v₃, h₃⟩ := advance_of_lt (v := v₂) m (by omega) (by omega)
  refine ⟨v₃, ?_⟩
  rw [tick, show ({ v with status := v.status &&& ~~~Status.VBLANK } : Vdc) = v.cleared from rfl, h₁]
  show (v₁.render m).bind _ = _
  rw [h₂]
  exact h₃

/-- Ticks complete while nothing is shown. -/
theorem ticks_of_largest (m : Overflow) (hv : Contained v) {r : Registers}
    (hregs : v.registers = r.largest) (n : ℕ) :
    ∃ os v', Machine.run (step m) v (List.replicate n .tick) = some (os, v') := by
  induction n generalizing v with
  | zero => exact ⟨[], v, rfl⟩
  | succ n ih =>
    obtain ⟨v₁, htick⟩ := tick_of_largest m hv hregs
    have hv₁ := contained_tick hv (largest_covered hv hregs) htick
    obtain ⟨os, v', hrest⟩ := ih hv₁ ((tick_frame htick).registers.trans hregs)
    have hstep : step m v .tick = some (none, v₁) := by rw [step, htick, Option.map_some]
    exact ⟨none :: os, v', by rw [List.replicate_succ, Machine.run_cons hstep, hrest]; rfl⟩

/-- Some program presents the framebuffer. -/
def Recovers (m : Overflow) (v : Vdc) : Prop :=
  ∃ ops os v', Machine.run (step m) v ops = some (os, v') ∧ v'.framebufferReady = true

/-- **From a contained state some program presents the framebuffer**: the largest signal with
nothing shown in it, and enough ticks. -/
theorem recovers_of_contained (m : Overflow) (hv : Contained v) : Recovers m v := by
  let v₀ : Vdc :=
    { v with
      parametersDirty := true
      registerSelect := 0x23
      registers := v.registers.largest }
  have hv₀ : Contained v₀ :=
    { upToDate := nofun, inside := nofun, rasterX := hv.rasterX, rasterY := hv.rasterY }
  obtain ⟨v₁, htick⟩ := tick_of_largest m hv₀ rfl
  have hv₁ := contained_tick hv₀ (largest_covered hv₀ rfl) htick
  have hframe := tick_frame htick
  have hp := (sized_tick hv₀.upToDate htick).programmed
  have hregs : v₁.registers = v.registers.largest := hframe.registers
  have hfirst : 1 ≤ v₁.parameters.vsyncStart := by
    rw [hp.vsyncStart, hregs, largest_bufferH]
    decide
  have hlast : v₁.parameters.vsyncStart ≤ v₁.parameters.signalHeight := by
    rw [hp.vsyncStart, hp.signalHeight, hregs, largest_bufferH, largest_signalH]
    decide
  obtain ⟨n, -, -, hready⟩ :=
    presents_of_contained (m := m) hv₁ hframe.parametersDirty hfirst hlast
  obtain ⟨os, v', hticks⟩ := ticks_of_largest m hv₁ hregs n
  have hstep : step m v₀ .tick = some (none, v₁) := by rw [step, htick, Option.map_some]
  have hrun : Machine.run (step m) v₀ (.tick :: List.replicate n .tick) =
      some (none :: os, v') := by
    rw [Machine.run_cons hstep, hticks, Option.map_some]
  exact ⟨_, _, v', Machine.run_append_of_some (run_largestProgram m v) hrun, hready os v' hticks⟩

/-! ### Every run -/

/-- The raster is inside the programmed signal and does what a raster should. -/
structure Sound (m : Overflow) (v : Vdc) : Prop where
  inside : v.parametersDirty = false → Inside v
  scans : v.parametersDirty = false → Scans m v
  presents : v.parametersDirty = false → Presents m v
  recovers : Recovers m v

/-- **The raster stays inside the programmed signal**, lines and frames keep completing and the
framebuffer can always be presented, throughout every covered run of a fresh chip. -/
theorem raster_stays_inside (m : Overflow) (ops : List Op)
    (h : Machine.Along (step m) Covered new ops) :
    Machine.Throughout (step m) (Sound m) new ops :=
  Machine.throughout_of_along contained_step
    (fun _ hv =>
      { inside := hv.inside
        scans := scans_of_contained hv
        presents := presents_of_contained hv
        recovers := recovers_of_contained m hv })
    contained_new h

/-- A signal of five cells, each one pixel wide. -/
theorem raster_stays_inside_five :
    Machine.Throughout (step .panics) (Sound .panics) new
      [.write 0 0x00, .write 1 0x04, .tick, .read 0] := by
  apply raster_stays_inside
  refine ⟨trivial, fun _ _ hselect => ?_⟩
  cases hselect
  refine ⟨trivial, fun _ _ hwrite => ?_⟩
  cases hwrite
  refine ⟨fun _ => ⟨by decide, by decide, by decide, by decide⟩, fun _ _ _ => ?_⟩
  exact ⟨trivial, fun _ _ _ => trivial⟩

/-- With 255 as the last cell the signal has no cells, and the raster has left it. -/
theorem raster_not_inside : ∃ os v,
    Machine.run (step .panics) new [.write 0 0x00, .write 1 0xFF, .tick] = some (os, v) ∧
      v.parametersDirty = false ∧ v.parameters.signalWidth = 0 ∧ v.rasterX = 1 ∧ ¬ Inside v := by
  refine ⟨_, _, rfl, rfl, rfl, rfl, ?_⟩
  intro hin
  exact absurd hin.inGrid.1 (Nat.not_lt_zero _)

end Possum.Vdc
