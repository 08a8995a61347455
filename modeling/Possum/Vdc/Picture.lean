import Possum.Vdc.Scanline

/-!
# The picture of a frame

Two chips that differ in the pixels of their framebuffers alone render the same frame over them.
Nothing that is drawn depends on the pixels that were there, so what is left of the difference is
at the positions that a frame does not draw.
-/

set_option autoImplicit false

namespace Possum.Vdc

open Lib

variable {m : Overflow} {v : Vdc} {a b : List U32}

/-! ### Lines -/

/-- Two chips that differ in the values of their pixels alone. -/
structure Twins (v w : Vdc) : Prop where
  eq : w = v.withPixels w.framebuffer.pixels
  length : w.framebuffer.pixels.length = v.framebuffer.pixels.length

namespace Twins

variable {w : Vdc}

theorem parameters (h : Twins v w) : w.parameters = v.parameters := by
  rw [h.eq]
  rfl

theorem rasterX (h : Twins v w) : w.rasterX = v.rasterX := by
  rw [h.eq]
  rfl

theorem rasterY (h : Twins v w) : w.rasterY = v.rasterY := by
  rw [h.eq]
  rfl

/-- Their framebuffers have the same size. -/
theorem framebuffer_eq_iff (h : Twins v w) :
    v.framebuffer = w.framebuffer ↔ v.framebuffer.pixels = w.framebuffer.pixels := by
  constructor
  · intro heq
    rw [heq]
  · intro hpixels
    rw [h.eq, ← hpixels]
    rfl

/-- Other pixels, as many for one as for the other. -/
theorem withPixels (h : Twins v w) (hlen : b.length = a.length) :
    Twins (v.withPixels a) (w.withPixels b) := by
  refine ⟨?_, hlen⟩
  rw [h.eq]
  rfl

theorem cleared (h : Twins v w) : Twins v.cleared w.cleared := by
  refine ⟨?_, h.length⟩
  rw [h.eq]
  rfl

/-- The raster moves on without the pixels. -/
theorem advance {v' w' : Vdc} (h : Twins v w) (ha : v.advance m = some v')
    (hb : w.advance m = some w') :
    Twins v' w' ∧ v'.framebuffer = v.framebuffer ∧ w'.framebuffer = w.framebuffer := by
  obtain ⟨x, hx, hmovea⟩ := advance_cases ha
  obtain ⟨x', hx', hmoveb⟩ := advance_cases hb
  rw [h.rasterX] at hx'
  obtain rfl : x = x' := Option.some.inj (hx.symm.trans hx')
  rw [h.parameters, h.rasterY] at hmoveb
  obtain ⟨hne, rfl⟩ | ⟨hend, y, hy, rfl⟩ := hmovea
  · obtain ⟨-, rfl⟩ | ⟨hend, -⟩ := hmoveb
    · refine ⟨⟨?_, h.length⟩, rfl, rfl⟩
      rw [h.eq]
      rfl
    · exact absurd hend hne
  · obtain ⟨hne, -⟩ | ⟨-, y', hy', rfl⟩ := hmoveb
    · exact absurd hend hne
    · obtain rfl : y = y' := Option.some.inj (hy.symm.trans hy')
      refine ⟨⟨?_, h.length⟩, rfl, rfl⟩
      rw [h.eq]
      rfl

/-- All that a line is drawn from is the same. -/
theorem alike (h : Twins v w) : Alike v w := by
  rw [h.eq]
  exact ⟨rfl, rfl, rfl, rfl, rfl, rfl⟩

theorem sized (h : Twins v w) (hv : Sized v) : Sized w := by
  constructor
  · rw [h.alike.parameters, h.alike.registers]
    exact hv.programmed
  · rw [h.alike.width, h.alike.registers]
    exact hv.width
  · rw [h.length, h.alike.registers]
    exact hv.length

/-- The line is drawn, or the status of both tells that there is none. -/
theorem hblank {v' w' : Vdc} (h : Twins v w) (ha : v.hblank m = some v')
    (hb : w.hblank m = some w') : Twins v' w' := by
  have hlen : w'.framebuffer.pixels.length = v'.framebuffer.pixels.length :=
    (rendered_hblank hb).length.trans (h.length.trans (rendered_hblank ha).length.symm)
  have hdrawn {x y : Option (List U32)} (ha : x.map v.withPixels = some v')
      (hb : y.map w.withPixels = some w') : Twins v' w' := by
    obtain ⟨a', -, rfl⟩ := Option.map_eq_some_iff.1 ha
    obtain ⟨b', -, rfl⟩ := Option.map_eq_some_iff.1 hb
    exact h.withPixels hlen
  rw [Vdc.hblank] at ha
  rw [Vdc.hblank, h.parameters, h.rasterY] at hb
  by_cases htop : v.rasterY < v.parameters.topBorderHeight
  · rw [if_pos htop] at ha hb
    exact hdrawn ha hb
  · rw [if_neg htop] at ha hb
    by_cases hvisible : v.rasterY < v.parameters.topBorderHeight + v.parameters.visibleHeight
    · rw [if_pos hvisible] at ha hb
      exact hdrawn ha hb
    · rw [if_neg hvisible] at ha hb
      by_cases hbottom : v.rasterY < v.parameters.vsyncStart
      · rw [if_pos hbottom] at ha hb
        exact hdrawn ha hb
      · rw [if_neg hbottom] at ha hb
        cases ha
        cases hb
        refine ⟨?_, hlen⟩
        rw [h.eq]
        rfl

end Twins

/-- **What a line draws.**  At the horizontal blank two chips that differ in their pixels alone
draw the same positions in the same way, and nothing else. -/
theorem hblank_painted (hv : Sized v) {w v' w' : Vdc} (hw : Twins v w)
    (ha : v.hblank m = some v') (hb : w.hblank m = some w') :
    Twins v' w' ∧ Painted (v.registers.drawn v.rasterY) v.framebuffer.pixels v'.framebuffer.pixels
      w.framebuffer.pixels w'.framebuffer.pixels := by
  have hdrawna := hblank_drawn hv ha
  have hdrawnb := hblank_drawn (hw.sized hv) hb
  rw [hw.alike.lineDrawn] at hdrawnb
  have hpositions : {i | (v.lineDrawn i).isSome} = v.registers.drawn v.rasterY := by
    ext i
    exact lineDrawn_isSome hv
  rw [← hpositions]
  exact ⟨hw.hblank ha hb, Painted.of_drawn hdrawna hdrawnb⟩

/-! ### Ticks -/

/-- What a tick draws: the line of the raster, at the horizontal blank. -/
def drawnAt (v : Vdc) (q : ℕ × ℕ) : Set ℕ :=
  if q.1 = v.registers.bufferW then v.registers.drawn q.2 else ∅

theorem tick_painted (hv : Sized v) (hclean : v.parametersDirty = false) {w v' w' : Vdc}
    (hw : Twins v w) (ha : v.tick m = some v') (hb : w.tick m = some w') :
    Twins v' w' ∧ Painted (v.drawnAt v.raster) v.framebuffer.pixels v'.framebuffer.pixels
      w.framebuffer.pixels w'.framebuffer.pixels := by
  have hcleanw : w.parametersDirty = false := by
    rw [hw.eq]
    exact hclean
  obtain ⟨v₁, v₂, hrefresha, hrendera, hadvancea⟩ := tick_cases ha
  obtain ⟨w₁, w₂, hrefreshb, hrenderb, hadvanceb⟩ := tick_cases hb
  have hv₁ : v₁ = v.cleared := by
    obtain ⟨-, heq⟩ | ⟨hdirty, -⟩ := refresh_cases hrefresha
    · exact heq
    · exact Bool.noConfusion (hclean.symm.trans hdirty)
  have hw₁ : w₁ = w.cleared := by
    obtain ⟨-, heq⟩ | ⟨hdirty, -⟩ := refresh_cases hrefreshb
    · exact heq
    · exact Bool.noConfusion (hcleanw.symm.trans hdirty)
  subst hv₁ hw₁
  have hsized : Sized v.cleared := ⟨hv.programmed, hv.width, hv.length⟩
  have hline : Twins v₂ w₂ ∧ Painted (v.drawnAt v.raster) v.framebuffer.pixels
      v₂.framebuffer.pixels w.framebuffer.pixels w₂.framebuffer.pixels := by
    have hstart : v.parameters.hsyncStart = v.registers.bufferW := hv.programmed.hsyncStart
    rw [render, hw.cleared.rasterX, hw.cleared.parameters] at hrenderb
    rw [render] at hrendera
    unfold drawnAt
    by_cases hblank : v.cleared.rasterX = v.cleared.parameters.hsyncStart
    · rw [if_pos hblank] at hrendera hrenderb
      rw [if_pos (show v.raster.1 = v.registers.bufferW from hblank.trans hstart)]
      have hdrawn := hblank_painted hsized hw.cleared hrendera hrenderb
      exact hdrawn
    · rw [if_neg hblank] at hrendera hrenderb
      rw [if_neg fun h : v.raster.1 = v.registers.bufferW => hblank (h.trans hstart.symm)]
      cases hrendera
      cases hrenderb
      exact ⟨hw.cleared, Painted.refl _ _⟩
  obtain ⟨htwins, hpainted⟩ := hline
  obtain ⟨htwins', hfba, hfbb⟩ := htwins.advance hadvancea hadvanceb
  rw [hfba, hfbb]
  exact ⟨htwins', hpainted⟩

/-- The chip with up-to-date sizes and its raster in the signal. -/
theorem contained_of_inGrid (hv : Sized v)
    (hgrid : Scan.InGrid v.parameters.signalWidth v.parameters.signalHeight v.raster) :
    Contained v := by
  have hp := hv.programmed
  obtain ⟨hx, hy⟩ := hgrid
  have hxlt : v.rasterX < v.registers.signalW := hp.signalWidth ▸ hx
  have hylt : v.rasterY < v.registers.signalH := hp.signalHeight ▸ hy
  have hwide : v.registers.horizTotal ≠ 255 := by
    intro hmax
    rw [Registers.signalW, hmax] at hxlt
    simp at hxlt
  have hhigh : v.registers.vertTotal ≠ 255 := by
    intro hmax
    rw [Registers.signalH, hmax] at hylt
    simp at hylt
  constructor
  case upToDate => exact fun _ => hv
  case inside =>
    intro _
    refine ⟨?_, ?_, ⟨hx, hy⟩⟩
    · rw [hp.signalWidth, hp.cellWidth, signalW_eq hwide]
    · rw [hp.signalHeight, hp.cellHeight, signalH_eq hhigh]
  case rasterX => exact hxlt.trans_le v.registers.signalW_le
  case rasterY => exact hylt.trans_le v.registers.signalH_le

/-- What `n` ticks draw: a line for each of their positions at the horizontal blank. -/
def drawnIn (v : Vdc) (n : ℕ) : Set ℕ :=
  {i | ∃ k < n, i ∈ v.drawnAt
    ((Scan.next v.parameters.signalWidth v.parameters.signalHeight)^[k] v.raster)}

theorem drawnIn_succ {v₁ : Vdc} (hregs : v₁.registers = v.registers)
    (hparams : v₁.parameters = v.parameters)
    (hraster : v₁.raster =
      Scan.next v.parameters.signalWidth v.parameters.signalHeight v.raster) (n : ℕ) :
    v.drawnAt v.raster ∪ v₁.drawnIn n = v.drawnIn (n + 1) := by
  have hat : ∀ q, v₁.drawnAt q = v.drawnAt q := by
    intro q
    unfold drawnAt
    rw [hregs]
  ext i
  unfold drawnIn
  simp only [Set.mem_union, Set.mem_ofPred_eq, hat, hparams, hraster]
  constructor
  · rintro (hnow | ⟨k, hk, hlater⟩)
    · exact ⟨0, Nat.succ_pos n, hnow⟩
    · exact ⟨k + 1, Nat.succ_lt_succ hk, hlater⟩
  · rintro ⟨k, hk, hdrawn⟩
    cases k with
    | zero => exact Or.inl hdrawn
    | succ k => exact Or.inr ⟨k, Nat.lt_of_succ_lt_succ hk, hdrawn⟩

theorem drawnIn_zero (v : Vdc) : v.drawnIn 0 = ∅ := by
  ext i
  simp [drawnIn]

/-- **What a run of ticks draws.** -/
theorem ticks_painted (hv : Contained v) (hclean : v.parametersDirty = false) {w v' w' : Vdc}
    (hw : Twins v w) {n : ℕ} {os os' : List (Option U8)}
    (ha : Machine.run (step m) v (List.replicate n .tick) = some (os, v'))
    (hb : Machine.run (step m) w (List.replicate n .tick) = some (os', w')) :
    Twins v' w' ∧ Painted (v.drawnIn n) v.framebuffer.pixels v'.framebuffer.pixels
      w.framebuffer.pixels w'.framebuffer.pixels := by
  induction n generalizing v w os os' with
  | zero =>
    cases ha
    cases hb
    rw [drawnIn_zero]
    exact ⟨hw, Painted.refl _ _⟩
  | succ n ih =>
    obtain ⟨o, v₁, rest, hstepa, hresta, -⟩ := Machine.run_cons_eq_some ha
    obtain ⟨o', w₁, rest', hstepb, hrestb, -⟩ := Machine.run_cons_eq_some hb
    obtain ⟨v₂, hticka, heqa⟩ := Option.map_eq_some_iff.1 hstepa
    obtain ⟨w₂, htickb, heqb⟩ := Option.map_eq_some_iff.1 hstepb
    cases heqa
    cases heqb
    obtain ⟨hv₁, hclean₁, hmoved⟩ := tick_of_clean hv hclean hticka
    obtain ⟨hw₁, hfirst⟩ := tick_painted (hv.upToDate hclean) hclean hw hticka htickb
    obtain ⟨hw', hrest⟩ := ih hv₁ hclean₁ hw₁ hresta hrestb
    have hboth := hfirst.trans hrest
    rw [drawnIn_succ hmoved.registers hmoved.parameters hmoved.raster] at hboth
    exact ⟨hw', hboth⟩

/-! ### A frame -/

/-- The positions that a frame draws. -/
def Registers.drawnByFrame (r : Registers) : Set ℕ := {i | ∃ y < r.signalH, i ∈ r.drawn y}

/-- A whole frame has every line at the horizontal blank once. -/
theorem drawnIn_frame (hv : Sized v) (hraster : v.raster = (0, 0))
    (hsync : v.parameters.hsyncStart < v.parameters.signalWidth) :
    v.drawnIn (v.parameters.signalWidth * v.parameters.signalHeight) =
      v.registers.drawnByFrame := by
  have hp := hv.programmed
  have hstart : v.registers.bufferW < v.parameters.signalWidth := hp.hsyncStart ▸ hsync
  ext i
  unfold drawnIn Registers.drawnByFrame
  simp only [Set.mem_ofPred_eq, hraster]
  constructor
  · rintro ⟨k, hk, hdrawn⟩
    have hhigh : 0 < v.parameters.signalHeight := Nat.pos_of_mul_pos_left (Nat.zero_lt_of_lt hk)
    have hzero : Scan.InGrid v.parameters.signalWidth v.parameters.signalHeight (0, 0) :=
      ⟨Nat.zero_lt_of_lt hsync, hhigh⟩
    have hin := Scan.inGrid_iterate hzero k
    unfold drawnAt at hdrawn
    split at hdrawn
    case isTrue hblank => exact ⟨_, hp.signalHeight ▸ hin.2, hdrawn⟩
    case isFalse hblank => exact hdrawn.elim
  · rintro ⟨y, hy, hdrawn⟩
    have hy' : y < v.parameters.signalHeight := hp.signalHeight ▸ hy
    have hzero : Scan.InGrid v.parameters.signalWidth v.parameters.signalHeight (0, 0) :=
      ⟨Nat.zero_lt_of_lt hsync, Nat.zero_lt_of_lt hy'⟩
    obtain ⟨k, hk, hreach⟩ := Scan.reaches hzero (q := (v.registers.bufferW, y)) ⟨hstart, hy'⟩
    refine ⟨k, hk, ?_⟩
    rw [hreach, drawnAt, if_pos rfl]
    exact hdrawn

/-- **What a frame draws.** -/
theorem frame_painted {w v' w' : Vdc} {os os' : List (Option U8)} (hv : Sized v)
    (hclean : v.parametersDirty = false) (hraster : v.raster = (0, 0)) (hw : Twins v w)
    (hsync : v.parameters.hsyncStart < v.parameters.signalWidth)
    (ha : Machine.run (step m) v
      (List.replicate (v.parameters.signalWidth * v.parameters.signalHeight) .tick) =
        some (os, v'))
    (hb : Machine.run (step m) w
      (List.replicate (v.parameters.signalWidth * v.parameters.signalHeight) .tick) =
        some (os', w')) :
    Twins v' w' ∧ Painted v.registers.drawnByFrame v.framebuffer.pixels v'.framebuffer.pixels
      w.framebuffer.pixels w'.framebuffer.pixels := by
  rw [← drawnIn_frame hv hraster hsync]
  by_cases hhigh : v.parameters.signalHeight = 0
  · -- A frame without lines has no ticks.
    rw [hhigh, Nat.mul_zero] at ha hb ⊢
    cases ha
    cases hb
    rw [drawnIn_zero]
    exact ⟨hw, Painted.refl _ _⟩
  · have hgrid : Scan.InGrid v.parameters.signalWidth v.parameters.signalHeight v.raster := by
      rw [hraster]
      exact ⟨Nat.zero_lt_of_lt hsync, Nat.pos_of_ne_zero hhigh⟩
    exact ticks_painted (contained_of_inGrid hv hgrid) hclean hw ha hb

/-- Every position is drawn if the cells show all their rows, the lines are drawn up to the sync
and the signal has all the lines of the framebuffer. -/
theorem Registers.mem_drawnByFrame {r : Registers} (hrows : r.cellH ≤ r.charDispVert.toNat + 1)
    (hwide : r.bufferW + r.syncW ≤ r.signalW) (hhigh : r.bufferH ≤ r.signalH) {i : ℕ}
    (hi : i < r.bufferW * r.bufferH) : i ∈ r.drawnByFrame := by
  have hpos : 0 < r.bufferW := Nat.pos_of_mul_pos_right (Nat.zero_lt_of_lt hi)
  have hy : i / r.bufferW < r.bufferH := Nat.div_lt_of_lt_mul hi
  have hline : i ∈ Set.Ico (i / r.bufferW * r.bufferW) (i / r.bufferW * r.bufferW + r.bufferW) :=
    ⟨Nat.div_mul_le_self i r.bufferW, Nat.lt_div_mul_add hpos⟩
  refine ⟨i / r.bufferW, hy.trans_le hhigh, ?_⟩
  generalize i / r.bufferW = y at hy hline
  unfold Registers.drawn
  by_cases htop : y < r.topH
  · rw [if_pos htop]
    exact hline
  · rw [if_neg htop]
    by_cases hvisible : y < r.topH + r.shownH
    · have hcell : 0 < r.cellH := by
        by_contra hzero
        have hnone : r.shownH = 0 := by
          rw [Registers.shownH, Nat.eq_zero_of_not_pos hzero, Nat.mul_zero]
        omega
      have hshows : r.Shows y :=
        Nat.le_of_lt_succ ((Nat.mod_lt _ hcell).trans_le hrows)
      rw [if_pos hvisible, if_pos hshows]
      simp only [Set.mem_union, Set.mem_Ico] at hline ⊢
      omega
    · rw [if_neg hvisible, if_pos hy]
      exact hline

/-- A geometry without gaps shows one picture. -/
theorem picture_determined {w v' w' : Vdc} {os os' : List (Option U8)} (hv : Sized v)
    (hclean : v.parametersDirty = false) (hraster : v.raster = (0, 0)) (hw : Twins v w)
    (hsync : v.parameters.hsyncStart < v.parameters.signalWidth)
    (ha : Machine.run (step m) v
      (List.replicate (v.parameters.signalWidth * v.parameters.signalHeight) .tick) =
        some (os, v'))
    (hb : Machine.run (step m) w
      (List.replicate (v.parameters.signalWidth * v.parameters.signalHeight) .tick) =
        some (os', w'))
    (hrows : v.registers.cellH ≤ v.registers.charDispVert.toNat + 1)
    (hwide : v.registers.bufferW + v.registers.syncW ≤ v.registers.signalW)
    (hhigh : v.registers.bufferH ≤ v.registers.signalH) :
    v'.framebuffer = w'.framebuffer := by
  obtain ⟨htwins, hpainted⟩ := frame_painted hv hclean hraster hw hsync ha hb
  rw [htwins.framebuffer_eq_iff, hpainted.eq_iff]
  intro i hi
  have hout : v.framebuffer.pixels.length ≤ i := by
    rw [hv.length]
    by_contra hlt
    exact hi (Registers.mem_drawnByFrame hrows hwide hhigh (Nat.lt_of_not_le hlt))
  rw [List.getElem?_eq_none hout, List.getElem?_eq_none (hw.length.trans_le hout)]

/-! ### A line below the visible part of its cells -/

/-- Two lines of two pixels, a cell without visible columns and what is right of it.  The second
line is a visible row of the cell, in white, or below its visible rows. -/
def Registers.twoLines (r : Registers) (shown : Bool) : Registers :=
  { r with
    horizTotal := 2
    horizDisplayed := 1
    horizSync := 4
    syncWidths := 2
    vertDisplayed := 1
    vertSync := 1
    charTotalVert := 1
    charDispVert := if shown then 1 else 0
    fgBgColor := if shown then 0xF0 else 0x00 }

/-- The writes that program it. -/
def twoLinesProgram (shown : Bool) : List Op :=
  [(0x00, 2), (0x01, 1), (0x02, 4), (0x03, 2), (0x06, 1), (0x07, 1), (0x09, 1),
    (0x17, if shown then 1 else 0), ((0x1A, if shown then 0xF0 else 0x00) : U8 × U8)].flatMap
      fun s => [.write 0 s.1, .write 1 s.2]

theorem run_twoLinesProgram (m : Overflow) (v : Vdc) (shown : Bool) :
    Machine.run (step m) v (twoLinesProgram shown) =
      some (List.replicate 18 none,
        { v with
          parametersDirty := true
          registerSelect := 0x1A
          registers := v.registers.twoLines shown }) := by
  cases shown with
  | true => rfl
  | false => rfl

/-- The chip behind a frame of it. -/
def twoLines (shown : Bool) (blinkTimer : ℕ) (pixels : List U32) : Vdc :=
  { new with
    framebufferReady := true
    framebuffer := { pixels := pixels, width := 2, height := 2 }
    blinkTimer := blinkTimer
    parametersDirty := false
    parameters :=
      { signalWidth := 3
        signalHeight := 2
        visibleWidth := 1
        visibleHeight := 2
        rightBorderWidth := 1
        hsyncStart := 2
        vsyncStart := 2
        hsyncWidth := 1
        cellWidth := 1
        cellHeight := 2
        cellVisibleHeight := if shown then 1 else 0
        cursorEndLine := 31 }
    registerSelect := 0x1A
    registers := Registers.twoLines {} shown }

def twoLinesFrame (shown : Bool) : List Op := twoLinesProgram shown ++ List.replicate 6 .tick

/-- What the first frame of a fresh chip leaves. -/
def firstPicture : Bool → List U32
  | true => [0xFFFFFFFF, 0xFF000000, 0xFFFFFFFF, 0xFF000000]
  | false => [0xFF000000, 0xFF000000, 0, 0xFF000000]

/-- What a second frame leaves of it, without the second line. -/
def secondPicture : Bool → List U32
  | true => [0xFF000000, 0xFF000000, 0xFFFFFFFF, 0xFF000000]
  | false => [0xFF000000, 0xFF000000, 0, 0xFF000000]

theorem run_firstFrame (shown : Bool) : ∃ os,
    Machine.run (step .panics) new (twoLinesFrame shown) =
      some (os, twoLines shown 1 (firstPicture shown)) := by
  cases shown with
  | true => exact ⟨_, Machine.run_append_of_some (run_twoLinesProgram .panics new true) rfl⟩
  | false => exact ⟨_, Machine.run_append_of_some (run_twoLinesProgram .panics new false) rfl⟩

theorem run_secondFrame (shown : Bool) : ∃ os,
    Machine.run (step .panics) (twoLines shown 1 (firstPicture shown)) (twoLinesFrame false) =
      some (os, twoLines false 2 (secondPicture shown)) := by
  cases shown with
  | true => exact ⟨_, Machine.run_append_of_some (run_twoLinesProgram .panics _ false) rfl⟩
  | false => exact ⟨_, Machine.run_append_of_some (run_twoLinesProgram .panics _ false) rfl⟩

theorem run_thirdFrame (shown : Bool) :
    Machine.run (step .panics) (twoLines false 2 (secondPicture shown)) (List.replicate 6 .tick) =
      some (List.replicate 6 none, twoLines false 3 (secondPicture shown)) := by
  cases shown with
  | true => rfl
  | false => rfl

theorem sized_twoLines (shown : Bool) : Sized (twoLines false 2 (secondPicture shown)) where
  programmed := by
    constructor <;> decide +revert
  width := by
    decide +revert
  length := by
    decide +revert

theorem twins_twoLines :
    Twins (twoLines false 2 (secondPicture false)) (twoLines false 2 (secondPicture true)) :=
  ⟨rfl, rfl⟩

/-! ### The picture -/

/-- **The picture of a frame.**  Two chips at the start of a frame that differ in their pixels
alone show the same picture behind it exactly if their pixels agree already at every position
that the frame does not draw. -/
theorem picture_of_frame {w v' w' : Vdc} {os os' : List (Option U8)} (hv : Sized v)
    (hclean : v.parametersDirty = false) (hraster : v.raster = (0, 0)) (hw : Twins v w)
    (hsync : v.parameters.hsyncStart < v.parameters.signalWidth)
    (ha : Machine.run (step m) v
      (List.replicate (v.parameters.signalWidth * v.parameters.signalHeight) .tick) =
        some (os, v'))
    (hb : Machine.run (step m) w
      (List.replicate (v.parameters.signalWidth * v.parameters.signalHeight) .tick) =
        some (os', w')) :
    v'.framebuffer = w'.framebuffer ↔
      ∀ i ∉ v.registers.drawnByFrame, v.framebuffer.pixels[i]? = w.framebuffer.pixels[i]? := by
  obtain ⟨htwins, hpainted⟩ := frame_painted hv hclean hraster hw hsync ha hb
  rw [← hpainted.eq_iff, htwins.framebuffer_eq_iff]

/-- A third frame keeps the difference, in the line that it does not draw. -/
theorem picture_of_frame_twoLines :
    (twoLines false 3 (secondPicture false)).framebuffer =
        (twoLines false 3 (secondPicture true)).framebuffer ↔
      ∀ i ∉ (Registers.twoLines {} false).drawnByFrame,
        (secondPicture false)[i]? = (secondPicture true)[i]? :=
  picture_of_frame (sized_twoLines false) rfl rfl twins_twoLines (by decide) (run_thirdFrame false)
    (run_thirdFrame true)

/-- Two fresh chips, programmed the same in the end: one has drawn a white pixel in the line below
the visible rows while that was visible, and a whole frame later it still shows. -/
theorem picture_survives : ∃ (history history' : List Op) (os os' : List (Option U8)) (v w : Vdc),
    Machine.run (step .panics) new history = some (os, v) ∧
      Machine.run (step .panics) new history' = some (os', w) ∧
      Sized v ∧ v.parametersDirty = false ∧ v.raster = (0, 0) ∧ Twins v w ∧
      v.parameters.hsyncStart < v.parameters.signalWidth ∧
      v.parameters.vsyncStart ≤ v.parameters.signalHeight ∧
      ∃ (os os' : List (Option U8)) (v' w' : Vdc),
        Machine.run (step .panics) v
            (List.replicate (v.parameters.signalWidth * v.parameters.signalHeight) .tick) =
          some (os, v') ∧
        Machine.run (step .panics) w
            (List.replicate (v.parameters.signalWidth * v.parameters.signalHeight) .tick) =
          some (os', w') ∧
        v'.framebuffer ≠ w'.framebuffer := by
  obtain ⟨os₁, hfirst⟩ := run_firstFrame false
  obtain ⟨os₂, hsecond⟩ := run_secondFrame false
  obtain ⟨os₁', hfirst'⟩ := run_firstFrame true
  obtain ⟨os₂', hsecond'⟩ := run_secondFrame true
  refine ⟨_, _, _, _, _, _, Machine.run_append_of_some hfirst hsecond,
    Machine.run_append_of_some hfirst' hsecond', sized_twoLines false, rfl, rfl, twins_twoLines,
    by decide, by decide, _, _, _, _, run_thirdFrame false, run_thirdFrame true, ?_⟩
  decide

end Possum.Vdc
