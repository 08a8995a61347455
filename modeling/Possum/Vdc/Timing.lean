import Possum.Vdc.Modes

/-!
# The timing of a frame

Between two register writes the chip is read and ticked.  `Passes` is one tick, after any number of
reads, and a path is a sequence of states each of which passes to the next.  Along a path from
inside the signal the raster scans, frames are counted by the blink timer, and the framebuffer is
presented for one line of every frame (**`frame_timing`**).

`framebuffer_ready` is only recomputed at the end of a line, before the lines start again, so that a
vertical sync at the very end of the signal presents line 0.
-/

set_option autoImplicit false

namespace Possum.Vdc

open Lib

/-- One tick, after any number of reads. -/
inductive Passes (m : Overflow) : Vdc → Vdc → Prop
  | tick {v v' : Vdc} : v.tick m = some v' → Passes m v v'
  | read {v v₁ v' : Vdc} {port : U16} {b : U8} :
      v.read m port = some (b, v₁) → Passes m v₁ v' → Passes m v v'

/-- A line on which nothing is drawn. -/
def Parameters.Blank (p : Parameters) (y : ℕ) : Prop :=
  p.topBorderHeight + p.visibleHeight ≤ y ∧ p.vsyncStart ≤ y

/-- The vertical blank, as the status shows it. -/
def vblank (v : Vdc) : Bool := v.status &&& Status.VBLANK != 0

/-- The sizes are up to date, the raster is in the signal, and the signal is of `usize`s. -/
structure InSignal (v : Vdc) : Prop where
  clean : v.parametersDirty = false
  inGrid : Scan.InGrid v.parameters.signalWidth v.parameters.signalHeight v.raster
  width : v.parameters.signalWidth < 2 ^ 64
  height : v.parameters.signalHeight < 2 ^ 64

/-- `v'` is `v` one tick later. -/
structure Timed (v v' : Vdc) : Prop where
  parametersDirty : v'.parametersDirty = false
  parameters : v'.parameters = v.parameters
  raster : v'.raster = Scan.next v.parameters.signalWidth v.parameters.signalHeight v.raster
  ready : v'.framebufferReady =
    if v.rasterX + 1 = v.parameters.signalWidth then v.rasterY + 1 == v.parameters.vsyncStart
    else v.framebufferReady
  blinkTimer : v'.blinkTimer =
    if v'.raster = (0, 0) then wrappingAdd 64 v.blinkTimer 1 else v.blinkTimer
  vblank : v'.vblank = true ↔
    v.rasterX = v.parameters.hsyncStart ∧ v.parameters.Blank v.rasterY

variable {m : Overflow} {v v' : Vdc}

/-! ### One tick -/

/-- The vertical blank of a line that is rendered. -/
theorem vblank_render (hoff : v.vblank = false) (h : v.render m = some v') :
    v'.vblank = true ↔ v.rasterX = v.parameters.hsyncStart ∧ v.parameters.Blank v.rasterY := by
  have hbit : ∀ s : U8, ((s ||| 0x20) &&& 0x20 != 0) = true := by decide
  rw [render] at h
  split at h
  case isTrue hx =>
    rw [and_iff_right hx]
    have hdrawn (pixels : Option (List U32)) (hline : ¬ v.parameters.Blank v.rasterY)
        (hpixels : pixels.map v.withPixels = some v') :
        v'.vblank = true ↔ v.parameters.Blank v.rasterY := by
      obtain ⟨pixels', -, rfl⟩ := Option.map_eq_some_iff.1 hpixels
      refine iff_of_false ?_ hline
      show ¬ v.vblank = true
      rw [hoff]
      exact Bool.false_ne_true
    rw [hblank] at h
    split at h
    case isTrue htop =>
      exact hdrawn _ (fun hblank => by have := hblank.1; omega) h
    case isFalse htop =>
      split at h
      case isTrue hvisible =>
        exact hdrawn _ (fun hblank => by have := hblank.1; omega) h
      case isFalse hvisible =>
        split at h
        case isTrue hbottom =>
          exact hdrawn _ (fun hblank => by have := hblank.2; omega) h
        case isFalse hbottom =>
          cases h
          exact iff_of_true (hbit v.status) ⟨Nat.le_of_not_lt hvisible, Nat.le_of_not_lt hbottom⟩
  case isFalse hx =>
    cases h
    refine iff_of_false ?_ fun hboth => hx hboth.1
    rw [hoff]
    exact Bool.false_ne_true

/-- The raster's move, in the signal. -/
theorem advance_timed (hin : InSignal v) (h : v.advance m = some v') :
    (v'.parametersDirty = v.parametersDirty ∧ v'.parameters = v.parameters ∧
      v'.status = v.status) ∧
    v'.raster = Scan.next v.parameters.signalWidth v.parameters.signalHeight v.raster ∧
    v'.framebufferReady = (if v.rasterX + 1 = v.parameters.signalWidth then
      v.rasterY + 1 == v.parameters.vsyncStart else v.framebufferReady) ∧
    v'.blinkTimer =
      if v'.raster = (0, 0) then wrappingAdd 64 v.blinkTimer 1 else v.blinkTimer := by
  have hx : v.rasterX < v.parameters.signalWidth := hin.inGrid.1
  have hy : v.rasterY < v.parameters.signalHeight := hin.inGrid.2
  obtain rfl := advance_eq (Nat.lt_of_le_of_lt hx hin.width)
    (fun _ => Nat.lt_of_le_of_lt hy hin.height) h
  refine ⟨⟨rfl, rfl, rfl⟩, rfl, rfl, ?_⟩
  have hstart : Scan.next v.parameters.signalWidth v.parameters.signalHeight v.raster = (0, 0) ↔
      v.rasterX + 1 = v.parameters.signalWidth ∧ v.rasterY + 1 = v.parameters.signalHeight :=
    Scan.next_eq_start_iff
  exact (if_congr hstart rfl rfl).symm

/-- **A tick of a chip whose sizes are up to date.** -/
theorem timed_tick (hin : InSignal v) (h : v.tick m = some v') : Timed v v' := by
  have hbit : ∀ s : U8, (s &&& ~~~0x20 &&& 0x20 != 0) = false := by decide
  obtain ⟨v₁, v₂, hrefresh, hrender, hadvance⟩ := tick_cases h
  have hclean : v.cleared.parametersDirty = false := hin.clean
  obtain ⟨-, rfl⟩ | ⟨hdirty, -⟩ := refresh_cases hrefresh
  · have hoff : v.cleared.vblank = false := hbit v.status
    have hvblank := vblank_render hoff hrender
    obtain ⟨⟨pixels, status, rfl⟩, -⟩ := rendered_render hrender
    have hin₂ : InSignal { v.cleared.withPixels pixels with status := status } :=
      ⟨hin.clean, hin.inGrid, hin.width, hin.height⟩
    obtain ⟨⟨hdirty, hparams, hstatus⟩, hraster, hready, hblink⟩ := advance_timed hin₂ hadvance
    have hsame : v'.vblank = vblank { v.cleared.withPixels pixels with status := status } :=
      congrArg (· &&& Status.VBLANK != 0) hstatus
    exact ⟨hdirty.trans hin.clean, hparams, hraster, hready, hblink, by rw [hsame]; exact hvblank⟩
  · rw [hclean] at hdirty
    cases hdirty

/-- A read changes nothing that the timing depends on. -/
theorem timed_passes (hin : InSignal v) (h : Passes m v v') : Timed v v' := by
  induction h with
  | tick htick => exact timed_tick hin htick
  | read hread _ ih =>
    obtain rfl | ⟨a, rfl⟩ := read_cases hread
    · exact ih hin
    · have htimed := ih ⟨hin.clean, hin.inGrid, hin.width, hin.height⟩
      exact ⟨htimed.parametersDirty, htimed.parameters, htimed.raster, htimed.ready,
        htimed.blinkTimer, htimed.vblank⟩

theorem InSignal.timed (hin : InSignal v) (h : Timed v v') : InSignal v' := by
  constructor
  case clean => exact h.parametersDirty
  case inGrid =>
    rw [h.parameters, h.raster]
    exact Scan.inGrid_next hin.inGrid
  case width =>
    rw [h.parameters]
    exact hin.width
  case height =>
    rw [h.parameters]
    exact hin.height

/-! ### Paths -/

section

variable {s : ℕ → Vdc} {N : ℕ}

/-- The states of a path from inside the signal. -/
theorem path (hin : InSignal (s 0)) (hpath : ∀ i < N, Passes m (s i) (s (i + 1))) {n : ℕ}
    (hn : n ≤ N) :
    InSignal (s n) ∧ (s n).parameters = (s 0).parameters ∧
      (s n).raster = (Scan.next (s 0).parameters.signalWidth
        (s 0).parameters.signalHeight)^[n] (s 0).raster := by
  induction n with
  | zero => exact ⟨hin, rfl, rfl⟩
  | succ n ih =>
    obtain ⟨hin', hparams, hraster⟩ := ih (Nat.le_of_succ_le hn)
    have htimed := timed_passes hin' (hpath n hn)
    refine ⟨hin'.timed htimed, htimed.parameters.trans hparams, ?_⟩
    rw [htimed.raster, hparams, hraster, Function.iterate_succ_apply']

/-- The next state of a path. -/
theorem path_next (hin : InSignal (s 0)) (hpath : ∀ i < N, Passes m (s i) (s (i + 1))) {n : ℕ}
    (hn : n < N) : Timed (s n) (s (n + 1)) :=
  timed_passes (path hin hpath (Nat.le_of_lt hn)).1 (hpath n hn)

/-- The position in the order of the scan. -/
theorem path_index (hin : InSignal (s 0)) (hpath : ∀ i < N, Passes m (s i) (s (i + 1))) {n : ℕ}
    (hn : n ≤ N) :
    (s n).rasterY * (s 0).parameters.signalWidth + (s n).rasterX =
      ((s 0).rasterY * (s 0).parameters.signalWidth + (s 0).rasterX + n) %
        ((s 0).parameters.signalWidth * (s 0).parameters.signalHeight) := by
  have hindex := Scan.index_iterate hin.inGrid n
  rw [← (path hin hpath hn).2.2] at hindex
  exact hindex

/-- The blink timer counts the frames that begin. -/
theorem path_blinkTimer (hin : InSignal (s 0)) (hb : (s 0).blinkTimer < 2 ^ 64)
    (hpath : ∀ i < N, Passes m (s i) (s (i + 1))) {n : ℕ} (hn : n ≤ N) :
    (s n).blinkTimer = wrappingAdd 64 (s 0).blinkTimer
      ((Finset.range n).filter fun i => (s (i + 1)).raster = (0, 0)).card := by
  induction n with
  | zero => exact (Nat.mod_eq_of_lt hb).symm
  | succ n ih =>
    have htimed := path_next hin hpath hn
    rw [htimed.blinkTimer, ih (Nat.le_of_succ_le hn), Finset.range_add_one, Finset.filter_insert]
    by_cases hstart : (s (n + 1)).raster = (0, 0)
    · rw [if_pos hstart, if_pos hstart, Finset.card_insert_of_notMem fun hmem =>
        Finset.notMem_range_self (Finset.mem_filter.1 hmem).1]
      unfold wrappingAdd
      rw [Nat.mod_add_mod, Nat.add_assoc]
    · rw [if_neg hstart, if_neg hstart]

/-- The line after line `y` is line `k`, counted from one, modulo the lines of the signal. -/
theorem line_ended_iff {y h k : ℕ} (hy : y < h) :
    y + 1 = k ↔ (1 ≤ k ∧ k ≤ h) ∧ (if y + 1 = h then 0 else y + 1) = k % h := by
  constructor
  · rintro rfl
    refine ⟨⟨by omega, hy⟩, ?_⟩
    split
    case isTrue hlast => rw [hlast, Nat.mod_self]
    case isFalse hlast => rw [Nat.mod_eq_of_lt (by omega)]
  · rintro ⟨⟨hk, hkh⟩, hline⟩
    obtain hlt | rfl := Nat.lt_or_eq_of_le hkh
    · rw [Nat.mod_eq_of_lt hlt] at hline
      split at hline <;> omega
    · rw [Nat.mod_self] at hline
      split at hline <;> omega

/-- **When the framebuffer is presented**, from the first end of a line on. -/
theorem path_ready (hin : InSignal (s 0)) (hpath : ∀ i < N, Passes m (s i) (s (i + 1))) {n : ℕ}
    (hn : n ≤ N) (hfirst : (s 0).parameters.signalWidth ≤ (s 0).rasterX + n) :
    (s n).framebufferReady = true ↔
      (1 ≤ (s 0).parameters.vsyncStart ∧
        (s 0).parameters.vsyncStart ≤ (s 0).parameters.signalHeight) ∧
        (s n).rasterY = (s 0).parameters.vsyncStart % (s 0).parameters.signalHeight := by
  induction n with
  | zero =>
    have hx : (s 0).rasterX < (s 0).parameters.signalWidth := hin.inGrid.1
    omega
  | succ n ih =>
    have hn' := Nat.le_of_succ_le hn
    obtain ⟨hin', hparams, hraster⟩ := path hin hpath hn'
    have htimed := path_next hin hpath hn
    have hy : (s n).rasterY < (s 0).parameters.signalHeight := hparams ▸ hin'.inGrid.2
    have hnext : (s (n + 1)).rasterY = (Scan.next (s 0).parameters.signalWidth
        (s 0).parameters.signalHeight (s n).raster).2 := by
      rw [← hparams, ← htimed.raster]
      rfl
    have hready := htimed.ready
    rw [hparams] at hready
    rw [hready, hnext, Scan.next]
    by_cases hend : (s n).rasterX + 1 = (s 0).parameters.signalWidth
    · have hend' : (s n).raster.1 + 1 = (s 0).parameters.signalWidth := hend
      rw [if_pos hend, if_pos hend', beq_iff_eq]
      exact line_ended_iff hy
    · have hend' : ¬ (s n).raster.1 + 1 = (s 0).parameters.signalWidth := hend
      rw [if_neg hend, if_neg hend']
      refine ih hn' ?_
      -- the column is the one of the first line, which has not ended
      have hcolumn := Scan.column_iterate hin.inGrid n
      rw [← hraster] at hcolumn
      have hcolumn' : (s n).rasterX = ((s 0).rasterX + n) % (s 0).parameters.signalWidth := hcolumn
      by_contra hshort
      rw [Nat.mod_eq_of_lt (Nat.lt_of_not_le hshort)] at hcolumn'
      omega

end

/-- **The timing of a frame.**  Along a path of reads and ticks the raster moves through the signal
position by position, the blink timer counts the frames that are completed, and in every frame's
worth of ticks from the first end of a line on, the framebuffer is ready after as many ticks as a
line has, if the vertical sync is in the signal, and else never. -/
theorem frame_timing (m : Overflow) {s : ℕ → Vdc} {N : ℕ} (hin : InSignal (s 0))
    (hb : (s 0).blinkTimer < 2 ^ 64) (hpath : ∀ i < N, Passes m (s i) (s (i + 1))) :
    let w := (s 0).parameters.signalWidth
    let h := (s 0).parameters.signalHeight
    let vsync := (s 0).parameters.vsyncStart
    let start := (s 0).rasterY * w + (s 0).rasterX
    let completed := fun n => ((Finset.range n).filter fun i => (s (i + 1)).raster = (0, 0)).card
    (∀ n ≤ N, (s n).rasterY * w + (s n).rasterX = (start + n) % (w * h) ∧
      (s n).blinkTimer = wrappingAdd 64 (s 0).blinkTimer (completed n) ∧
      completed n = (start + n) / (w * h)) ∧
    ∀ n, w ≤ (s 0).rasterX + n → n + w * h ≤ N + 1 →
      ((Finset.range (w * h)).filter fun i => (s (n + i)).framebufferReady = true).card =
        if 1 ≤ vsync ∧ vsync ≤ h then w else 0 := by
  intro w h vsync start completed
  have hraster {n : ℕ} (hn : n ≤ N) := (path hin hpath hn).2.2
  constructor
  · intro n hn
    refine ⟨path_index hin hpath hn, path_blinkTimer hin hb hpath hn, ?_⟩
    show ((Finset.range n).filter fun i => (s (i + 1)).raster = (0, 0)).card = _
    rw [Finset.filter_congr fun i hi => by
      rw [hraster (Nat.le_trans (Finset.mem_range.1 hi) hn)]]
    exact Scan.card_rounds hin.inGrid n
  · intro n hfirst hlast
    have hready (i : ℕ) (hi : i ∈ Finset.range (w * h)) :
        (s (n + i)).framebufferReady = true ↔ (1 ≤ vsync ∧ vsync ≤ h) ∧
          ((Scan.next w h)^[n + i] (s 0).raster).2 = vsync % h := by
      have hlt := Finset.mem_range.1 hi
      have hn : n + i ≤ N := by omega
      rw [path_ready hin hpath hn (by omega), ← hraster hn]
      rfl
    rw [Finset.filter_congr hready]
    by_cases hsync : 1 ≤ vsync ∧ vsync ≤ h
    · simp only [hsync, and_self, true_and, if_true]
      exact Scan.card_line hin.inGrid (Nat.mod_lt _ (by omega)) n
    · simp only [hsync, false_and, if_false, Finset.filter_false, Finset.card_empty]

/-! ### Steady chips -/

/-- From its first tick on a steady chip passes through the signal of its registers. -/
theorem Steady.path {v : Vdc} (hv : Steady v) (m : Overflow) :
    InSignal (ticked m v 1) ∧ Programmed (ticked m v 1).parameters v.registers ∧
      ∀ i, Passes m (ticked m v (i + 1)) (ticked m v (i + 1 + 1)) := by
  obtain ⟨-, htick⟩ := hv.tick_ticked m 0
  have hsized : Sized (ticked m v 1) := sized_tick hv.upToDate htick
  have hregs : (ticked m v 1).registers = v.registers := (tick_frame htick).registers
  have hp := hsized.programmed
  have hgrid : InRegisters (ticked m v 1) := hv.inRegisters.tick hv.upToDate htick
  rw [InRegisters, ← hp.signalWidth, ← hp.signalHeight] at hgrid
  have hlt := v.registers.signalW_le
  have hlt' := v.registers.signalH_le
  rw [hregs] at hp
  refine ⟨⟨(tick_frame htick).parametersDirty, hgrid, ?_, ?_⟩, hp, ?_⟩
  · rw [hp.signalWidth]
    omega
  · rw [hp.signalHeight]
    omega
  · exact fun i => .tick (hv.tick_ticked m (i + 1)).2

/-- The picture of `hello_vdc.az8`, from its first tick on: 300000 ticks complete a frame, and the
framebuffer is ready for the 1016 ticks of a line. -/
theorem frame_timing_helloVdc :
    let s := fun i => ticked .panics { new with registerSelect := 35, registers := helloVdc } (i + 1)
    (s 300000).rasterY * 1016 + (s 300000).rasterX = 300001 % (1016 * 264) ∧
      (s 300000).blinkTimer = 1 ∧
      ((Finset.range (1016 * 264)).filter fun i => (s (1015 + i)).framebufferReady = true).card =
        1016 := by
  intro s
  obtain ⟨hin, hp, hpath⟩ := steady_helloVdc.path .panics
  have hfirst : (s 0).rasterX = 1 ∧ (s 0).rasterY = 0 ∧ (s 0).blinkTimer = 0 := ⟨rfl, rfl, rfl⟩
  obtain ⟨hx, hy, hb⟩ := hfirst
  have hw : (s 0).parameters.signalWidth = 1016 := hp.signalWidth.trans (by decide)
  have hh : (s 0).parameters.signalHeight = 264 := hp.signalHeight.trans (by decide)
  have hvsync : (s 0).parameters.vsyncStart = 260 := hp.vsyncStart.trans (by decide)
  obtain ⟨htimes, hready⟩ := frame_timing .panics (s := s) (N := 300000) hin
    (by rw [hb]; decide) fun i _ => hpath i
  simp only [hx, hy, hb, hw, hh, hvsync] at htimes hready
  obtain ⟨hindex, hblink, hcompleted⟩ := htimes 300000 (Nat.le_refl _)
  rw [hcompleted] at hblink
  exact ⟨hindex, hblink, hready 1015 (by decide) (by decide)⟩

end Possum.Vdc
