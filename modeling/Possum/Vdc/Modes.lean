import Possum.Vdc.Scanline

/-!
# Modes that can be shown for ever

With its registers left alone the chip draws every line of the signal once in every frame, each at
the start of its horizontal sync, as long as the raster is in the signal.  From outside it the
raster never comes back (`Scan.iterate_of_le_column`, `Scan.reaches_of_le_line`): a coordinate
counts up to the end of its word.

So a build that checks its arithmetic ticks on for ever, from a state that a run has reached,
exactly if the raster is in the signal, the sizes can be derived and every line fits the framebuffer
(**`ticks_isSome_iff`**), and then so does every other build.

`Steady` is this condition as an invariant.  The chip is steady when it is new, and in the mode of
`hello_vdc.az8`.
-/

set_option autoImplicit false

namespace Possum.Vdc

open Lib

/-- Every line that the raster draws fits the framebuffer.  It draws none if the horizontal sync
starts behind the signal. -/
def Registers.Showable (r : Registers) : Prop :=
  r.bufferW < r.signalW → ∀ y < r.signalH, r.LineFits y

instance (r : Registers) : Decidable r.Derivable := inferInstanceAs (Decidable (_ ∧ _))

instance (r : Registers) : Decidable r.Showable := inferInstanceAs (Decidable (_ → _))

/-- The raster is in the signal that the registers ask for. -/
def InRegisters (v : Vdc) : Prop := Scan.InGrid v.registers.signalW v.registers.signalH v.raster

/-- A chip that can tick on for ever. -/
structure Steady (v : Vdc) : Prop where
  upToDate : UpToDate v
  derivable : v.parametersDirty = true → v.registers.Derivable
  showable : v.registers.Showable
  inRegisters : InRegisters v

variable {m : Overflow} {v v' : Vdc}

/-! ### One tick -/

/-- Positions of the signal are small. -/
theorem InRegisters.lt (hin : InRegisters v) : v.rasterX + 1 < 2 ^ 64 ∧ v.rasterY + 1 < 2 ^ 64 := by
  have hx : v.rasterX < v.registers.signalW := hin.1
  have hy : v.rasterY < v.registers.signalH := hin.2
  have hw := v.registers.signalW_le
  have hh := v.registers.signalH_le
  omega

/-- A tick moves the raster on in the signal of the registers, where neither coordinate leaves its
word. -/
theorem raster_of_tick (hv : UpToDate v) (hx : v.rasterX + 1 < 2 ^ 64)
    (hy : v.rasterX + 1 = v.registers.signalW → v.rasterY + 1 < 2 ^ 64) (h : v.tick m = some v') :
    v'.raster = Scan.next v.registers.signalW v.registers.signalH v.raster := by
  obtain ⟨v₁, v₂, hrefresh, hrender, hadvance⟩ := tick_cases h
  have hsized := sized_refresh hv.cleared hrefresh
  obtain ⟨hregs, hx₁, hy₁⟩ := refresh_frame hrefresh
  have hp := hsized.programmed
  have hraster : v₁.raster = v.raster := Prod.ext hx₁ hy₁
  have hwidth : v₁.parameters.signalWidth = v.registers.signalW := by
    rw [hp.signalWidth, hregs]
    rfl
  have hheight : v₁.parameters.signalHeight = v.registers.signalH := by
    rw [hp.signalHeight, hregs]
    rfl
  obtain ⟨⟨pixels, status, rfl⟩, -⟩ := rendered_render hrender
  have hmoved : Moved { v₁.withPixels pixels with status := status } v' := by
    refine moved_advance ?_ ?_ hadvance
    · show v₁.rasterX + 1 < 2 ^ 64
      rw [hx₁]
      exact hx
    · show v₁.rasterX + 1 = v₁.parameters.signalWidth → v₁.rasterY + 1 < 2 ^ 64
      rw [hx₁, hy₁, hwidth]
      exact hy
  rw [hmoved.raster]
  show Scan.next v₁.parameters.signalWidth v₁.parameters.signalHeight v₁.raster = _
  rw [hraster, hwidth, hheight]

theorem InRegisters.tick (hv : UpToDate v) (hin : InRegisters v) (h : v.tick m = some v') :
    InRegisters v' := by
  rw [InRegisters, (tick_frame h).registers, raster_of_tick hv hin.lt.1 (fun _ => hin.lt.2) h]
  exact Scan.inGrid_next hin

/-- **A tick keeps the chip steady**, in every build. -/
theorem Steady.tick (hv : Steady v) (m : Overflow) : ∃ v', v.tick m = some v' ∧ Steady v' := by
  have hlt := hv.inRegisters.lt
  have hharmless : Harmless v .tick := by
    refine ⟨hv.derivable, ?_, hlt.1, fun _ => hlt.2⟩
    intro hx
    have hin : v.rasterX < v.registers.signalW := hv.inRegisters.1
    exact hv.showable (hx ▸ hin) _ hv.inRegisters.2
  obtain ⟨v', htick⟩ := Option.isSome_iff_exists.1 ((tick_isSome hv.upToDate).2 hharmless)
  have hframe := tick_frame htick
  refine ⟨v', tick_of_panics htick, ?_⟩
  constructor
  case upToDate => exact fun _ => sized_tick hv.upToDate htick
  case derivable => exact fun hdirty => Bool.noConfusion (hframe.parametersDirty.symm.trans hdirty)
  case showable =>
    rw [hframe.registers]
    exact hv.showable
  case inRegisters => exact hv.inRegisters.tick hv.upToDate htick

/-! ### Two modes -/

/-- A chip that has still to derive its sizes. -/
theorem Steady.of_dirty (hdirty : v.parametersDirty = true) (hderivable : v.registers.Derivable)
    (hshowable : v.registers.Showable) (hin : InRegisters v) : Steady v where
  upToDate := fun hclean => Bool.noConfusion (hdirty.symm.trans hclean)
  derivable := fun _ => hderivable
  showable := hshowable
  inRegisters := hin

/-- A new chip has a signal of one pixel, and its horizontal sync is behind it. -/
theorem steady_new : Steady new :=
  .of_dirty rfl (by decide) (by decide) ⟨by decide, by decide⟩

/-- The picture of `hello_vdc.az8`, of 752 by 260 pixels, fits line by line. -/
theorem showable_helloVdc : helloVdc.Derivable ∧ helloVdc.Showable := by
  refine ⟨by decide, ?_⟩
  intro _ y hy
  have hsize : helloVdc.bufferSize = 752 * 260 := by decide
  have hbuffer : helloVdc.bufferW = 752 := by decide
  have htop : helloVdc.topH = 28 := by decide
  have hshown : helloVdc.shownH = 200 := by decide
  have hleft : helloVdc.leftW = 52 := by decide
  have hcells : helloVdc.shownW = 640 := by decide
  have hsync : helloVdc.syncW = 64 := by decide
  have hsignal : helloVdc.signalW = 1016 := by decide
  have hglyph : helloVdc.glyphW ≤ helloVdc.cellW := by decide
  replace hy : y < 264 := hy
  rw [Registers.LineFits, hsize, hbuffer, htop, hshown, hleft, hcells, hsync, hsignal]
  split
  case isTrue htop =>
    refine .inr ?_
    omega
  case isFalse htop =>
    split
    case isTrue hvisible =>
      refine ⟨.inr ?_, by omega, .inr ?_, ?_⟩
      · omega
      · omega
      · intro _
        refine .inr ⟨hglyph, .inr ?_⟩
        rw [hsize, hbuffer, hleft, hcells]
        omega
    case isFalse hvisible => trivial

/-- The chip that `VDC_INIT_VALUES` leaves. -/
theorem steady_helloVdc : Steady { new with registerSelect := 35, registers := helloVdc } :=
  .of_dirty rfl showable_helloVdc.1 showable_helloVdc.2 ⟨by decide, by decide⟩

/-! ### All ticks -/

/-- A steady chip ticks on, in every build. -/
theorem Steady.ticks (hv : Steady v) (m : Overflow) (n : ℕ) :
    (Machine.run (step m) v (List.replicate n .tick)).isSome := by
  induction n generalizing v with
  | zero => rfl
  | succ n ih =>
    obtain ⟨v', htick, hv'⟩ := hv.tick m
    have hstep : step m v .tick = some (none, v') := by rw [step, htick, Option.map_some]
    rw [List.replicate_succ, Machine.run_cons hstep, Option.isSome_map]
    exact ih hv'

/-- The chip after `n` ticks. -/
def ticked (m : Overflow) (v : Vdc) : ℕ → Vdc
  | 0 => v
  | n + 1 => ((ticked m v n).tick m).getD (ticked m v n)

theorem Steady.tick_ticked (hv : Steady v) (m : Overflow) (n : ℕ) :
    Steady (ticked m v n) ∧ (ticked m v n).tick m = some (ticked m v (n + 1)) := by
  have hnext {n : ℕ} (h : Steady (ticked m v n)) :
      (ticked m v n).tick m = some (ticked m v (n + 1)) ∧ Steady (ticked m v (n + 1)) := by
    obtain ⟨v', htick, hv'⟩ := h.tick m
    have heq : ticked m v (n + 1) = v' := by rw [ticked, htick, Option.getD_some]
    rw [heq]
    exact ⟨htick, hv'⟩
  have hsteady : Steady (ticked m v n) := by
    induction n with
    | zero => exact hv
    | succ n ih => exact (hnext ih).2
  exact ⟨hsteady, (hnext hsteady).1⟩

/-- What a run of ticks leaves, in a build that checks its arithmetic. -/
theorem raster_of_ticks (hv : UpToDate v) {n : ℕ} {os : List (Option U8)}
    (h : Machine.run (step .panics) v (List.replicate n .tick) = some (os, v')) :
    UpToDate v' ∧ v'.registers = v.registers ∧
      v'.raster = (Scan.next v.registers.signalW v.registers.signalH)^[n] v.raster := by
  induction n generalizing v os with
  | zero =>
    cases h
    exact ⟨hv, rfl, rfl⟩
  | succ n ih =>
    obtain ⟨o, v₁, os', hstep, hrest, -⟩ := Machine.run_cons_eq_some h
    obtain ⟨-, -, hx, hy⟩ := (step_isSome hv).1 (Option.isSome_of_eq_some hstep)
    obtain ⟨w, htick, heq⟩ := Option.map_eq_some_iff.1 hstep
    cases heq
    have hregs := (tick_frame htick).registers
    obtain ⟨hup', hregs', hraster⟩ := ih (fun _ => sized_tick hv htick) hrest
    refine ⟨hup', hregs'.trans hregs, ?_⟩
    rw [hraster, hregs, raster_of_tick hv hx hy htick, Function.iterate_succ_apply]

/-- If a chip ticks on for ever, no tick is harmful at any position that its raster comes to. -/
theorem harmless_of_ticks (hv : UpToDate v)
    (h : ∀ n, (Machine.run (step .panics) v (List.replicate n .tick)).isSome) (n : ℕ) :
    ∃ v', v'.registers = v.registers ∧
      v'.raster = (Scan.next v.registers.signalW v.registers.signalH)^[n] v.raster ∧
      Harmless v' .tick := by
  obtain ⟨⟨os, v₂⟩, hrun⟩ := Option.isSome_iff_exists.1 (h (n + 1))
  rw [List.replicate_succ'] at hrun
  obtain ⟨os₁, v', os₂, hticks, hlast, -⟩ := Machine.run_append_eq_some hrun
  obtain ⟨o, v₁, os', hstep, -⟩ := Machine.run_cons_eq_some hlast
  obtain ⟨hup, hregs, hraster⟩ := raster_of_ticks hv hticks
  exact ⟨v', hregs, hraster, (step_isSome hup).1 (Option.isSome_of_eq_some hstep)⟩

/-- The raster of a chip that ticks on for ever is in the signal: from outside it a coordinate would
count up to the end of its word. -/
theorem inRegisters_of_ticks (hv : UpToDate v)
    (h : ∀ n, (Machine.run (step .panics) v (List.replicate n .tick)).isSome) :
    InRegisters v := by
  have hcolumn : v.raster.1 < v.registers.signalW := by
    by_contra hbehind
    obtain ⟨v', -, hraster, -, -, hx, -⟩ := harmless_of_ticks hv h (2 ^ 64)
    rw [Scan.iterate_of_le_column (Nat.le_of_not_lt hbehind)] at hraster
    have hpos : v'.rasterX = v.raster.1 + 2 ^ 64 := congrArg Prod.fst hraster
    omega
  refine ⟨hcolumn, ?_⟩
  by_contra hbehind
  -- the end of a line from which the next one has no number
  have hend : v.registers.signalW - 1 < v.registers.signalW := by omega
  obtain ⟨n, hreach⟩ := Scan.reaches_of_le_line (q := (_, v.raster.2 + 2 ^ 64)) hcolumn
    (Nat.le_of_not_lt hbehind) hend (Nat.lt_add_of_pos_right (by decide))
  obtain ⟨v', hregs, hraster, -, -, -, hy⟩ := harmless_of_ticks hv h n
  have hpos : v'.raster = (v.registers.signalW - 1, v.raster.2 + 2 ^ 64) := hraster.trans hreach
  have hx' : v'.rasterX = v.registers.signalW - 1 := congrArg Prod.fst hpos
  have hy' : v'.rasterY = v.raster.2 + 2 ^ 64 := congrArg Prod.snd hpos
  have hlast : v'.rasterX + 1 = v'.registers.signalW := by
    rw [hx', hregs]
    omega
  have hlt := hy hlast
  omega

/-- **A chip that a run has reached ticks on for ever exactly if its mode can be shown**: the raster
is in the signal, the sizes can be derived, if that is due, and every line that is drawn fits. -/
theorem ticks_isSome_iff {ops : List Op} {os : List (Option U8)}
    (hrun : Machine.run (step m) new ops = some (os, v)) :
    (∀ n, (Machine.run (step .panics) v (List.replicate n .tick)).isSome) ↔
      InRegisters v ∧ (v.parametersDirty = true → v.registers.Derivable) ∧
        v.registers.Showable := by
  have hv : UpToDate v :=
    Machine.run_invariant (fun _ _ _ _ hv h => upToDate_step hv h) upToDate_new hrun
  constructor
  · intro h
    have hin := inRegisters_of_ticks hv h
    refine ⟨hin, ?_, ?_⟩
    · obtain ⟨⟨os, v'⟩, hone⟩ := Option.isSome_iff_exists.1 (h 1)
      obtain ⟨o, v₁, os', hstep, -⟩ := Machine.run_cons_eq_some hone
      exact ((step_isSome hv).1 (Option.isSome_of_eq_some hstep)).1
    · intro hsync y hy
      -- the tick that draws line `y`
      obtain ⟨n, -, hreach⟩ := Scan.reaches hin (show Scan.InGrid _ _ (_, y) from ⟨hsync, hy⟩)
      obtain ⟨v', hregs, hraster, -, hfits, -⟩ := harmless_of_ticks hv h n
      have hpos : v'.raster = (v.registers.bufferW, y) := hraster.trans hreach
      have hx : v'.rasterX = v.registers.bufferW := congrArg Prod.fst hpos
      have hy : v'.rasterY = y := congrArg Prod.snd hpos
      rw [hx, hy, hregs] at hfits
      exact hfits rfl
  · rintro ⟨hin, hderivable, hshowable⟩ n
    exact Steady.ticks ⟨hv, hderivable, hshowable, hin⟩ .panics n

/-- After the writes of `VDC_INIT_VALUES` the chip ticks on for ever. -/
theorem ticks_isSome_helloVdc :
    ∃ os v, Machine.run (step .panics) new
        (VDC_INIT_VALUES.flatMap fun s => [.write 0 s.1, .write 1 s.2]) = some (os, v) ∧
      ∀ n, (Machine.run (step .panics) v (List.replicate n .tick)).isSome := by
  have hrun := run_vdcInitValues .panics
  refine ⟨_, _, hrun, (ticks_isSome_iff hrun).2 ?_⟩
  exact ⟨⟨by decide, by decide⟩, fun _ => showable_helloVdc.1, showable_helloVdc.2⟩

end Possum.Vdc
