import Possum.Vdc.Timing

/-!
# Polling the vertical blank

A guest reads the status between two ticks and should find VBLANK set on a line of the vertical
blank that has passed its horizontal sync, and clear on a line that is displayed (`Shows`).  A tick
sets the bit in a single column, and the next one clears it again, so that it is seen for one tick
of a line.

**`vblank_polled_iff`**: in runs of more than a frame it is shown as it should be exactly if the
signal ends behind that column, or has no such line at all (`PollsRight`).
-/

set_option autoImplicit false

namespace Possum.Vdc

open Lib

/-- What a status read should show. -/
def Shows (m : Overflow) (v : Vdc) : Prop :=
  ∀ (port : U16) (b : U8) (v' : Vdc), port &&& 0x01 = 0 → v.read m port = some (b, v') →
    (v.parameters.vsyncStart ≤ v.rasterY → v.parameters.hsyncStart < v.rasterX →
      b &&& Status.VBLANK ≠ 0) ∧
    (v.parameters.topBorderHeight ≤ v.rasterY →
      v.rasterY < v.parameters.topBorderHeight + v.parameters.visibleHeight →
      b &&& Status.VBLANK = 0)

/-- The sizes with which VBLANK can be polled.  Where the signal goes on for more than one column
behind the horizontal sync no line may be behind the vertical sync; where it goes on for one, those
lines may not be displayed; and where it ends there, the bit of the last line must not be seen on
line 0. -/
structure Parameters.PollsRight (p : Parameters) : Prop where
  wide : p.hsyncStart + 2 < p.signalWidth → p.signalHeight ≤ p.vsyncStart
  narrow : p.hsyncStart + 2 = p.signalWidth → p.vsyncStart < p.signalHeight →
    p.topBorderHeight + p.visibleHeight ≤ p.vsyncStart
  none : p.hsyncStart + 1 = p.signalWidth → p.topBorderHeight = 0 → 0 < p.visibleHeight →
    ¬ p.Blank (p.signalHeight - 1)

variable {m : Overflow} {v v' : Vdc}

theorem shows_iff : v.Shows m ↔
    (v.parameters.vsyncStart ≤ v.rasterY → v.parameters.hsyncStart < v.rasterX →
      v.vblank = true) ∧
    (v.parameters.topBorderHeight ≤ v.rasterY →
      v.rasterY < v.parameters.topBorderHeight + v.parameters.visibleHeight →
      v.vblank = false) := by
  have hset : v.vblank = true ↔ v.status &&& Status.VBLANK ≠ 0 := bne_iff_ne
  have hclear : v.vblank = false ↔ v.status &&& Status.VBLANK = 0 := bne_eq_false_iff_eq
  rw [hset, hclear]
  constructor
  · intro h
    exact h 0 v.status v rfl (read_status v rfl)
  · rintro h port b v' hport hshown
    rw [read_status v hport] at hshown
    cases hshown
    exact h

/-! ### One tick -/

/-- A tick from inside the signal shows the vertical blank as it should, with the right sizes. -/
theorem shows_of_timed (hin : InSignal v) (hsync : v.parameters.hsyncStart <
    v.parameters.signalWidth) (hright : v.parameters.PollsRight) (h : Timed v v') :
    v'.Shows m := by
  have hx : v.rasterX < v.parameters.signalWidth := hin.inGrid.1
  have hy : v.rasterY < v.parameters.signalHeight := hin.inGrid.2
  have hnext : (v'.rasterX, v'.rasterY) = Scan.next _ _ (v.rasterX, v.rasterY) := h.raster
  rw [shows_iff, h.parameters, ← Bool.not_eq_true, h.vblank]
  unfold Scan.next at hnext
  by_cases hend : v.rasterX + 1 = v.parameters.signalWidth
  · -- a line begins
    rw [if_pos hend, Prod.mk.injEq] at hnext
    obtain ⟨hcolumn, hline⟩ := hnext
    rw [hcolumn]
    refine ⟨fun _ hpassed => absurd hpassed (Nat.not_lt_zero _), ?_⟩
    rintro htop hdisplayed ⟨hat, hshown, hblank⟩
    split at hline
    case isTrue hlast =>
      have hy' : v.parameters.signalHeight - 1 = v.rasterY := by omega
      refine hright.none (by omega) (by omega) (by omega) ?_
      rw [hy']
      exact ⟨hshown, hblank⟩
    case isFalse hlast => omega
  · -- the line goes on
    rw [if_neg hend, Prod.mk.injEq] at hnext
    obtain ⟨hcolumn, hline⟩ := hnext
    rw [hcolumn, hline]
    constructor
    · intro hblank hpassed
      have hnarrow : v.parameters.hsyncStart + 2 = v.parameters.signalWidth := by
        by_contra hne
        have hwide := hright.wide (by omega)
        omega
      have hshown := hright.narrow hnarrow (by omega)
      exact ⟨by omega, by omega, hblank⟩
    · rintro - hdisplayed ⟨-, hblank, -⟩
      omega

/-! ### Paths -/

section

variable {s : ℕ → Vdc} {N : ℕ}

/-- Every position is passed in the second frame. -/
theorem path_reaches (hin : InSignal (s 0)) (hpath : ∀ i < N, Passes m (s i) (s (i + 1)))
    {x y : ℕ} (hx : x < (s 0).parameters.signalWidth) (hy : y < (s 0).parameters.signalHeight)
    (hN : 2 * ((s 0).parameters.signalWidth * (s 0).parameters.signalHeight) ≤ N) :
    ∃ n, (s 0).parameters.signalWidth * (s 0).parameters.signalHeight ≤ n ∧ n < N ∧
      (s n).rasterX = x ∧ (s n).rasterY = y := by
  let size := (s 0).parameters.signalWidth * (s 0).parameters.signalHeight
  obtain ⟨k, hk, hreach⟩ := Scan.reaches (Scan.inGrid_iterate hin.inGrid size)
    (show Scan.InGrid _ _ (x, y) from ⟨hx, hy⟩)
  rw [← Function.iterate_add_apply, Nat.add_comm] at hreach
  have hn : size + k < N := by
    show (s 0).parameters.signalWidth * (s 0).parameters.signalHeight + k < N
    omega
  have hraster := (path hin hpath (Nat.le_of_lt hn)).2.2.trans hreach
  exact ⟨size + k, Nat.le_add_right _ _, hn, congrArg Prod.fst hraster,
    congrArg Prod.snd hraster⟩

/-- What the tick at a position shows in the second frame. -/
theorem shown_after (hin : InSignal (s 0)) (hpath : ∀ i < N, Passes m (s i) (s (i + 1)))
    (hN : 2 * ((s 0).parameters.signalWidth * (s 0).parameters.signalHeight) ≤ N)
    (hshows : ∀ n, (s 0).parameters.signalWidth * (s 0).parameters.signalHeight ≤ n → n ≤ N →
      (s n).Shows m)
    {x y : ℕ} (hx : x < (s 0).parameters.signalWidth)
    (hy : y < (s 0).parameters.signalHeight) :
    ∃ v v', v.parameters = (s 0).parameters ∧ v.rasterX = x ∧ v.rasterY = y ∧ Timed v v' ∧
      v'.Shows m := by
  obtain ⟨n, hn, hlt, hcolumn, hline⟩ := path_reaches hin hpath hx hy hN
  exact ⟨s n, s (n + 1), (path hin hpath (Nat.le_of_lt hlt)).2.1, hcolumn, hline,
    path_next hin hpath hlt, hshows (n + 1) (Nat.le_succ_of_le hn) hlt⟩

theorem pollsRight_of_shows (hin : InSignal (s 0))
    (hpath : ∀ i < N, Passes m (s i) (s (i + 1)))
    (hN : 2 * ((s 0).parameters.signalWidth * (s 0).parameters.signalHeight) ≤ N)
    (hshows : ∀ n, (s 0).parameters.signalWidth * (s 0).parameters.signalHeight ≤ n → n ≤ N →
      (s n).Shows m) : (s 0).parameters.PollsRight := by
  have hnext {v v' : Vdc} (h : Timed v v') : (v'.rasterX, v'.rasterY) =
      Scan.next v.parameters.signalWidth v.parameters.signalHeight (v.rasterX, v.rasterY) :=
    h.raster
  have hw : (s 0).rasterX < (s 0).parameters.signalWidth := hin.inGrid.1
  have hh : (s 0).rasterY < (s 0).parameters.signalHeight := hin.inGrid.2
  constructor
  case wide =>
    intro hwide
    by_contra hlines
    -- two columns behind the horizontal sync
    obtain ⟨v, v', hparams, hx, hy, htimed, hshown⟩ := shown_after hin hpath hN hshows
      (x := (s 0).parameters.hsyncStart + 1) (y := (s 0).parameters.vsyncStart)
      (by omega) (by omega)
    have hraster := hnext htimed
    rw [hparams, hx, hy, Scan.next, if_neg (Nat.ne_of_lt hwide), Prod.mk.injEq] at hraster
    have hset := (shows_iff.1 hshown).1
    rw [htimed.parameters, hparams, hraster.1, hraster.2] at hset
    have hat := (htimed.vblank.1 (hset (Nat.le_refl _) (by omega))).1
    rw [hparams, hx] at hat
    omega
  case narrow =>
    intro hnarrow hline
    -- the column behind the horizontal sync
    obtain ⟨v, v', hparams, hx, hy, htimed, hshown⟩ := shown_after hin hpath hN hshows
      (x := (s 0).parameters.hsyncStart) (y := (s 0).parameters.vsyncStart)
      (by omega) hline
    have hinside : (s 0).parameters.hsyncStart + 1 ≠ (s 0).parameters.signalWidth := by omega
    have hraster := hnext htimed
    rw [hparams, hx, hy, Scan.next, if_neg hinside, Prod.mk.injEq] at hraster
    have hset := (shows_iff.1 hshown).1
    rw [htimed.parameters, hparams, hraster.1, hraster.2] at hset
    have hblank := (htimed.vblank.1 (hset (Nat.le_refl _) (by omega))).2.1
    rw [hparams, hy] at hblank
    exact hblank
  case none =>
    intro hend htop hvisible hblank
    -- the last position of the frame
    obtain ⟨v, v', hparams, hx, hy, htimed, hshown⟩ := shown_after hin hpath hN hshows
      (x := (s 0).parameters.hsyncStart) (y := (s 0).parameters.signalHeight - 1)
      (by omega) (by omega)
    have hraster := hnext htimed
    rw [hparams, hx, hy, Scan.next, if_pos hend, if_pos (by omega), Prod.mk.injEq] at hraster
    have hset := htimed.vblank.2 ⟨by rw [hparams, hx], by rw [hparams, hy]; exact hblank⟩
    have hclear := (shows_iff.1 hshown).2
    rw [htimed.parameters, hparams, hraster.2, htop] at hclear
    rw [hclear (Nat.le_refl _) (by omega)] at hset
    cases hset

end

/-- **When the vertical blank can be polled.**  Along a path of reads and ticks from inside the
signal, every state after the first frame shows the vertical blank as it should, if the sizes are
right, and only then if the path has two frames. -/
theorem vblank_polled_iff (m : Overflow) {s : ℕ → Vdc} {N : ℕ} (hin : InSignal (s 0))
    (hsync : (s 0).parameters.hsyncStart < (s 0).parameters.signalWidth)
    (hpath : ∀ i < N, Passes m (s i) (s (i + 1))) :
    let frame := (s 0).parameters.signalWidth * (s 0).parameters.signalHeight
    ((s 0).parameters.PollsRight → ∀ n, frame ≤ n → n ≤ N → (s n).Shows m) ∧
      (2 * frame ≤ N → (∀ n, frame ≤ n → n ≤ N → (s n).Shows m) →
        (s 0).parameters.PollsRight) := by
  intro frame
  refine ⟨fun hright n hn hnN => ?_, fun hN hshows => pollsRight_of_shows hin hpath hN hshows⟩
  have hw : 0 < (s 0).parameters.signalWidth := Nat.zero_lt_of_lt hin.inGrid.1
  have hh : 0 < (s 0).parameters.signalHeight := Nat.zero_lt_of_lt hin.inGrid.2
  have hpos : 0 < n := Nat.lt_of_lt_of_le (Nat.mul_pos hw hh) hn
  obtain ⟨k, rfl⟩ := Nat.exists_eq_add_of_lt hpos
  rw [Nat.zero_add] at hnN ⊢
  obtain ⟨hin', hparams, -⟩ := path hin hpath (Nat.le_of_succ_le hnN)
  refine shows_of_timed hin' ?_ ?_ (path_next hin hpath hnN)
  · rw [hparams]
    exact hsync
  · rw [hparams]
    exact hright

/-- A signal of four lines of four pixels: line 1 is displayed, lines 2 and 3 are in the vertical
blank, and one column is behind the horizontal sync. -/
def fourLines : Registers where
  horizTotal := 3
  horizDisplayed := 2
  horizSync := 4
  syncWidths := 0x23
  vertTotal := 3
  vertDisplayed := 1
  vertSync := 1
  charTotalDispHoriz := 0x01
  charDispVert := 1

theorem steady_fourLines : Steady { new with registers := fourLines } :=
  .of_dirty rfl (by decide) (by decide) ⟨by decide, by decide⟩

theorem vblank_polled_iff_fourLines :
    let s := fun i => ticked .panics { new with registers := fourLines } (i + 1)
    ∀ n, 4 * 4 ≤ n → n ≤ 1000 → (s n).Shows .panics := by
  intro s
  obtain ⟨hin, hp, hpath⟩ := steady_fourLines.path .panics
  have hw : (s 0).parameters.signalWidth = 4 := hp.signalWidth.trans (by decide)
  have hh : (s 0).parameters.signalHeight = 4 := hp.signalHeight.trans (by decide)
  have hsync : (s 0).parameters.hsyncStart = 2 := hp.hsyncStart.trans (by decide)
  have hvsync : (s 0).parameters.vsyncStart = 2 := hp.vsyncStart.trans (by decide)
  have htop : (s 0).parameters.topBorderHeight = 1 := hp.topBorderHeight.trans (by decide)
  have hvisible : (s 0).parameters.visibleHeight = 1 := hp.visibleHeight.trans (by decide)
  have hright : (s 0).parameters.PollsRight := by
    constructor <;> rw [hsync, hw]
    case wide => exact fun h => absurd h (by decide)
    case narrow =>
      rw [htop, hvisible, hvsync]
      exact fun _ _ => Nat.le_refl 2
    case none => exact fun h => absurd h (by decide)
  have hpolled := (vblank_polled_iff .panics (s := s) (N := 1000) hin (by rw [hsync, hw]; decide)
    fun i _ => hpath i).1 hright
  rw [hw, hh] at hpolled
  exact hpolled

/-- A signal of four pixels on two lines, line 1 in the vertical blank, polled after three ticks and
then after every fourth. -/
def fourPixels : List Op :=
  [(0x00, 0x03), (0x03, 0x14), ((0x04, 0x01) : U8 × U8)].flatMap
      (fun r => [.write 0 r.1, .write 1 r.2]) ++
    List.replicate 3 .tick ++
    (List.replicate 3 (.read 0 :: List.replicate 4 .tick)).flatten ++ [.read 0]

/-- The guest finds the raster on line 1, past the horizontal sync, twice in two frames, and never
sees VBLANK. -/
theorem vblank_missed : ∃ os v, Machine.run (step .panics) new fourPixels = some (os, v) ∧
    os.filterMap id = [0x80, 0x80, 0x80, 0x80] ∧ v.raster = (3, 1) ∧
      v.parameters.hsyncStart = 1 ∧ v.parameters.vsyncStart = 1 ∧
      (v.parameters.signalWidth, v.parameters.signalHeight) = (4, 2) ∧ ¬ v.Shows .panics := by
  refine ⟨_, _, rfl, rfl, rfl, rfl, rfl, rfl, ?_⟩
  intro h
  have hpassed : (1 : ℕ) < 3 := by decide
  exact (h 0 0x80 _ rfl rfl).1 (Nat.le_refl 1) hpassed rfl

end Possum.Vdc
