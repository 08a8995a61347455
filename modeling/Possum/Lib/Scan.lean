import Mathlib.Data.Nat.Notation
import Mathlib.Algebra.Order.Interval.Finset.Basic
import Mathlib.Data.Nat.Periodic
import Mathlib.Tactic.Ring
import Mathlib.Logic.Function.Iterate

/-!
# Scanning a grid

A scan visits the positions of a grid `w` wide and `h` high line by line and starts again.  In
the order of the scan a position has an index (`index_lt`, `index_inj`), one move counts it up
modulo the size of the grid (`index_next`), so from every position every other is reached within
one round (`reaches`), one round is on every line once for each of its columns (`card_line`), and
the rounds that `n` moves complete can be counted (`card_rounds`).

From a position outside the grid a scan never starts again: it runs away along its line
(`iterate_of_le_column`), or from line to line (`reaches_of_le_line`).
-/

set_option autoImplicit false

namespace Possum.Lib.Scan

variable {w h : ℕ} {p q : ℕ × ℕ}

/-- A position of the grid: its column and its line. -/
def InGrid (w h : ℕ) (p : ℕ × ℕ) : Prop := p.1 < w ∧ p.2 < h

/-- The position after `p`. -/
def next (w h : ℕ) (p : ℕ × ℕ) : ℕ × ℕ :=
  if p.1 + 1 = w then (0, if p.2 + 1 = h then 0 else p.2 + 1) else (p.1 + 1, p.2)

/-- The number of positions before `p`. -/
def index (w : ℕ) (p : ℕ × ℕ) : ℕ := p.2 * w + p.1

theorem inGrid_next (hp : InGrid w h p) : InGrid w h (next w h p) := by
  obtain ⟨hx, hy⟩ := hp
  unfold next InGrid
  split
  · split <;> simp only <;> omega
  · simp only
    omega

/-- The scan starts again behind the end of the last line. -/
theorem next_eq_start_iff : next w h p = (0, 0) ↔ p.1 + 1 = w ∧ p.2 + 1 = h := by
  unfold next
  by_cases hend : p.1 + 1 = w
  · rw [if_pos hend, and_iff_right hend, Prod.mk.injEq, and_iff_right rfl]
    split
    case isTrue hlast => exact iff_of_true rfl hlast
    case isFalse hlast => exact iff_of_false (Nat.succ_ne_zero _) hlast
  · rw [if_neg hend]
    refine iff_of_false ?_ fun h => hend h.1
    intro heq
    exact Nat.succ_ne_zero p.1 (congrArg Prod.fst heq)

theorem inGrid_iterate (hp : InGrid w h p) (n : ℕ) : InGrid w h ((next w h)^[n] p) := by
  induction n with
  | zero => exact hp
  | succ n ih =>
    rw [Function.iterate_succ_apply']
    exact inGrid_next ih

theorem index_lt (hp : InGrid w h p) : index w p < w * h := by
  obtain ⟨hx, hy⟩ := hp
  calc index w p < p.2 * w + w := Nat.add_lt_add_left hx _
    _ = w * (p.2 + 1) := by ring
    _ ≤ w * h := Nat.mul_le_mul_left w hy

/-- The line of a position. -/
theorem index_div (hp : InGrid w h p) : index w p / w = p.2 := by
  have hw : 0 < w := Nat.zero_lt_of_lt hp.1
  rw [index, Nat.mul_comm, Nat.mul_add_div hw, Nat.div_eq_of_lt hp.1, Nat.add_zero]

/-- The column of a position. -/
theorem index_mod (hp : InGrid w h p) : index w p % w = p.1 := by
  rw [index, Nat.mul_comm, Nat.mul_add_mod, Nat.mod_eq_of_lt hp.1]

theorem index_inj (hp : InGrid w h p) (hq : InGrid w h q) (heq : index w p = index w q) :
    p = q := by
  ext
  · rw [← index_mod hp, heq, index_mod hq]
  · rw [← index_div hp, heq, index_div hq]

/-- **One move counts the index up.** -/
theorem index_next (hp : InGrid w h p) :
    index w (next w h p) = (index w p + 1) % (w * h) := by
  obtain ⟨hx, hy⟩ := hp
  by_cases hend : p.1 + 1 = w
  · have hsucc : index w p + 1 = w * (p.2 + 1) := by
      rw [index, Nat.add_assoc, hend]
      ring
    by_cases hlast : p.2 + 1 = h
    · rw [hsucc, hlast, Nat.mod_self, next, if_pos hend, if_pos hlast, index]
      exact Nat.zero_mul w
    · have hlt : w * (p.2 + 1) < w * h :=
        Nat.mul_lt_mul_of_pos_left (by omega) (Nat.zero_lt_of_lt hx)
      rw [hsucc, Nat.mod_eq_of_lt hlt, next, if_pos hend, if_neg hlast, index]
      ring
  · have hnext : InGrid w h (p.1 + 1, p.2) := ⟨by omega, hy⟩
    have hidx : index w (p.1 + 1, p.2) = index w p + 1 := rfl
    rw [next, if_neg hend, ← hidx, Nat.mod_eq_of_lt (index_lt hnext)]

theorem index_iterate (hp : InGrid w h p) (n : ℕ) :
    index w ((next w h)^[n] p) = (index w p + n) % (w * h) := by
  induction n with
  | zero => exact (Nat.mod_eq_of_lt (index_lt hp)).symm
  | succ n ih =>
    rw [Function.iterate_succ_apply', index_next (inGrid_iterate hp n), ih, Nat.mod_add_mod,
      Nat.add_assoc]

theorem column_iterate (hp : InGrid w h p) (n : ℕ) : ((next w h)^[n] p).1 = (p.1 + n) % w := by
  rw [← index_mod (inGrid_iterate hp n), index_iterate hp, Nat.mod_mul_right_mod, index,
    Nat.add_assoc, Nat.mul_comm, Nat.mul_add_mod]

/-- **Every position is reached within one round.** -/
theorem reaches (hp : InGrid w h p) (hq : InGrid w h q) :
    ∃ n < w * h, (next w h)^[n] p = q := by
  have hip := index_lt hp
  have hiq := index_lt hq
  refine ⟨(index w q + (w * h - index w p)) % (w * h), Nat.mod_lt _ (by omega), ?_⟩
  apply index_inj (inGrid_iterate hp _) hq
  rw [index_iterate hp, Nat.add_mod_mod,
    show index w p + (index w q + (w * h - index w p)) = index w q + w * h by omega,
    Nat.add_mod_right, Nat.mod_eq_of_lt hiq]

/-! ### Rounds -/

/-- **A round is on every line once for each of its columns.** -/
theorem card_line (hp : InGrid w h p) {y : ℕ} (hy : y < h) (n : ℕ) :
    ((Finset.range (w * h)).filter fun i => ((next w h)^[n + i] p).2 = y).card = w := by
  have hw : 0 < w := Nat.zero_lt_of_lt hp.1
  let onLine : ℕ → Prop := fun i => i % (w * h) / w = y
  have hon (i : ℕ) : ((next w h)^[n + i] p).2 = y ↔ onLine (index w p + n + i) := by
    rw [← index_div (inGrid_iterate hp (n + i)), index_iterate hp, Nat.add_assoc]
  have hperiodic : Function.Periodic onLine (w * h) := fun i => by
    show ((i + w * h) % (w * h) / w = y) = (i % (w * h) / w = y)
    rw [Nat.add_mod_right]
  have hround : ((Finset.range (w * h)).filter fun i => onLine (index w p + n + i)).card =
      (w * h).count onLine := by
    have hshift : Finset.Ico (index w p + n) (index w p + n + w * h) =
        (Finset.range (w * h)).map (addLeftEmbedding (index w p + n)) := by
      rw [Finset.range_eq_Ico, Finset.map_add_left_Ico, Nat.add_zero]
    rw [← Nat.filter_Ico_card_eq_of_periodic (index w p + n) (w * h) onLine hperiodic, hshift,
      Finset.filter_map, Finset.card_map]
    rfl
  have hline : (Finset.range (w * h)).filter onLine = Finset.Ico (y * w) (y * w + w) := by
    ext i
    have hend : (y + 1) * w ≤ h * w := Nat.mul_le_mul_right w hy
    have hsplit : (y + 1) * w = y * w + w := Nat.succ_mul y w
    rw [Nat.mul_comm h w] at hend
    rw [Finset.mem_filter, Finset.mem_range, Finset.mem_Ico]
    constructor
    · rintro ⟨hlt, hon⟩
      have hline : i / w = y := by
        rw [← hon, Nat.mod_eq_of_lt hlt]
      obtain ⟨hlow, hhigh⟩ := (Nat.div_eq_iff hw).1 hline
      exact ⟨hlow, by omega⟩
    · rintro ⟨hlow, hhigh⟩
      have hlt : i < w * h := by omega
      refine ⟨hlt, ?_⟩
      show i % (w * h) / w = y
      rw [Nat.mod_eq_of_lt hlt]
      exact (Nat.div_eq_iff hw).2 ⟨hlow, by omega⟩
  simp only [hon]
  rw [hround, Nat.count_eq_card_filter_range, hline, Nat.card_Ico, Nat.add_sub_cancel_left]

/-- The position a round starts with. -/
theorem eq_start_iff (hp : InGrid w h p) : p = (0, 0) ↔ index w p = 0 := by
  have hstart : InGrid w h (0, 0) := ⟨Nat.zero_lt_of_lt hp.1, Nat.zero_lt_of_lt hp.2⟩
  have hzero : index w (0, 0) = 0 := Nat.zero_mul w
  constructor
  · rintro rfl
    exact hzero
  · intro h0
    exact index_inj hp hstart (h0.trans hzero.symm)

/-- **The rounds that `n` moves complete.** -/
theorem card_rounds (hp : InGrid w h p) (n : ℕ) :
    ((Finset.range n).filter fun i => (next w h)^[i + 1] p = (0, 0)).card =
      (index w p + n) / (w * h) := by
  induction n with
  | zero => exact (Nat.div_eq_of_lt (index_lt hp)).symm
  | succ n ih =>
    have hround : (next w h)^[n + 1] p = (0, 0) ↔ w * h ∣ index w p + n + 1 := by
      rw [eq_start_iff (inGrid_iterate hp (n + 1)), index_iterate hp, Nat.add_assoc]
      exact Nat.dvd_iff_mod_eq_zero.symm
    rw [Finset.range_add_one, Finset.filter_insert, ← Nat.add_assoc, Nat.succ_div]
    by_cases hlast : w * h ∣ index w p + n + 1
    · rw [if_pos (hround.2 hlast), if_pos hlast, Finset.card_insert_of_notMem fun hmem =>
        Finset.notMem_range_self (Finset.mem_filter.1 hmem).1, ih]
    · rw [if_neg (mt hround.1 hlast), if_neg hlast, ih, Nat.add_zero]

/-! ### Outside the grid -/

/-- Behind the end of the lines a scan runs along its line for ever. -/
theorem iterate_of_le_column (hx : w ≤ p.1) (n : ℕ) : (next w h)^[n] p = (p.1 + n, p.2) := by
  induction n with
  | zero => rfl
  | succ n ih =>
    have hbehind : ¬ p.1 + n + 1 = w := by omega
    rw [Function.iterate_succ_apply', ih, next, if_neg hbehind, Nat.add_assoc]

/-- Behind the last line one move counts the index up and ends no round. -/
theorem next_of_le_line (hx : p.1 < w) (hy : h ≤ p.2) :
    (next w h p).1 < w ∧ h ≤ (next w h p).2 ∧ index w (next w h p) = index w p + 1 := by
  by_cases hend : p.1 + 1 = w
  · have hbehind : ¬ p.2 + 1 = h := by omega
    rw [next, if_pos hend, if_neg hbehind]
    refine ⟨Nat.zero_lt_of_lt hx, Nat.le_succ_of_le hy, ?_⟩
    show (p.2 + 1) * w + 0 = p.2 * w + p.1 + 1
    rw [Nat.add_assoc (p.2 * w), hend]
    ring
  · rw [next, if_neg hend]
    exact ⟨by omega, hy, rfl⟩

theorem iterate_of_le_line (hx : p.1 < w) (hy : h ≤ p.2) (n : ℕ) :
    ((next w h)^[n] p).1 < w ∧ h ≤ ((next w h)^[n] p).2 ∧
      index w ((next w h)^[n] p) = index w p + n := by
  induction n with
  | zero => exact ⟨hx, hy, rfl⟩
  | succ n ih =>
    obtain ⟨hx', hy', hindex⟩ := ih
    obtain ⟨hx'', hy'', hindex'⟩ := next_of_le_line hx' hy'
    rw [Function.iterate_succ_apply']
    exact ⟨hx'', hy'', by rw [hindex', hindex, Nat.add_assoc]⟩

/-- **Behind the last line a scan reaches every later line**, whatever the grid. -/
theorem reaches_of_le_line (hx : p.1 < w) (hy : h ≤ p.2) (hq : q.1 < w) (hlater : p.2 < q.2) :
    ∃ n, (next w h)^[n] p = q := by
  have hle : index w p ≤ index w q := by
    calc index w p ≤ p.2 * w + w := Nat.add_le_add_left hx.le _
      _ = (p.2 + 1) * w := by ring
      _ ≤ q.2 * w := Nat.mul_le_mul_right w hlater
      _ ≤ index w q := Nat.le_add_right _ _
  refine ⟨index w q - index w p, ?_⟩
  obtain ⟨hx', -, hindex⟩ := iterate_of_le_line hx hy (index w q - index w p)
  rw [Nat.add_sub_cancel' hle] at hindex
  exact index_inj ⟨hx', Nat.lt_succ_of_le (Nat.le_max_left _ q.2)⟩
    ⟨hq, Nat.lt_succ_of_le (Nat.le_max_right _ _)⟩ hindex

end Possum.Lib.Scan
