import Mathlib.Data.Int.ModEq
import Mathlib.Tactic.NormNum

/-!
# Machine arithmetic on natural numbers

A word of `n` bits as a natural number below `2 ^ n`.  A build either panics when a sum, a
difference or a product leaves the word, or wraps (`Overflow`); the `wrapping` operations wrap
in every build.  The lemmas say which operands overflow and that every operation is the one on
the integers up to multiples of `2 ^ n`, so that a mask forgets how often it wrapped
(`and_mask`).
-/

set_option autoImplicit false

namespace Possum.Lib

/-- What a build does on overflow. -/
inductive Overflow
  | panics | wraps
  deriving DecidableEq, Repr

/-- `wrapping_sub` of two words. -/
def wrappingSub (n x y : ℕ) : ℕ := (x + (2 ^ n - y)) % 2 ^ n

/-- `wrapping_add` of two words. -/
def wrappingAdd (n x y : ℕ) : ℕ := (x + y) % 2 ^ n

namespace Overflow

/-- `x + y` -/
def add (m : Overflow) (n x y : ℕ) : Option ℕ :=
  if x + y < 2 ^ n then some (x + y)
  else
    match m with
    | .panics => none
    | .wraps => some (wrappingAdd n x y)

/-- `x - y` -/
def sub (m : Overflow) (n x y : ℕ) : Option ℕ :=
  if y ≤ x then some (x - y)
  else
    match m with
    | .panics => none
    | .wraps => some (wrappingSub n x y)

/-- `x * y` -/
def mul (m : Overflow) (n x y : ℕ) : Option ℕ :=
  if x * y < 2 ^ n then some (x * y)
  else
    match m with
    | .panics => none
    | .wraps => some (x * y % 2 ^ n)

variable {m : Overflow} {n x y : ℕ}

theorem add_of_lt (h : x + y < 2 ^ n) : m.add n x y = some (x + y) := if_pos h

theorem sub_of_le (h : y ≤ x) : m.sub n x y = some (x - y) := if_pos h

theorem mul_of_lt (h : x * y < 2 ^ n) : m.mul n x y = some (x * y) := if_pos h

theorem mul_wraps (n x y : ℕ) : wraps.mul n x y = some (x * y % 2 ^ n) := by
  unfold mul
  by_cases h : x * y < 2 ^ n
  · rw [if_pos h, Nat.mod_eq_of_lt h]
  · rw [if_neg h]

/-- A sum of a build that wraps is the sum up to its word, and one that does not is the sum. -/
theorem add_mod {z : ℕ} (h : m.add n x y = some z) : z % 2 ^ n = (x + y) % 2 ^ n := by
  unfold add at h
  by_cases hlt : x + y < 2 ^ n
  · rw [if_pos hlt] at h
    rw [← Option.some.inj h]
  · rw [if_neg hlt] at h
    cases m with
    | panics => cases h
    | wraps =>
      rw [← Option.some.inj h]
      exact Nat.mod_mod _ _

theorem add_wraps_isSome (n x y : ℕ) : (wraps.add n x y).isSome := by
  by_cases h : x + y < 2 ^ n <;> simp [add, h]

theorem add_panics_isSome : (panics.add n x y).isSome ↔ x + y < 2 ^ n := by
  by_cases h : x + y < 2 ^ n <;> simp [add, h]

theorem sub_panics_isSome : (panics.sub n x y).isSome ↔ y ≤ x := by
  by_cases h : y ≤ x <;> simp [sub, h]

theorem mul_panics_isSome : (panics.mul n x y).isSome ↔ x * y < 2 ^ n := by
  by_cases h : x * y < 2 ^ n <;> simp [mul, h]

/-- What a checked build computes, every build does. -/
theorem add_of_panics {z : ℕ} (h : panics.add n x y = some z) : m.add n x y = some z := by
  have hlt := add_panics_isSome.1 (Option.isSome_of_eq_some h)
  rw [add_of_lt hlt] at h ⊢
  exact h

theorem sub_of_panics {z : ℕ} (h : panics.sub n x y = some z) : m.sub n x y = some z := by
  have hle := sub_panics_isSome.1 (Option.isSome_of_eq_some h)
  rw [sub_of_le hle] at h ⊢
  exact h

theorem mul_of_panics {z : ℕ} (h : panics.mul n x y = some z) : m.mul n x y = some z := by
  have hlt := mul_panics_isSome.1 (Option.isSome_of_eq_some h)
  rw [mul_of_lt hlt] at h ⊢
  exact h

theorem sub_eq_some {z : ℕ} (hx : x < 2 ^ n) (hy : y < 2 ^ n) (h : m.sub n x y = some z) :
    z = (((x : ℤ) - y) % 2 ^ n).toNat := by
  have hpow : ((2 : ℤ) ^ n) = ((2 ^ n : ℕ) : ℤ) := by norm_cast
  by_cases hle : y ≤ x
  · rw [sub_of_le hle] at h
    rw [← Option.some.inj h, hpow, Int.emod_eq_of_lt (by omega) (by omega)]
    omega
  · cases m with
    | panics => simp [sub, hle] at h
    | wraps =>
      have hz : wrappingSub n x y = z := by simpa [sub, hle] using h
      rw [← hz, wrappingSub, Nat.mod_eq_of_lt (by omega), hpow,
        ← Int.add_emod_right, Int.emod_eq_of_lt (by omega) (by omega)]
      omega

end Overflow

/-! ### Residues -/

section

variable {n k x y z : ℕ} {e : ℤ}

theorem wrappingSub_modEq (hy : y ≤ 2 ^ n) (hx : (x : ℤ) ≡ e [ZMOD 2 ^ n]) :
    (wrappingSub n x y : ℤ) ≡ e - y [ZMOD 2 ^ n] := by
  have hcast : ((x + (2 ^ n - y) : ℕ) : ℤ) = x - y + 2 ^ n := by
    push_cast [Nat.cast_sub hy]
    omega
  have hsub : (wrappingSub n x y : ℤ) ≡ x - y [ZMOD 2 ^ n] := by
    rw [wrappingSub, Int.natCast_mod, hcast, Nat.cast_pow, Nat.cast_ofNat]
    exact (Int.mod_modEq _ _).trans (Int.add_modEq_right)
  exact hsub.trans (hx.sub_right _)

theorem Overflow.mul_modEq {m : Overflow} (h : m.mul n x y = some z) :
    (z : ℤ) ≡ x * y [ZMOD 2 ^ n] := by
  by_cases hlt : x * y < 2 ^ n
  · rw [mul_of_lt hlt] at h
    rw [← Option.some.inj h, Nat.cast_mul]
  · cases m with
    | panics => simp [mul, hlt] at h
    | wraps =>
      have hz : x * y % 2 ^ n = z := by simpa [mul, hlt] using h
      rw [← hz, Int.natCast_mod, Nat.cast_pow, Nat.cast_ofNat, Nat.cast_mul]
      exact Int.mod_modEq _ _

theorem Overflow.mul_lt {m : Overflow} (h : m.mul n x y = some z) : z < 2 ^ n := by
  by_cases hlt : x * y < 2 ^ n
  · rw [mul_of_lt hlt] at h
    rwa [← Option.some.inj h]
  · cases m with
    | panics => simp [mul, hlt] at h
    | wraps =>
      have hz : x * y % 2 ^ n = z := by simpa [mul, hlt] using h
      rw [← hz]
      exact Nat.mod_lt _ (by positivity)

/-- **A mask forgets the wraps.** -/
theorem and_mask (hk : k ≤ n) (hx : (x : ℤ) ≡ e [ZMOD 2 ^ n]) :
    x &&& (2 ^ k - 1) = (e % 2 ^ k).toNat := by
  have hmod : (x : ℤ) % 2 ^ k = e % 2 ^ k := hx.of_dvd (pow_dvd_pow 2 hk)
  rw [Nat.and_two_pow_sub_one_eq_mod, ← hmod]
  exact (Int.toNat_natCast (x % 2 ^ k)).symm.trans (by norm_cast)

end

end Possum.Lib
