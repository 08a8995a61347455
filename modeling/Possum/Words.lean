import Mathlib.Algebra.Group.Nat.Defs
import Mathlib.Data.Nat.Notation
import Mathlib.Data.List.Basic

/-!
# Machine words

The fixed-width words of the emulator (`u8`, `u16`, `u32`) are bit vectors, so that their
arithmetic wraps as the release build's does.  `hi`/`lo`/`word` split a 16-bit word into
its bytes and put it together again (`u16_parts`, and the `low | (high << 8)` of the
sources); `carryingAdd`/`borrowingSub` are the standard library's `carrying_add` and
`borrowing_sub`.
-/

set_option autoImplicit false

namespace Possum

abbrev U8 := BitVec 8
abbrev U16 := BitVec 16
abbrev U32 := BitVec 32

/-- The high byte of a 16-bit word. -/
def hi (w : U16) : U8 := (w >>> 8).setWidth 8

/-- The low byte of a 16-bit word. -/
def lo (w : U16) : U8 := w.setWidth 8

/-- The 16-bit word with the given high and low bytes. -/
def word (high low : U8) : U16 := (high.setWidth 16 <<< 8) ||| low.setWidth 16

@[simp] theorem hi_word (h l : U8) : hi (word h l) = h := by
  apply BitVec.eq_of_getLsbD_eq
  intro i hlt
  simp [hi, word, hlt, show 8 + i < 16 by omega, show ¬ 8 + i < 8 by omega]

@[simp] theorem lo_word (h l : U8) : lo (word h l) = l := by
  apply BitVec.eq_of_getLsbD_eq
  intro i hlt
  simp [lo, word, hlt]

@[simp] theorem word_hi_lo (w : U16) : word (hi w) (lo w) = w := by
  apply BitVec.eq_of_getLsbD_eq
  intro i hlt
  by_cases h8 : i < 8
  · simp [hi, lo, word, h8, hlt]
  · simp [hi, lo, word, h8, hlt, show i - 8 < 8 by omega, show i - 8 < 16 by omega,
      show 8 + (i - 8) = i by omega]

theorem hi_toNat (w : U16) : (hi w).toNat = w.toNat / 256 := by
  have hlt : w.toNat < 65536 := w.isLt
  rw [hi, BitVec.toNat_setWidth, BitVec.toNat_ushiftRight, Nat.shiftRight_eq_div_pow]
  omega

theorem lo_toNat (w : U16) : (lo w).toNat = w.toNat % 256 := BitVec.toNat_setWidth 8 w

theorem word_toNat (h l : U8) : (word h l).toNat = 256 * h.toNat + l.toNat := by
  have hh := hi_toNat (word h l)
  have hl := lo_toNat (word h l)
  rw [hi_word] at hh
  rw [lo_word] at hl
  omega

theorem setWidth_eq_word (b : U8) : b.setWidth 16 = word 0 b := by
  show _ = (0 : U8).setWidth 16 <<< 8 ||| b.setWidth 16
  simp

/-- `(old & 0xFF00) | low`: the low byte is replaced. -/
theorem replace_low (old : U16) (data : U8) :
    (old &&& 0xFF00#16) ||| data.setWidth 16 = word (hi old) data := by
  apply BitVec.eq_of_getLsbD_eq
  intro i hlt
  have hbit : ∀ i < 16, BitVec.getLsbD 0xFF00#16 i = decide (8 ≤ i) := by decide
  rw [word, BitVec.getLsbD_or, BitVec.getLsbD_or, BitVec.getLsbD_and, hbit i hlt]
  by_cases h8 : 8 ≤ i
  · simp [hi, hlt, h8, show 8 + (i - 8) = i by omega, show i - 8 < 8 by omega]
  · simp [hlt, h8, show i < 8 by omega]

/-- `(old & 0x00FF) | (high << 8)`: the high byte is replaced. -/
theorem replace_high (old : U16) (data : U8) :
    (old &&& 0x00FF#16) ||| (data.setWidth 16 <<< 8) = word data (lo old) := by
  apply BitVec.eq_of_getLsbD_eq
  intro i hlt
  have hbit : ∀ i < 16, BitVec.getLsbD 0x00FF#16 i = decide (i < 8) := by decide
  rw [word, BitVec.getLsbD_or, BitVec.getLsbD_or, BitVec.getLsbD_and, hbit i hlt]
  by_cases h8 : i < 8
  · simp [lo, hlt, h8]
  · simp [lo, h8]

/-- Masking a word with 0xFF leaves its low byte. -/
theorem and_low_byte (w : U16) : w &&& 0xFF = (lo w).setWidth 16 := by
  apply BitVec.eq_of_toNat_eq
  rw [BitVec.toNat_and, BitVec.toNat_setWidth, lo, BitVec.toNat_setWidth]
  have hmask : w.toNat &&& 255 = w.toNat % 256 := Nat.and_two_pow_sub_one_eq_mod w.toNat 8
  show w.toNat &&& 255 = _
  rw [hmask]
  omega

/-- Sign extension of a displacement byte: `as i8 as i16`. -/
def signExtend (d : U8) : U16 := d.signExtend 16

section Carry

variable {n : ℕ}

/-- `carrying_add`: the wrapped sum with a carry in, and the carry out. -/
def carryingAdd (x y : BitVec n) (carry : Bool) : BitVec n × Bool :=
  (x + y + BitVec.ofNat n carry.toNat, decide (2 ^ n ≤ x.toNat + y.toNat + carry.toNat))

/-- `borrowing_sub`: the wrapped difference with a borrow in, and the borrow out. -/
def borrowingSub (x y : BitVec n) (borrow : Bool) : BitVec n × Bool :=
  (x - y - BitVec.ofNat n borrow.toNat, decide (x.toNat < y.toNat + borrow.toNat))

end Carry

/-- `count_ones` of a byte. -/
def countOnes (b : U8) : ℕ := (List.range 8).countP fun i => b.getLsbD i

end Possum
