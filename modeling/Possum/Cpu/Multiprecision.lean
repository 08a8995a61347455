import Possum.Cpu.Operands
import Possum.Lib.CarryChain
import Mathlib.Tactic.LinearCombination

/-!
# Arithmetic on numbers of many words

ADC and SBC of bytes and of words as the steps of a chain.  Between two instructions of a chain
anything may happen to the processor, as long as flag C is kept: `ByteStep` and `WideStep` are one
instruction on any processor with the two digits in its registers.

A word is treated as its two bytes are, low byte first (`carryingAdd_halves`, `borrowingSub_halves`),
and the flags of the word are those of its high byte but for Z (`wideFlags_high`).
**`multiprecision_exact`** puts this together with the chains of digits.
-/

set_option autoImplicit false

namespace Possum

open Lib

/-! ### Words and their halves -/

theorem hi_xor (x y : U16) : hi (x ^^^ y) = hi x ^^^ hi y := by
  rw [hi, BitVec.ushiftRight_xor_distrib, BitVec.setWidth_xor]
  rfl

theorem hi_and (x y : U16) : hi (x &&& y) = hi x &&& hi y := by
  rw [hi, BitVec.ushiftRight_and_distrib, BitVec.setWidth_and]
  rfl

section

variable {n : ℕ} (x y : BitVec n) (carry : Bool)

/-- A sum, with the carry out above it. -/
theorem carryingAdd_value :
    ((carryingAdd x y carry).1.toNat : ℤ) + 1 * 2 ^ n * (carryingAdd x y carry).2.toNat =
      x.toNat + 1 * (y.toNat + carry.toNat) := by
  have hx : x.toNat < 2 ^ n := x.isLt
  have hy : y.toNat < 2 ^ n := y.isLt
  have hcarry : carry.toNat ≤ 1 := Bool.toNat_le carry
  have hsum : (carryingAdd x y carry).1.toNat = (x.toNat + y.toNat + carry.toNat) % 2 ^ n := by
    rw [carryingAdd, BitVec.toNat_add, BitVec.toNat_add, BitVec.toNat_ofNat, ← Nat.add_mod]
  have hcast : ((2 : ℤ) ^ n) = ((2 ^ n : ℕ) : ℤ) := by norm_cast
  rw [hsum, hcast, carryingAdd]
  generalize 2 ^ n = size at hx hy ⊢
  by_cases hle : size ≤ x.toNat + y.toNat + carry.toNat
  · rw [decide_eq_true hle, Nat.mod_eq_sub_mod hle, Nat.mod_eq_of_lt (by omega)]
    simp only [Bool.toNat_true]
    omega
  · rw [decide_eq_false hle, Nat.mod_eq_of_lt (by omega)]
    simp only [Bool.toNat_false]
    omega

theorem toNat_sub_cast :
    ((x - y).toNat : ℤ) = x.toNat - y.toNat + 2 ^ n * (decide (x.toNat < y.toNat)).toNat := by
  have hx : x.toNat < 2 ^ n := x.isLt
  have hy : y.toNat < 2 ^ n := y.isLt
  have hcast : ((2 : ℤ) ^ n) = ((2 ^ n : ℕ) : ℤ) := by norm_cast
  rw [BitVec.toNat_sub, hcast]
  generalize 2 ^ n = size at hx hy ⊢
  by_cases hlt : x.toNat < y.toNat
  · rw [decide_eq_true hlt, Nat.mod_eq_of_lt (by omega)]
    simp only [Bool.toNat_true]
    omega
  · rw [decide_eq_false hlt, Nat.mod_eq_sub_mod (by omega), Nat.mod_eq_of_lt (by omega)]
    simp only [Bool.toNat_false]
    omega

/-- A difference, with the borrow out below it. -/
theorem borrowingSub_value (hn : 0 < n) :
    ((borrowingSub x y carry).1.toNat : ℤ) + -1 * 2 ^ n * (borrowingSub x y carry).2.toNat =
      x.toNat + -1 * (y.toNat + carry.toNat) := by
  have hone : (BitVec.ofNat n carry.toNat).toNat = carry.toNat := by
    have hcarry : carry.toNat ≤ 1 := Bool.toNat_le carry
    have hpow : 2 ≤ 2 ^ n := Nat.le_self_pow hn.ne' 2
    rw [BitVec.toNat_ofNat, Nat.mod_eq_of_lt (by omega)]
  have hfirst := toNat_sub_cast x y
  have hsecond := toNat_sub_cast (x - y) (BitVec.ofNat n carry.toNat)
  rw [hone] at hsecond
  have hxy : (x - y).toNat < 2 ^ n := (x - y).isLt
  have hy : y.toNat < 2 ^ n := y.isLt
  have hcast : ((2 : ℤ) ^ n) = ((2 ^ n : ℕ) : ℤ) := by norm_cast
  rw [hcast] at hfirst hsecond ⊢
  show ((x - y - BitVec.ofNat n carry.toNat).toNat : ℤ) + _ = _
  rw [hsecond, borrowingSub]
  -- the borrow is that of one of the two differences
  have hborrow : (decide (x.toNat < y.toNat + carry.toNat)).toNat =
      (decide (x.toNat < y.toNat)).toNat + (decide ((x - y).toNat < carry.toNat)).toNat := by
    by_cases hlt : x.toNat < y.toNat
    · rw [decide_eq_true hlt] at hfirst ⊢
      have hno : ¬ (x - y).toNat < carry.toNat := by
        simp only [Bool.toNat_true] at hfirst
        cases carry <;> simp only [Bool.toNat_true, Bool.toNat_false] <;> omega
      have hyes : x.toNat < y.toNat + carry.toNat := by omega
      rw [decide_eq_false hno, decide_eq_true hyes]
      rfl
    · rw [decide_eq_false hlt] at hfirst ⊢
      simp only [Bool.toNat_false] at hfirst
      have hiff : x.toNat < y.toNat + carry.toNat ↔ (x - y).toNat < carry.toNat := by omega
      simp only [hiff, Bool.toNat_false, Nat.zero_add]
  rw [hfirst, hborrow]
  push_cast
  ring

end

/-- Two results with a carry that stand for one number are equal. -/
theorem eq_of_halves {s t low high : ℤ} {r : U16 × Bool} {l h : U8 × Bool}
    (hword : (r.1.toNat : ℤ) + s * 2 ^ 16 * r.2.toNat = t)
    (hlow : (l.1.toNat : ℤ) + s * 2 ^ 8 * l.2.toNat = low)
    (hhigh : (h.1.toNat : ℤ) + s * 2 ^ 8 * h.2.toNat = high)
    (hs : s = 1 ∨ s = -1) (ht : t = low - s * 2 ^ 8 * l.2.toNat + 2 ^ 8 * high) :
    r = (word h.1 l.1, h.2) := by
  obtain ⟨z, out⟩ := r
  obtain ⟨hz, hout⟩ := h
  obtain ⟨lz, lout⟩ := l
  dsimp only at hword hlow hhigh ht ⊢
  have hr : z.toNat < 65536 := z.isLt
  have hw : (word hz lz).toNat < 65536 := (word hz lz).isLt
  have hwide := word_toNat hz lz
  have hsame : (z.toNat : ℤ) + s * 2 ^ 16 * out.toNat =
      (word hz lz).toNat + s * 2 ^ 16 * hout.toNat := by
    rw [hwide]
    push_cast
    linear_combination hword - hlow - 2 ^ 8 * hhigh + ht
  have hzero : out = hout := by
    obtain rfl | rfl := hs <;> cases out <;> cases hout <;> first | rfl | skip
    all_goals
      simp only [Bool.toNat_true, Bool.toNat_false, Nat.cast_one, Nat.cast_zero] at hsame
      omega
  subst hzero
  have hdigits : z.toNat = (word hz lz).toNat := by omega
  rw [BitVec.eq_of_toNat_eq hdigits]

/-- The sum of two words, byte by byte. -/
theorem carryingAdd_halves (x y : U16) (carry : Bool) :
    carryingAdd x y carry =
      (word (carryingAdd (hi x) (hi y) (carryingAdd (lo x) (lo y) carry).2).1
          (carryingAdd (lo x) (lo y) carry).1,
        (carryingAdd (hi x) (hi y) (carryingAdd (lo x) (lo y) carry).2).2) := by
  have hword := carryingAdd_value x y carry
  have hlow := carryingAdd_value (lo x) (lo y) carry
  have hhigh := carryingAdd_value (hi x) (hi y) (carryingAdd (lo x) (lo y) carry).2
  generalize carryingAdd x y carry = r at hword ⊢
  generalize carryingAdd (lo x) (lo y) carry = l at hlow hhigh ⊢
  generalize carryingAdd (hi x) (hi y) l.2 = h at hhigh ⊢
  rw [lo_toNat, lo_toNat] at hlow
  rw [hi_toNat, hi_toNat] at hhigh
  exact eq_of_halves hword hlow hhigh (by omega) (by omega)

/-- The difference of two words, byte by byte. -/
theorem borrowingSub_halves (x y : U16) (carry : Bool) :
    borrowingSub x y carry =
      (word (borrowingSub (hi x) (hi y) (borrowingSub (lo x) (lo y) carry).2).1
          (borrowingSub (lo x) (lo y) carry).1,
        (borrowingSub (hi x) (hi y) (borrowingSub (lo x) (lo y) carry).2).2) := by
  have hword := borrowingSub_value x y carry (by decide)
  have hlow := borrowingSub_value (lo x) (lo y) carry (by decide)
  have hhigh := borrowingSub_value (hi x) (hi y) (borrowingSub (lo x) (lo y) carry).2 (by decide)
  generalize borrowingSub x y carry = r at hword ⊢
  generalize borrowingSub (lo x) (lo y) carry = l at hlow hhigh ⊢
  generalize borrowingSub (hi x) (hi y) l.2 = h at hhigh ⊢
  rw [lo_toNat, lo_toNat] at hlow
  rw [hi_toNat, hi_toNat] at hhigh
  exact eq_of_halves hword hlow hhigh (by omega) (by omega)

/-! ### Flags of a word -/

/-- The flags of a sixteen-bit ADC or SBC: those of the high byte, and Z of the word. -/
def wideFlags (k n pv h : Bool) (r : U16) : Flag → Bool :=
  Function.update (resultFlags (fun _ => k) n pv h (hi r) (hi r)) .Z (r == 0)

def wideAddFlags (x y : U16) (carry : Bool) : Flag → Bool :=
  let r := carryingAdd x y carry
  wideFlags r.2 false
    (((y ^^^ x ^^^ 0x8000) &&& (y ^^^ r.1) &&& 0x8000) >>> 13 &&& 0x0004 != 0)
    (Flag.H.isIn (hi (x ^^^ r.1 ^^^ y))) r.1

def wideSubFlags (x y : U16) (carry : Bool) : Flag → Bool :=
  let r := borrowingSub x y carry
  wideFlags r.2 true
    (((y ^^^ x) &&& (x ^^^ r.1) &&& 0x8000) >>> 13 &&& 0x0004 != 0)
    (Flag.H.isIn (hi (x ^^^ r.1 ^^^ y))) r.1

theorem msb_hi (w : U16) : (hi w).msb = w.msb := by
  rw [BitVec.msb_eq_getLsbD_last, BitVec.msb_eq_getLsbD_last]
  simp [hi]

/-- The byte formulas for PV test the sign bit. -/
theorem overflow_byte (b : U8) : Flag.PV.isIn (b >>> 5) = b.msb := by
  have htable : ∀ b : U8, Flag.PV.isIn (b >>> 5) = b.msb := by decide +kernel
  exact htable b

/-- The word formulas for PV test the sign bit. -/
theorem overflow_word (w : U16) : ((w &&& 0x8000) >>> 13 &&& 0x0004 != 0) = w.msb := by
  have htop : (0x8000 : U16) = BitVec.twoPow 16 15 := by decide
  rw [htop, BitVec.and_twoPow, BitVec.msb_eq_getLsbD_last]
  cases w.getLsbD 15 <;> decide

theorem wideFlags_high {k n pv h : Bool} {r : U16} {f : Flag} (hf : f ≠ .Z) :
    wideFlags k n pv h r f = resultFlags (fun _ => k) n pv h (hi r) (hi r) f :=
  Function.update_of_ne hf _ _

/-- **The flags of a sum of words** are those of the sum of the high bytes, but for Z. -/
theorem wideAddFlags_high (x y : U16) (carry : Bool) {f : Flag} (hf : f ≠ .Z) :
    wideAddFlags x y carry f =
      addFlags (hi x) (hi y) (carryingAdd (lo x) (lo y) carry).2 f := by
  have hhalves := carryingAdd_halves x y carry
  rw [wideAddFlags, wideFlags_high hf, addFlags, overflow_byte, overflow_word, hi_xor, hi_xor,
    hhalves, hi_word]
  dsimp only
  generalize carryingAdd (hi x) (hi y) (carryingAdd (lo x) (lo y) carry).2 = r
  congr 1
  · rw [← msb_hi]
    rw [hi_and, hi_xor, hi_xor, hi_xor, hi_word, BitVec.xor_comm (hi y)]
    rfl
  · rw [BitVec.xor_assoc, BitVec.xor_comm r.1, ← BitVec.xor_assoc]

/-- **The flags of a difference of words** are those of the difference of the high bytes, but
for Z. -/
theorem wideSubFlags_high (x y : U16) (carry : Bool) {f : Flag} (hf : f ≠ .Z) :
    wideSubFlags x y carry f =
      subFlags (hi x) (hi y) (borrowingSub (lo x) (lo y) carry).2
        (borrowingSub (hi x) (hi y) (borrowingSub (lo x) (lo y) carry).2).1 f := by
  have hhalves := borrowingSub_halves x y carry
  rw [wideSubFlags, wideFlags_high hf, subFlags, overflow_byte, overflow_word, hi_xor, hi_xor,
    hhalves, hi_word]
  dsimp only
  generalize borrowingSub (hi x) (hi y) (borrowingSub (lo x) (lo y) carry).2 = r
  congr 1
  · rw [← msb_hi, hi_and, hi_xor, hi_xor, hi_word, BitVec.xor_comm (hi y),
      BitVec.xor_comm (hi x) r.1]
  · rw [BitVec.xor_assoc, BitVec.xor_comm r.1, ← BitVec.xor_assoc]

/-! ### The instructions -/

namespace Cpu

theorem setWideFlags_eq (c : Cpu) (k n pv h : Bool) (r : U16) :
    (c.setFlag .C k).setWideResultFlags n pv h r = c.withFlags (wideFlags k n pv h r) := by
  rw [setFlag_eq]
  simp only [setWideResultFlags, setFlag_withFlags]
  congr 1
  funext f
  cases f <;>
    simp [wideFlags, resultFlags, Flag.isIn_eq, Flag.index, BitVec.msb_eq_getLsbD_last]

theorem addCarryWideWz_eq (c : Cpu) (rr : WideRegister) :
    (c.addCarryWideWz .HL rr).1 =
      { c with
        wz := c.hl + 1
        hl := (carryingAdd c.hl (c.wideRegister rr) (c.flag .C)).1
        af := word (hi c.af)
          (flagByte (wideAddFlags c.hl (c.wideRegister rr) (c.flag .C))) } := by
  rw [wideAddFlags]
  exact setWideFlags_eq { c with
    wz := c.hl + 1
    hl := (carryingAdd c.hl (c.wideRegister rr) (c.flag .C)).1 } _ _ _ _ _

theorem subCarryWideWz_eq (c : Cpu) (rr : WideRegister) :
    (c.subCarryWideWz .HL rr).1 =
      { c with
        wz := c.hl + 1
        hl := (borrowingSub c.hl (c.wideRegister rr) (c.flag .C)).1
        af := word (hi c.af)
          (flagByte (wideSubFlags c.hl (c.wideRegister rr) (c.flag .C))) } := by
  rw [wideSubFlags]
  exact setWideFlags_eq { c with
    wz := c.hl + 1
    hl := (borrowingSub c.hl (c.wideRegister rr) (c.flag .C)).1 } _ _ _ _ _

/-! ### Steps of a chain -/

/-- The second byte of ADC HL,rr and SBC HL,rr. -/
def pairCode (minus : Bool) : WideRegister → Option U8
  | .BC => some (if minus then 0x42 else 0x4A)
  | .DE => some (if minus then 0x52 else 0x5A)
  | .HL => some (if minus then 0x62 else 0x6A)
  | .SP => some (if minus then 0x72 else 0x7A)
  | _ => none

/-- The method of ADC HL,rr and SBC HL,rr. -/
def wideInstr (minus : Bool) (rr : WideRegister) : Instr :=
  if minus then .subCarryWideWz .HL rr else .addCarryWideWz .HL rr

/-- The number of ADC or SBC among the eight operations. -/
def byteOperation (minus : Bool) : Fin 8 := if minus then 3 else 1

/-- The instruction at PC is ADC HL,rr or SBC HL,rr, and leaves `c'`. -/
def WideOp (β : Type) [Bus β] (minus : Bool) (rr : WideRegister) (c c' : Cpu) : Prop :=
  ∃ (bus : β) (b : U8), pairCode minus rr = some b ∧ Starts bus c.pc [0xED, b] ∧
    ∃ o, c.instruction bus = some o ∧ o.cpu = c'

/-- The instruction at PC is ADC A,r or SBC A,r, and leaves `c'`. -/
def ByteOp (β : Type) [Bus β] (minus : Bool) (reg : Register) (c c' : Cpu) : Prop :=
  ∃ (bus : β) (code : List U8 × U8),
    (Operand.register reg).arithCode (byteOperation minus) = some code ∧
    Starts bus c.pc (code.1 ++ [code.2]) ∧ ∃ o, c.instruction bus = some o ∧ o.cpu = c'

/-- One word of a chain: any processor with the words in its registers and the carry in C. -/
def WideStep (β : Type) [Bus β] (minus carry : Bool) (x y z : U16) (out : Bool) : Prop :=
  ∃ rr c c', WideOp β minus rr c c' ∧ c.flag .C = carry ∧ c.hl = x ∧ c.wideRegister rr = y ∧
    c'.hl = z ∧ c'.flag .C = out

/-- One byte of a chain. -/
def ByteStep (β : Type) [Bus β] (minus carry : Bool) (x y z : U8) (out : Bool) : Prop :=
  ∃ reg c c', ByteOp β minus reg c c' ∧ c.flag .C = carry ∧ c.register .A = x ∧
    c.register reg = y ∧ c'.register .A = z ∧ c'.flag .C = out

/-- One digit of the sum or the difference, with the carry. -/
def digit {n : ℕ} (minus : Bool) (x y : BitVec n) (carry : Bool) : BitVec n × Bool :=
  if minus then borrowingSub x y carry else carryingAdd x y carry

def wideDigitFlags (minus : Bool) (x y : U16) (carry : Bool) : Flag → Bool :=
  if minus then wideSubFlags x y carry else wideAddFlags x y carry

def byteDigitFlags (minus : Bool) (x y : U8) (carry : Bool) : Flag → Bool :=
  if minus then subFlags x y carry (borrowingSub x y carry).1 else addFlags x y carry

/-- 1 for a sum, -1 for a difference. -/
def sign (minus : Bool) : ℤ := if minus then -1 else 1

theorem digit_value {n : ℕ} (hn : 0 < n) (minus : Bool) (x y : BitVec n) (carry : Bool) :
    ((digit minus x y carry).1.toNat : ℤ) + sign minus * 2 ^ n * (digit minus x y carry).2.toNat =
      x.toNat + sign minus * (y.toNat + carry.toNat) := by
  cases minus with
  | false => exact carryingAdd_value x y carry
  | true => exact borrowingSub_value x y carry hn

theorem wideDigitFlags_carry (minus : Bool) (x y : U16) (carry : Bool) :
    wideDigitFlags minus x y carry .C = (digit minus x y carry).2 := by
  cases minus <;> rfl

theorem byteDigitFlags_carry (minus : Bool) (x y : U8) (carry : Bool) :
    byteDigitFlags minus x y carry .C = (digit minus x y carry).2 := by
  cases minus <;> rfl

section

variable {β : Type} [Bus β] {minus : Bool} {c c' : Cpu}

theorem pair_tables {rr : WideRegister} {b : U8} (h : pairCode minus rr = some b) :
    edPrefixTable b = some (wideInstr minus rr) ∧
      ∀ (c : Cpu) (n : ℕ), (c.takeEnable.past n).wideRegister rr = c.wideRegister rr := by
  have hkeep : rr ≠ .PC → ∀ (c : Cpu) (n : ℕ),
      (c.takeEnable.past n).wideRegister rr = c.wideRegister rr := by
    intro hne c n
    rw [← wideRegister_takeEnable c rr]
    cases rr <;> first | rfl | exact absurd rfl hne
  cases rr with
  | BC | DE | HL | SP =>
    refine ⟨?_, hkeep (by decide)⟩
    cases minus <;> cases h <;> rfl
  | _ => cases h

/-- **ADC HL,rr and SBC HL,rr.** -/
theorem wide_instruction {bus : β} {rr : WideRegister} {b : U8} (hcode : pairCode minus rr = some b)
    (hat : Starts bus c.pc [0xED, b]) :
    ∃ o, c.instruction bus = some o ∧
      o.cpu.hl = (digit minus c.hl (c.wideRegister rr) (c.flag .C)).1 ∧
      ∀ f, o.cpu.flag f = wideDigitFlags minus c.hl (c.wideRegister rr) (c.flag .C) f := by
  obtain ⟨hed, hb, -⟩ := hat
  obtain ⟨htable, hkeep⟩ := pair_tables hcode
  have hdec : c.decoded bus =
      some ⟨wideInstr minus rr, ((c.takeEnable.fetch bus).2.fetch bus).2, 4⟩ := by
    apply decoded_of_extended
    · rw [pc_takeEnable, hed]
      rfl
    · rw [pc_takeEnable, hb]
      exact htable
  have hpast : ((c.takeEnable.fetch bus).2.fetch bus).2 = c.takeEnable.past 2 :=
    past_past c.takeEnable 1
  rw [hpast] at hdec
  refine ⟨_, instruction_of_decoded hdec, ?_⟩
  have hhl : (c.takeEnable.past 2).hl = c.hl := wideRegister_takeEnable c .HL
  have hflag : (c.takeEnable.past 2).flag .C = c.flag .C := flag_past c 2 .C
  rw [← hkeep c 2, ← hhl, ← hflag]
  cases minus with
  | false =>
    show ((c.takeEnable.past 2).addCarryWideWz .HL rr).1.hl = _ ∧
      ∀ f, ((c.takeEnable.past 2).addCarryWideWz .HL rr).1.flag f = _
    rw [addCarryWideWz_eq]
    refine ⟨rfl, fun f => ?_⟩
    rw [flag_eq, lo_word, isIn_flagByte]
    rfl
  | true =>
    show ((c.takeEnable.past 2).subCarryWideWz .HL rr).1.hl = _ ∧
      ∀ f, ((c.takeEnable.past 2).subCarryWideWz .HL rr).1.flag f = _
    rw [subCarryWideWz_eq]
    refine ⟨rfl, fun f => ?_⟩
    rw [flag_eq, lo_word, isIn_flagByte]
    rfl

theorem wideOp_spec {rr : WideRegister} (h : WideOp β minus rr c c') :
    c'.hl = (digit minus c.hl (c.wideRegister rr) (c.flag .C)).1 ∧
      ∀ f, c'.flag f = wideDigitFlags minus c.hl (c.wideRegister rr) (c.flag .C) f := by
  obtain ⟨bus, b, hcode, hat, o, ho, rfl⟩ := h
  obtain ⟨_, hins, hspec⟩ := wide_instruction hcode hat
  cases ho.symm.trans hins
  exact hspec

/-- **ADC A,x and SBC A,x**, with the operand in any form. -/
theorem byte_instruction {bus : β} {x : Operand} {code : List U8 × U8}
    (hcode : x.arithCode (byteOperation minus) = some code)
    (hat : Starts bus c.pc (code.1 ++ [code.2])) :
    ∃ o, c.instruction bus = some o ∧
      o.cpu.register .A = (digit minus (c.register .A) (x.value c bus) (c.flag .C)).1 ∧
      ∀ f, o.cpu.flag f = byteDigitFlags minus (c.register .A) (x.value c bus) (c.flag .C) f := by
  obtain ⟨o, hins, haf⟩ := arith_instruction hcode hat
  refine ⟨o, hins, ?_, fun f => ?_⟩
  · show hi o.cpu.af = _
    rw [haf, Arith.af, hi_word]
    cases minus <;> rfl
  · rw [flag_eq, haf, Arith.af, lo_word, isIn_flagByte]
    cases minus <;> rfl

theorem byteOp_spec {reg : Register} (h : ByteOp β minus reg c c') :
    c'.register .A = (digit minus (c.register .A) (c.register reg) (c.flag .C)).1 ∧
      ∀ f, c'.flag f = byteDigitFlags minus (c.register .A) (c.register reg) (c.flag .C) f := by
  obtain ⟨bus, code, hcode, hat, o, ho, rfl⟩ := h
  obtain ⟨_, hins, hspec⟩ := byte_instruction hcode hat
  cases ho.symm.trans hins
  exact hspec

/-- A step keeps the number. -/
theorem wideStep_value {carry : Bool} {x y z : U16} {out : Bool}
    (h : WideStep β minus carry x y z out) :
    (z.toNat : ℤ) + sign minus * 2 ^ 16 * out.toNat =
      x.toNat + sign minus * (y.toNat + carry.toNat) := by
  obtain ⟨rr, c, c', hop, rfl, rfl, rfl, rfl, rfl⟩ := h
  obtain ⟨hz, hflags⟩ := wideOp_spec hop
  rw [hz, hflags, wideDigitFlags_carry]
  exact digit_value (by decide) minus _ _ _

theorem byteStep_value {carry : Bool} {x y z : U8} {out : Bool}
    (h : ByteStep β minus carry x y z out) :
    (z.toNat : ℤ) + sign minus * 2 ^ 8 * out.toNat =
      x.toNat + sign minus * (y.toNat + carry.toNat) := by
  obtain ⟨reg, c, c', hop, rfl, rfl, rfl, rfl, rfl⟩ := h
  obtain ⟨hz, hflags⟩ := byteOp_spec hop
  rw [hz, hflags, byteDigitFlags_carry]
  exact digit_value (by decide) minus _ _ _

/-- **A word agrees with its two bytes.** -/
theorem wideOp_halves {rr : WideRegister} {low high : Register} {l l' h h' : Cpu}
    (hwide : WideOp β minus rr c c') (hlow : ByteOp β minus low l l')
    (hhigh : ByteOp β minus high h h') (hl : l.register .A = lo c.hl)
    (hl' : l.register low = lo (c.wideRegister rr)) (hh : h.register .A = hi c.hl)
    (hh' : h.register high = hi (c.wideRegister rr)) (hin : l.flag .C = c.flag .C)
    (hmiddle : h.flag .C = l'.flag .C) :
    (∀ f, f ≠ .Z → c'.flag f = h'.flag f) ∧ c'.flag .Z = (c'.hl == 0) := by
  obtain ⟨hz, hflags⟩ := wideOp_spec hwide
  have hcarry : l'.flag .C = (digit minus (lo c.hl) (lo (c.wideRegister rr)) (c.flag .C)).2 := by
    rw [(byteOp_spec hlow).2, byteDigitFlags_carry, hl, hl', hin]
  have hbyte : ∀ f, h'.flag f = byteDigitFlags minus (hi c.hl) (hi (c.wideRegister rr))
      (digit minus (lo c.hl) (lo (c.wideRegister rr)) (c.flag .C)).2 f := by
    intro f
    rw [(byteOp_spec hhigh).2, hh, hh', hmiddle, hcarry]
  constructor
  · intro f hf
    rw [hflags, hbyte]
    cases minus with
    | false => exact wideAddFlags_high _ _ _ hf
    | true => exact wideSubFlags_high _ _ _ hf
  · rw [hflags, hz]
    cases minus <;> rfl

end

/-! ### Chains -/

/-- The processor of a step on two words. -/
def wideStart (x y : U16) (carry : Bool) : Cpu :=
  { af := word 0 (if carry then 1 else 0), hl := x, bc := y }

/-- The processor of a step on two bytes. -/
def byteStart (x y : U8) (carry : Bool) : Cpu :=
  { af := word x (if carry then 1 else 0), bc := word y 0 }

theorem flag_carry (a : U8) (carry : Bool) :
    Flag.C.isIn (lo (word a (if carry then 1 else 0))) = carry := by
  rw [lo_word]
  cases carry <;> rfl

theorem flag_wideStart (x y : U16) (carry : Bool) : (wideStart x y carry).flag .C = carry := by
  rw [flag_eq]
  exact flag_carry 0 carry

theorem flag_byteStart (x y : U8) (carry : Bool) : (byteStart x y carry).flag .C = carry := by
  rw [flag_eq]
  exact flag_carry x carry

theorem wideOp_start (minus : Bool) (x y : U16) (carry : Bool) :
    ∃ c', WideOp TestBus minus .BC (wideStart x y carry) c' := by
  let bus := TestBus.withMem [0xED, if minus then 0x42 else 0x4A]
  have hat : Starts bus (wideStart x y carry).pc [0xED, if minus then 0x42 else 0x4A] :=
    ⟨rfl, rfl, trivial⟩
  have hcode : pairCode minus .BC = some (if minus then 0x42 else 0x4A) := rfl
  obtain ⟨o, hins, -⟩ := wide_instruction hcode hat
  exact ⟨_, bus, _, hcode, hat, o, hins, rfl⟩

theorem byteOp_start (minus : Bool) (x y : U8) (carry : Bool) :
    ∃ c', ByteOp TestBus minus .B (byteStart x y carry) c' := by
  let code : List U8 × U8 := ([], if minus then 0x98 else 0x88)
  have hcode : (Operand.register .B).arithCode (byteOperation minus) = some code := by
    cases minus <;> rfl
  let bus := TestBus.withMem (code.1 ++ [code.2])
  have hat : Starts bus (byteStart x y carry).pc (code.1 ++ [code.2]) := ⟨rfl, trivial⟩
  obtain ⟨o, hins, -⟩ := arith_instruction hcode hat
  exact ⟨_, bus, code, hcode, hat, o, hins, rfl⟩

theorem wideStep_total (minus carry : Bool) (x y : U16) :
    ∃ z out, WideStep TestBus minus carry x y z out := by
  obtain ⟨c', hop⟩ := wideOp_start minus x y carry
  exact ⟨c'.hl, c'.flag .C, .BC, wideStart x y carry, c', hop, flag_wideStart x y carry, rfl, rfl,
    rfl, rfl⟩

theorem byteStep_total (minus carry : Bool) (x y : U8) :
    ∃ z out, ByteStep TestBus minus carry x y z out := by
  obtain ⟨c', hop⟩ := byteOp_start minus x y carry
  exact ⟨c'.register .A, c'.flag .C, .B, byteStart x y carry, c', hop, flag_byteStart x y carry,
    hi_word x _, hi_word y 0, rfl, rfl⟩

/-- The two bytes of each word, low byte first. -/
def halves (p : U16 × U16) : List (U8 × U8) := [(lo p.1, lo p.2), (hi p.1, hi p.2)]

theorem digitsValue_halves (pairs : List (U16 × U16)) :
    digitsValue ((pairs.flatMap halves).map Prod.fst) = digitsValue (pairs.map Prod.fst) ∧
      digitsValue ((pairs.flatMap halves).map Prod.snd) = digitsValue (pairs.map Prod.snd) ∧
      8 * (pairs.flatMap halves).length = 16 * pairs.length := by
  have hvalue : ∀ d : U16, digitsValue [lo d, hi d] = d.toNat := by
    intro d
    simp only [digitsValue, lo_toNat, hi_toNat]
    omega
  have hrefine := digitsValue_refine (w := 16) (v := 8) (k := 2) rfl (fun d => [lo d, hi d])
    (fun _ => rfl) hvalue
  refine ⟨?_, ?_, ?_⟩
  · rw [← hrefine, List.map_flatMap, List.flatMap_map]
    rfl
  · rw [← hrefine, List.map_flatMap, List.flatMap_map]
    rfl
  · induction pairs with
    | nil => rfl
    | cons p pairs ih =>
      simp only [List.flatMap_cons, List.length_append, List.length_cons, halves,
        List.length_nil] at ih ⊢
      omega

/-- The integer sum or difference of the numbers and the carry. -/
def total (minus : Bool) (pairs : List (U16 × U16)) (carry : Bool) : ℤ :=
  if minus then
    (digitsValue (pairs.map Prod.fst) : ℤ) - digitsValue (pairs.map Prod.snd) - carry.toNat
  else (digitsValue (pairs.map Prod.fst) : ℤ) + digitsValue (pairs.map Prod.snd) + carry.toNat

theorem total_eq (minus : Bool) (pairs : List (U16 × U16)) (carry : Bool) :
    total minus pairs carry = digitsValue (pairs.map Prod.fst) +
      sign minus * (digitsValue (pairs.map Prod.snd) + carry.toNat) := by
  cases minus
  · simp only [total, sign, Bool.false_eq_true, if_false]
    ring
  · simp only [total, sign, if_true]
    ring

theorem sign_cases (minus : Bool) : sign minus = 1 ∨ sign minus = -1 := by
  cases minus
  · exact .inl rfl
  · exact .inr rfl

/-- **Multi-precision arithmetic is exact, and bytes and words agree.**  Both chains make the
digits of the integer sum or difference modulo the size of the operands, with the carry or borrow
out in C; each word leaves the flags of its high byte, and Z of its own. -/
theorem multiprecision_exact (β : Type) [Bus β] (minus carry : Bool) (pairs : List (U16 × U16)) :
    (∀ zs out, CarryChain (WideStep β minus) carry pairs zs out →
      (digitsValue zs : ℤ) = total minus pairs carry % 2 ^ (16 * pairs.length) ∧
      (out = true ↔ ¬ (0 ≤ total minus pairs carry ∧
        total minus pairs carry < 2 ^ (16 * pairs.length)))) ∧
    (∀ zs out, CarryChain (ByteStep β minus) carry (pairs.flatMap halves) zs out →
      (digitsValue zs : ℤ) = total minus pairs carry % 2 ^ (16 * pairs.length) ∧
      (out = true ↔ ¬ (0 ≤ total minus pairs carry ∧
        total minus pairs carry < 2 ^ (16 * pairs.length)))) ∧
    (∀ rr low high c c' l l' h h', WideOp β minus rr c c' → ByteOp β minus low l l' →
      ByteOp β minus high h h' → l.register .A = lo c.hl →
      l.register low = lo (c.wideRegister rr) → h.register .A = hi c.hl →
      h.register high = hi (c.wideRegister rr) → l.flag .C = c.flag .C →
      h.flag .C = l'.flag .C →
      (∀ f, f ≠ .Z → c'.flag f = h'.flag f) ∧ c'.flag .Z = (c'.hl == 0)) ∧
    (∃ zs out, CarryChain (WideStep TestBus minus) carry pairs zs out) ∧
    ∃ zs out, CarryChain (ByteStep TestBus minus) carry (pairs.flatMap halves) zs out := by
  obtain ⟨hfst, hsnd, hlen⟩ := digitsValue_halves pairs
  refine ⟨?_, ?_, ?_, CarryChain.exists_of_total (wideStep_total minus) carry pairs,
    CarryChain.exists_of_total (byteStep_total minus) carry (pairs.flatMap halves)⟩
  · intro zs out hchain
    exact hchain.digits (sign_cases minus) (fun _ _ _ _ _ => wideStep_value)
      (total_eq minus pairs carry)
  · intro zs out hchain
    have hdigits := hchain.digits (sign_cases minus) (fun _ _ _ _ _ => byteStep_value)
      (t := total minus pairs carry) (by rw [hfst, hsnd]; exact total_eq minus pairs carry)
    rwa [hlen] at hdigits
  · intro rr low high c c' l l' h h' hwide hlow hhigh hl hl' hh hh' hin hmiddle
    exact wideOp_halves hwide hlow hhigh hl hl' hh hh' hin hmiddle

/-- 0x1_FFFF + 1, and 0x12FF + 1 as a word and as two bytes. -/
theorem multiprecision_exact_add :
    (∃ zs out, CarryChain (WideStep TestBus false) false [(0xFFFF, 1), (1, 0)] zs out ∧
      (digitsValue zs : ℤ) =
        total false [(0xFFFF, 1), (1, 0)] false % 2 ^ (16 * 2)) ∧
    ∃ c' l' h', WideOp TestBus false .BC (wideStart 0x12FF 1 false) c' ∧
      ByteOp TestBus false .B (byteStart 0xFF 1 false) l' ∧
      ByteOp TestBus false .B (byteStart 0x12 0 (l'.flag .C)) h' ∧
      ∀ f, f ≠ .Z → c'.flag f = h'.flag f := by
  obtain ⟨hwide, -, hagree, ⟨zs, out, hchain⟩, -⟩ :=
    multiprecision_exact TestBus false false [(0xFFFF, 1), (1, 0)]
  obtain ⟨c', hc⟩ := wideOp_start false 0x12FF 1 false
  obtain ⟨l', hl⟩ := byteOp_start false 0xFF 1 false
  obtain ⟨h', hh⟩ := byteOp_start false 0x12 0 (l'.flag .C)
  refine ⟨⟨zs, out, hchain, (hwide zs out hchain).1⟩, c', l', h', hc, hl, hh, ?_⟩
  exact (hagree _ _ _ _ _ _ _ _ _ hc hl hh (hi_word 0xFF _) (hi_word 1 0)
    (hi_word 0x12 _) (hi_word 0 0)
    ((flag_byteStart 0xFF 1 false).trans (flag_wideStart 0x12FF 1 false).symm)
    (flag_byteStart 0x12 0 _)).1

end Cpu

end Possum
