import Possum.Cpu.Multiprecision

/-!
# Comparison by flags

What Z, C, S and PV say of two words after SUB, SBC, CP or SBC HL,rr.  `Orders` is this for words
of any width: equality modulo the width, the unsigned order in C, and the signed order in S xor PV.

PV is the sign bit of `(l ^ r) & (l ^ result)`, so it is set when the operands have different signs
and the result has the sign of the second.  With a borrow in, this still says that the difference
is out of range (`msb_borrowingSub`).
-/

set_option autoImplicit false

namespace Possum

/-! ### Signed differences -/

section

variable {n : ℕ} {x y : BitVec n} {carry : Bool}

/-- A word read as a signed number, by its sign bit. -/
theorem toInt_by_msb (hn : 0 < n) (x : BitVec n) :
    x.msb = false ∧ 2 * x.toNat < 2 ^ n ∧ x.toInt = x.toNat ∨
      x.msb = true ∧ 2 ^ n ≤ 2 * x.toNat ∧ x.toInt = x.toNat - 2 ^ n := by
  have hpow : 2 ^ n = 2 * 2 ^ (n - 1) := by
    rw [← pow_succ', Nat.sub_add_cancel hn]
  have hint := BitVec.toInt_eq_msb_cond x
  have hmsb := BitVec.msb_eq_decide x
  by_cases hle : 2 ^ (n - 1) ≤ x.toNat
  · rw [decide_eq_true hle] at hmsb
    rw [hmsb, if_pos rfl] at hint
    exact .inr ⟨hmsb, by omega, by exact_mod_cast hint⟩
  · rw [decide_eq_false hle] at hmsb
    rw [hmsb] at hint
    exact .inl ⟨hmsb, by omega, hint⟩

/-- **S and PV decide the signed order**, whatever the borrow in. -/
theorem msb_borrowingSub (hn : 0 < n) (x y : BitVec n) (carry : Bool) :
    ((borrowingSub x y carry).1.msb ^^
        ((x.msb ^^ y.msb) && (x.msb ^^ (borrowingSub x y carry).1.msb))) =
      decide (x.toInt - y.toInt - carry.toNat < 0) := by
  have hvalue := borrowingSub_value x y carry hn
  have hcarry : carry.toNat ≤ 1 := Bool.toNat_le carry
  have hlost : (borrowingSub x y carry).2.toNat ≤ 1 := Bool.toNat_le _
  have hcast : ((2 : ℤ) ^ n) = ((2 ^ n : ℕ) : ℤ) := by norm_cast
  have hx := toInt_by_msb hn x
  have hy := toInt_by_msb hn y
  have hz := toInt_by_msb hn (borrowingSub x y carry).1
  have heven : 2 ^ n = 2 * 2 ^ (n - 1) := by
    rw [← pow_succ', Nat.sub_add_cancel hn]
  have hxsize : x.toNat < 2 ^ n := x.isLt
  have hysize : y.toNat < 2 ^ n := y.isLt
  have hzsize : (borrowingSub x y carry).1.toNat < 2 ^ n := (borrowingSub x y carry).1.isLt
  rw [hcast] at hvalue hx hy hz
  generalize 2 ^ n = size at hvalue hx hy hz heven hxsize hysize hzsize
  generalize (borrowingSub x y carry).1 = z at hvalue hz hzsize ⊢
  generalize (borrowingSub x y carry).2.toNat = lost at hvalue hlost
  generalize hless : decide (x.toInt - y.toInt - carry.toNat < 0) = less
  have hless : less = true ↔ x.toInt - y.toInt - carry.toNat < 0 := by
    rw [← hless, decide_eq_true_eq]
  have hsize : (z.toNat : ℤ) - size * lost = x.toNat - (y.toNat + carry.toNat) := by
    linear_combination hvalue
  have hrange : (size : ℤ) * lost = 0 ∨ (size : ℤ) * lost = size := by
    obtain rfl | rfl : lost = 0 ∨ lost = 1 := by omega
    · exact .inl (mul_zero _)
    · exact .inr (mul_one _)
  generalize (size : ℤ) * lost = wrap at hsize hrange
  -- the signs of the operands and of the result settle the flags
  obtain ⟨hx, hxlt, hxi⟩ | ⟨hx, hxlt, hxi⟩ := hx <;>
  obtain ⟨hy, hylt, hyi⟩ | ⟨hy, hylt, hyi⟩ := hy <;>
  obtain ⟨hz, hzlt, hzi⟩ | ⟨hz, hzlt, hzi⟩ := hz <;>
    rw [hx, hy, hz] <;> rw [hxi, hyi] at hless <;> cases less <;>
    simp only [Bool.false_eq_true, false_iff, true_iff, eq_self] at hless <;> first | rfl | omega

/-- The flags of a comparison of `l` with `r` and a borrow. -/
structure Orders {n : ℕ} (v : Flag → Bool) (l r : BitVec n) (carry : Bool) : Prop where
  zero : v .Z = true ↔ ((l.toNat : ℤ) - r.toNat - carry.toNat) % 2 ^ n = 0
  below : v .C = true ↔ l.toNat < r.toNat + carry.toNat
  less : (v .S ^^ v .PV) = true ↔ l.toInt - r.toInt - carry.toNat < 0

theorem zero_borrowingSub (hn : 0 < n) (x y : BitVec n) (carry : Bool) :
    (borrowingSub x y carry).1 = 0 ↔ ((x.toNat : ℤ) - y.toNat - carry.toNat) % 2 ^ n = 0 := by
  have hvalue := borrowingSub_value x y carry hn
  have hlt : (borrowingSub x y carry).1.toNat < 2 ^ n := (borrowingSub x y carry).1.isLt
  generalize (borrowingSub x y carry).1 = z at hvalue hlt ⊢
  generalize (borrowingSub x y carry).2 = lost at hvalue
  have hmod : ((x.toNat : ℤ) - y.toNat - carry.toNat) % 2 ^ n = z.toNat := by
    have hdiff : (x.toNat : ℤ) - y.toNat - carry.toNat = z.toNat + -lost.toNat * 2 ^ n := by
      linear_combination -hvalue
    rw [hdiff, Int.add_mul_emod_self_right]
    exact Int.emod_eq_of_lt (Int.natCast_nonneg _) (by exact_mod_cast hlt)
  rw [hmod, BitVec.toNat_inj.symm]
  norm_cast

/-- Flags that carry the result, the borrow and the overflow order the operands. -/
theorem orders_of_flags {v : Flag → Bool} (hn : 0 < n)
    (hz : v .Z = ((borrowingSub x y carry).1 == 0)) (hc : v .C = (borrowingSub x y carry).2)
    (hs : v .S = (borrowingSub x y carry).1.msb)
    (hpv : v .PV = ((x.msb ^^ y.msb) && (x.msb ^^ (borrowingSub x y carry).1.msb))) :
    Orders v x y carry where
  zero := by rw [hz, beq_iff_eq, zero_borrowingSub hn]
  below := by rw [hc, borrowingSub, decide_eq_true_eq]
  less := by rw [hs, hpv, msb_borrowingSub hn, decide_eq_true_eq]

/-- The flags of SUB, SBC and CP. -/
theorem orders_subFlags (l r xy : U8) (carry : Bool) : Orders (subFlags l r carry xy) l r carry := by
  apply orders_of_flags (by decide)
  · rfl
  · rfl
  · rfl
  · show Flag.PV.isIn (((l ^^^ r) &&& ((borrowingSub l r carry).1 ^^^ l)) >>> 5) = _
    rw [overflow_byte, BitVec.msb_and, BitVec.msb_xor, BitVec.msb_xor,
      Bool.xor_comm (borrowingSub l r carry).1.msb]

/-- The flags of SBC HL,rr. -/
theorem orders_wideSubFlags (l r : U16) (carry : Bool) :
    Orders (wideSubFlags l r carry) l r carry := by
  apply orders_of_flags (by decide)
  · rfl
  · rfl
  · exact msb_hi _
  · show (((r ^^^ l) &&& (l ^^^ (borrowingSub l r carry).1) &&& 0x8000) >>> 13 &&& 0x0004 != 0) = _
    rw [overflow_word, BitVec.msb_and, BitVec.msb_xor, BitVec.msb_xor, Bool.xor_comm r.msb]

end

namespace Cpu

variable {β : Type} [Bus β]

/-- The borrow that SUB, SBC and CP take in; the other operations are no comparisons. -/
def comparing (carry : Bool) : Arith → Option Bool
  | .subCarry k => some (k.pick carry)
  | .compare => some false
  | _ => none

/-- **Comparison flags decide order.**  After SBC HL,rr on words, and after SUB, SBC and CP on bytes
in every form of the operand, Z is equality, C the unsigned and S xor PV the signed order; CP leaves
A as it was. -/
theorem comparison_orders (c : Cpu) (bus : β) :
    (∀ rr b, pairCode true rr = some b → Starts bus c.pc [0xED, b] →
      ∃ o, c.instruction bus = some o ∧
        Orders o.cpu.flag c.hl (c.wideRegister rr) (c.flag .C)) ∧
    ∀ (y : Fin 8) (x : Operand) (code : List U8 × U8) (borrow : Bool),
      comparing (c.flag .C) (arith y) = some borrow → x.arithCode y = some code →
      Starts bus c.pc (code.1 ++ [code.2]) →
      ∃ o, c.instruction bus = some o ∧
        Orders o.cpu.flag (c.register .A) (x.value c bus) borrow ∧
        (arith y = .compare → o.cpu.register .A = c.register .A) := by
  constructor
  · intro rr b hcode hat
    obtain ⟨o, hins, -, hflags⟩ := wide_instruction hcode hat
    refine ⟨o, hins, ?_⟩
    rw [funext hflags]
    exact orders_wideSubFlags _ _ _
  · intro y x code borrow hborrow hcode hat
    obtain ⟨o, hins, haf⟩ := arith_instruction hcode hat
    have hflags : o.cpu.flag = (arith y).flags (c.register .A) (x.value c bus) (c.flag .C) := by
      funext f
      rw [flag_eq, haf, Arith.af, lo_word, isIn_flagByte]
    have ha : o.cpu.register .A = (arith y).result (c.register .A) (x.value c bus) (c.flag .C) := by
      show hi o.cpu.af = _
      rw [haf, Arith.af, hi_word]
    refine ⟨o, hins, ?_, ?_⟩
    · rw [hflags]
      cases hop : arith y with
      | subCarry k =>
        rw [hop] at hborrow
        cases hborrow
        exact orders_subFlags _ _ _ _
      | compare =>
        rw [hop] at hborrow
        cases hborrow
        exact orders_subFlags _ _ _ _
      | addCarry _ | and | xor | or =>
        rw [hop] at hborrow
        cases hborrow
    · intro hop
      rw [ha, hop]
      rfl

/-- `sbc hl, bc` at the ends of the signed range, and `cp (iy + 5)`. -/
theorem comparison_orders_range :
    (∃ o, ({ hl := 0x8000, bc := 0x7FFF, af := 0x0001 } : Cpu).instruction
        (TestBus.withMem [0xED, 0x42]) = some o ∧
      Orders o.cpu.flag (0x8000 : U16) 0x7FFF true) ∧
      ∃ o, ({ af := 0x8001, iy := 0x1000 } : Cpu).instruction
          (TestBus.withMem [0xFD, 0xBE, 0x05]) = some o ∧
        Orders o.cpu.flag (0x80 : U8) 0 false ∧
        ((arith 7) = .compare → o.cpu.register .A = 0x80) :=
  ⟨(comparison_orders { hl := 0x8000, bc := 0x7FFF, af := 0x0001 }
      (TestBus.withMem [0xED, 0x42])).1 .BC 0x42 rfl ⟨rfl, rfl, trivial⟩,
    (comparison_orders { af := 0x8001, iy := 0x1000 } (TestBus.withMem [0xFD, 0xBE, 0x05])).2 7
      (.indexIndirect .IY) ([0xFD], 0xBE) false rfl rfl ⟨rfl, rfl, trivial⟩⟩

end Cpu

end Possum
