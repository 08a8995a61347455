import Possum.Cpu.Multiprecision

/-!
# Decimal arithmetic

ADC or SBC of two packed bytes, and DAA behind it, as one step of a chain of decimal digits.
DAA finds in H and C what the binary operation left there: H is the carry out of the lower
nibble (`half_add`, `half_sub`), and with the two nibbles in range the two corrections turn the
base of each from 16 to 10 (`daa_add`, `daa_sub`).  **`decimal_exact`** is the chain of these.
-/

set_option autoImplicit false

namespace Possum

open Lib

/-! ### Packed bytes -/

/-- Two decimal digits, the upper one in the upper nibble. -/
def Packed (b : U8) : Prop := b.toNat / 16 ≤ 9 ∧ b.toNat % 16 ≤ 9

instance (b : U8) : Decidable (Packed b) := inferInstanceAs (Decidable (_ ∧ _))

/-- The number of the two digits. -/
def packedValue (b : U8) : ℕ := 10 * (b.toNat / 16) + b.toNat % 16

theorem packedValue_lt {b : U8} (h : Packed b) : packedValue b < 100 := by
  obtain ⟨hhigh, hlow⟩ := h
  rw [packedValue]
  omega

/-! ### The half carry -/

theorem half_eq (x y z : U8) :
    Flag.H.isIn (x ^^^ y ^^^ z) =
      decide ((x.toNat / 16 + y.toNat / 16 + z.toNat / 16) % 2 = 1) := by
  have hbit : ∀ b : U8, b.getLsbD 4 = decide (b.toNat / 16 % 2 = 1) := by
    intro b
    rw [BitVec.getLsbD, Nat.testBit_eq_decide_div_mod_eq]
  rw [Flag.isIn_eq, BitVec.getLsbD_xor, BitVec.getLsbD_xor]
  show ((x.getLsbD 4 ^^ y.getLsbD 4) ^^ z.getLsbD 4) = _
  rw [hbit, hbit, hbit]
  have hx := Nat.mod_two_eq_zero_or_one (x.toNat / 16)
  have hy := Nat.mod_two_eq_zero_or_one (y.toNat / 16)
  have hz := Nat.mod_two_eq_zero_or_one (z.toNat / 16)
  rw [Nat.add_mod, Nat.add_mod (x.toNat / 16)]
  obtain hx | hx := hx <;> obtain hy | hy := hy <;> obtain hz | hz := hz <;>
    rw [hx, hy, hz] <;> rfl

/-- H of a sum is the carry out of the lower nibble. -/
theorem half_add (x y : U8) (carry : Bool) :
    addFlags x y carry .H = decide (16 ≤ x.toNat % 16 + y.toNat % 16 + carry.toNat) := by
  show Flag.H.isIn (x ^^^ y ^^^ (carryingAdd x y carry).1) = _
  have hvalue := carryingAdd_value x y carry
  have hcarry : carry.toNat ≤ 1 := Bool.toNat_le carry
  have hlost : (carryingAdd x y carry).2.toNat ≤ 1 := Bool.toNat_le _
  rw [half_eq, decide_eq_decide]
  omega

/-- H of a difference is the borrow of the lower nibble. -/
theorem half_sub (x y xy : U8) (carry : Bool) :
    subFlags x y carry xy .H = decide (x.toNat % 16 < y.toNat % 16 + carry.toNat) := by
  show Flag.H.isIn (x ^^^ y ^^^ (borrowingSub x y carry).1) = _
  have hvalue := borrowingSub_value x y carry (by decide)
  have hcarry : carry.toNat ≤ 1 := Bool.toNat_le carry
  have hlost : (borrowingSub x y carry).2.toNat ≤ 1 := Bool.toNat_le _
  rw [half_eq, decide_eq_decide]
  omega

/-! ### DAA -/

/-- What DAA leaves in A, from the flags N, H and C. -/
def adjusted (n h k : Bool) (data : U8) : U8 :=
  let low := decide (0x09 < data &&& 0x0F) || h
  let high := decide (0x99 < data) || k
  if n then
    let result := if low then data - 0x06 else data
    if high then result - 0x60 else result
  else
    let result := if low then data + 0x06 else data
    if high then result + 0x60 else result

theorem daa_spec (c : Cpu) :
    c.daa.1.register .A = adjusted (c.flag .N) (c.flag .H) (c.flag .C) (c.register .A) ∧
      c.daa.1.flag .C = (c.flag .C || decide (0x99 < c.register .A)) := by
  have hdaa : ∃ v : Flag → Bool, v .C = (c.flag .C || decide (0x99 < c.register .A)) ∧
      c.daa.1 = (c.withFlags v).setRegister .A
        (adjusted (c.flag .N) (c.flag .H) (c.flag .C) (c.register .A)) := by
    simp only [Cpu.daa]
    rw [Cpu.setFlag_eq c .C]
    simp only [Cpu.setFlag_withFlags]
    refine ⟨_, ?_, rfl⟩
    simp
  obtain ⟨v, hv, hdaa⟩ := hdaa
  rw [hdaa, Cpu.setRegister_withFlags]
  refine ⟨hi_word _ _, ?_⟩
  rw [Cpu.flag_eq, lo_word, isIn_flagByte, hv]

theorem low_nibble (data : U8) :
    decide (0x09 < data &&& 0x0F) = decide (9 < data.toNat % 16) := by
  have hmod : (data &&& 0x0F).toNat = data.toNat % 16 := by
    rw [BitVec.toNat_and]
    exact Nat.and_two_pow_sub_one_eq_mod data.toNat 4
  rw [decide_eq_decide, BitVec.lt_def, hmod]
  rfl

theorem high_byte (data : U8) : decide (0x99 < data) = decide (0x99 < data.toNat) := by
  rw [decide_eq_decide, BitVec.lt_def]
  rfl

theorem corrected_up (p : Prop) [Decidable p] (data v : U8) :
    (if p then data + v else data).toNat = (data.toNat + if p then v.toNat else 0) % 256 := by
  have hdata : data.toNat < 256 := data.isLt
  split_ifs
  · exact BitVec.toNat_add data v
  · omega

theorem corrected_down (p : Prop) [Decidable p] (data v : U8) :
    (if p then data - v else data).toNat =
      (data.toNat + 256 - if p then v.toNat else 0) % 256 := by
  have hdata : data.toNat < 256 := data.isLt
  split_ifs
  · rw [BitVec.toNat_sub]
    omega
  · omega

/-- The correction of a sum. -/
theorem adjusted_add (h k : Bool) (data : U8) :
    (adjusted false h k data).toNat =
      (data.toNat + (if 9 < data.toNat % 16 ∨ h = true then 6 else 0) +
        (if 0x99 < data.toNat ∨ k = true then 0x60 else 0)) % 256 := by
  simp only [adjusted, low_nibble, high_byte, Bool.or_eq_true, decide_eq_true_eq,
    Bool.false_eq_true, if_false]
  rw [corrected_up, corrected_up]
  show ((data.toNat + if _ then 6 else 0) % 256 + if _ then 0x60 else 0) % 256 = _
  omega

/-- The correction of a difference. -/
theorem adjusted_sub (h k : Bool) (data : U8) :
    (adjusted true h k data).toNat =
      (data.toNat + 512 - (if 9 < data.toNat % 16 ∨ h = true then 6 else 0) -
        (if 0x99 < data.toNat ∨ k = true then 0x60 else 0)) % 256 := by
  simp only [adjusted, low_nibble, high_byte, Bool.or_eq_true, decide_eq_true_eq, if_true]
  rw [corrected_down, corrected_down]
  show ((data.toNat + 256 - if _ then 6 else 0) % 256 + 256 - if _ then 0x60 else 0) % 256 = _
  split_ifs <;> omega

/-- **DAA behind a sum** of packed bytes: their decimal sum, and its carry. -/
theorem daa_add {x y : U8} (carry : Bool) (hx : Packed x) (hy : Packed y) :
    let r := carryingAdd x y carry
    let z := adjusted false (addFlags x y carry .H) r.2 r.1
    Packed z ∧ packedValue z + 100 * (r.2 || decide (0x99 < r.1)).toNat =
      packedValue x + packedValue y + carry.toNat := by
  intro r z
  obtain ⟨hxh, hxl⟩ := hx
  obtain ⟨hyh, hyl⟩ := hy
  have hcarry : carry.toNat ≤ 1 := Bool.toNat_le carry
  have hr : r.1.toNat < 256 := r.1.isLt
  have hvalue : (r.1.toNat : ℤ) + 1 * 2 ^ 8 * r.2.toNat = x.toNat + 1 * (y.toNat + carry.toNat) :=
    carryingAdd_value x y carry
  have hz : z.toNat = (r.1.toNat +
      (if 9 < r.1.toNat % 16 ∨ 16 ≤ x.toNat % 16 + y.toNat % 16 + carry.toNat then 6 else 0) +
        (if 0x99 < r.1.toNat ∨ r.2 = true then 0x60 else 0)) % 256 := by
    show (adjusted false _ r.2 r.1).toNat = _
    rw [adjusted_add, half_add]
    simp only [decide_eq_true_eq]
  rw [high_byte]
  generalize r.1.toNat = data at hr hvalue hz ⊢
  generalize r.2 = lost at hvalue hz ⊢
  rw [Packed, packedValue, packedValue, packedValue]
  generalize z.toNat = result at hz ⊢
  cases lost with
  | false =>
    simp only [Bool.toNat_false, Bool.false_or, Bool.false_eq_true, or_false] at hvalue hz ⊢
    by_cases hover : 0x99 < data
    · rw [decide_eq_true hover]
      simp only [Bool.toNat_true]
      split_ifs at hz <;> omega
    · rw [decide_eq_false hover]
      simp only [Bool.toNat_false]
      split_ifs at hz <;> omega
  | true =>
    simp only [Bool.toNat_true, Bool.true_or, or_true, if_true] at hvalue hz ⊢
    split_ifs at hz <;> omega

/-- **DAA behind a difference** of packed bytes: their decimal difference, and its borrow. -/
theorem daa_sub {x y : U8} (xy : U8) (carry : Bool) (hx : Packed x) (hy : Packed y) :
    let r := borrowingSub x y carry
    let z := adjusted true (subFlags x y carry xy .H) r.2 r.1
    Packed z ∧ packedValue x + 100 * (r.2 || decide (0x99 < r.1)).toNat =
      packedValue z + packedValue y + carry.toNat := by
  intro r z
  obtain ⟨hxh, hxl⟩ := hx
  obtain ⟨hyh, hyl⟩ := hy
  have hcarry : carry.toNat ≤ 1 := Bool.toNat_le carry
  have hr : r.1.toNat < 256 := r.1.isLt
  have hvalue : (r.1.toNat : ℤ) + -1 * 2 ^ 8 * r.2.toNat =
      x.toNat + -1 * (y.toNat + carry.toNat) := borrowingSub_value x y carry (by decide)
  have hz : z.toNat = (r.1.toNat + 512 -
      (if 9 < r.1.toNat % 16 ∨ x.toNat % 16 < y.toNat % 16 + carry.toNat then 6 else 0) -
        (if 0x99 < r.1.toNat ∨ r.2 = true then 0x60 else 0)) % 256 := by
    show (adjusted true _ r.2 r.1).toNat = _
    rw [adjusted_sub, half_sub]
    simp only [decide_eq_true_eq]
  rw [high_byte]
  generalize r.1.toNat = data at hr hvalue hz ⊢
  generalize r.2 = lost at hvalue hz ⊢
  rw [Packed, packedValue, packedValue, packedValue]
  generalize z.toNat = result at hz ⊢
  cases lost with
  | false =>
    simp only [Bool.toNat_false, Bool.false_or, Bool.false_eq_true, or_false] at hvalue hz ⊢
    have hover : ¬ 0x99 < data := by omega
    rw [decide_eq_false hover]
    simp only [Bool.toNat_false]
    split_ifs at hz <;> omega
  | true =>
    simp only [Bool.toNat_true, Bool.true_or, or_true, if_true] at hvalue hz ⊢
    split_ifs at hz <;> omega

namespace Cpu

/-- **DAA behind ADC or SBC** of packed bytes. -/
theorem daa_digit (minus : Bool) {x y : U8} (carry : Bool) (hx : Packed x) (hy : Packed y) :
    let r := digit minus x y carry
    let z := adjusted minus (byteDigitFlags minus x y carry .H) r.2 r.1
    Packed z ∧ (packedValue z : ℤ) + sign minus * 100 * (r.2 || decide (0x99 < r.1)).toNat =
      packedValue x + sign minus * (packedValue y + carry.toNat) := by
  cases minus with
  | false =>
    obtain ⟨hz, hvalue⟩ := daa_add carry hx hy
    refine ⟨hz, ?_⟩
    show (packedValue (adjusted false (addFlags x y carry .H) (carryingAdd x y carry).2
      (carryingAdd x y carry).1) : ℤ) + 1 * 100 * ((carryingAdd x y carry).2 ||
        decide (0x99 < (carryingAdd x y carry).1)).toNat = _ + 1 * _
    omega
  | true =>
    obtain ⟨hz, hvalue⟩ := daa_sub (borrowingSub x y carry).1 carry hx hy
    refine ⟨hz, ?_⟩
    show (packedValue (adjusted true (subFlags x y carry (borrowingSub x y carry).1 .H)
      (borrowingSub x y carry).2 (borrowingSub x y carry).1) : ℤ) + -1 * 100 *
        ((borrowingSub x y carry).2 || decide (0x99 < (borrowingSub x y carry).1)).toNat = _ + -1 * _
    omega

theorem byteDigitFlags_n (minus : Bool) (x y : U8) (carry : Bool) :
    byteDigitFlags minus x y carry .N = minus := by
  cases minus <;> rfl

/-! ### Steps of a chain -/

/-- The instruction at PC is ADC A,x or SBC A,x, with the operand in any form. -/
def OperandOp (β : Type) [Bus β] (minus : Bool) (v : U8) (c c' : Cpu) : Prop :=
  ∃ (bus : β) (x : Operand) (code : List U8 × U8),
    x.arithCode (byteOperation minus) = some code ∧ Starts bus c.pc (code.1 ++ [code.2]) ∧
    x.value c bus = v ∧ ∃ o, c.instruction bus = some o ∧ o.cpu = c'

/-- The instruction at PC is DAA. -/
def DaaOp (β : Type) [Bus β] (c c' : Cpu) : Prop :=
  ∃ bus : β, Bus.read bus c.pc = 0x27 ∧ ∃ o, c.instruction bus = some o ∧ o.cpu = c'

/-- One byte of a decimal chain: ADC or SBC on any processor with the first byte in A and the
carry in C, then DAA on any processor with the A and the F that were left. -/
def DecimalStep (β : Type) [Bus β] (minus carry : Bool) (x y z : U8) (out : Bool) : Prop :=
  ∃ c c' d d', c.flag .C = carry ∧ c.register .A = x ∧ OperandOp β minus y c c' ∧
    d.af = c'.af ∧ DaaOp β d d' ∧ d'.register .A = z ∧ d'.flag .C = out

variable {β : Type} [Bus β] {minus : Bool} {c c' : Cpu}

theorem operandOp_spec {v : U8} (h : OperandOp β minus v c c') :
    c'.register .A = (digit minus (c.register .A) v (c.flag .C)).1 ∧
      ∀ f, c'.flag f = byteDigitFlags minus (c.register .A) v (c.flag .C) f := by
  obtain ⟨bus, x, code, hcode, hat, rfl, o, ho, rfl⟩ := h
  obtain ⟨_, hins, hspec⟩ := byte_instruction hcode hat
  cases ho.symm.trans hins
  exact hspec

theorem daa_instruction {bus : β} (h : Bus.read bus c.pc = 0x27) :
    c.instruction bus = some ⟨(c.takeEnable.past 1).daa.1, bus, 4⟩ := by
  apply instruction_of_decoded (d := ⟨.daa, c.takeEnable.past 1, 0⟩)
  apply decoded_of_run
  rw [pc_takeEnable, h]
  rfl

theorem daaOp_spec (h : DaaOp β c c') :
    c'.register .A = adjusted (c.flag .N) (c.flag .H) (c.flag .C) (c.register .A) ∧
      c'.flag .C = (c.flag .C || decide (0x99 < c.register .A)) := by
  obtain ⟨bus, hdaa, o, ho, rfl⟩ := h
  cases ho.symm.trans (daa_instruction hdaa)
  have hspec := daa_spec (c.takeEnable.past 1)
  rwa [flag_past, flag_past, flag_past, register_a_past] at hspec

/-- **A step keeps the decimal number**, and leaves digits in range. -/
theorem decimalStep_value {carry : Bool} {x y z : U8} {out : Bool} (hx : Packed x)
    (hy : Packed y) (h : DecimalStep β minus carry x y z out) :
    Packed z ∧ (packedValue z : ℤ) + sign minus * 100 * out.toNat =
      packedValue x + sign minus * (packedValue y + carry.toNat) := by
  obtain ⟨c, c', d, d', rfl, rfl, hop, haf, hdaa, rfl, rfl⟩ := h
  obtain ⟨ha, hflags⟩ := operandOp_spec hop
  obtain ⟨hz, hout⟩ := daaOp_spec hdaa
  have hreg : d.register .A = c'.register .A := congrArg hi haf
  have hflag : ∀ f, d.flag f = c'.flag f := by
    intro f
    rw [flag_eq, flag_eq, haf]
  rw [hreg, ha, hflag, hflags, byteDigitFlags_carry] at hout
  rw [hreg, ha, hflag, hflag, hflag, hflags, hflags, hflags, byteDigitFlags_carry,
    byteDigitFlags_n] at hz
  rw [hz, hout]
  exact daa_digit minus (c.flag .C) hx hy

/-- ADC A,B or SBC A,B, with DAA behind it. -/
def decimalProgram (minus : Bool) : TestBus :=
  TestBus.withMem [if minus then 0x98 else 0x88, 0x27]

/-- The step exists: the two instructions one after the other. -/
theorem decimalStep_total (minus carry : Bool) (x y : U8) :
    ∃ z out, DecimalStep TestBus minus carry x y z out := by
  let c := byteStart x y carry
  let code : List U8 × U8 := ([], if minus then 0x98 else 0x88)
  have hcode : (Operand.register .B).arithCode (byteOperation minus) = some code := by
    cases minus <;> rfl
  have hat : Starts (decimalProgram minus) c.pc (code.1 ++ [code.2]) := ⟨rfl, trivial⟩
  obtain ⟨o, hins, -⟩ := arith_instruction hcode hat
  have hpc : Bus.read (decimalProgram minus) o.cpu.pc = 0x27 := by
    have hrun : doOpcodeTable (Bus.read (decimalProgram minus) c.takeEnable.pc) =
        .run ((arith (byteOperation minus)).instr (.register .B)) := by
      cases minus <;> rfl
    cases hins.symm.trans (instruction_of_decoded (decoded_of_run hrun))
    have hbase : ((c.takeEnable.past 1).exec (decimalProgram minus)
        ((arith (byteOperation minus)).instr (.register .B))).cpu =
          (arith (byteOperation minus)).base (c.takeEnable.past 1) y := by
      rw [← hi_word y 0]
      cases minus <;> rfl
    show Bus.read _ ((c.takeEnable.past 1).exec (decimalProgram minus)
      ((arith (byteOperation minus)).instr (.register .B))).cpu.pc = _
    rw [hbase, arith_base_eq]
    rfl
  refine ⟨_, _, c, o.cpu, o.cpu, _, flag_byteStart x y carry, hi_word x _,
    ⟨decimalProgram minus, .register .B, code, hcode, hat, hi_word y 0, o, hins, rfl⟩, rfl,
    ⟨decimalProgram minus, hpc, _, daa_instruction hpc, rfl⟩, rfl, rfl⟩

/-! ### Chains -/

/-- The number of a list of packed bytes. -/
def decimalValue (bytes : List U8) : ℕ := numberValue packedValue 100 bytes

/-- The decimal sum or difference of the numbers and the carry. -/
def decimalTotal (minus : Bool) (pairs : List (U8 × U8)) (carry : Bool) : ℤ :=
  if minus then
    (decimalValue (pairs.map Prod.fst) : ℤ) - decimalValue (pairs.map Prod.snd) - carry.toNat
  else (decimalValue (pairs.map Prod.fst) : ℤ) + decimalValue (pairs.map Prod.snd) + carry.toNat

theorem decimalTotal_eq (minus : Bool) (pairs : List (U8 × U8)) (carry : Bool) :
    decimalTotal minus pairs carry = decimalValue (pairs.map Prod.fst) +
      sign minus * (decimalValue (pairs.map Prod.snd) + carry.toNat) := by
  cases minus
  · simp only [decimalTotal, sign, Bool.false_eq_true, if_false]
    ring
  · simp only [decimalTotal, sign, if_true]
    ring

/-- What leaves the range of the numbers: a sum at the top, a difference at the bottom. -/
theorem decimalTotal_lost {minus : Bool} {pairs : List (U8 × U8)} (carry : Bool)
    (hpairs : ∀ p ∈ pairs, Packed p.1 ∧ Packed p.2) :
    ¬ (0 ≤ decimalTotal minus pairs carry ∧
        decimalTotal minus pairs carry < (100 : ℕ) ^ pairs.length) ↔
      if minus then decimalTotal minus pairs carry < 0
      else 10 ^ (2 * pairs.length) ≤ decimalTotal minus pairs carry := by
  have hpow : ((100 : ℕ) : ℤ) ^ pairs.length = 10 ^ (2 * pairs.length) := by
    rw [pow_mul]
    norm_num
  have hfst : (decimalValue (pairs.map Prod.fst) : ℤ) < (100 : ℕ) ^ pairs.length := by
    have hlt : decimalValue (pairs.map Prod.fst) < 100 ^ (pairs.map Prod.fst).length := by
      apply numberValue_lt
      intro d hd
      obtain ⟨p, hp, rfl⟩ := List.mem_map.1 hd
      exact packedValue_lt (hpairs p hp).1
    rw [List.length_map] at hlt
    exact_mod_cast hlt
  rw [← hpow]
  generalize ((100 : ℕ) : ℤ) ^ pairs.length = size at hfst ⊢
  rw [decimalTotal]
  cases minus with
  | false =>
    simp only [Bool.false_eq_true, if_false]
    omega
  | true =>
    simp only [if_true]
    omega

/-- **Decimal arithmetic is exact.**  On packed numbers of any length a chain of ADC and DAA, or
of SBC and DAA, leaves the packed digits of the decimal sum or difference modulo the size of the
operands, with the decimal carry or borrow in C. -/
theorem decimal_exact (β : Type) [Bus β] (minus carry : Bool) (pairs : List (U8 × U8))
    (hpairs : ∀ p ∈ pairs, Packed p.1 ∧ Packed p.2) :
    (∀ zs out, CarryChain (DecimalStep β minus) carry pairs zs out →
      zs.length = pairs.length ∧ (∀ z ∈ zs, Packed z) ∧
      (decimalValue zs : ℤ) = decimalTotal minus pairs carry % 10 ^ (2 * pairs.length) ∧
      (out = true ↔ if minus then decimalTotal minus pairs carry < 0
        else 10 ^ (2 * pairs.length) ≤ decimalTotal minus pairs carry)) ∧
    ∃ zs out, CarryChain (DecimalStep TestBus minus) carry pairs zs out := by
  refine ⟨?_, CarryChain.exists_of_total (decimalStep_total minus) carry pairs⟩
  intro zs out hchain
  have hkeep : ∀ carry x y z out, Packed x → Packed y → DecimalStep β minus carry x y z out →
      Packed z := fun _ _ _ _ _ hx hy hstep => (decimalStep_value hx hy hstep).1
  obtain ⟨hzs, hvalid⟩ := hchain.restrict hkeep hpairs
  have hstep : ∀ carry x y z out, Packed x ∧ Packed y ∧ DecimalStep β minus carry x y z out →
      (packedValue z : ℤ) + sign minus * (100 : ℕ) * out.toNat =
        packedValue x + sign minus * (packedValue y + carry.toNat) :=
    fun _ _ _ _ _ h => (decimalStep_value h.1 h.2.1 h.2.2).2
  obtain ⟨hvalue, hout⟩ := hvalid.number (sign_cases minus) hstep
    (fun z hz => packedValue_lt (hzs z hz)) (decimalTotal_eq minus pairs carry)
  have hpow : ((100 : ℕ) : ℤ) ^ pairs.length = 10 ^ (2 * pairs.length) := by
    rw [pow_mul]
    norm_num
  rw [hpow] at hvalue
  exact ⟨hchain.length_eq, hzs, hvalue, hout.trans (decimalTotal_lost carry hpairs)⟩

/-- 4567 + 5544 with a carry, and 12 - 5544. -/
theorem decimal_exact_chain :
    (∃ zs out, CarryChain (DecimalStep TestBus false) true [(0x67, 0x44), (0x45, 0x55)] zs out ∧
      (decimalValue zs : ℤ) =
        decimalTotal false [(0x67, 0x44), (0x45, 0x55)] true % 10 ^ (2 * 2)) ∧
    ∃ zs out, CarryChain (DecimalStep TestBus true) false [(0x12, 0x44), (0x00, 0x55)] zs out ∧
      (decimalValue zs : ℤ) =
        decimalTotal true [(0x12, 0x44), (0x00, 0x55)] false % 10 ^ (2 * 2) := by
  have hpairs : ∀ p ∈ [((0x67 : U8), (0x44 : U8)), (0x45, 0x55)], Packed p.1 ∧ Packed p.2 :=
    List.forall_mem_cons.2 ⟨by decide, List.forall_mem_singleton.2 (by decide)⟩
  have hpairs' : ∀ p ∈ [((0x12 : U8), (0x44 : U8)), (0x00, 0x55)], Packed p.1 ∧ Packed p.2 :=
    List.forall_mem_cons.2 ⟨by decide, List.forall_mem_singleton.2 (by decide)⟩
  obtain ⟨hadd, zs, out, hchain⟩ :=
    decimal_exact TestBus false true [(0x67, 0x44), (0x45, 0x55)] hpairs
  obtain ⟨hsub, zs', out', hchain'⟩ :=
    decimal_exact TestBus true false [(0x12, 0x44), (0x00, 0x55)] hpairs'
  exact ⟨⟨zs, out, hchain, (hadd zs out hchain).2.2.1⟩,
    ⟨zs', out', hchain', (hsub zs' out' hchain').2.2.1⟩⟩

end Cpu

end Possum
