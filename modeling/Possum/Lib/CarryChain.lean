import Mathlib.Data.Int.ModEq
import Mathlib.Tactic.Linarith
import Mathlib.Tactic.Ring
import Mathlib.Tactic.LinearCombination

/-!
# Chains of digits

Numbers as lists of digits, the least significant first, and operations that treat the digits
of two numbers in turn and hand a carry from each to the next.  `CarryChain Step` is such a run
of an operation `Step`; nothing but the carry goes from one digit to the next.

A digit has a value, and a number has one in a base (`numberValue`); words of `w` bits are the
digits of the base `2 ^ w` (`digitsValue`).

`CarryChain.conserve` is the induction: what `Step` keeps for one digit, the chain keeps for the
whole number.  `CarryChain.number` reads the sum or the difference off it, `CarryChain.digits` is
its case of words, and `digitsValue_refine` says that splitting the digits changes no number.
-/

set_option autoImplicit false

namespace Possum.Lib

/-! ### Digits -/

section

variable {α : Type*} {val : α → ℕ} {base : ℕ}

/-- The number whose digits have the given values in a base, the least significant first. -/
def numberValue (val : α → ℕ) (base : ℕ) : List α → ℕ
  | [] => 0
  | d :: ds => val d + base * numberValue val base ds

theorem numberValue_lt {ds : List α} (hds : ∀ d ∈ ds, val d < base) :
    numberValue val base ds < base ^ ds.length := by
  induction ds with
  | nil => simp [numberValue]
  | cons d ds ih =>
    have hd : val d < base := hds d List.mem_cons_self
    have hrest : numberValue val base ds + 1 ≤ base ^ ds.length :=
      ih fun e he => hds e (List.mem_cons_of_mem d he)
    have hnext : base * (numberValue val base ds + 1) ≤ base * base ^ ds.length :=
      Nat.mul_le_mul_left base hrest
    rw [List.length_cons, pow_succ', numberValue]
    rw [Nat.mul_add, Nat.mul_one] at hnext
    omega

end

section

variable {w : ℕ}

/-- The number with the given digits, the least significant first. -/
def digitsValue : List (BitVec w) → ℕ
  | [] => 0
  | d :: ds => d.toNat + 2 ^ w * digitsValue ds

theorem digitsValue_eq (ds : List (BitVec w)) :
    digitsValue ds = numberValue BitVec.toNat (2 ^ w) ds := by
  induction ds with
  | nil => rfl
  | cons d ds ih => rw [digitsValue, numberValue, ih]

/-- Digits of `v` bits for every digit of `w` make the same number. -/
theorem digitsValue_refine {v k : ℕ} (hw : w = v * k) (f : BitVec w → List (BitVec v))
    (hlen : ∀ d, (f d).length = k) (hf : ∀ d, digitsValue (f d) = d.toNat)
    (ds : List (BitVec w)) : digitsValue (ds.flatMap f) = digitsValue ds := by
  have happ (xs ys : List (BitVec v)) :
      digitsValue (xs ++ ys) = digitsValue xs + 2 ^ (v * xs.length) * digitsValue ys := by
    induction xs with
    | nil => simp [digitsValue]
    | cons x xs ih =>
      rw [List.cons_append, digitsValue, digitsValue, ih, List.length_cons]
      ring
  induction ds with
  | nil => rfl
  | cons d ds ih => rw [List.flatMap_cons, happ, hf, hlen, ih, ← hw, digitsValue]

end

/-! ### Chains -/

/-- A run of `Step` over pairs of digits: from the first carry, through the digits of the result,
to the last carry. -/
inductive CarryChain {α : Type*} (Step : Bool → α → α → α → Bool → Prop) :
    Bool → List (α × α) → List α → Bool → Prop
  | nil (carry : Bool) : CarryChain Step carry [] [] carry
  | cons {carry middle out : Bool} {x y z : α} {pairs : List (α × α)} {zs : List α} :
      Step carry x y z middle → CarryChain Step middle pairs zs out →
      CarryChain Step carry ((x, y) :: pairs) (z :: zs) out

namespace CarryChain

section

variable {α : Type*} {Step : Bool → α → α → α → Bool → Prop}

theorem exists_of_total (htotal : ∀ carry x y, ∃ z out, Step carry x y z out) (carry : Bool)
    (pairs : List (α × α)) : ∃ zs out, CarryChain Step carry pairs zs out := by
  induction pairs generalizing carry with
  | nil => exact ⟨[], carry, .nil carry⟩
  | cons p pairs ih =>
    obtain ⟨z, middle, hstep⟩ := htotal carry p.1 p.2
    obtain ⟨zs, out, hrest⟩ := ih middle
    exact ⟨z :: zs, out, .cons hstep hrest⟩

theorem length_eq {carry out : Bool} {pairs : List (α × α)} {zs : List α}
    (h : CarryChain Step carry pairs zs out) : zs.length = pairs.length := by
  induction h with
  | nil => rfl
  | cons _ _ ih => rw [List.length_cons, List.length_cons, ih]

/-- What the digits of a chain have, its steps may be assumed to keep. -/
theorem restrict {Valid : α → Prop}
    (hkeep : ∀ carry x y z out, Valid x → Valid y → Step carry x y z out → Valid z)
    {carry out : Bool} {pairs : List (α × α)} {zs : List α}
    (h : CarryChain Step carry pairs zs out) (hpairs : ∀ p ∈ pairs, Valid p.1 ∧ Valid p.2) :
    (∀ z ∈ zs, Valid z) ∧
      CarryChain (fun carry x y z out => Valid x ∧ Valid y ∧ Step carry x y z out)
        carry pairs zs out := by
  induction h with
  | nil carry => exact ⟨fun z hz => absurd hz List.not_mem_nil, .nil carry⟩
  | @cons carry middle out x y z pairs zs hfirst _ ih =>
    obtain ⟨hx, hy⟩ := hpairs (x, y) List.mem_cons_self
    obtain ⟨hzs, hrest⟩ := ih fun p hp => hpairs p (List.mem_cons_of_mem _ hp)
    refine ⟨?_, .cons ⟨hx, hy, hfirst⟩ hrest⟩
    intro d hd
    obtain rfl | hd := List.mem_cons.1 hd
    · exact hkeep carry x y d middle hx hy hfirst
    · exact hzs d hd

variable {val : α → ℕ} {base : ℕ} {s : ℤ}

/-- **One digit to all.**  `s` is 1 for a sum and -1 for a difference. -/
theorem conserve
    (hstep : ∀ carry x y z out, Step carry x y z out →
      (val z : ℤ) + s * base * out.toNat = val x + s * (val y + carry.toNat))
    {carry out : Bool} {pairs : List (α × α)} {zs : List α}
    (h : CarryChain Step carry pairs zs out) :
    (numberValue val base zs : ℤ) + s * base ^ pairs.length * out.toNat =
      numberValue val base (pairs.map Prod.fst) +
        s * (numberValue val base (pairs.map Prod.snd) + carry.toNat) := by
  induction h with
  | nil carry => simp [numberValue]
  | @cons carry middle out x y z pairs zs hfirst _ ih =>
    have hdigit := hstep carry x y z middle hfirst
    simp only [numberValue, List.map_cons, List.length_cons, Nat.cast_add, Nat.cast_mul, pow_succ']
    linear_combination hdigit + (base : ℤ) * ih

/-- **The number of the result.**  It is the sum or the difference modulo the size of the
operands, and the last carry says whether anything was lost. -/
theorem number (hs : s = 1 ∨ s = -1)
    (hstep : ∀ carry x y z out, Step carry x y z out →
      (val z : ℤ) + s * base * out.toNat = val x + s * (val y + carry.toNat))
    {carry out : Bool} {pairs : List (α × α)} {zs : List α}
    (h : CarryChain Step carry pairs zs out) (hzs : ∀ z ∈ zs, val z < base) {t : ℤ}
    (ht : t = numberValue val base (pairs.map Prod.fst) +
      s * (numberValue val base (pairs.map Prod.snd) + carry.toNat)) :
    (numberValue val base zs : ℤ) = t % base ^ pairs.length ∧
      (out = true ↔ ¬ (0 ≤ t ∧ t < base ^ pairs.length)) := by
  have hsum := h.conserve hstep
  rw [← ht] at hsum
  have hlt : (numberValue val base zs : ℤ) < base ^ pairs.length := by
    have hz := numberValue_lt hzs
    rw [h.length_eq] at hz
    exact_mod_cast hz
  have hnonneg : (0 : ℤ) ≤ numberValue val base zs := Int.natCast_nonneg _
  generalize (base : ℤ) ^ pairs.length = size at hsum hlt ⊢
  have hmod : t % size = numberValue val base zs := by
    rw [← hsum, mul_right_comm, Int.add_mul_emod_self_right]
    exact Int.emod_eq_of_lt hnonneg hlt
  refine ⟨hmod.symm, ?_⟩
  cases out with
  | false =>
    simp only [Bool.toNat_false, Nat.cast_zero, mul_zero, add_zero] at hsum
    rw [← hsum]
    simp only [Bool.false_eq_true, false_iff, not_not]
    exact ⟨hnonneg, hlt⟩
  | true =>
    simp only [Bool.toNat_true, Nat.cast_one, mul_one] at hsum
    simp only [true_iff, not_and, not_lt]
    intro hpos
    obtain rfl | rfl := hs
    · linarith
    · linarith

end

variable {w : ℕ} {Step : Bool → BitVec w → BitVec w → BitVec w → Bool → Prop} {s : ℤ}

/-- **The digits of the result**, where a digit is a word of `w` bits. -/
theorem digits (hs : s = 1 ∨ s = -1)
    (hstep : ∀ carry x y z out, Step carry x y z out →
      (z.toNat : ℤ) + s * 2 ^ w * out.toNat = x.toNat + s * (y.toNat + carry.toNat))
    {carry out : Bool} {pairs : List (BitVec w × BitVec w)} {zs : List (BitVec w)}
    (h : CarryChain Step carry pairs zs out) {t : ℤ}
    (ht : t = digitsValue (pairs.map Prod.fst) +
      s * (digitsValue (pairs.map Prod.snd) + carry.toNat)) :
    (digitsValue zs : ℤ) = t % 2 ^ (w * pairs.length) ∧
      (out = true ↔ ¬ (0 ≤ t ∧ t < 2 ^ (w * pairs.length))) := by
  have hbase : ((2 ^ w : ℕ) : ℤ) = 2 ^ w := by norm_cast
  rw [digitsValue_eq, digitsValue_eq] at ht
  have hnumber := h.number hs (by rwa [hbase]) (fun z _ => z.isLt) ht
  rwa [hbase, ← pow_mul, ← digitsValue_eq] at hnumber

end CarryChain

end Possum.Lib
