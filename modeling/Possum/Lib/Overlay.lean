import Mathlib.Data.Nat.Notation
import Mathlib.Logic.Function.Basic
import Mathlib.Data.List.Basic

/-!
# Lists written over a memory

`overlay f p bs` is the memory `f` after the list `bs` has been written to the consecutive
positions from `p` on, one element at a time; `overlay_of_in` and `overlay_of_out` are its
closed form.  `Copied src dst f f' k` says the same of `k` elements and any positions `dst`, and
`Copied.succ` is the step of a loop that copies one element at a time.  `block n f L` is the `L`-th
block of `n` positions: the blocks determine the memory (`eq_block`), and writing a whole block
updates that block alone (`block_overlay`).
-/

set_option autoImplicit false

namespace Possum.Lib

variable {α : Type*}

def overlay (f : ℕ → α) : ℕ → List α → ℕ → α
  | _, [] => f
  | p, b :: bs => overlay (Function.update f p b) (p + 1) bs

@[simp] theorem overlay_nil (f : ℕ → α) (p : ℕ) : overlay f p [] = f := rfl

theorem overlay_cons (f : ℕ → α) (p : ℕ) (b : α) (bs : List α) :
    overlay f p (b :: bs) = overlay (Function.update f p b) (p + 1) bs := rfl

/-- Positions before `p` or past the list keep their element. -/
theorem overlay_of_out (f : ℕ → α) (p : ℕ) (bs : List α) {i : ℕ}
    (h : i < p ∨ p + bs.length ≤ i) : overlay f p bs i = f i := by
  induction bs generalizing f p with
  | nil => rfl
  | cons b bs ih =>
    rw [List.length_cons] at h
    rw [overlay_cons, ih _ _ (by omega), Function.update_of_ne (by omega)]

/-- Positions of the list hold its elements. -/
theorem overlay_of_in (f : ℕ → α) (p : ℕ) (bs : List α) {j : ℕ} (h : j < bs.length) :
    overlay f p bs (p + j) = bs[j] := by
  induction bs generalizing f p j with
  | nil => simp at h
  | cons b bs ih =>
    rw [overlay_cons]
    cases j with
    | zero => rw [overlay_of_out _ _ _ (by omega), Nat.add_zero, Function.update_self]; rfl
    | succ j =>
      rw [show p + (j + 1) = p + 1 + j by omega, ih _ _ (by simpa using h)]
      rfl

/-- Writing what is there. -/
theorem overlay_eq_self {f : ℕ → α} {p : ℕ} {bs : List α}
    (h : ∀ j (hj : j < bs.length), bs[j] = f (p + j)) : overlay f p bs = f := by
  funext i
  by_cases hin : p ≤ i ∧ i < p + bs.length
  · obtain ⟨j, rfl⟩ := Nat.exists_eq_add_of_le hin.1
    have hj : j < bs.length := by omega
    rw [overlay_of_in f p bs hj, h j hj]
  · exact overlay_of_out f p bs (by omega)

theorem overlay_append (f : ℕ → α) (p : ℕ) (as bs : List α) :
    overlay f p (as ++ bs) = overlay (overlay f p as) (p + as.length) bs := by
  induction as generalizing f p with
  | nil => rfl
  | cons a as ih =>
    rw [List.cons_append, overlay_cons, ih, overlay_cons, List.length_cons,
      show p + 1 + as.length = p + (as.length + 1) by omega]

/-! ### Copies -/

section

variable {ι : Type*}

/-- Of `f`, the positions `dst 0` to `dst (k - 1)` hold the elements of `src` in `f'`, and the
others are as they were. -/
structure Copied (src : ℕ → α) (dst : ℕ → ι) (f f' : ι → α) (k : ℕ) : Prop where
  moved : ∀ j < k, f' (dst j) = src j
  frame : ∀ i, (∀ j < k, i ≠ dst j) → f' i = f i

theorem Copied.zero (src : ℕ → α) (dst : ℕ → ι) (f : ι → α) : Copied src dst f f 0 where
  moved := nofun
  frame _ _ := rfl

/-- **One element more**, at a position not written before. -/
theorem Copied.succ [DecidableEq ι] {src : ℕ → α} {dst : ℕ → ι} {f f' : ι → α} {k : ℕ}
    (h : Copied src dst f f' k) (hnew : ∀ j < k, dst j ≠ dst k) :
    Copied src dst f (Function.update f' (dst k) (src k)) (k + 1) where
  moved := by
    intro j hj
    rcases eq_or_ne j k with rfl | hne
    · exact Function.update_self ..
    · have hlt : j < k := by omega
      rw [Function.update_of_ne (hnew j hlt), h.moved j hlt]
  frame := by
    intro i hi
    rw [Function.update_of_ne (hi k (Nat.lt_succ_self k))]
    exact h.frame i fun j hj => hi j (by omega)

end

/-! ### Blocks -/

/-- The `L`-th block of `n` positions. -/
def block (n : ℕ) (f : ℕ → α) (L : ℕ) : Vector α n := Vector.ofFn fun j => f (L * n + j)

theorem eq_block {n : ℕ} (hn : 0 < n) (f : ℕ → α) (i : ℕ) :
    f i = (block n f (i / n)).get ⟨i % n, Nat.mod_lt i hn⟩ := by
  have hlt : i % n < n := Nat.mod_lt i hn
  show f i = (Vector.ofFn fun j : Fin n => f (i / n * n + j))[i % n]
  rw [Vector.getElem_ofFn, Nat.div_add_mod']

/-- **Writing a block** updates that block and no other. -/
theorem block_overlay {n : ℕ} (f : ℕ → α) (L : ℕ) (v : Vector α n) :
    block n (overlay f (L * n) v.toList) = Function.update (block n f) L v := by
  funext K
  ext j hj
  rw [block, Vector.getElem_ofFn]
  rcases eq_or_ne K L with rfl | hne
  · rw [Function.update_self, overlay_of_in _ _ _ (by simpa using hj), Vector.getElem_toList]
  · rw [Function.update_of_ne hne, block, Vector.getElem_ofFn]
    refine overlay_of_out _ _ _ ?_
    rw [Vector.length_toList]
    -- block `K` lies before or behind block `L`
    rcases Nat.lt_or_gt_of_ne hne with hlt | hgt
    · have hmul : (K + 1) * n ≤ L * n := Nat.mul_le_mul_right n hlt
      rw [Nat.add_mul, Nat.one_mul] at hmul
      exact .inl (by omega)
    · have hmul : (L + 1) * n ≤ K * n := Nat.mul_le_mul_right n hgt
      rw [Nat.add_mul, Nat.one_mul] at hmul
      exact .inr (by omega)

end Possum.Lib
