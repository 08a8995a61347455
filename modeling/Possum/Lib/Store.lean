import Mathlib.Logic.Function.Basic
import Mathlib.Data.List.Basic

/-!
# Stores and what was last stored in them

A store maps addresses to contents; a history is a list of reads and writes.  `stored` is
the store a history leaves, `answers` what its reads return.  The store means what one
expects of it: **the last write wins** (`stored_eq_last`), so a read after a history returns what
that history last wrote at its address, or the initial contents if it wrote nothing there.
-/

namespace Possum.Lib

/-- An operation on a store with addresses `α` and contents `κ`. -/
inductive StoreOp (α κ : Type*)
  | read (a : α)
  | write (a : α) (v : κ)

namespace StoreOp

variable {α κ : Type*} [DecidableEq α]

/-- The store an operation leaves. -/
def apply (s : α → κ) : StoreOp α κ → α → κ
  | .read _ => s
  | .write a v => Function.update s a v

/-- The store a history leaves. -/
def stored (s : α → κ) (ops : List (StoreOp α κ)) : α → κ := ops.foldl apply s

/-- What the reads of a history return, in order. -/
def answers (s : α → κ) : List (StoreOp α κ) → List κ
  | [] => []
  | .read a :: ops => s a :: answers s ops
  | .write a v :: ops => answers (Function.update s a v) ops

/-- The value a history last wrote at `a`, if it wrote there at all. -/
def lastWrite (a : α) : List (StoreOp α κ) → Option κ
  | [] => none
  | .read _ :: ops => lastWrite a ops
  | .write b v :: ops => (lastWrite a ops).or (if b = a then some v else none)

@[simp] theorem stored_nil (s : α → κ) : stored s [] = s := rfl

@[simp] theorem stored_cons (s : α → κ) (op : StoreOp α κ) (ops : List (StoreOp α κ)) :
    stored s (op :: ops) = stored (apply s op) ops := rfl

theorem stored_append (s : α → κ) (ops ops' : List (StoreOp α κ)) :
    stored s (ops ++ ops') = stored (stored s ops) ops' := List.foldl_append

/-- **The last write wins.** -/
theorem stored_eq_last (s : α → κ) (ops : List (StoreOp α κ)) (a : α) :
    stored s ops a = (lastWrite a ops).getD (s a) := by
  induction ops generalizing s with
  | nil => rfl
  | cons op ops ih =>
    rw [stored_cons, ih]
    cases op with
    | read b => rfl
    | write b v =>
      simp only [apply, lastWrite]
      cases lastWrite a ops with
      | some w => simp
      | none =>
        by_cases hba : b = a
        · simp [hba]
        · simp [hba, Function.update_of_ne (Ne.symm hba)]

/-- What a history does not write keeps its contents. -/
theorem stored_of_not_written (s : α → κ) (ops : List (StoreOp α κ)) (a : α)
    (h : ∀ op ∈ ops, ∀ v, op ≠ .write a v) : stored s ops a = s a := by
  induction ops generalizing s with
  | nil => rfl
  | cons op ops ih =>
    have hop := h op (List.mem_cons_self ..)
    rw [stored_cons, ih _ fun op' hop' => h op' (List.mem_cons_of_mem _ hop')]
    cases op with
    | read b => rfl
    | write b v =>
      have hne : a ≠ b := by
        rintro rfl
        exact hop v rfl
      exact Function.update_of_ne hne v s

theorem lastWrite_append (a : α) (ops ops' : List (StoreOp α κ)) :
    lastWrite a (ops ++ ops') = (lastWrite a ops').or (lastWrite a ops) := by
  induction ops with
  | nil => rw [List.nil_append, lastWrite, Option.or_none]
  | cons op ops ih =>
    cases op with
    | read b => exact ih
    | write b v => rw [List.cons_append, lastWrite, ih, lastWrite, Option.or_assoc]

theorem lastWrite_eq_none {a : α} {ops : List (StoreOp α κ)} (h : ∀ op ∈ ops, ∀ v, op ≠ .write a v) :
    lastWrite a ops = none := by
  induction ops with
  | nil => rfl
  | cons op ops ih =>
    have hop := h op (List.mem_cons_self ..)
    have hrest := ih fun op' hop' => h op' (List.mem_cons_of_mem _ hop')
    cases op with
    | read b => exact hrest
    | write b v =>
      have hne : b ≠ a := by
        rintro rfl
        exact hop v rfl
      rw [lastWrite, hrest, if_neg hne, Option.or_none]

theorem answers_append (s : α → κ) (ops ops' : List (StoreOp α κ)) :
    answers s (ops ++ ops') = answers s ops ++ answers (stored s ops) ops' := by
  induction ops generalizing s with
  | nil => rfl
  | cons op ops ih => cases op <;> simp [answers, ih, apply]

end StoreOp

end Possum.Lib
