import Mathlib.Data.Nat.ModEq
import Mathlib.Logic.Function.Basic

/-!
# Cells behind a cursor

`n` cells are read and written at a cursor, which moves on with every access and from the last
cell to the first.  `feed` is what a list of accesses returns and leaves.

`cells_stream` says which cells a stream of writes changes, and **`fetch_streamed`** that reads
from where it began return it, if it is not longer than the cells.
-/

set_option autoImplicit false

namespace Possum.Lib

structure Cursor (n : ℕ) (α : Type*) where
  cells : Fin n → α
  pos : Fin n

namespace Cursor

variable {n : ℕ} {α : Type*} {c c' : Cursor n α} {bs : List α}

/-- The cell that is `i` accesses ahead. -/
def ahead (c : Cursor n α) (i : ℕ) : Fin n := ⟨(c.pos + i) % n, Nat.mod_lt _ c.pos.pos⟩

/-- The cursor after a read. -/
def next (c : Cursor n α) : Cursor n α := { c with pos := c.ahead 1 }

/-- The cells and the cursor after a write. -/
def write (c : Cursor n α) (a : α) : Cursor n α :=
  { cells := Function.update c.cells c.pos a
    pos := c.ahead 1 }

/-- What accesses return and leave: `some` of what is written, `none` for a read. -/
def feed (c : Cursor n α) : List (Option α) → List α × Cursor n α
  | [] => ([], c)
  | some a :: as => (c.write a).feed as
  | none :: as => (c.cells c.pos :: (c.next.feed as).1, (c.next.feed as).2)

theorem feed_append (c : Cursor n α) (as bs : List (Option α)) :
    c.feed (as ++ bs) =
      ((c.feed as).1 ++ ((c.feed as).2.feed bs).1, ((c.feed as).2.feed bs).2) := by
  induction as generalizing c with
  | nil => rfl
  | cons a as ih =>
    cases a with
    | none => rw [List.cons_append, feed, ih]; rfl
    | some a => rw [List.cons_append, feed, ih]; rfl

/-! ### Where the cursor goes -/

@[simp] theorem ahead_zero (c : Cursor n α) : c.ahead 0 = c.pos :=
  Fin.ext (Nat.mod_eq_of_lt c.pos.isLt)

@[simp] theorem ahead_next (c : Cursor n α) (i : ℕ) : c.next.ahead i = c.ahead (i + 1) := by
  apply Fin.ext
  show ((c.pos + 1) % n + i) % n = (c.pos + (i + 1)) % n
  rw [Nat.mod_add_mod, Nat.add_assoc, Nat.add_comm 1]

@[simp] theorem ahead_write (c : Cursor n α) (a : α) (i : ℕ) :
    (c.write a).ahead i = c.ahead (i + 1) := ahead_next c i

/-- One round does not come to a cell twice. -/
theorem ahead_ne (c : Cursor n α) {i j : ℕ} (hij : i < j) (hj : j < i + n) :
    c.ahead i ≠ c.ahead j := by
  intro h
  have hmod : c.pos + i ≡ c.pos + j [MOD n] := congrArg Fin.val h
  have hmod : i ≡ j [MOD n] := Nat.ModEq.add_left_cancel' _ hmod
  have hdvd : n ∣ j - i := (Nat.modEq_iff_dvd' (Nat.le_of_lt hij)).1 hmod
  have hle : n ≤ j - i := Nat.le_of_dvd (Nat.sub_pos_of_lt hij) hdvd
  omega

/-! ### Streams -/

/-- Reads leave the cells and return them in their order. -/
theorem feed_reads (c : Cursor n α) (k : ℕ) :
    (c.feed (List.replicate k none)).1 = (List.range k).map (fun i => c.cells (c.ahead i)) ∧
      (c.feed (List.replicate k none)).2.cells = c.cells := by
  induction k generalizing c with
  | zero => exact ⟨rfl, rfl⟩
  | succ k ih =>
    obtain ⟨hread, hcells⟩ := ih c.next
    rw [List.replicate_succ, feed]
    refine ⟨?_, hcells⟩
    show c.cells c.pos :: (c.next.feed (List.replicate k none)).1 = _
    rw [hread, List.range_succ_eq_map, List.map_cons, List.map_map, ahead_zero]
    simp only [ahead_next]
    rfl

/-- **A stream of writes** sets the cells it passes and no others. -/
theorem cells_stream (c : Cursor n α) (hlen : bs.length ≤ n) :
    (∀ (i : ℕ) (hi : i < bs.length), (c.feed (bs.map some)).2.cells (c.ahead i) = bs[i]) ∧
      ∀ p, (∀ i < bs.length, p ≠ c.ahead i) → (c.feed (bs.map some)).2.cells p = c.cells p := by
  induction bs generalizing c with
  | nil => exact ⟨nofun, fun _ _ => rfl⟩
  | cons b bs ih =>
    rw [List.length_cons] at hlen
    obtain ⟨hset, hframe⟩ := ih (c.write b) (Nat.le_of_succ_le hlen)
    simp only [ahead_write] at hset hframe
    rw [List.map_cons, feed]
    constructor
    · intro i hi
      cases i with
      | zero =>
        -- the rest of the stream does not come back to the first cell
        rw [hframe _ fun i hi => c.ahead_ne (Nat.succ_pos i) (by omega), ahead_zero]
        exact Function.update_self ..
      | succ i => exact hset i (Nat.lt_of_succ_lt_succ hi)
    · intro p hp
      have hfirst : p ≠ c.pos := by
        rw [← c.ahead_zero]
        exact hp 0 (Nat.succ_pos _)
      rw [hframe p fun i hi => hp (i + 1) (Nat.succ_lt_succ hi)]
      exact Function.update_of_ne hfirst ..

/-- **A stream is read back** from where it began, whatever moved the cursor in between. -/
theorem fetch_streamed (hlen : bs.length ≤ n) (hcells : c'.cells = (c.feed (bs.map some)).2.cells)
    (hpos : c'.pos = c.pos) : (c'.feed (List.replicate bs.length none)).1 = bs := by
  have hahead : ∀ i, c'.ahead i = c.ahead i := by
    intro i
    exact Fin.ext (congrArg (fun p : Fin n => (p + i) % n) hpos)
  rw [(feed_reads c' bs.length).1]
  apply List.ext_getElem
  · rw [List.length_map, List.length_range]
  · intro i hi hi'
    rw [List.getElem_map, List.getElem_range, hahead, hcells]
    exact (c.cells_stream hlen).1 i hi'

end Cursor

end Possum.Lib
