import Possum.Sys.View
import Possum.Lib.Store

/-!
# One window and thirty-two banks

Whatever the processor reads, writes and sends to the BANK port, its memory is a store of cells:
the cells of one shared window and those of each bank (`banked_memory`).  Every access stays in
the RAM, a read returns what was last written to its cell, and the BANK port returns the bank
last selected.  `Holds` is the refinement: the RAM holds a store of cells.
-/

set_option autoImplicit false

namespace Possum.Sys

open Lib Lib.StoreOp

/-- What the processor does to its memory.  The high byte of a port is arbitrary. -/
inductive MemoryOp
  | read (a : U16)
  | write (a : U16) (data : U8)
  | select (high data : U8)
  | bank (high : U8)
  deriving DecidableEq, Repr

namespace MemoryOp

section

variable {H K : Type} [Device H] [Device K]

/-- The view as a machine for them; a read and the BANK port answer a byte. -/
def step (m : Overflow) : Machine (View H K) MemoryOp (Option U8)
  | v, .read a => (v.read a).map fun b => (some b, v)
  | v, .write a data => (v.write a data).map fun v => (none, v)
  | v, .select high data => (v.output m (word high 0x01) data).map fun v => (none, v)
  | v, .bank high => (v.input m (word high 0x01)).map fun r => (some r.1, r.2)

end

/-! ### The store of cells -/

/-- The bank selected after an operation in bank `b`. -/
def bankAfter (b : U8) : MemoryOp → U8
  | .select _ data => data &&& 0x1F
  | _ => b

/-- The reads and writes of cells, from bank `b` on. -/
def history (b : U8) : List MemoryOp → List (StoreOp Cell U8)
  | [] => []
  | .read a :: ops => .read (cell b a) :: history b ops
  | .write a data :: ops => .write (cell b a) data :: history b ops
  | .select _ data :: ops => history (data &&& 0x1F) ops
  | .bank _ :: ops => history b ops

/-- The bank selected after a run of a new system. -/
def selected (ops : List MemoryOp) : U8 := ops.foldl bankAfter 0

/-- What was last written to the cell that address `a` reaches after a run of a new system. -/
def lastWritten (ops : List MemoryOp) (a : U16) : Option U8 :=
  lastWrite (cell (selected ops) a) (history 0 ops)

end MemoryOp

/-! ### The refinement -/

section

variable {H K : Type}

/-- The RAM holds the store `s`, and `b` is the selected bank. -/
structure Holds (v : View H K) (b : U8) (s : Cell → U8) : Prop where
  bank : v.bank.number = b
  cells : ∀ bank ≤ 0x1F, ∀ a, index v.ram (location bank a) = some (s (cell bank a))

theorem holds_new (kb : K) (hd : Option H) : Holds (View.new kb hd) 0 fun _ => 0 where
  bank := rfl
  cells := by
    intro bank hbank a
    have hlt := location_lt hbank a
    rw [View.new, index_eq_some _ hlt, Vector.getElem_replicate]

variable {v v' : View H K} {b : U8} {s : Cell → U8}

theorem Holds.read (h : Holds v b s) (a : U16) : v.read a = some (s (cell b a)) := by
  rw [View.read, read_eq, h.bank]
  exact h.cells b (h.bank ▸ v.bank.number_le) a

theorem Holds.write (h : Holds v b s) (a : U16) (data : U8) :
    ∃ v', v.write a data = some v' ∧ Holds v' b (Function.update s (cell b a) data) := by
  obtain ⟨ram, hram⟩ := Option.isSome_iff_exists.1 (write_isSome v.bank v.ram a data)
  refine ⟨{ v with ram := ram }, by rw [View.write, hram, Option.map_some], h.bank, ?_⟩
  intro bank hbank a'
  rw [index_of_write v.bank hram, h.bank, h.cells bank hbank]
  by_cases hcell : cell bank a' = cell b a
  · rw [if_pos (location_inj.2 hcell), hcell, Function.update_self]
  · rw [if_neg fun hloc => hcell (location_inj.1 hloc), Function.update_of_ne hcell]

variable [Device H] [Device K] {m : Overflow}

theorem output_bank (v : View H K) (high data : U8) :
    v.output m (word high 0x01) data = some { v with bank := v.bank.select data } := by
  have hport : word high 0x01 &&& 0xFF = 0x01 := by
    revert high
    decide +kernel
  simp only [View.output, hport]
  rfl

theorem input_bank (v : View H K) (high : U8) :
    v.input m (word high 0x01) = some (v.bank.number, v) := by
  have hport : word high 0x01 &&& 0xFF = 0x01 := by
    revert high
    decide +kernel
  simp only [View.input, hport]
  rfl

/-- **One operation**: it does not panic, and the RAM holds the store it leaves. -/
theorem Holds.step (h : Holds v b s) (op : MemoryOp) :
    ∃ o v', MemoryOp.step m v op = some (o, v') ∧
      Holds v' (op.bankAfter b) (stored s (MemoryOp.history b [op])) := by
  cases op with
  | read a =>
    refine ⟨some (s (cell b a)), v, ?_, h⟩
    rw [MemoryOp.step, h.read, Option.map_some]
  | write a data =>
    obtain ⟨v', hv', hholds⟩ := h.write a data
    refine ⟨none, v', ?_, hholds⟩
    rw [MemoryOp.step, hv', Option.map_some]
  | select high data =>
    refine ⟨none, { v with bank := v.bank.select data }, ?_, v.bank.number_select data, h.cells⟩
    rw [MemoryOp.step, output_bank, Option.map_some]
  | bank high =>
    refine ⟨some v.bank.number, v, ?_, h⟩
    rw [MemoryOp.step, input_bank, Option.map_some]

theorem history_cons (b : U8) (op : MemoryOp) (ops : List MemoryOp) :
    MemoryOp.history b (op :: ops) =
      MemoryOp.history b [op] ++ MemoryOp.history (op.bankAfter b) ops := by
  cases op <;> rfl

/-- **A run of operations.** -/
theorem Holds.run (h : Holds v b s) (ops : List MemoryOp) :
    ∃ os v', Machine.run (MemoryOp.step m) v ops = some (os, v') ∧
      Holds v' (ops.foldl MemoryOp.bankAfter b) (stored s (MemoryOp.history b ops)) := by
  induction ops generalizing v b s with
  | nil => exact ⟨[], v, rfl, h⟩
  | cons op ops ih =>
    obtain ⟨o, v₁, hstep, h₁⟩ := h.step (m := m) op
    obtain ⟨os, v', hrun, h'⟩ := ih h₁
    refine ⟨o :: os, v', ?_, ?_⟩
    · rw [Machine.run_cons hstep, hrun, Option.map_some]
    · rw [history_cons, stored_append]
      exact h'

end

/-! ### Isolation -/

namespace MemoryOp

theorem history_append (b : U8) (ops ops' : List MemoryOp) :
    history b (ops ++ ops') = history b ops ++ history (ops.foldl bankAfter b) ops' := by
  induction ops generalizing b with
  | nil => rfl
  | cons op ops ih =>
    rw [List.cons_append, history_cons, ih, history_cons b op ops, List.append_assoc]
    rfl

/-- Writes with one bank selected. -/
def writes (ws : List (U16 × U8)) : List MemoryOp := ws.map fun w => .write w.1 w.2

theorem history_writes (b : U8) (ws : List (U16 × U8)) :
    history b (writes ws) = ws.map fun w => .write (cell b w.1) w.2 := by
  induction ws with
  | nil => rfl
  | cons w ws ih =>
    rw [writes, List.map_cons, List.map_cons, history]
    exact congrArg _ ih

/-- **Banks are isolated**: what is written in one bank does not change what another bank holds
above the window. -/
theorem lastWritten_writes (ops : List MemoryOp) (ws : List (U16 × U8)) (high k : U8) {a : U16}
    (ha : ¬ a < BANK_SHADOW_SIZE) (hk : k &&& 0x1F ≠ selected ops) :
    lastWritten (ops ++ writes ws ++ [.select high k]) a =
      lastWritten (ops ++ [.select high k]) a := by
  have hnone : lastWrite (.banked (k &&& 0x1F) a) (history (selected ops) (writes ws)) = none := by
    rw [history_writes]
    apply lastWrite_eq_none
    intro op hop data heq
    obtain ⟨w, -, rfl⟩ := List.mem_map.1 hop
    have hcell : cell (selected ops) w.1 = .banked (k &&& 0x1F) a := by
      injection heq
    unfold cell at hcell
    split at hcell
    · cases hcell
    · injection hcell with hbank
      exact hk hbank.symm
  simp only [lastWritten, selected, history_append, List.foldl_append, List.foldl_cons,
    List.foldl_nil, bankAfter, history, List.append_nil, cell, if_neg ha]
  rw [lastWrite_append]
  show (lastWrite _ (history (selected ops) (writes ws))).or _ = _
  rw [hnone, Option.none_or]

end MemoryOp

variable {H K : Type} [Device H] [Device K]

/-- **Banked memory is one shared window and thirty-two banks.**  A run of reads, writes and
selections of a new system never panics; behind it a read answers what was last written to its
cell, or zero, the BANK port answers the bank last selected, and what is written in one bank is
not seen above the window of another. -/
theorem banked_memory (m : Overflow) (kb : K) (hd : Option H) (ops : List MemoryOp) :
    ∃ os v, Machine.run (MemoryOp.step m) (View.new kb hd) ops = some (os, v) ∧
      (∀ a, MemoryOp.step m v (.read a) = some (some ((MemoryOp.lastWritten ops a).getD 0), v)) ∧
      (∀ high, MemoryOp.step m v (.bank high) = some (some (MemoryOp.selected ops), v)) ∧
      ∀ ws high k a, BANK_SHADOW_SIZE ≤ a → k &&& 0x1F ≠ MemoryOp.selected ops →
        MemoryOp.lastWritten (ops ++ MemoryOp.writes ws ++ [.select high k]) a =
          MemoryOp.lastWritten (ops ++ [.select high k]) a := by
  obtain ⟨os, v, hrun, hholds⟩ := (holds_new kb hd).run (m := m) ops
  refine ⟨os, v, hrun, ?_, ?_, ?_⟩
  · intro a
    rw [MemoryOp.step, hholds.read, Option.map_some, stored_eq_last]
    rfl
  · intro high
    rw [MemoryOp.step, input_bank, Option.map_some, hholds.bank]
    rfl
  · intro ws high k a ha hk
    exact MemoryOp.lastWritten_writes ops ws high k (BitVec.not_lt.2 ha) hk

end Possum.Sys
