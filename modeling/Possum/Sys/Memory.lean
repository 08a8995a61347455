import Possum.Words
import Mathlib.Logic.Function.Basic

/-!
# Banked memory

`sys/mod.rs`: the RAM, its two access functions and the bank select.  The processor's 64 KiB are
a shared window below 0x0400 and above it one of 32 banks.  An index outside the RAM panics.

A `BankSelect` carries what its two methods keep: a bank number below 32 and the offset of that
bank.  So every access of the processor is in range (`read_isSome`, `write_isSome`), and two
accesses meet only in the same cell, of the window or of one bank (`location_inj`).
-/

set_option autoImplicit false

namespace Possum.Sys

def BANK_SIZE : ℕ := 0x10000

def BANK_MAX : ℕ := 0x1F

def BANK_SHADOW_SIZE : U16 := 0x0400

/-- The size of the RAM.  Irreducible, so that no unification counts to it. -/
@[irreducible] def RAM_SIZE : ℕ := 0x10000 * 0x20

theorem RAM_SIZE_eq : RAM_SIZE = 0x10000 * 0x20 := by
  unfold RAM_SIZE
  rfl

abbrev Ram := Vector U8 RAM_SIZE

/-- `ram[i]`, which panics out of range. -/
def index (ram : Ram) (i : ℕ) : Option U8 := ram[i]?

/-- `ram[i] = data`, which panics out of range. -/
def indexMut (ram : Ram) (i : ℕ) (data : U8) : Option Ram :=
  if h : i < RAM_SIZE then some (ram.set i data h) else none

def read (ram : Ram) (offset : ℕ) (addr : U16) : Option U8 :=
  if addr < BANK_SHADOW_SIZE then index ram addr.toNat else index ram (addr.toNat + offset)

def write (ram : Ram) (offset : ℕ) (addr : U16) (data : U8) : Option Ram :=
  if addr < BANK_SHADOW_SIZE then indexMut ram addr.toNat data
  else indexMut ram (addr.toNat + offset) data

/-- The selected bank and where it starts. -/
structure BankSelect where
  bank : ℕ := 0
  offset : ℕ := 0
  bank_le : bank ≤ BANK_MAX := by decide
  offset_eq : offset = bank * BANK_SIZE := by rfl

namespace BankSelect

def select (_ : BankSelect) (bank : U8) : BankSelect where
  bank := bank.toNat &&& BANK_MAX
  offset := (bank.toNat &&& BANK_MAX) * BANK_SIZE
  bank_le := Nat.and_le_right
  offset_eq := rfl

/-- `bank()` -/
def number (b : BankSelect) : U8 := BitVec.ofNat 8 b.bank

theorem number_toNat (b : BankSelect) : b.number.toNat = b.bank := by
  have hle : b.bank ≤ 0x1F := b.bank_le
  rw [number, BitVec.toNat_ofNat, Nat.mod_eq_of_lt (by omega)]

theorem number_select (b : BankSelect) (data : U8) : (b.select data).number = data &&& 0x1F := by
  apply BitVec.eq_of_toNat_eq
  rw [number_toNat, BitVec.toNat_and]
  rfl

theorem number_le (b : BankSelect) : b.number ≤ 0x1F := by
  rw [BitVec.le_def, number_toNat]
  exact b.bank_le

end BankSelect

/-! ### Cells -/

/-- A cell of the processor's memory: of the shared window, or of one bank. -/
inductive Cell
  | shadow (a : U16)
  | banked (bank : U8) (a : U16)
  deriving DecidableEq, Repr

/-- The cell behind address `a` while `bank` is selected. -/
def cell (bank : U8) (a : U16) : Cell :=
  if a < BANK_SHADOW_SIZE then .shadow a else .banked bank a

/-- The index in the RAM of address `a` in bank `bank`. -/
def location (bank : U8) (a : U16) : ℕ :=
  if a < BANK_SHADOW_SIZE then a.toNat else a.toNat + bank.toNat * BANK_SIZE

theorem location_lt {bank : U8} (hbank : bank ≤ 0x1F) (a : U16) : location bank a < RAM_SIZE := by
  have ha := a.isLt
  have hb : bank.toNat ≤ 0x1F := BitVec.le_def.1 hbank
  rw [RAM_SIZE_eq, location, BANK_SIZE]
  split <;> omega

/-- **Two addresses share an index only if they share a cell.** -/
theorem location_inj {bank bank' : U8} {a a' : U16} :
    location bank a = location bank' a' ↔ cell bank a = cell bank' a' := by
  have ha := a.isLt
  have ha' := a'.isLt
  unfold location cell
  have hlt (x : U16) : x < BANK_SHADOW_SIZE ↔ x.toNat < 0x400 := BitVec.lt_def
  simp only [hlt, BANK_SIZE]
  split <;> split
  · simp only [Cell.shadow.injEq]
    exact ⟨BitVec.eq_of_toNat_eq, congrArg _⟩
  · simp only [reduceCtorEq, iff_false]
    omega
  · simp only [reduceCtorEq, iff_false]
    omega
  · simp only [Cell.banked.injEq]
    constructor
    · intro h
      exact ⟨BitVec.eq_of_toNat_eq (by omega), BitVec.eq_of_toNat_eq (by omega)⟩
    · rintro ⟨rfl, rfl⟩
      rfl

theorem location_injective (bank : U8) : Function.Injective (location bank) := by
  intro a a' h
  have hcell : cell bank a = cell bank a' := location_inj.1 h
  unfold cell at hcell
  split at hcell <;> split at hcell <;> cases hcell <;> rfl

/-! ### Accesses of the processor -/

variable (b : BankSelect) (ram : Ram)

theorem read_eq (a : U16) : read ram b.offset a = index ram (location b.number a) := by
  rw [read, location, b.number_toNat, ← b.offset_eq]
  split <;> rfl

theorem write_eq (a : U16) (data : U8) :
    write ram b.offset a data = indexMut ram (location b.number a) data := by
  rw [write, location, b.number_toNat, ← b.offset_eq]
  split <;> rfl

theorem index_eq_some {i : ℕ} (h : i < RAM_SIZE) : index ram i = some ram[i] :=
  Vector.getElem?_eq_getElem h

theorem indexMut_eq_some {i : ℕ} (h : i < RAM_SIZE) (data : U8) :
    indexMut ram i data = some (ram.set i data h) := dif_pos h

/-- **Every access of the processor is in range.** -/
theorem read_isSome (a : U16) : (read ram b.offset a).isSome := by
  rw [read_eq, index_eq_some ram (location_lt b.number_le a)]
  rfl

theorem write_isSome (a : U16) (data : U8) : (write ram b.offset a data).isSome := by
  rw [write_eq, indexMut_eq_some ram (location_lt b.number_le a)]
  rfl

/-- With bank 0 selected, addresses are indices. -/
theorem read_ofFn (f : ℕ → U8) (a : U16) :
    read (Vector.ofFn fun i : Fin RAM_SIZE => f i) 0 a = some (f a.toNat) := by
  have hlt : a.toNat < RAM_SIZE := by
    have ha := a.isLt
    rw [RAM_SIZE_eq]
    omega
  rw [read, Nat.add_zero, ite_self, index_eq_some _ hlt]
  exact congrArg some (Vector.getElem_ofFn hlt)

/-- What a write leaves at every index. -/
theorem index_of_write {ram ram' : Ram} {a : U16} {data : U8}
    (h : write ram b.offset a data = some ram') (i : ℕ) :
    index ram' i = if i = location b.number a then some data else index ram i := by
  have hlt := location_lt b.number_le a
  rw [write_eq, indexMut_eq_some ram hlt] at h
  rw [← Option.some.inj h, index, index]
  by_cases hi : i = location b.number a
  · rw [if_pos hi, hi, Vector.getElem?_set_self hlt]
  · rw [if_neg hi, Vector.getElem?_set_ne hlt (Ne.symm hi)]

end Possum.Sys
