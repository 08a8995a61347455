import Possum.Sys.Board

/-!
# From the ROM to the end of the loop

`sys/mod.rs`, `System::new`, `System::write_ram` and `System::halted`, and the loop of
`bin/possum-emu/main.rs`: the ROM is written to the RAM from index 0 on, and the system steps until
the processor is halted.

The ROM fills the shared window and then bank after bank (`Board.boot`), and where a program halts
on the board the loop ends (**`main_of_board`**).
-/

set_option autoImplicit false

namespace Possum.Sys

open Lib

/-! ### Writing to the RAM -/

/-- The loop of `System::write_ram` from byte `i` on; a byte outside the RAM panics. -/
def writeRam (offset : ℕ) : ℕ → List U8 → Ram → Option Ram
  | _, [], ram => some ram
  | i, b :: data, ram => (indexMut ram (offset + i) b).bind (writeRam offset (i + 1) data)

theorem indexMut_eq_none {ram : Ram} {i : ℕ} {data : U8} (h : ¬ i < RAM_SIZE) :
    indexMut ram i data = none := dif_neg h

theorem index_of_indexMut {ram ram' : Ram} {i : ℕ} {data : U8}
    (h : indexMut ram i data = some ram') (k : ℕ) :
    index ram' k = if k = i then some data else index ram k := by
  by_cases hlt : i < RAM_SIZE
  · rw [indexMut_eq_some ram hlt] at h
    rw [← Option.some.inj h, index, index]
    by_cases hk : k = i
    · rw [if_pos hk, hk, Vector.getElem?_set_self hlt]
    · rw [if_neg hk, Vector.getElem?_set_ne hlt (Ne.symm hk)]
  · rw [indexMut_eq_none hlt] at h
    cases h

/-- **The bytes are written** exactly if they fit. -/
theorem writeRam_isSome {offset i : ℕ} {data : List U8} {ram : Ram} :
    (writeRam offset i data ram).isSome ↔ data = [] ∨ offset + i + data.length ≤ RAM_SIZE := by
  induction data generalizing i ram with
  | nil => simp [writeRam]
  | cons b data ih =>
    rw [writeRam, or_iff_right (List.cons_ne_nil b data), List.length_cons]
    by_cases hlt : offset + i < RAM_SIZE
    · rw [indexMut_eq_some ram hlt, Option.bind_some, ih]
      constructor
      · rintro (rfl | hle)
        · exact hlt
        · omega
      · intro hle
        exact .inr (by omega)
    · rw [indexMut_eq_none hlt]
      refine iff_of_false Bool.false_ne_true ?_
      omega

/-- What the bytes leave at every index. -/
theorem index_of_writeRam {offset i : ℕ} {data : List U8} {ram ram' : Ram}
    (h : writeRam offset i data ram = some ram') (k : ℕ) :
    index ram' k =
      if offset + i ≤ k ∧ k < offset + i + data.length then data[k - (offset + i)]?
      else index ram k := by
  induction data generalizing i ram with
  | nil =>
    cases h
    rw [if_neg]
    simp only [List.length_nil]
    omega
  | cons b data ih =>
    obtain ⟨ram₁, hfirst, hrest⟩ := Option.bind_eq_some_iff.1 h
    rw [ih hrest, index_of_indexMut hfirst, List.length_cons]
    by_cases hk : k = offset + i
    · rw [if_neg (by omega), if_pos hk, if_pos (by omega), hk, Nat.sub_self]
      rfl
    · by_cases hin : offset + (i + 1) ≤ k ∧ k < offset + (i + 1) + data.length
      · have hsub : k - (offset + i) = k - (offset + (i + 1)) + 1 := by omega
        rw [if_pos hin, if_pos (by omega), hsub, List.getElem?_cons_succ]
      · rw [if_neg hin, if_neg hk, if_neg (by omega)]

/-! ### The system -/

section

variable {H K : Type}

namespace System

/-- `System::new` -/
def new (kb : K) (hd : Option H) : System H K := ⟨{}, View.new kb hd⟩

/-- `System::write_ram` -/
def writeRam (s : System H K) (data : List U8) (offset : ℕ) : Option (System H K) :=
  (Sys.writeRam offset 0 data s.view.ram).map fun ram =>
    { s with view := { s.view with ram := ram } }

def halted (s : System H K) : Bool := s.cpu.halted

variable [Device H] [Device K]

/-- `while !system.halted() { cycles += system.step(); … }`, in less than `n` steps. -/
def main (m : Overflow) : ℕ → System H K → Option (System H K)
  | 0, _ => none
  | n + 1, s => if s.halted then some s else (s.step m).bind (main m n)

/-- A step of the loop. -/
def loop (m : Overflow) (s : System H K) : Option (System H K) :=
  if s.halted then none else s.step m

variable {m : Overflow} {s s' : System H K}

/-- The loop ends in the halted state where its steps arrive. -/
theorem main_of_arrives (h : Arrives (loop m) s s') (hs' : s'.halted = true) :
    ∃ n, main m n s = some s' := by
  induction h using Relation.ReflTransGen.head_induction_on with
  | refl => exact ⟨1, if_pos hs'⟩
  | head hstep _ ih =>
    obtain ⟨n, hn⟩ := ih
    rename_i s s₁
    rw [loop] at hstep
    split at hstep
    case isTrue => cases hstep
    case isFalse hrunning =>
      refine ⟨n + 1, ?_⟩
      rw [main, if_neg hrunning, hstep, Option.bind_some, hn]

/-- A first step, and `n` more. -/
theorem steps_cons {s₁ : System H K} {n : ℕ} (hstep : s.step m = some s₁)
    (h : steps m n s₁ = some s') : steps m (n + 1) s = some s' := by
  induction n generalizing s' with
  | zero =>
    cases h
    exact hstep
  | succ n ih =>
    obtain ⟨s₂, hfirst, hlast⟩ := Option.bind_eq_some_iff.1 h
    rw [steps, ih hfirst, Option.bind_some, hlast]

/-- The loop runs steps of the system. -/
theorem steps_of_main {n : ℕ} (h : main m n s = some s') : ∃ k, steps m k s = some s' := by
  induction n generalizing s with
  | zero => cases h
  | succ n ih =>
    rw [main] at h
    split at h
    case isTrue =>
      cases h
      exact ⟨0, rfl⟩
    case isFalse =>
      obtain ⟨s₁, hstep, hrest⟩ := Option.bind_eq_some_iff.1 h
      obtain ⟨k, hk⟩ := ih hrest
      exact ⟨k + 1, steps_cons hstep hk⟩

end System

/-! ### The ROM on the board -/

/-- The index of a cell in the RAM. -/
def Cell.index : Cell → ℕ
  | .shadow a => a.toNat
  | .banked bank a => a.toNat + bank.toNat * BANK_SIZE

theorem index_cell (bank : U8) (a : U16) : (cell bank a).index = location bank a := by
  rw [cell, location]
  split <;> rfl

namespace Board

/-- A new board with a ROM. -/
def boot (rom : List U8) (kb : K) (hd : Option H) : Board H K where
  bank := 0
  store c := rom.getD c.index 0
  hd := hd
  kb := kb

/-- While bank 0 is selected, addresses are indices of the ROM. -/
theorem byte_boot (rom : List U8) (kb : K) (hd : Option H) (a : U16) :
    (boot rom kb hd).byte a = rom.getD a.toNat 0 := by
  have hindex : (cell 0 a).index = a.toNat := by
    rw [index_cell, location]
    split
    · rfl
    · exact Nat.add_zero _
  show rom.getD (cell 0 a).index 0 = _
  rw [hindex]

variable [Device H] [Device K]

/-- A step of the loop. -/
def loop (s : Cpu × Board H K) : Option (Cpu × Board H K) :=
  if s.1.halted then none else step s

end Board

/-- **A new system with a ROM** runs what a new board with it runs. -/
theorem runs_boot {rom : List U8} {kb : K} {hd : Option H} {t : System H K}
    (h : (System.new kb hd).writeRam rom 0 = some t) :
    System.Runs ({}, Board.boot rom kb hd) t := by
  obtain ⟨ram, hram, rfl⟩ := Option.map_eq_some_iff.1 h
  refine ⟨rfl, ⟨⟨rfl, ?_⟩, rfl, rfl, rfl⟩, Vdc.steady_new⟩
  intro bank hbank a
  have hold := (holds_new kb hd).cells bank hbank a
  show index ram (location bank a) = some (rom.getD (cell bank a).index 0)
  rw [index_of_writeRam hram, index_cell, Nat.add_zero, Nat.zero_add, Nat.sub_zero,
    List.getD_eq_getElem?_getD]
  by_cases hlt : location bank a < rom.length
  · rw [if_pos ⟨Nat.zero_le _, hlt⟩, List.getElem?_eq_getElem hlt, Option.getD_some]
  · have hnone : rom[location bank a]? = none := List.getElem?_eq_none (Nat.le_of_not_lt hlt)
    rw [if_neg fun hboth => hlt hboth.2, hnone]
    exact hold

variable [Device H] [Device K]

theorem System.loop_of_board (m : Overflow) {s s' : Cpu × Board H K} {t : System H K}
    (h : System.Runs s t) (hs : Board.loop s = some s') :
    ∃ t', t.loop m = some t' ∧ System.Runs s' t' := by
  rw [Board.loop] at hs
  split at hs
  case isTrue => cases hs
  case isFalse hrunning =>
    have hhalted : ¬ t.halted = true := by
      rw [System.halted, h.cpu]
      exact hrunning
    rw [System.loop, if_neg hhalted]
    exact System.step_of_board m h hs

omit [Device H] [Device K] in
/-- The system runs what the board runs in a state with `P`. -/
def System.Like (P : Cpu × Board H K → Prop) (t : System H K) : Prop := ∃ s, System.Runs s t ∧ P s

/-- **The system follows the board**: where the loop of a program leads on the board it leads on the
system, in every build, and the video chip ticks on beside it. -/
theorem System.follows_board (m : Overflow) {P Q : Cpu × Board H K → Prop}
    (h : Leads Board.loop P Q) : Leads (System.loop m) (System.Like P) (System.Like Q) :=
  Leads.simulate (fun _ _ _ => System.loop_of_board m) h

/-- **What a ROM does on the board it does on the system**, in every build: if the board halts, then
the loop ends, with the processor, the memory, the disk and the keyboard as on the board. -/
theorem main_of_board (m : Overflow) {rom : List U8} (hfits : rom.length ≤ RAM_SIZE) {kb : K}
    {hd : Option H} {s : Cpu × Board H K}
    (h : Arrives Board.loop ({}, Board.boot rom kb hd) s) (hhalted : s.1.halted = true) :
    ∃ n t t', (System.new kb hd).writeRam rom 0 = some t ∧ System.main m n t = some t' ∧
      System.Runs s t' := by
  have hwrites : (Sys.writeRam 0 0 rom (View.new kb hd).ram).isSome :=
    writeRam_isSome.2 (.inr (by omega))
  obtain ⟨ram, hram⟩ := Option.isSome_iff_exists.1 hwrites
  have hboot : (System.new kb hd).writeRam rom 0 =
      some ⟨{}, { View.new kb hd with ram := ram }⟩ := congrArg (Option.map _) hram
  obtain ⟨t', harrives, hruns⟩ :=
    h.follow (fun _ _ _ => System.loop_of_board m) (runs_boot hboot)
  have hend : t'.halted = true := by
    rw [System.halted, hruns.cpu]
    exact hhalted
  obtain ⟨n, hmain⟩ := System.main_of_arrives harrives hend
  exact ⟨n, _, t', hboot, hmain, hruns⟩

end

end Possum.Sys
