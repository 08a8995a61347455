import Possum.Sys.Devices
import Possum.Lib.Leads

/-!
# The system as a program sees it

A program that leaves the video chip alone sees a store of cells with a bank selected, a keyboard
and perhaps a disk.  `Board` is this machine: it has no RAM, no chip and no ticks, and where a
program leaves it (an access of the video chip or of the interrupt controller at rest, or a panic of
a device) it stops.

The system follows the board step by step, in every build, as long as its video chip is steady
(**`System.step_of_board`**).
-/

set_option autoImplicit false

namespace Possum.Sys

open Lib BusOp

/-- What a program sees that leaves the video chip alone. -/
structure Board (H K : Type) where
  bank : U8
  store : Cell → U8
  hd : Option H
  kb : K

namespace Board

variable {H K : Type}

/-- The byte at an address. -/
def byte (b : Board H K) (a : U16) : U8 := b.store (cell b.bank a)

def write (b : Board H K) (a : U16) (data : U8) : Board H K :=
  { b with store := Function.update b.store (cell b.bank a) data }

@[simp] theorem bank_write (b : Board H K) (a : U16) (data : U8) :
    (b.write a data).bank = b.bank := rfl

@[simp] theorem hd_write (b : Board H K) (a : U16) (data : U8) : (b.write a data).hd = b.hd := rfl

@[simp] theorem kb_write (b : Board H K) (a : U16) (data : U8) : (b.write a data).kb = b.kb := rfl

theorem cell_inj {bank : U8} {a a' : U16} (h : cell bank a = cell bank a') : a = a' :=
  location_injective bank (location_inj.2 h)

theorem byte_write (b : Board H K) (a a' : U16) (data : U8) :
    (b.write a data).byte a' = if a' = a then data else b.byte a' := by
  show Function.update b.store (cell b.bank a) data (cell b.bank a') = _
  rw [Function.update_apply]
  by_cases h : a' = a
  · rw [if_pos h, if_pos (congrArg _ h)]
  · rw [if_neg h, if_neg fun heq => h (cell_inj heq)]
    rfl

theorem write_write (b : Board H K) (a : U16) (data : U8) :
    (b.write a data).write a data = b.write a data := by
  simp only [write, Function.update_idem]

section

variable [Device H] [Device K]

/-- `hd.interrupting()`, if there is a disk. -/
def interrupted (b : Board H K) : Bool :=
  match b.hd with
  | some hd => Device.interrupting hd
  | none => false

/-- A read of what a port selects. -/
def input (b : Board H K) (port : U16) : Option (U8 × Board H K) :=
  match selection port with
  | .absent => some (0, b)
  | .bank => some (b.bank, b)
  | .kb => (Device.read b.kb (port &&& 0xFF)).map fun r => (r.1, { b with kb := r.2 })
  | .hd =>
    match b.hd with
    | some hd => (Device.read hd (port &&& 0xFF)).map fun r => (r.1, { b with hd := some r.2 })
    | none => some (0, b)
  | .ic | .vdc => none

/-- A write to what a port selects. -/
def output (b : Board H K) (port : U16) (data : U8) : Option (Board H K) :=
  match selection port with
  | .absent | .ic => some b
  | .bank => some { b with bank := data &&& 0x1F }
  | .kb => (Device.write b.kb (port &&& 0xFF) data).map fun kb => { b with kb := kb }
  | .hd =>
    match b.hd with
    | some hd => (Device.write hd (port &&& 0xFF) data).map fun hd => { b with hd := some hd }
    | none => some b
  | .vdc => none

end

end Board

/-- The board as a bus, or `none` where a program has left it. -/
structure OnBoard (H K : Type) where
  board : Option (Board H K)

section

variable {H K : Type} [Device H] [Device K] {m : Overflow}

instance : InterruptBus (OnBoard H K) where
  read p a := (p.board.map fun b => b.byte a).getD 0
  write p a data := ⟨p.board.map fun b => b.write a data⟩
  input p port :=
    match p.board.bind fun b => b.input port with
    | some r => (r.1, ⟨some r.2⟩)
    | none => (0, ⟨none⟩)
  output p port data := ⟨p.board.bind fun b => b.output port data⟩
  interrupted p :=
    match p.board with
    | some b => b.interrupted
    | none => false

/-- One step of a processor on the board. -/
def Board.step (s : Cpu × Board H K) : Option (Cpu × Board H K) :=
  match s.1.step (⟨some s.2⟩ : OnBoard H K) with
  | .ok o => o.bus.board.map fun b => (o.cpu, b)
  | .error _ => none

/-! ### The view of the system shows the board -/

omit [Device H] [Device K] in
/-- The view shows the board, beside a video chip. -/
structure View.Shows (v : View H K) (b : Board H K) (vdc : Vdc) : Prop where
  holds : Holds v b.bank b.store
  hd : v.hd = b.hd
  kb : v.kb = b.kb
  vdc : v.vdc = vdc

variable {v v' : View H K} {b b' : Board H K} {vdc : Vdc}

omit [Device K] in
theorem View.Shows.interrupted (h : v.Shows b vdc) : v.interrupted = b.interrupted := by
  have hhd := h.hd
  cases hb : b.hd with
  | none | some disk =>
    rw [hb] at hhd
    simp only [View.interrupted, View.hdInterrupting, Board.interrupted, hhd, hb, vdcInterrupting,
      Bool.or_false]

/-- **A read of a port on the board is one of the view.** -/
theorem View.Shows.input (h : v.Shows b vdc) (m : Overflow) {port : U16} {data : U8}
    (hb : b.input port = some (data, b')) :
    ∃ v', v.input m port = some (data, v') ∧ v'.Shows b' vdc := by
  rw [Board.input] at hb
  rw [View.input_eq]
  cases hsel : selection port with
  | absent =>
    rw [hsel] at hb
    cases hb
    exact ⟨v, rfl, h⟩
  | bank =>
    rw [hsel] at hb
    cases hb
    refine ⟨v, ?_, h⟩
    rw [inputFrom, h.holds.bank]
  | kb =>
    rw [hsel] at hb
    obtain ⟨r, hr, heq⟩ := Option.map_eq_some_iff.1 hb
    cases heq
    refine ⟨{ v with kb := r.2 }, ?_, ⟨⟨h.holds.bank, h.holds.cells⟩, h.hd, rfl, h.vdc⟩⟩
    rw [inputFrom, h.kb, hr, Option.map_some]
  | hd =>
    rw [hsel] at hb
    rw [inputFrom, h.hd]
    cases hhd : b.hd with
    | none =>
      simp only [hhd] at hb
      cases hb
      exact ⟨v, rfl, h⟩
    | some hd =>
      simp only [hhd] at hb
      obtain ⟨r, hr, heq⟩ := Option.map_eq_some_iff.1 hb
      cases heq
      refine ⟨{ v with hd := some r.2 }, ?_, ⟨⟨h.holds.bank, h.holds.cells⟩, rfl, h.kb, h.vdc⟩⟩
      simp only [hr, Option.map_some]
  | ic | vdc =>
    rw [hsel] at hb
    cases hb

/-- **A write to a port on the board is one of the view.** -/
theorem View.Shows.output (h : v.Shows b vdc) (m : Overflow) {port : U16} {data : U8}
    (hb : b.output port data = some b') :
    ∃ v', v.output m port data = some v' ∧ v'.Shows b' vdc := by
  rw [Board.output] at hb
  rw [View.output_eq]
  cases hsel : selection port with
  | absent | ic =>
    rw [hsel] at hb
    cases hb
    exact ⟨v, rfl, h⟩
  | bank =>
    rw [hsel] at hb
    cases hb
    refine ⟨{ v with bank := v.bank.select data }, rfl, ⟨?_, h.holds.cells⟩, h.hd, h.kb, h.vdc⟩
    exact v.bank.number_select data
  | kb =>
    rw [hsel] at hb
    obtain ⟨kb, hkb, rfl⟩ := Option.map_eq_some_iff.1 hb
    refine ⟨{ v with kb := kb }, ?_, ⟨⟨h.holds.bank, h.holds.cells⟩, h.hd, rfl, h.vdc⟩⟩
    rw [outputTo, h.kb, hkb, Option.map_some]
  | hd =>
    rw [hsel] at hb
    rw [outputTo, h.hd]
    cases hhd : b.hd with
    | none =>
      simp only [hhd] at hb
      cases hb
      exact ⟨v, rfl, h⟩
    | some hd =>
      simp only [hhd] at hb
      obtain ⟨hd', hhd', rfl⟩ := Option.map_eq_some_iff.1 hb
      refine ⟨{ v with hd := some hd' }, ?_, ⟨⟨h.holds.bank, h.holds.cells⟩, rfl, h.kb, h.vdc⟩⟩
      simp only [hhd', Option.map_some]
  | vdc =>
    rw [hsel] at hb
    cases hb

/-- The board and the view, while both go on. -/
def ShownBy (m : Overflow) (vdc : Vdc) (p : OnBoard H K) (g : Guest m H K) : Prop :=
  ∃ b v, p = ⟨some b⟩ ∧ g = ⟨some v⟩ ∧ v.Shows b vdc

/-- **The processor cannot tell the board from the view.** -/
theorem board_simulates (m : Overflow) (vdc : Vdc) :
    BusSimulation (fun p : OnBoard H K => p.board.isSome) (ShownBy m vdc) where
  read := by
    rintro p g ⟨b, v, rfl, rfl, h⟩ a
    show b.byte a = (v.read a).getD 0
    rw [h.holds.read]
    rfl
  alive := by
    rintro ⟨board⟩ op hop
    cases board with
    | some b => rfl
    | none => cases op <;> cases hop
  perform := by
    rintro p g op ⟨b, v, rfl, rfl, h⟩ hop
    cases op with
    | write a data =>
      obtain ⟨v', hv', hholds⟩ := h.holds.write a data
      refine ⟨rfl, b.write a data, v', rfl, Guest.write_some hv', hholds, ?_, ?_, ?_⟩
      · obtain ⟨ram, -, rfl⟩ := Option.map_eq_some_iff.1 hv'
        exact h.hd
      · obtain ⟨ram, -, rfl⟩ := Option.map_eq_some_iff.1 hv'
        exact h.kb
      · obtain ⟨ram, -, rfl⟩ := Option.map_eq_some_iff.1 hv'
        exact h.vdc
    | input port =>
      cases hb : b.input port with
      | none =>
        simp only [BusOp.perform, Bus.input, Option.bind_some, hb] at hop
        cases hop
      | some r =>
        obtain ⟨v', hv', h'⟩ := h.input m hb
        have hview : Bus.input (⟨some v⟩ : Guest m H K) port = (r.1, ⟨some v'⟩) :=
          Guest.input_some hv'
        have hboard : Bus.input (⟨some b⟩ : OnBoard H K) port = (r.1, ⟨some r.2⟩) := by
          simp only [Bus.input, Option.bind_some, hb]
        refine ⟨?_, r.2, v', ?_, ?_, h'⟩
        · rw [BusOp.answer, BusOp.answer, hview, hboard]
        · rw [BusOp.perform, hboard]
        · rw [BusOp.perform, hview]
    | output port data =>
      cases hb : b.output port data with
      | none =>
        have hnone : BusOp.perform (⟨some b⟩ : OnBoard H K) (.output port data) = ⟨none⟩ :=
          congrArg OnBoard.mk hb
        rw [hnone] at hop
        cases hop
      | some b' =>
        obtain ⟨v', hv', h'⟩ := h.output m hb
        exact ⟨rfl, b', v', congrArg OnBoard.mk hb, Guest.output_some hv', h'⟩
  interrupted := by
    rintro p g ⟨b, v, rfl, rfl, h⟩ -
    exact h.interrupted.symm

/-! ### The system follows the board -/

/-- The system runs what the board runs, beside a video chip that can tick on for ever. -/
structure System.Runs (s : Cpu × Board H K) (t : System H K) : Prop where
  cpu : t.cpu = s.1
  shows : t.view.Shows s.2 t.view.vdc
  steady : t.view.vdc.Steady

/-- **One step.** -/
theorem System.step_of_board (m : Overflow) {s s' : Cpu × Board H K} {t : System H K}
    (h : System.Runs s t) (hs : Board.step s = some s') :
    ∃ t', t.step m = some t' ∧ System.Runs s' t' := by
  obtain ⟨c, b⟩ := s
  obtain ⟨cpu, view⟩ := t
  obtain rfl : cpu = c := h.cpu
  rw [Board.step] at hs
  cases hcpu : cpu.step (⟨some b⟩ : OnBoard H K) with
  | error fault =>
    rw [hcpu] at hs
    cases hs
  | ok o =>
    rw [hcpu] at hs
    obtain ⟨b', hb', rfl⟩ := Option.map_eq_some_iff.1 hs
    have hshown : ShownBy m view.vdc ⟨some b⟩ (⟨some view⟩ : Guest m H K) :=
      ⟨b, view, rfl, rfl, h.shows⟩
    obtain ⟨g, hstep, b₁, v', hbus, rfl, hshows⟩ :=
      (board_simulates m view.vdc).step hshown hcpu (by rw [hb']; rfl)
    rw [hbus] at hb'
    cases hb'
    obtain ⟨vdc', hticks, hsteady⟩ := ticks_of_steady h.steady m o.cycles
    refine ⟨⟨o.cpu, { v' with vdc := vdc' }⟩, ?_, rfl, ?_, hsteady⟩
    · rw [System.step, hstep]
      simp only [hshows.vdc, hticks, Option.map_some]
    · exact ⟨⟨hshows.holds.bank, hshows.holds.cells⟩, hshows.hd, hshows.kb, rfl⟩

end

end Possum.Sys
