import Possum.Sys.View
import Possum.Cpu.Operands

/-!
# The port map

The low byte of a port selects the interrupt controller, the bank select, the keyboard, the disk,
the video chip or nothing, in two steps in `CpuView::input` and `CpuView::output` and in one here
(`input_eq`, `output_eq`).  An access of a port reaches what it selects and nothing else.

The interrupt controller can be read only while a device interrupts, and no other port aborts by
itself (**`port_access_iff`**); `in a, (0)` of the guest stops the system
(`System.step_input_ic`).
-/

set_option autoImplicit false

namespace Possum.Sys

open Lib

/-- What a port selects. -/
inductive Selection
  | absent | ic | bank | kb | hd | vdc
  deriving DecidableEq, Repr

/-- The port map, by the low byte. -/
def selection (port : U16) : Selection :=
  let low := port.toNat % 256
  if low = 0x00 then .ic
  else if low = 0x01 then .bank
  else if low = 0x02 then .kb
  else if 0x20 ≤ low ∧ low < 0x30 then .hd
  else if 0x40 ≤ low ∧ low < 0x50 then .vdc
  else .absent

/-- The two decodes of the sources, for a port without its high byte. -/
def twoStep (port : U16) : Selection :=
  let page := (port &&& 0xF0).toNat
  if page = 0x00 then
    if port = IOAddr.IC then .ic
    else if port = IOAddr.KB then .kb
    else if port = IOAddr.BANK then .bank
    else .absent
  else if page = 0x20 then .hd
  else if page = 0x40 then .vdc
  else .absent

theorem twoStep_low : ∀ low : U8, twoStep (low.setWidth 16) = selection (low.setWidth 16) := by
  decide +kernel

theorem twoStep_eq (port : U16) : twoStep (port &&& 0xFF) = selection port := by
  have hlow : port &&& 0xFF = (lo port).setWidth 16 := and_low_byte port
  have hmod : (port &&& 0xFF).toNat % 256 = port.toNat % 256 := by
    rw [hlow, BitVec.toNat_setWidth, lo, BitVec.toNat_setWidth]
    omega
  have hselection : selection (port &&& 0xFF) = selection port := by
    rw [selection, selection, hmod]
  rw [← hselection, hlow]
  exact twoStep_low (lo port)

/-- Only the low byte of a port counts. -/
theorem low_port {port port' : U16} (h : lo port' = lo port) :
    port' &&& 0xFF = port &&& 0xFF ∧ selection port' = selection port := by
  have hlow : port' &&& 0xFF = port &&& 0xFF := by rw [and_low_byte, and_low_byte, h]
  rw [← twoStep_eq, ← twoStep_eq, hlow]
  exact ⟨rfl, rfl⟩

namespace View

variable {H K : Type} [Device H] [Device K] {m : Overflow} {v v' : View H K}

/-! ### Accesses by what they select -/

/-- A read of what is selected. -/
def inputFrom (m : Overflow) (v : View H K) (port : U16) : Selection → Option (U8 × View H K)
  | .absent => some (0, v)
  | .ic =>
    if v.hdInterrupting then some (InterruptPriority.HD, v)
    else if vdcInterrupting v.vdc then some (InterruptPriority.VDC, v)
    else none
  | .bank => some (v.bank.number, v)
  | .kb => (Device.read v.kb port).map fun r => (r.1, { v with kb := r.2 })
  | .hd =>
    match v.hd with
    | some hd => (Device.read hd port).map fun r => (r.1, { v with hd := some r.2 })
    | none => some (0, v)
  | .vdc => (v.vdc.read m port).map fun r => (r.1, { v with vdc := r.2 })

/-- A write to what is selected. -/
def outputTo (m : Overflow) (v : View H K) (port : U16) (data : U8) :
    Selection → Option (View H K)
  | .absent => some v
  | .ic => some v
  | .bank => some { v with bank := v.bank.select data }
  | .kb => (Device.write v.kb port data).map fun kb => { v with kb := kb }
  | .hd =>
    match v.hd with
    | some hd => (Device.write hd port data).map fun hd => { v with hd := some hd }
    | none => some v
  | .vdc => (v.vdc.write m port data).map fun vdc => { v with vdc := vdc }

/-- Answers by page, and by device on the lowest page, are answers by what is selected. -/
theorem answer_twoStep {α : Type} (answer : Selection → α) {port : U16} {page : ℕ}
    (hpage : (port &&& 0xF0).toNat = page) :
    answer (twoStep port) =
      if page = 0x00 then
        if port = IOAddr.IC then answer .ic
        else if port = IOAddr.KB then answer .kb
        else if port = IOAddr.BANK then answer .bank
        else answer .absent
      else if page = 0x20 then answer .hd
      else if page = 0x40 then answer .vdc
      else answer .absent := by
  simp only [twoStep, hpage, apply_ite answer]

theorem input_eq (m : Overflow) (v : View H K) (port : U16) :
    v.input m port = v.inputFrom m (port &&& 0xFF) (selection port) := by
  rw [← twoStep_eq, answer_twoStep (v.inputFrom m (port &&& 0xFF)) rfl, input]
  split
  case h_1 h0 =>
    rw [if_pos h0]
    rfl
  case h_2 h20 => rw [h20]; rfl
  case h_3 h40 => rw [h40]; rfl
  case h_4 h0 h20 h40 =>
    rw [if_neg h0, if_neg h20, if_neg h40]
    rfl

theorem output_eq (m : Overflow) (v : View H K) (port : U16) (data : U8) :
    v.output m port data = v.outputTo m (port &&& 0xFF) data (selection port) := by
  rw [← twoStep_eq, answer_twoStep (v.outputTo m (port &&& 0xFF) data) rfl, output]
  split
  case h_1 h0 =>
    rw [if_pos h0]
    -- a write does not test for the interrupt controller
    by_cases hic : port &&& 0xFF = IOAddr.IC
    · have hkb : port &&& 0xFF ≠ IOAddr.KB := by
        rw [hic]
        decide
      have hbank : port &&& 0xFF ≠ IOAddr.BANK := by
        rw [hic]
        decide
      rw [if_pos hic, if_neg hkb, if_neg hbank]
      rfl
    · rw [if_neg hic]
      rfl
  case h_2 h20 => rw [h20]; rfl
  case h_3 h40 => rw [h40]; rfl
  case h_4 h0 h20 h40 =>
    rw [if_neg h0, if_neg h20, if_neg h40]
    rfl

/-! ### Accesses that are total and confined -/

/-- The device that a port addresses returns from a read of it. -/
def ReadReturns (m : Overflow) (v : View H K) (port : U16) : Prop :=
  match selection port with
  | .kb => (Device.read v.kb (port &&& 0xFF)).isSome
  | .hd => ∀ hd ∈ v.hd, (Device.read hd (port &&& 0xFF)).isSome
  | .vdc => (v.vdc.read m (port &&& 0xFF)).isSome
  | _ => True

/-- The device that a port addresses returns from a write to it. -/
def WriteReturns (m : Overflow) (v : View H K) (port : U16) (data : U8) : Prop :=
  match selection port with
  | .kb => (Device.write v.kb (port &&& 0xFF) data).isSome
  | .hd => ∀ hd ∈ v.hd, (Device.write hd (port &&& 0xFF) data).isSome
  | .vdc => (v.vdc.write m (port &&& 0xFF) data).isSome
  | _ => True

omit [Device H] [Device K] in
/-- The port is not mapped, or its device is absent. -/
def Unanswered (v : View H K) (port : U16) : Prop :=
  selection port = .absent ∨ selection port = .hd ∧ v.hd = none

/-- From `v` to `v'` only what a port selects may have changed; the RAM has not. -/
structure Confined (v v' : View H K) (dev : Selection) : Prop where
  ram : v'.ram = v.ram
  bank : dev ≠ .bank → v'.bank = v.bank
  kb : dev ≠ .kb → v'.kb = v.kb
  hd : dev ≠ .hd → v'.hd = v.hd
  vdc : dev ≠ .vdc → v'.vdc = v.vdc

omit [Device H] [Device K] in
theorem Confined.refl (v : View H K) (dev : Selection) : Confined v v dev :=
  ⟨rfl, fun _ => rfl, fun _ => rfl, fun _ => rfl, fun _ => rfl⟩

/-- A read of a port: only its low byte counts, and if the device returns, the read does, reaches
nothing but the device, and answers 0 where there is none. -/
def InputOk (m : Overflow) (v : View H K) (port : U16) : Prop :=
  (∀ port', lo port' = lo port → v.input m port' = v.input m port) ∧
    (v.ReadReturns m port → ∃ b v', v.input m port = some (b, v') ∧
      Confined v v' (selection port) ∧ (v.Unanswered port → b = 0 ∧ v' = v))

/-- A write to a port. -/
def OutputOk (m : Overflow) (v : View H K) (port : U16) (data : U8) : Prop :=
  (∀ port', lo port' = lo port → v.output m port' data = v.output m port data) ∧
    (v.WriteReturns m port data → ∃ v', v.output m port data = some v' ∧
      Confined v v' (selection port) ∧ (v.Unanswered port → v' = v))

theorem input_low {port port' : U16} (m : Overflow) (v : View H K) (h : lo port' = lo port) :
    v.input m port' = v.input m port := by
  obtain ⟨hmask, hselection⟩ := low_port h
  rw [input_eq, input_eq, hmask, hselection]

theorem output_low {port port' : U16} (m : Overflow) (v : View H K) (data : U8)
    (h : lo port' = lo port) : v.output m port' data = v.output m port data := by
  obtain ⟨hmask, hselection⟩ := low_port h
  rw [output_eq, output_eq, hmask, hselection]

/-- The interrupt controller can be read only while a device interrupts. -/
theorem inputFrom_ic (m : Overflow) (v : View H K) (port : U16) :
    (v.interrupted = true → ∃ b, v.inputFrom m port .ic = some (b, v)) ∧
      (v.interrupted = false → v.inputFrom m port .ic = none) := by
  rw [inputFrom, interrupted]
  cases v.hdInterrupting with
  | true => exact ⟨fun _ => ⟨InterruptPriority.HD, rfl⟩, nofun⟩
  | false => exact ⟨nofun, fun _ => rfl⟩

theorem input_eq_none {port : U16} (m : Overflow) (hic : selection port = .ic)
    (hquiet : v.interrupted = false) : v.input m port = none := by
  rw [input_eq, hic]
  exact (inputFrom_ic m v (port &&& 0xFF)).2 hquiet

/-- **A read of a port** is total and confined, but for the interrupt controller at rest. -/
theorem inputOk_iff (m : Overflow) (v : View H K) (port : U16) :
    v.InputOk m port ↔ ¬ (selection port = .ic ∧ v.interrupted = false) := by
  rw [InputOk, and_iff_right fun _ => input_low m v, input_eq, ReadReturns, Unanswered]
  cases selection port with
  | absent => exact iff_of_true (fun _ => ⟨0, v, rfl, Confined.refl v _, fun _ => ⟨rfl, rfl⟩⟩) nofun
  | ic =>
    obtain ⟨hbusy, hquiet⟩ := inputFrom_ic m v (port &&& 0xFF)
    cases h : v.interrupted with
    | false =>
      refine iff_of_false ?_ fun hnot => hnot ⟨rfl, rfl⟩
      intro hok
      obtain ⟨b, v', hsome, -⟩ := hok trivial
      rw [hquiet h] at hsome
      cases hsome
    | true =>
      obtain ⟨b, hsome⟩ := hbusy h
      exact iff_of_true (fun _ => ⟨b, v, hsome, Confined.refl v _, nofun⟩) nofun
  | bank => exact iff_of_true (fun _ => ⟨_, v, rfl, Confined.refl v _, nofun⟩) nofun
  | kb =>
    refine iff_of_true ?_ nofun
    intro hreturns
    obtain ⟨r, hr⟩ := Option.isSome_iff_exists.1 hreturns
    refine ⟨r.1, { v with kb := r.2 }, ?_, ?_, nofun⟩
    · rw [inputFrom, hr, Option.map_some]
    · exact ⟨rfl, fun _ => rfl, fun h => absurd rfl h, fun _ => rfl, fun _ => rfl⟩
  | hd =>
    refine iff_of_true ?_ nofun
    intro hreturns
    rw [inputFrom]
    cases hhd : v.hd with
    | none => exact ⟨0, v, rfl, Confined.refl v _, fun _ => ⟨rfl, rfl⟩⟩
    | some hd =>
      obtain ⟨r, hr⟩ := Option.isSome_iff_exists.1 (hreturns hd hhd)
      refine ⟨r.1, { v with hd := some r.2 }, ?_, ?_, nofun⟩
      · show (Device.read hd (port &&& 0xFF)).map _ = _
        rw [hr, Option.map_some]
      · exact ⟨rfl, fun _ => rfl, fun _ => rfl, fun h => absurd rfl h, fun _ => rfl⟩
  | vdc =>
    refine iff_of_true ?_ nofun
    intro hreturns
    obtain ⟨r, hr⟩ := Option.isSome_iff_exists.1 hreturns
    refine ⟨r.1, { v with vdc := r.2 }, ?_, ?_, nofun⟩
    · rw [inputFrom, hr, Option.map_some]
    · exact ⟨rfl, fun _ => rfl, fun _ => rfl, fun _ => rfl, fun h => absurd rfl h⟩

/-- **A write to a port** is always total and confined. -/
theorem outputOk (m : Overflow) (v : View H K) (port : U16) (data : U8) :
    v.OutputOk m port data := by
  refine ⟨fun _ => output_low m v data, ?_⟩
  rw [output_eq, WriteReturns, Unanswered]
  cases selection port with
  | absent => exact fun _ => ⟨v, rfl, Confined.refl v _, fun _ => rfl⟩
  | ic => exact fun _ => ⟨v, rfl, Confined.refl v _, nofun⟩
  | bank =>
    refine fun _ => ⟨{ v with bank := v.bank.select data }, rfl, ?_, nofun⟩
    exact ⟨rfl, fun h => absurd rfl h, fun _ => rfl, fun _ => rfl, fun _ => rfl⟩
  | kb =>
    intro hreturns
    obtain ⟨kb, hkb⟩ := Option.isSome_iff_exists.1 hreturns
    refine ⟨{ v with kb := kb }, ?_, ?_, nofun⟩
    · rw [outputTo, hkb, Option.map_some]
    · exact ⟨rfl, fun _ => rfl, fun h => absurd rfl h, fun _ => rfl, fun _ => rfl⟩
  | hd =>
    intro hreturns
    rw [outputTo]
    cases hhd : v.hd with
    | none => exact ⟨v, rfl, Confined.refl v _, fun _ => rfl⟩
    | some hd =>
      obtain ⟨hd', hhd'⟩ := Option.isSome_iff_exists.1 (hreturns hd hhd)
      refine ⟨{ v with hd := some hd' }, ?_, ?_, nofun⟩
      · show (Device.write hd (port &&& 0xFF) data).map _ = _
        rw [hhd', Option.map_some]
      · exact ⟨rfl, fun _ => rfl, fun _ => rfl, fun h => absurd rfl h, fun _ => rfl⟩
  | vdc =>
    intro hreturns
    obtain ⟨vdc, hvdc⟩ := Option.isSome_iff_exists.1 hreturns
    refine ⟨{ v with vdc := vdc }, ?_, ?_, nofun⟩
    · rw [outputTo, hvdc, Option.map_some]
    · exact ⟨rfl, fun _ => rfl, fun _ => rfl, fun _ => rfl, fun h => absurd rfl h⟩

/-- **Port accesses are total and reach one device**, but for one: reads of the interrupt
controller while no device interrupts. -/
theorem port_access_iff (m : Overflow) (v : View H K) (port : U16) (data : U8) :
    (v.InputOk m port ∧ v.OutputOk m port data) ↔
      ¬ (selection port = .ic ∧ v.interrupted = false) := by
  rw [and_iff_left (v.outputOk m port data)]
  exact v.inputOk_iff m port

end View

/-! ### The interrupt controller at rest -/

section

variable {H K : Type} [Device H] [Device K]

/-- A panic of the view during the instruction stops the system. -/
theorem System.step_eq_none {m : Overflow} {s : System H K} {o : Outcome (Guest m H K)}
    (hins : s.cpu.instruction (⟨some s.view⟩ : Guest m H K) = some o) (hbus : o.bus = ⟨none⟩) :
    s.step m = none := by
  have hstep : s.cpu.step (⟨some s.view⟩ : Guest m H K) = .ok ⟨o.cpu, ⟨none⟩, o.cycles⟩ := by
    simp only [Cpu.step, hins, hbus]
    rfl
  simp only [System.step, hstep]

/-- `in a, (0)`: one instruction of the guest stops the emulator. -/
theorem System.step_input_ic (m : Overflow) {s : System H K}
    (hcode : s.view.read s.cpu.pc = some 0xDB) (hport : s.view.read (s.cpu.pc + 1) = some 0x00)
    (hquiet : s.view.interrupted = false) : s.step m = none := by
  let bus : Guest m H K := ⟨some s.view⟩
  have hread : ∀ a, Bus.read bus a = (s.view.read a).getD 0 := fun _ => rfl
  have hsel : Selects ([], 0xDB) .inputImmediateIndirect := .inl ⟨rfl, rfl⟩
  have hat : Starts bus s.cpu.pc ([] ++ [0xDB]) := by
    refine ⟨?_, trivial⟩
    rw [hread, hcode]
    rfl
  obtain ⟨cycles, hins⟩ := Cpu.instruction_of_selects hsel hat
  have hbyte : Bus.read bus (s.cpu.takeEnable.past 1).pc = 0x00 := by
    have hpc : (s.cpu.takeEnable.past 1).pc = s.cpu.pc + 1 :=
      congrArg (· + 1) (Cpu.pc_takeEnable s.cpu)
    rw [hread, hpc, hport]
    rfl
  apply System.step_eq_none hins
  -- whatever A is, the port is one of the interrupt controller
  show (Bus.input bus (word _ (Bus.read bus (s.cpu.takeEnable.past 1).pc))).2 = _
  rw [hbyte]
  have hnone : ∀ a : U8, s.view.input m (word a 0x00) = none := by
    intro a
    have hlow : lo (word a 0x00) = lo 0x00 := lo_word a 0x00
    exact View.input_eq_none m (low_port hlow).2 hquiet
  simp only [Bus.input, bus, Option.bind_some, hnone]

end

/-- A new system without a disk, with `in a, (0)` in its memory. -/
def inputIc : System (Ata.CardBus Ata.Image) (Ata.CardBus Ata.Image) where
  cpu := {}
  view :=
    { View.new (Ata.CardBus.single ⟨[], []⟩) none with
      ram := Vector.ofFn fun i => [0xDB, 0x00].getD i 0 }

theorem read_inputIc (a : U16) : inputIc.view.read a = some ([0xDB, 0x00].getD a.toNat 0) :=
  read_ofFn (fun i => [0xDB, 0x00].getD i 0) a

/-- The keyboard and the video chip are idle, and the read of port 0 never returns. -/
theorem port_access_inputIc :
    ¬ (inputIc.view.InputOk .wraps 0x00 ∧ inputIc.view.OutputOk .wraps 0x00 0) ∧
      inputIc.step .wraps = none := by
  have hquiet : inputIc.view.interrupted = false := rfl
  constructor
  · rintro ⟨hinput, -⟩
    exact (inputIc.view.inputOk_iff .wraps 0x00).1 hinput ⟨by decide, hquiet⟩
  · exact System.step_input_ic .wraps (read_inputIc _) (read_inputIc _) hquiet

end Possum.Sys
