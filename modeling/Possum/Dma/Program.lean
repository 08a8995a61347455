import Possum.Dma.Ports
import Possum.Dma.Shown
import Mathlib.Tactic.IntervalCases

/-!
# Programs of the DMA controller

A `Program` is a complete description of a transfer as a guest writes it: the base registers
with all their parameters, reinitialise, load and enable.  Its bits say that each base byte is
decoded as such, announces its parameters, and is none the device has no support for.
-/

set_option autoImplicit false

namespace Possum

open Lib Agent

structure Program where
  wr0 : U8
  startA : U16
  length : U16
  wr1 : U8
  wr2 : U8
  wr4 : U8
  startB : U16
  control : U8
  /-- Written where the interrupt control announces it. -/
  vector : U8
  wr3 : U8
  maskByte : U8
  matchByte : U8
  wr5 : U8
  wr0_base : wr0 &&& 0x80 = 0
  wr0_mode : wr0 &&& 0x03 ≠ 0
  wr0_parameters : wr0 &&& 0x78 = 0x78
  wr1_base : wr1 &&& 0x87 = 0x04
  wr1_moves : wr1 &&& 0x20 = 0
  wr1_timing : wr1 &&& 0x40 = 0
  wr2_base : wr2 &&& 0x87 = 0x00
  wr2_moves : wr2 &&& 0x20 = 0
  wr2_timing : wr2 &&& 0x40 = 0
  wr4_base : wr4 &&& 0x83 = 0x81
  wr4_parameters : wr4 &&& 0x1C = 0x1C
  control_pulse : control &&& 0x0C = 0
  wr3_base : wr3 &&& 0x83 = 0x80
  wr3_parameters : wr3 &&& 0x18 = 0x18
  wr5_base : wr5 &&& 0xC7 = 0x82
  wr5_wait : wr5 &&& 0x10 = 0

namespace Dma

/-- No transfer is going on and no parameter is awaited. -/
structure Idle (d : Dma) : Prop where
  enabled : d.enabled = false
  writeOrder : d.writeOrder = []

instance (d : Dma) : Decidable d.Idle :=
  decidable_of_iff (d.enabled = false ∧ d.writeOrder = [])
    ⟨fun h => ⟨h.1, h.2⟩, fun h => ⟨h.enabled, h.writeOrder⟩⟩

theorem Idle.await_nil {d : Dma} (h : d.Idle) : d.await [] = d := by
  rw [← h.writeOrder]
  rfl

/-! ### Writes -/

section

variable {m : Overflow} {d : Dma} {data : U8}

theorem write_base (h : d.Idle) : d.write m data = d.writeBase data := by
  unfold write
  rw [debugAssert_of m (by rw [h.writeOrder]; rfl), Option.bind_some, h.enabled, h.writeOrder]
  exact if_neg Bool.false_ne_true

theorem write_await {r : WriteRegister} {rest : List WriteRegister}
    (henabled : d.enabled = false) (hlength : rest.length ≤ 7) :
    (d.await (r :: rest)).write m data = (d.await rest).writeParameter r data := by
  have hassert : decide ((d.await (r :: rest)).writeOrder.length ≤ 8) = true :=
    decide_eq_true (Nat.succ_le_succ hlength)
  have hoff : (d.await (r :: rest)).enabled = false := henabled
  unfold write
  rw [debugAssert_of m hassert, Option.bind_some, hoff, if_neg Bool.false_ne_true]
  rfl

/-- Bytes written to an enabled device are dropped. -/
theorem feed_enabled (henabled : d.enabled = true) (hlength : d.writeOrder.length ≤ 8)
    (bytes : List U8) : feed m d bytes = some d := by
  induction bytes with
  | nil => rfl
  | cons data bytes ih =>
    have hwrite : d.write m data = some d := by
      unfold write
      rw [debugAssert_of m (decide_eq_true hlength), Option.bind_some, if_pos henabled]
    show (d.write m data).bind _ = _
    rw [hwrite, Option.bind_some, ih]

theorem feed_append {bytes more : List U8} {d' : Dma} (h : feed m d bytes = some d') :
    feed m d (bytes ++ more) = feed m d' more := by
  induction bytes generalizing d with
  | nil =>
    cases h
    rfl
  | cons data bytes ih =>
    obtain ⟨d₁, hwrite, hrest⟩ := Option.bind_eq_some_iff.1 h
    show (d.write m data).bind (fun d' => feed m d' (bytes ++ more)) = _
    rw [hwrite, Option.bind_some, ih hrest]

theorem feed_cons {bytes : List U8} {d' : Dma} (h : d.write m data = some d') :
    feed m d (data :: bytes) = feed m d' bytes := by
  show (d.write m data).bind _ = _
  rw [h, Option.bind_some]

theorem reachable_feed {bytes : List U8} {d' : Dma} (h : Reachable m d)
    (hfeed : feed m d bytes = some d') : Reachable m d' := by
  induction bytes generalizing d with
  | nil =>
    cases hfeed
    exact h
  | cons data bytes ih =>
    obtain ⟨d₁, hwrite, hrest⟩ := Option.bind_eq_some_iff.1 hfeed
    exact ih (h.write hwrite) hrest

end

/-! ### Parameters -/

/-- Store parameters one after the other. -/
def storeAll : Dma → List (WriteRegister × U8) → Option Dma
  | d, [] => some d
  | d, p :: ps => (d.writeParameter p.1 p.2).bind fun d' => storeAll d' ps

/-- Only the interrupt control looks at the stack. -/
theorem writeParameter_await (d : Dma) (rest : List WriteRegister) {r : WriteRegister}
    (h : r ≠ .interruptControl) (data : U8) :
    (d.await rest).writeParameter r data = (d.writeParameter r data).map (·.await rest) := by
  cases r with
  | interruptControl => exact absurd rfl h
  | _ => rfl

theorem enabled_writeParameter {d d' : Dma} {r : WriteRegister} (hr : r ≠ .interruptControl)
    {data : U8} (h : d.writeParameter r data = some d') : d'.enabled = d.enabled := by
  cases r with
  | interruptControl => exact absurd rfl hr
  | _ =>
    cases h
    try rfl

/-- **Parameters in order.**  The bytes fed to a device that awaits parameters are stored in
them, one after the other. -/
theorem feed_storeAll {m : Overflow} {d d' : Dma} {ps : List (WriteRegister × U8)}
    (henabled : d.enabled = false) (hstore : d.storeAll ps = some d') (rest : List WriteRegister)
    (more : List U8) (hplain : ∀ p ∈ ps, p.1 ≠ .interruptControl)
    (hlength : ps.length + rest.length ≤ 8) :
    feed m (d.await (ps.map Prod.fst ++ rest)) (ps.map Prod.snd ++ more) =
      feed m (d'.await rest) more := by
  induction ps generalizing d with
  | nil =>
    cases hstore
    rfl
  | cons p ps ih =>
    obtain ⟨d₁, hfirst, hothers⟩ := Option.bind_eq_some_iff.1 hstore
    have hp := hplain p (List.mem_cons_self ..)
    have henabled₁ : d₁.enabled = false := (enabled_writeParameter hp hfirst).trans henabled
    rw [List.length_cons] at hlength
    have hrest : (ps.map Prod.fst ++ rest).length ≤ 7 := by
      rw [List.length_append, List.length_map]
      omega
    have hwrite : (d.await (p.1 :: (ps.map Prod.fst ++ rest))).write m p.2 =
        some (d₁.await (ps.map Prod.fst ++ rest)) := by
      rw [write_await henabled hrest, writeParameter_await d _ hp, hfirst]
      rfl
    exact (feed_cons hwrite).trans
      (ih henabled₁ hothers (fun q hq => hplain q (List.mem_cons_of_mem _ hq)) (by omega))

/-! ### Base registers -/

theorem writeBase_wr0 (d : Dma) {data : U8} (h : data &&& 0x80 = 0) (hmode : data &&& 0x03 ≠ 0) :
    d.writeBase data = d.writeWR0 data := by
  have hbits : ∀ b : U8, b &&& 0x03 ≠ 0 → b &&& 0x87 ≠ 0x04 ∧ b &&& 0x87 ≠ 0x00 := by decide
  obtain ⟨h1, h2⟩ := hbits data hmode
  rw [writeBase, if_neg h1, if_neg h2, if_pos h]

theorem writeBase_wr3 (d : Dma) {data : U8} (h : data &&& 0x83 = 0x80) :
    d.writeBase data = some (d.writeWR3 data) := by
  have hbits : ∀ b : U8, b &&& 0x83 = 0x80 →
      b &&& 0x87 ≠ 0x04 ∧ b &&& 0x87 ≠ 0x00 ∧ b &&& 0x80 ≠ 0 := by decide
  obtain ⟨h1, h2, h0⟩ := hbits data h
  rw [writeBase, if_neg h1, if_neg h2, if_neg h0, if_pos h]

theorem writeBase_wr4 (d : Dma) {data : U8} (h : data &&& 0x83 = 0x81) :
    d.writeBase data = d.writeWR4 data := by
  have hbits : ∀ b : U8, b &&& 0x83 = 0x81 →
      b &&& 0x87 ≠ 0x04 ∧ b &&& 0x87 ≠ 0x00 ∧ b &&& 0x80 ≠ 0 ∧ b &&& 0x83 ≠ 0x80 := by decide
  obtain ⟨h1, h2, h0, h3⟩ := hbits data h
  rw [writeBase, if_neg h1, if_neg h2, if_neg h0, if_neg h3, if_pos h]

theorem writeBase_wr5 (d : Dma) {data : U8} (h : data &&& 0xC7 = 0x82) :
    d.writeBase data = d.writeWR5 data := by
  have hbits : ∀ b : U8, b &&& 0xC7 = 0x82 →
      b &&& 0x87 ≠ 0x04 ∧ b &&& 0x87 ≠ 0x00 ∧ b &&& 0x80 ≠ 0 ∧ b &&& 0x83 ≠ 0x80 ∧
        b &&& 0x83 ≠ 0x81 := by decide
  obtain ⟨h1, h2, h0, h3, h4⟩ := hbits data h
  rw [writeBase, if_neg h1, if_neg h2, if_neg h0, if_neg h3, if_neg h4, if_pos h]

theorem writeBase_wr6 (d : Dma) {data : U8} (h : data &&& 0x83 = 0x83) :
    d.writeBase data = d.writeWR6 data := by
  have hbits : ∀ b : U8, b &&& 0x83 = 0x83 →
      b &&& 0x87 ≠ 0x04 ∧ b &&& 0x87 ≠ 0x00 ∧ b &&& 0x80 ≠ 0 ∧ b &&& 0x83 ≠ 0x80 ∧
        b &&& 0x83 ≠ 0x81 ∧ b &&& 0xC7 ≠ 0x82 := by decide
  obtain ⟨h1, h2, h0, h3, h4, h5⟩ := hbits data h
  rw [writeBase, if_neg h1, if_neg h2, if_neg h0, if_neg h3, if_neg h4, if_neg h5, if_pos h]

/-- The 16-bit value of two parameter bytes, as the device stores it. -/
theorem store_word (old w : U16) : storeHigh (storeLow old (lo w)) (hi w) = w &&& 0xFF0F := by
  unfold storeHigh storeLow lo hi
  apply BitVec.eq_of_getLsbD_eq
  intro i hlt
  interval_cases i <;> simp

theorem setMode_of (d : Dma) {data : U8} (h : data &&& 0x03 ≠ 0) :
    d.setMode data = some { d with
      transfer := d.transfer || data &&& 0x01 != 0
      search := d.search || data &&& 0x02 != 0 } := by
  have htable : ∀ b : U8, b &&& 0x03 ≠ 0 →
      ((b &&& 0x03).toNat = 1 ∧ (b &&& 0x01 != 0) = true ∧ (b &&& 0x02 != 0) = false) ∨
      ((b &&& 0x03).toNat = 2 ∧ (b &&& 0x01 != 0) = false ∧ (b &&& 0x02 != 0) = true) ∨
      ((b &&& 0x03).toNat = 3 ∧ (b &&& 0x01 != 0) = true ∧ (b &&& 0x02 != 0) = true) := by
    decide
  unfold setMode
  obtain ⟨hmode, hone, htwo⟩ | ⟨hmode, hone, htwo⟩ | ⟨hmode, hone, htwo⟩ := htable data h
  · rw [hmode, hone, htwo, Bool.or_true, Bool.or_false]
    rfl
  · rw [hmode, hone, htwo, Bool.or_true, Bool.or_false]
    rfl
  · rw [hmode, hone, htwo, Bool.or_true, Bool.or_true]
    rfl

theorem incrementMode_of {data : U8} (h : data &&& 0x20 = 0) :
    incrementMode data = some (if data &&& 0x10 = 0 then .decrement else .increment) := by
  revert data
  decide

theorem accessModeOf_eq (data : U8) : accessModeOf data = some .byte := by
  revert data
  decide

theorem announce_of {d : Dma} {data bit : U8} (h : data &&& bit ≠ 0) (r : WriteRegister) :
    d.announce data bit r = d.await (r :: d.writeOrder) := if_pos h

theorem announce_of_not {d : Dma} {data bit : U8} (h : data &&& bit = 0) (r : WriteRegister) :
    d.announce data bit r = d := if_neg (not_not_intro h)

/-- The interrupt control, and the vector where it announces one. -/
theorem feed_interruptControl {m : Overflow} {d : Dma} (henabled : d.enabled = false) {control : U8}
    (hpulse : control &&& 0x0C = 0) (vector : U8) :
    feed m (d.await [.interruptControl])
        (control :: if control &&& 0x10 = 0 then [] else [vector]) = some { d with
      interruptOnMatch := control &&& 0x01 != 0
      interruptAtEndOfBlock := control &&& 0x02 != 0
      statusAffectsVector := control &&& 0x20 != 0
      interruptOnReady := control &&& 0x40 != 0
      interruptVector := if control &&& 0x10 = 0 then d.interruptVector else vector
      writeOrder := [] } := by
  have hbits : ∀ b : U8, b &&& 0x0C = 0 → ¬ b &&& 0x04 ≠ 0 ∧ b &&& 0x08 = 0 := by decide
  obtain ⟨h04, h08⟩ := hbits control hpulse
  have hcontrol : (d.await [.interruptControl]).write m control =
      (d.await []).writeInterruptControl control := write_await henabled (Nat.zero_le 7)
  rw [writeInterruptControl, if_neg h04, announce_of_not h08] at hcontrol
  rw [feed_cons hcontrol]
  by_cases h10 : control &&& 0x10 = 0
  · rw [if_pos h10, if_pos h10, announce_of_not h10]
    rfl
  · rw [if_neg h10, if_neg h10, announce_of h10]
    have hvector (e : Dma) (he : e.enabled = false) : feed m (e.await [.interruptVector]) [vector] =
        some { e with interruptVector := vector, writeOrder := [] } := by
      have hstore : e.storeAll [(.interruptVector, vector)] =
          some { e with interruptVector := vector } := rfl
      exact feed_storeAll he hstore [] [] (by simp) (by simp)
    refine hvector _ ?_
    exact henabled

end Dma

namespace Program

variable (p : Program)

/-! ### What a program says -/

def direction : Direction := if p.wr0 &&& 0x04 = 0 then .portBToA else .portAToB

def modeA : IncrementMode := if p.wr1 &&& 0x10 = 0 then .decrement else .increment

def modeB : IncrementMode := if p.wr2 &&& 0x10 = 0 then .decrement else .increment

/-- The device is enabled by WR3, and ignores the bytes after it. -/
def early : Bool := p.wr3 &&& 0x40 != 0

/-! ### Feeding a program -/

/-- The device after WR0 and its parameters. -/
def afterWR0 (d : Dma) : Dma := { d with
  transfer := d.transfer || p.wr0 &&& 0x01 != 0
  search := d.search || p.wr0 &&& 0x02 != 0
  direction := p.direction
  portAStartAddress := p.startA &&& 0xFF0F
  blockLength := p.length &&& 0xFF0F
  writeOrder := [] }

variable {p} {m : Overflow} {d : Dma}

open Dma

/-- The four parameters of WR0. -/
theorem feed_addressA (henabled : d.enabled = false) (a n : U16) :
    feed m (d.await [.portAAddressLow, .portAAddressHigh, .blockLengthLow, .blockLengthHigh])
      [lo a, hi a, lo n, hi n] = some { d with
        portAStartAddress := a &&& 0xFF0F, blockLength := n &&& 0xFF0F, writeOrder := [] } := by
  have hstore : d.storeAll [(.portAAddressLow, lo a), (.portAAddressHigh, hi a),
      (.blockLengthLow, lo n), (.blockLengthHigh, hi n)] =
      some { d with portAStartAddress := a &&& 0xFF0F, blockLength := n &&& 0xFF0F } := by
    rw [← store_word d.portAStartAddress a, ← store_word d.blockLength n]
    rfl
  exact feed_storeAll henabled hstore [] [] (by simp) (by simp)

/-- The two address parameters of WR4; the interrupt control is still awaited. -/
theorem feed_addressB (henabled : d.enabled = false) (b : U16) (more : List U8) :
    feed m (d.await [.portBAddressLow, .portBAddressHigh, .interruptControl])
      (lo b :: hi b :: more) =
      feed m ({ d with portBStartAddress := b &&& 0xFF0F }.await [.interruptControl]) more := by
  have hstore : d.storeAll [(.portBAddressLow, lo b), (.portBAddressHigh, hi b)] =
      some { d with portBStartAddress := b &&& 0xFF0F } := by
    rw [← store_word d.portBStartAddress b]
    rfl
  exact feed_storeAll henabled hstore [.interruptControl] more (by simp) (by simp)

theorem feed_wr0 (h : d.Idle) :
    feed m d [p.wr0, lo p.startA, hi p.startA, lo p.length, hi p.length] =
      some (p.afterWR0 d) := by
  have hbits : ∀ b : U8, b &&& 0x78 = 0x78 →
      b &&& 0x40 ≠ 0 ∧ b &&& 0x20 ≠ 0 ∧ b &&& 0x10 ≠ 0 ∧ b &&& 0x08 ≠ 0 := by decide
  obtain ⟨h40, h20, h10, h08⟩ := hbits p.wr0 p.wr0_parameters
  have hbase : d.write m p.wr0 = some ({ d with
      transfer := d.transfer || p.wr0 &&& 0x01 != 0
      search := d.search || p.wr0 &&& 0x02 != 0
      direction := p.direction }.await
        [.portAAddressLow, .portAAddressHigh, .blockLengthLow, .blockLengthHigh]) := by
    rw [write_base h, writeBase_wr0 d p.wr0_base p.wr0_mode, writeWR0, setMode_of d p.wr0_mode,
      Option.map_some, announce_of h40, announce_of h20, announce_of h10, announce_of h08]
    simp only [setDirection, h.writeOrder]
    rfl
  refine (feed_cons hbase).trans (feed_addressA ?_ p.startA p.length)
  exact h.enabled

/-- The device after WR1 and WR2. -/
def afterPorts (p : Program) (d : Dma) : Dma := { d with
  portAIsMemory := p.wr1 &&& 0x08 == 0
  portAIncrementMode := p.modeA
  portBIsMemory := p.wr2 &&& 0x08 == 0
  portBIncrementMode := p.modeB }

theorem feed_ports (h : d.Idle) : feed m d [p.wr1, p.wr2] = some (p.afterPorts d) := by
  have hwr1 : d.write m p.wr1 = some { d with
      portAIsMemory := p.wr1 &&& 0x08 == 0, portAIncrementMode := p.modeA } := by
    rw [write_base h, writeBase, if_pos p.wr1_base, writeWR1, incrementMode_of p.wr1_moves,
      Option.map_some, announce_of_not p.wr1_timing]
    rfl
  have hidle : ({ d with
      portAIsMemory := p.wr1 &&& 0x08 == 0, portAIncrementMode := p.modeA } : Dma).Idle :=
    ⟨h.enabled, h.writeOrder⟩
  have hbits : ∀ b : U8, b &&& 0x87 = 0x00 → b &&& 0x87 ≠ 0x04 := by decide
  rw [feed_cons hwr1]
  have hwr2 : ({ d with
      portAIsMemory := p.wr1 &&& 0x08 == 0, portAIncrementMode := p.modeA } : Dma).write m p.wr2 =
      some (p.afterPorts d) := by
    rw [write_base hidle, writeBase, if_neg (hbits p.wr2 p.wr2_base), if_pos p.wr2_base, writeWR2,
      incrementMode_of p.wr2_moves, Option.map_some, announce_of_not p.wr2_timing]
    rfl
  exact feed_cons hwr2

/-- The device after WR4 and its parameters. -/
def afterWR4 (p : Program) (d : Dma) : Dma := { d with
  accessMode := .byte
  portBStartAddress := p.startB &&& 0xFF0F
  interruptOnMatch := p.control &&& 0x01 != 0
  interruptAtEndOfBlock := p.control &&& 0x02 != 0
  statusAffectsVector := p.control &&& 0x20 != 0
  interruptOnReady := p.control &&& 0x40 != 0
  interruptVector := if p.control &&& 0x10 = 0 then d.interruptVector else p.vector
  writeOrder := [] }

/-- The vector, where the interrupt control announces it. -/
def vectorBytes (p : Program) : List U8 := if p.control &&& 0x10 = 0 then [] else [p.vector]

theorem feed_control (henabled : d.enabled = false) :
    feed m (d.await [.interruptControl]) (p.control :: p.vectorBytes) = some { d with
      interruptOnMatch := p.control &&& 0x01 != 0
      interruptAtEndOfBlock := p.control &&& 0x02 != 0
      statusAffectsVector := p.control &&& 0x20 != 0
      interruptOnReady := p.control &&& 0x40 != 0
      interruptVector := if p.control &&& 0x10 = 0 then d.interruptVector else p.vector
      writeOrder := [] } :=
  feed_interruptControl henabled p.control_pulse p.vector

theorem feed_wr4 (h : d.Idle) :
    feed m d (p.wr4 :: lo p.startB :: hi p.startB :: p.control :: p.vectorBytes) =
      some (p.afterWR4 d) := by
  have hbits : ∀ b : U8, b &&& 0x1C = 0x1C →
      b &&& 0x10 ≠ 0 ∧ b &&& 0x08 ≠ 0 ∧ b &&& 0x04 ≠ 0 := by decide
  obtain ⟨h10, h08, h04⟩ := hbits p.wr4 p.wr4_parameters
  have hbase : d.write m p.wr4 = some ({ d with accessMode := .byte }.await
      [.portBAddressLow, .portBAddressHigh, .interruptControl]) := by
    rw [write_base h, writeBase_wr4 d p.wr4_base, writeWR4, accessModeOf_eq, Option.map_some,
      announce_of h10, announce_of h08, announce_of h04]
    simp only [await, h.writeOrder]
  refine (feed_cons hbase).trans ((feed_addressB ?_ p.startB _).trans ?_)
  · exact h.enabled
  · refine feed_control ?_
    exact h.enabled

/-! ### The end of a program -/

theorem write_wr6 {data : U8} (h : d.Idle) (hbase : data &&& 0x83 = 0x83) :
    d.write m data = d.command data := by
  rw [write_base h, writeBase_wr6 d hbase, writeWR6]
  rw [← h.enabled]

theorem idle_load (h : d.Idle) : d.load.Idle := by
  unfold load
  cases d.direction with
  | portAToB => exact ⟨h.enabled, h.writeOrder⟩
  | portBToA => exact ⟨h.enabled, h.writeOrder⟩

/-- The flags of WR3. -/
def afterWR3 (p : Program) (d : Dma) : Dma := { d with
  stopOnMatch := p.wr3 &&& 0x04 != 0
  interruptsEnabled := p.wr3 &&& 0x20 != 0 || d.interruptsEnabled }

/-- The rest of the program, for a device that WR3 did not enable. -/
def afterStart (p : Program) (d : Dma) : Dma := { { d with
    maskByte := p.maskByte
    matchByte := p.matchByte
    restartAtEndOfBlock := p.wr5 &&& 0x20 != 0 }.reinitializeStatus.load with enabled := true }

theorem write_wr3 (h : d.Idle) :
    d.write m p.wr3 =
      some ({ p.afterWR3 d with enabled := p.early }.await [.maskByte, .matchByte]) := by
  have hbits : ∀ b : U8, b &&& 0x18 = 0x18 → b &&& 0x10 ≠ 0 ∧ b &&& 0x08 ≠ 0 := by decide
  obtain ⟨h10, h08⟩ := hbits p.wr3 p.wr3_parameters
  rw [write_base h, writeBase_wr3 d p.wr3_base, writeWR3, announce_of h10, announce_of h08]
  simp only [await, h.writeOrder, h.enabled, Bool.or_false]
  rfl

/-- Reinitialise, load and enable. -/
theorem feed_enable (h : d.Idle) :
    feed m d [0x8B, 0xCF, 0x87] =
      some { d.reinitializeStatus.load with enabled := true } := by
  have hinit : d.write m 0x8B = some d.reinitializeStatus := write_wr6 h rfl
  have hidle : d.reinitializeStatus.Idle := ⟨h.enabled, h.writeOrder⟩
  have hload : d.reinitializeStatus.write m 0xCF = some d.reinitializeStatus.load :=
    write_wr6 hidle rfl
  have henable : d.reinitializeStatus.load.write m 0x87 =
      some { d.reinitializeStatus.load with enabled := true } := write_wr6 (idle_load hidle) rfl
  rw [feed_cons hinit, feed_cons hload, feed_cons henable]
  rfl

theorem feed_wr5 (h : d.Idle) (more : List U8) :
    feed m d (p.wr5 :: more) =
      feed m { d with restartAtEndOfBlock := p.wr5 &&& 0x20 != 0 } more := by
  refine feed_cons ?_
  rw [write_base h, writeBase_wr5 d p.wr5_base, writeWR5, if_neg (not_not_intro p.wr5_wait)]

theorem feed_start (h : d.Idle) :
    feed m (d.await [.maskByte, .matchByte]) [p.maskByte, p.matchByte, p.wr5, 0x8B, 0xCF, 0x87] =
      some (p.afterStart d) := by
  have hstore : d.storeAll [(.maskByte, p.maskByte), (.matchByte, p.matchByte)] =
      some { d with maskByte := p.maskByte, matchByte := p.matchByte } := rfl
  have hidle : ({ d with maskByte := p.maskByte, matchByte := p.matchByte } : Dma).Idle :=
    ⟨h.enabled, h.writeOrder⟩
  have hparameters := feed_storeAll (m := m) h.enabled hstore [] [p.wr5, 0x8B, 0xCF, 0x87]
    (by simp) (by simp)
  rw [hidle.await_nil, feed_wr5 hidle] at hparameters
  refine hparameters.trans (feed_enable ?_)
  exact ⟨h.enabled, h.writeOrder⟩

/-- The bytes of a program. -/
def bytes (p : Program) : List U8 :=
  [p.wr0, lo p.startA, hi p.startA, lo p.length, hi p.length] ++ ([p.wr1, p.wr2] ++
    ((p.wr4 :: lo p.startB :: hi p.startB :: p.control :: p.vectorBytes) ++
      [p.wr3, p.maskByte, p.matchByte, p.wr5, 0x8B, 0xCF, 0x87]))

/-- The device after a program.  One that WR3 enables keeps awaiting the mask and the match
byte. -/
def begun (p : Program) (d : Dma) : Dma :=
  let d := p.afterWR3 (p.afterWR4 (p.afterPorts (p.afterWR0 d)))
  if p.early then { d with enabled := true }.await [.maskByte, .matchByte] else p.afterStart d

/-- **Feeding a program.** -/
theorem feed_bytes (h : d.Idle) : feed m d p.bytes = some (p.begun d) := by
  have hports : (p.afterWR0 d).Idle := ⟨h.enabled, rfl⟩
  have hwr4 : (p.afterPorts (p.afterWR0 d)).Idle := ⟨h.enabled, rfl⟩
  have hwr3 : (p.afterWR4 (p.afterPorts (p.afterWR0 d))).Idle := ⟨h.enabled, rfl⟩
  unfold bytes
  rw [feed_append (feed_wr0 h), feed_append (feed_ports hports), feed_append (feed_wr4 hwr4),
    feed_cons (write_wr3 hwr3)]
  have hidle : (p.afterWR3 (p.afterWR4 (p.afterPorts (p.afterWR0 d)))).Idle := ⟨h.enabled, rfl⟩
  unfold begun
  generalize p.afterWR3 (p.afterWR4 (p.afterPorts (p.afterWR0 d))) = e at hidle
  by_cases hearly : p.early = true
  · rw [hearly]
    refine feed_enabled rfl ?_ _
    show 2 ≤ 8
    decide
  · have hoff : ({ e with enabled := p.early } : Dma) = e := by
      rw [Bool.eq_false_iff.2 hearly, ← hidle.enabled]
    rw [hoff, if_neg hearly]
    exact feed_start hidle

/-! ### The transfer a program starts -/

/-- The counter of the source port. -/
def firstSource (p : Program) (d : Dma) : U16 :=
  match p.direction with
  | .portAToB => if p.early then d.portACounter else p.startA &&& 0xFF0F
  | .portBToA => if p.early then d.portBCounter else p.startB &&& 0xFF0F

/-- The first address written to: the start in the program for a device that has never ticked,
and else where its counter stands. -/
def firstDestination (p : Program) (d : Dma) : U16 :=
  match p.direction with
  | .portAToB => if d.started then d.portBCounter else p.startB &&& 0xFF0F
  | .portBToA => if d.started then d.portACounter else p.startA &&& 0xFF0F

/-- WR0 does not take back the mode of an earlier program. -/
def transfers (p : Program) (d : Dma) : Bool := d.transfer || p.wr0 &&& 0x01 != 0

def searches (p : Program) (d : Dma) : Bool := d.search || p.wr0 &&& 0x02 != 0

def wanted (p : Program) (d : Dma) : U8 :=
  if p.early then ~~~d.maskByte &&& d.matchByte else ~~~p.maskByte &&& p.matchByte

def stops (p : Program) : Bool := p.wr3 &&& 0x04 != 0

def restarts (p : Program) (d : Dma) : Bool :=
  if p.early then d.restartAtEndOfBlock else p.wr5 &&& 0x20 != 0

/-- The bytes of the block after the first one. -/
def rest (p : Program) (d : Dma) : ℕ :=
  bytesAfter (p.length &&& 0xFF0F) (if p.early then d.byteCounter else 0)

/-- The transfer that a program starts on a device. -/
def starts (p : Program) (d : Dma) : BlockTransfer where
  enabled := true
  source :=
    match p.direction with
    | .portAToB => ⟨p.wr1 &&& 0x08 == 0, p.modeA, p.firstSource d⟩
    | .portBToA => ⟨p.wr2 &&& 0x08 == 0, p.modeB, p.firstSource d⟩
  destination :=
    match p.direction with
    | .portAToB => ⟨p.wr2 &&& 0x08 == 0, p.modeB, p.firstDestination d⟩
    | .portBToA => ⟨p.wr1 &&& 0x08 == 0, p.modeA, p.firstDestination d⟩
  transfer := p.transfers d
  search := p.searches d
  wanted := p.wanted d
  stopOnMatch := p.stops
  restart := p.restarts d
  rest := p.rest d

theorem modeA_ne_fixed (p : Program) : p.modeA ≠ .fixed := by
  unfold modeA
  split <;> decide

theorem modeB_ne_fixed (p : Program) : p.modeB ≠ .fixed := by
  unfold modeB
  split <;> decide

/-- **What a program starts.** -/
theorem view_begun (p : Program) (d : Dma) : (p.begun d).view = p.starts d := by
  have hreinit : ∀ s : U8, ((s ||| RR0Mask.MATCH_NOT_FOUND) ||| RR0Mask.NOT_END_OF_BLOCK) &&&
      RR0Mask.TRANSFER_OCCURRED = s &&& RR0Mask.TRANSFER_OCCURRED := by decide
  have hA := p.modeA_ne_fixed
  have hB := p.modeB_ne_fixed
  unfold begun starts view sourceSide destinationSide Dma.firstDestination
  by_cases hearly : p.early = true
  · cases hdir : p.direction with
    | portAToB =>
      simp [afterWR3, afterWR4, afterPorts, afterWR0, await, started, firstSource,
        firstDestination, transfers, searches, wanted, stops, restarts, rest, hearly, hdir, hB]
    | portBToA =>
      simp [afterWR3, afterWR4, afterPorts, afterWR0, await, started, firstSource,
        firstDestination, transfers, searches, wanted, stops, restarts, rest, hearly, hdir, hA]
  · cases hdir : p.direction with
    | portAToB =>
      simp [afterStart, reinitializeStatus, load, afterWR3, afterWR4, afterPorts, afterWR0,
        started, firstSource, firstDestination, transfers, searches, wanted, stops, restarts, rest,
        hearly, hdir, hB, hreinit]
    | portBToA =>
      simp [afterStart, reinitializeStatus, load, afterWR3, afterWR4, afterPorts, afterWR0,
        started, firstSource, firstDestination, transfers, searches, wanted, stops, restarts, rest,
        hearly, hdir, hA, hreinit]

end Program

end Possum
