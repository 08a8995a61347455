import Possum.Dma.Chip
import Possum.Lib.Observe
import Mathlib.Data.Nat.Notation

/-!
# Transfers

What a DMA controller is for: `BlockTransfer` moves a block from a source to a destination, one byte
a tick, and may look for a byte on the way.  It knows where to read and write next and how many
bytes follow that one (`rest`), and nothing of the registers.

**`tick_view`**: a tick of the device is a tick of the transfer seen in it (`view`), on every
bus.  The destination seen in a device is the programmed start until the first tick.
-/

set_option autoImplicit false

namespace Possum

open Lib

/-- One end of a transfer. -/
@[ext] structure Side where
  isMemory : Bool
  mode : IncrementMode
  counter : U16
  deriving DecidableEq, Repr

namespace Side

variable {β : Type} [DeviceBus β]

def fetch (s : Side) (bus : β) : U8 × β :=
  if s.isMemory then DeviceBus.read bus s.counter else DeviceBus.input bus s.counter

def store (s : Side) (bus : β) (byte : U8) : β :=
  if s.isMemory then DeviceBus.write bus s.counter byte else DeviceBus.output bus s.counter byte

def next (s : Side) : Side := { s with counter := s.mode.step s.counter }

end Side

structure BlockTransfer where
  enabled : Bool
  source : Side
  destination : Side
  /-- Bytes are written to the destination. -/
  transfer : Bool
  /-- Bytes are compared with the one that is wanted. -/
  search : Bool
  wanted : U8
  stopOnMatch : Bool
  restart : Bool
  /-- The bytes of the block after the next one. -/
  rest : ℕ
  deriving DecidableEq, Repr

namespace BlockTransfer

/-- The block after one more byte: the transfer ends with the last one, or is lost in the
restart. -/
def count (t : BlockTransfer) : Option BlockTransfer :=
  if t.rest = 0 then
    if t.restart then none else some { t with rest := 65535, enabled := false }
  else some { t with rest := t.rest - 1 }

/-- The transfer after a byte.  A byte that is found ends it in any case. -/
def advance (t : BlockTransfer) (byte : U8) : Option BlockTransfer :=
  if t.search ∧ t.wanted = byte then
    if t.stopOnMatch then some { t with enabled := false } else { t with enabled := false }.count
  else t.count

def tick {β : Type} [DeviceBus β] (t : BlockTransfer) (bus : β) : Option BlockTransfer × β :=
  if t.enabled then
    let r := t.source.fetch bus
    let bus := if t.transfer then t.destination.store r.2 r.1 else r.2
    ({ t with source := t.source.next, destination := t.destination.next }.advance r.1, bus)
  else (some t, bus)

end BlockTransfer

namespace Dma

/-! ### The transfer in a device -/

/-- A tick has passed since power-up. -/
def started (d : Dma) : Bool := d.status &&& RR0Mask.TRANSFER_OCCURRED != 0

def sourceSide (d : Dma) : Side :=
  match d.direction with
  | .portAToB => ⟨d.portAIsMemory, d.portAIncrementMode, d.portACounter⟩
  | .portBToA => ⟨d.portBIsMemory, d.portBIncrementMode, d.portBCounter⟩

/-- The address the next byte is written to. -/
def firstDestination (d : Dma) (mode : IncrementMode) (counter start : U16) : U16 :=
  if d.started = false ∧ mode ≠ .fixed then start else counter

def destinationSide (d : Dma) : Side :=
  match d.direction with
  | .portAToB =>
    ⟨d.portBIsMemory, d.portBIncrementMode,
      d.firstDestination d.portBIncrementMode d.portBCounter d.portBStartAddress⟩
  | .portBToA =>
    ⟨d.portAIsMemory, d.portAIncrementMode,
      d.firstDestination d.portAIncrementMode d.portACounter d.portAStartAddress⟩

/-- The bytes of the block after the next one: 65535 where the counter is at the end. -/
def bytesAfter (length counter : U16) : ℕ := (length - counter - 1).toNat

def view (d : Dma) : BlockTransfer where
  enabled := d.enabled
  source := d.sourceSide
  destination := d.destinationSide
  transfer := d.transfer
  search := d.search
  wanted := ~~~d.maskByte &&& d.matchByte
  stopOnMatch := d.stopOnMatch
  restart := d.restartAtEndOfBlock
  rest := bytesAfter d.blockLength d.byteCounter

theorem bytesAfter_eq_zero (length counter : U16) :
    bytesAfter length counter = 0 ↔ counter + 1 = length := by
  unfold bytesAfter
  constructor
  · intro h
    bv_omega
  · intro h
    bv_omega

theorem bytesAfter_succ (length counter : U16) (h : counter + 1 ≠ length) :
    bytesAfter length (counter + 1) = bytesAfter length counter - 1 := by
  unfold bytesAfter
  bv_omega

theorem bytesAfter_self (length : U16) : bytesAfter length length = 65535 := by
  unfold bytesAfter
  bv_omega

/-! ### The status bits -/

theorem started_markStarted (d : Dma) : d.markStarted.started = true := by
  have hbit : ∀ s : U8, ((s ||| 0x01) &&& 0x01 != 0) = true := by decide
  exact hbit d.status

theorem started_pendIf (d : Dma) (raise : Bool) : (d.pendIf raise).started = d.started := by
  have hbit : ∀ s : U8, ((s ||| 0x08) &&& 0x01 != 0) = (s &&& 0x01 != 0) := by decide
  cases raise with
  | false => rfl
  | true => exact hbit d.status

theorem started_clear_match (s : U8) :
    (s &&& ~~~RR0Mask.MATCH_NOT_FOUND &&& RR0Mask.TRANSFER_OCCURRED != 0) =
      (s &&& RR0Mask.TRANSFER_OCCURRED != 0) := by
  revert s
  decide

theorem started_clear_end (s : U8) :
    (s &&& ~~~RR0Mask.NOT_END_OF_BLOCK &&& RR0Mask.TRANSFER_OCCURRED != 0) =
      (s &&& RR0Mask.TRANSFER_OCCURRED != 0) := by
  revert s
  decide

/-! ### The steps of a tick -/

/-- A device that has read and written its byte, before it looks for a match. -/
def moved (d : Dma) : Dma := d.stepSource.loadDestination.markStarted.stepDestination

theorem readSource_eq {β : Type} [DeviceBus β] (d : Dma) (bus : β) :
    d.readSource bus = d.sourceSide.fetch bus := by
  unfold readSource sourceSide
  cases d.direction <;> rfl

theorem started_eq_false (d : Dma) :
    d.started = false ↔ d.status &&& RR0Mask.TRANSFER_OCCURRED = 0 := by
  unfold started
  exact bne_eq_false_iff_eq

/-- The counters the byte is written with, from A to B. -/
theorem loaded_portAToB {d : Dma} (h : d.direction = .portAToB) :
    d.stepSource.loadDestination = { d with
      portACounter := d.portAIncrementMode.step d.portACounter
      portBCounter :=
        d.firstDestination d.portBIncrementMode d.portBCounter d.portBStartAddress } := by
  have hstep : d.stepSource =
      { d with portACounter := d.portAIncrementMode.step d.portACounter } := by
    unfold stepSource
    rw [h]
  rw [hstep]
  unfold loadDestination firstDestination
  simp only [h, started_eq_false]
  by_cases hfirst : d.status &&& RR0Mask.TRANSFER_OCCURRED = 0
  · by_cases hfixed : d.portBIncrementMode = .fixed
    · simp only [hfirst, hfixed, if_true, ne_eq, not_true_eq_false, and_false, if_false]
    · simp only [hfirst, hfixed, if_true, ne_eq, not_false_eq_true, and_true]
  · simp only [hfirst, if_false, false_and]

/-- The counters the byte is written with, from B to A. -/
theorem loaded_portBToA {d : Dma} (h : d.direction = .portBToA) :
    d.stepSource.loadDestination = { d with
      portBCounter := d.portBIncrementMode.step d.portBCounter
      portACounter :=
        d.firstDestination d.portAIncrementMode d.portACounter d.portAStartAddress } := by
  have hstep : d.stepSource =
      { d with portBCounter := d.portBIncrementMode.step d.portBCounter } := by
    unfold stepSource
    rw [h]
  rw [hstep]
  unfold loadDestination firstDestination
  simp only [h, started_eq_false]
  by_cases hfirst : d.status &&& RR0Mask.TRANSFER_OCCURRED = 0
  · by_cases hfixed : d.portAIncrementMode = .fixed
    · simp only [hfirst, hfixed, if_true, ne_eq, not_true_eq_false, and_false, if_false]
    · simp only [hfirst, hfixed, if_true, ne_eq, not_false_eq_true, and_true]
  · simp only [hfirst, if_false, false_and]

theorem writeDestination_eq {β : Type} [DeviceBus β] (d : Dma) (bus : β) (byte : U8) :
    d.stepSource.loadDestination.writeDestination bus byte =
      if d.transfer then d.destinationSide.store bus byte else bus := by
  unfold writeDestination destinationSide
  cases h : d.direction with
  | portAToB =>
    rw [loaded_portAToB h]
    simp only [h]
    rfl
  | portBToA =>
    rw [loaded_portBToA h]
    simp only [h]
    rfl

theorem started_moved (d : Dma) : d.moved.started = true := by
  unfold moved stepDestination
  cases (d.stepSource.loadDestination.markStarted).direction <;>
    exact started_markStarted d.stepSource.loadDestination

/-- A device that has started has its destination in the counter. -/
theorem firstDestination_of_started {d : Dma} (h : d.started = true) (mode : IncrementMode)
    (counter start : U16) : d.firstDestination mode counter start = counter := by
  unfold firstDestination
  rw [h]
  simp only [Bool.true_eq_false, false_and, if_false]

theorem moved_portAToB {d : Dma} (h : d.direction = .portAToB) :
    d.moved = { d with
      status := d.status ||| RR0Mask.TRANSFER_OCCURRED
      portACounter := d.portAIncrementMode.step d.portACounter
      portBCounter := d.portBIncrementMode.step
        (d.firstDestination d.portBIncrementMode d.portBCounter d.portBStartAddress) } := by
  unfold moved stepDestination
  rw [loaded_portAToB h]
  simp only [markStarted, h]

theorem moved_portBToA {d : Dma} (h : d.direction = .portBToA) :
    d.moved = { d with
      status := d.status ||| RR0Mask.TRANSFER_OCCURRED
      portBCounter := d.portBIncrementMode.step d.portBCounter
      portACounter := d.portAIncrementMode.step
        (d.firstDestination d.portAIncrementMode d.portACounter d.portAStartAddress) } := by
  unfold moved stepDestination
  rw [loaded_portBToA h]
  simp only [markStarted, h]

/-- Moving a byte changes the two counters and one bit of the status. -/
theorem moved_eq (d : Dma) : ∃ a b, d.moved = { d with
    status := d.status ||| RR0Mask.TRANSFER_OCCURRED, portACounter := a, portBCounter := b } := by
  have hdirection : d.direction = .portAToB ∨ d.direction = .portBToA := by
    cases d.direction
    · exact Or.inr rfl
    · exact Or.inl rfl
  obtain h | h := hdirection
  · exact ⟨_, _, moved_portAToB h⟩
  · exact ⟨_, _, moved_portBToA h⟩

/-- A byte moved is a step of both sides. -/
theorem view_moved (d : Dma) :
    d.moved.view = { d.view with
      source := d.sourceSide.next, destination := d.destinationSide.next } := by
  have hstarted := started_moved d
  unfold view sourceSide destinationSide
  simp only [firstDestination_of_started hstarted]
  cases h : d.direction with
  | portAToB =>
    rw [moved_portAToB h]
    simp only [h]
    rfl
  | portBToA =>
    rw [moved_portBToA h]
    simp only [h]
    rfl

/-- Past the first tick, what a device has for its transfer does not depend on the status. -/
theorem view_of_started {d e : Dma} (hd : d.started = true) (he : e.started = true)
    (h : e = { d with status := e.status, enabled := e.enabled, byteCounter := e.byteCounter }) :
    e.view = { d.view with
      enabled := e.enabled, rest := bytesAfter d.blockLength e.byteCounter } := by
  rw [h] at he ⊢
  unfold view sourceSide destinationSide firstDestination
  simp only [hd, he]

theorem started_found (d : Dma) : d.found.started = d.started := by
  unfold found
  rw [started_pendIf]
  exact started_clear_match d.status

theorem started_ended (d : Dma) : d.ended.started = d.started := by
  unfold ended
  rw [started_pendIf]
  exact started_clear_end d.status

theorem view_pendIf {d : Dma} (h : d.started = true) (raise : Bool) :
    (d.pendIf raise).view = d.view := by
  have hraised : (d.pendIf raise).started = true := (started_pendIf d raise).trans h
  cases raise with
  | false => rfl
  | true => exact view_of_started h hraised rfl

/-- A device that is stopped with another status. -/
theorem view_stopped {d : Dma} (h : d.started = true) {s : U8}
    (hs : (s &&& RR0Mask.TRANSFER_OCCURRED != 0) = d.started) (raise : Bool) :
    (({ d with status := s, enabled := false } : Dma).pendIf raise).view =
      { d.view with enabled := false } := by
  have hstarted : ({ d with status := s, enabled := false } : Dma).started = true := hs.trans h
  rw [view_pendIf hstarted]
  exact view_of_started h hstarted rfl

theorem view_found {d : Dma} (h : d.started = true) :
    d.found.view = { d.view with enabled := false } :=
  view_stopped h (started_clear_match d.status) _

theorem view_ended {d : Dma} (h : d.started = true) :
    d.ended.view = { d.view with enabled := false } :=
  view_stopped h (started_clear_end d.status) _

theorem view_ready {d : Dma} (h : d.started = true) : d.ready.view = d.view :=
  view_pendIf h d.interruptOnReady

/-- The end of the block, in the device and in its transfer. -/
theorem countByte_view {d : Dma} (h : d.started = true) :
    d.countByte.map view = d.view.count := by
  have hcounted : d.counted.started = true := h
  have hended : d.counted.ended.started = true := (started_ended d.counted).trans h
  have hrest : d.view.rest = bytesAfter d.blockLength d.byteCounter := rfl
  have hrestart : d.view.restart = d.restartAtEndOfBlock := rfl
  unfold countByte BlockTransfer.count
  rw [hrest, hrestart]
  by_cases hlast : d.counted.byteCounter = d.blockLength
  · rw [if_pos hlast, if_pos ((bytesAfter_eq_zero _ _).2 hlast)]
    by_cases hagain : d.restartAtEndOfBlock = true
    · rw [if_pos hagain, if_pos hagain]
      rfl
    · rw [if_neg hagain, if_neg hagain, Option.map_some, view_ready hended, view_ended hcounted]
      have hwhole : d.counted.view.rest = 65535 := by
        show bytesAfter d.blockLength d.counted.byteCounter = 65535
        rw [hlast, bytesAfter_self]
      rw [← hwhole]
      rfl
  · rw [if_neg hlast, if_neg (fun hzero => hlast ((bytesAfter_eq_zero _ _).1 hzero))]
    rw [Option.map_some, view_ready hcounted, ← bytesAfter_succ _ _ hlast]
    rfl

theorem checkMatch_view {d : Dma} (h : d.started = true) (byte : U8) :
    (d.checkMatch byte).map view = d.view.advance byte := by
  unfold checkMatch
  by_cases hmatch : d.search = true ∧ ~~~d.maskByte &&& d.matchByte = byte
  · have hwanted : d.view.search = true ∧ d.view.wanted = byte := hmatch
    rw [if_pos hmatch, BlockTransfer.advance, if_pos hwanted]
    by_cases hstop : d.stopOnMatch = true
    · have hview : d.view.stopOnMatch = true := hstop
      rw [if_pos hstop, if_pos hview, Option.map_some, view_found h]
    · have hview : ¬ d.view.stopOnMatch = true := hstop
      rw [if_neg hstop, if_neg hview, countByte_view ((started_found d).trans h), view_found h]
  · have hwanted : ¬ (d.view.search = true ∧ d.view.wanted = byte) := hmatch
    rw [if_neg hmatch, BlockTransfer.advance, if_neg hwanted]
    exact countByte_view h

/-! ### What a tick changes -/

theorem pendIf_eq (d : Dma) (raise : Bool) : ∃ s, d.pendIf raise = { d with status := s } := by
  cases raise with
  | false => exact ⟨d.status, rfl⟩
  | true => exact ⟨_, rfl⟩

theorem countByte_eq {d e : Dma} (h : d.countByte = some e) :
    ∃ s b, e = { d with status := s, enabled := b, byteCounter := d.byteCounter + 1 } := by
  unfold countByte at h
  split at h
  · split at h
    · cases h
    · obtain ⟨s, hended⟩ := pendIf_eq { d.counted with
        status := d.counted.status &&& ~~~RR0Mask.NOT_END_OF_BLOCK, enabled := false }
        d.counted.interruptAtEndOfBlock
      obtain ⟨s', hready⟩ := pendIf_eq d.counted.ended d.counted.ended.interruptOnReady
      have hend : d.counted.ended = _ := hended
      obtain rfl := Option.some.inj h
      refine ⟨s', false, hready.trans ?_⟩
      rw [hend]
      rfl
  · obtain ⟨s, hready⟩ := pendIf_eq d.counted d.counted.interruptOnReady
    obtain rfl := Option.some.inj h
    exact ⟨s, d.enabled, hready⟩

theorem found_eq (d : Dma) : ∃ s, d.found = { d with status := s, enabled := false } := by
  obtain ⟨s, hfound⟩ := pendIf_eq { d with
    status := d.status &&& ~~~RR0Mask.MATCH_NOT_FOUND, enabled := false }
    (d.interruptsEnabled && d.interruptOnMatch)
  exact ⟨s, hfound⟩

theorem checkMatch_eq {d e : Dma} {byte : U8} (h : d.checkMatch byte = some e) :
    ∃ s b c, e = { d with status := s, enabled := b, byteCounter := c } := by
  obtain ⟨s, hmatch⟩ := found_eq d
  unfold checkMatch at h
  split at h
  · split at h
    · obtain rfl := Option.some.inj h
      exact ⟨s, false, d.byteCounter, hmatch⟩
    · obtain ⟨s', b, rfl⟩ := countByte_eq h
      exact ⟨s', b, d.found.byteCounter + 1, by rw [hmatch]⟩
  · obtain ⟨s', b, rfl⟩ := countByte_eq h
    exact ⟨s', b, d.byteCounter + 1, rfl⟩

theorem tick_of_enabled {β : Type} [DeviceBus β] {d : Dma} {bus : β} (hon : d.enabled = true) :
    (d.tick bus).1 = d.moved.checkMatch (d.readSource bus).1 := by
  unfold tick
  rw [if_pos hon]
  rfl

theorem tick_of_disabled {β : Type} [DeviceBus β] {d : Dma} {bus : β} (hoff : d.enabled = false) :
    d.tick bus = (some d, bus) := by
  unfold tick
  rw [hoff]
  rfl

/-- **What a tick changes**: the status, the enable and the three counters. -/
theorem tick_eq {β : Type} [DeviceBus β] {d e : Dma} {bus : β} (h : (d.tick bus).1 = some e) :
    ∃ s b c portA portB, e = { d with
      status := s, enabled := b, byteCounter := c, portACounter := portA, portBCounter := portB }
    := by
  cases hon : d.enabled with
  | true =>
    obtain ⟨portA, portB, hmoved⟩ := moved_eq d
    rw [tick_of_enabled hon] at h
    obtain ⟨s, b, c, rfl⟩ := checkMatch_eq h
    exact ⟨s, b, c, portA, portB, by rw [hmoved]⟩
  | false =>
    rw [tick_of_disabled hon] at h
    obtain rfl := Option.some.inj h
    exact ⟨_, _, _, _, _, rfl⟩

/-- **A tick of the device is a tick of its transfer.** -/
theorem tick_view {β : Type} [DeviceBus β] (d : Dma) (bus : β) :
    d.view.tick bus = ((d.tick bus).1.map view, (d.tick bus).2) := by
  unfold tick BlockTransfer.tick
  by_cases henabled : d.enabled = true
  · have hview : d.view.enabled = true := henabled
    rw [if_pos henabled, if_pos hview]
    simp only [writeDestination_eq, readSource_eq]
    refine Prod.ext ?_ rfl
    show _ = (d.moved.checkMatch (d.sourceSide.fetch bus).1).map view
    rw [checkMatch_view (started_moved d), view_moved]
    rfl
  · have hview : ¬ d.view.enabled = true := henabled
    rw [if_neg henabled, if_neg hview]
    rfl

end Dma

end Possum
