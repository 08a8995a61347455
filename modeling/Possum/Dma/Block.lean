import Possum.Dma.Shown
import Mathlib.Logic.Function.Iterate

/-!
# A block of the DMA controller

What a device does in the ticks of a block.  `pass` is the bus after `k` bytes of a transfer, each
read from what the bytes before have made of the bus, and `Underway` the device after `k` ticks none
of which ended the block: `run_underway` takes it from tick to tick, and `finish` has the tick that
ends it.

**`copies_block`**: without a search the device copies exactly one block in memory, byte for byte in
order, and then rests.
-/

set_option autoImplicit false

namespace Possum

/-! ### Bytes of a transfer -/

/-- A side after `k` bytes. -/
def Side.after (s : Side) (k : ℕ) : Side := { s with counter := s.mode.step^[k] s.counter }

theorem Side.next_after (s : Side) (k : ℕ) : (s.after k).next = s.after (k + 1) := by
  unfold Side.next Side.after
  rw [Function.iterate_succ_apply']

namespace BlockTransfer

section

variable {β : Type} [DeviceBus β]

/-- The bus after `k` bytes. -/
def pass (t : BlockTransfer) (bus : β) : ℕ → β
  | 0 => bus
  | k + 1 =>
    let r := (t.source.after k).fetch (t.pass bus k)
    if t.transfer then (t.destination.after k).store r.2 r.1 else r.2

/-- The byte number `k`. -/
def byteAt (t : BlockTransfer) (bus : β) (k : ℕ) : U8 :=
  ((t.source.after k).fetch (t.pass bus k)).1

/-- The transfer after `k` bytes that did not end it. -/
def passed (t : BlockTransfer) (k : ℕ) : BlockTransfer :=
  { t with
    source := t.source.after k, destination := t.destination.after k, rest := t.rest - k }

theorem tick_passed {t : BlockTransfer} (hon : t.enabled = true) (bus : β) (k : ℕ) :
    (t.passed k).tick (t.pass bus k) =
      ((t.passed k).moved.advance (t.byteAt bus k), t.pass bus (k + 1)) := by
  have hpassed : (t.passed k).enabled = true := hon
  unfold tick
  rw [if_pos hpassed]
  rfl

theorem moved_passed (t : BlockTransfer) (k : ℕ) :
    (t.passed k).moved =
      { t.passed (k + 1) with rest := t.rest - k } := by
  unfold moved passed
  simp only [Side.next_after]

/-- A byte that is not wanted, and not the last one. -/
theorem advance_passed {t : BlockTransfer} {v : U8} {k : ℕ} (hmiss : ¬ t.Hits v)
    (hk : k < t.rest) : (t.passed k).moved.advance v = some (t.passed (k + 1)) := by
  have hmiss' : ¬ (t.passed k).moved.Hits v := hmiss
  have hrest : (t.passed k).moved.rest ≠ 0 := by
    show t.rest - k ≠ 0
    omega
  rw [advance_of_miss hmiss', count_of_rest hrest, moved_passed]
  show some ({ t.passed (k + 1) with rest := t.rest - k - 1 } : BlockTransfer) = _
  rw [Nat.sub_sub]
  rfl

end

end BlockTransfer

namespace Dma

/-! ### The status of a tick -/

/-- `MATCH_NOT_FOUND` -/
def notFound (d : Dma) : Bool := d.status &&& RR0Mask.MATCH_NOT_FOUND != 0

/-- `NOT_END_OF_BLOCK` -/
def notEnded (d : Dma) : Bool := d.status &&& RR0Mask.NOT_END_OF_BLOCK != 0

/-- The byte is one the device looks for. -/
def Hits (d : Dma) (byte : U8) : Prop := d.search = true ∧ ~~~d.maskByte &&& d.matchByte = byte

instance (d : Dma) (byte : U8) : Decidable (d.Hits byte) := inferInstanceAs (Decidable (_ ∧ _))

theorem notFound_pendIf (d : Dma) (raise : Bool) : (d.pendIf raise).notFound = d.notFound := by
  have hbit : ∀ s : U8, ((s ||| 0x08) &&& 0x10 != 0) = (s &&& 0x10 != 0) := by decide
  cases raise with
  | false => rfl
  | true => exact hbit d.status

theorem notEnded_pendIf (d : Dma) (raise : Bool) : (d.pendIf raise).notEnded = d.notEnded := by
  have hbit : ∀ s : U8, ((s ||| 0x08) &&& 0x20 != 0) = (s &&& 0x20 != 0) := by decide
  cases raise with
  | false => rfl
  | true => exact hbit d.status

theorem notFound_found (d : Dma) : d.found.notFound = false := by
  have hbit : ∀ s : U8, (s &&& ~~~0x10 &&& 0x10 != 0) = false := by decide
  rw [found, notFound_pendIf]
  exact hbit d.status

/-- Step 7 in the status: the count, the end of the block, and no match. -/
theorem countByte_status {d e : Dma} (h : d.countByte = some e) :
    e.notFound = d.notFound ∧ e.byteCounter = d.byteCounter + 1 ∧
      (d.byteCounter + 1 = d.blockLength → e.notEnded = false) := by
  have hclear : ∀ s : U8, (s &&& ~~~0x20 &&& 0x10 != 0) = (s &&& 0x10 != 0) := by decide
  have hended : ∀ s : U8, (s &&& ~~~0x20 &&& 0x20 != 0) = false := by decide
  obtain ⟨s, b, heq⟩ := countByte_eq h
  have hcount : e.byteCounter = d.byteCounter + 1 := by rw [heq]
  unfold countByte at h
  by_cases hlast : d.counted.byteCounter = d.blockLength
  · rw [if_pos hlast] at h
    split at h
    · cases h
    · have hend : e = d.counted.ended.ready := (Option.some.inj h).symm
      refine ⟨?_, hcount, fun _ => ?_⟩
      · rw [hend, ready, notFound_pendIf, ended, notFound_pendIf]
        exact hclear d.status
      · rw [hend, ready, notEnded_pendIf, ended, notEnded_pendIf]
        exact hended d.status
  · rw [if_neg hlast] at h
    have hgo : e = d.counted.ready := (Option.some.inj h).symm
    refine ⟨?_, hcount, fun hend => absurd hend hlast⟩
    rw [hgo, ready, notFound_pendIf]
    rfl

section

variable {β : Type} [DeviceBus β] {d e : Dma} {bus : β}

theorem notFound_moved (d : Dma) : d.moved.notFound = d.notFound := by
  have hbit : ∀ s : U8, ((s ||| 0x01) &&& 0x10 != 0) = (s &&& 0x10 != 0) := by decide
  obtain ⟨a, b, hmoved⟩ := moved_eq d
  rw [hmoved]
  exact hbit d.status

/-- Step 6 in the status. -/
theorem checkMatch_status {v : U8} (hgo : ¬ (d.Hits v ∧ d.stopOnMatch = true))
    (h : d.checkMatch v = some e) :
    e.notFound = (if d.Hits v then false else d.notFound) ∧ e.byteCounter = d.byteCounter + 1 ∧
      (d.byteCounter + 1 = d.blockLength → e.notEnded = false) := by
  unfold checkMatch at h
  by_cases hhit : d.Hits v
  · have hmatch : d.search = true ∧ ~~~d.maskByte &&& d.matchByte = v := hhit
    rw [if_pos hmatch, if_neg fun hstop => hgo ⟨hhit, hstop⟩] at h
    obtain ⟨hfound, hcount, hend⟩ := countByte_status h
    obtain ⟨s, heq⟩ := found_eq d
    have hbytes : d.found.byteCounter = d.byteCounter := by rw [heq]
    have hlength : d.found.blockLength = d.blockLength := by rw [heq]
    rw [hbytes, hlength] at hend
    rw [if_pos hhit, hfound, notFound_found, hcount, hbytes]
    exact ⟨rfl, rfl, hend⟩
  · have hmiss : ¬ (d.search = true ∧ ~~~d.maskByte &&& d.matchByte = v) := hhit
    rw [if_neg hmiss] at h
    rw [if_neg hhit]
    exact countByte_status h

/-- A tick that is not stopped by a match. -/
theorem tick_counts (hon : d.enabled = true) (h : (d.tick bus).1 = some e)
    (hgo : ¬ (d.Hits (d.readSource bus).1 ∧ d.stopOnMatch = true)) :
    e.notFound = (if d.Hits (d.readSource bus).1 then false else d.notFound) ∧
      e.byteCounter = d.byteCounter + 1 ∧
      (d.byteCounter + 1 = d.blockLength → e.notEnded = false) := by
  have hfound := notFound_moved d
  obtain ⟨a, b, hmoved⟩ := moved_eq d
  rw [tick_of_enabled hon] at h
  rw [hmoved] at h hfound
  rw [← hfound]
  exact checkMatch_status (d := { d with
    status := d.status ||| RR0Mask.TRANSFER_OCCURRED, portACounter := a, portBCounter := b }) hgo h

/-- A tick that is stopped by a match. -/
theorem tick_stops (hon : d.enabled = true) (hhit : d.Hits (d.readSource bus).1)
    (hstop : d.stopOnMatch = true) (h : (d.tick bus).1 = some e) : e.notFound = false := by
  obtain ⟨a, b, hmoved⟩ := moved_eq d
  have hmatch : d.moved.search = true ∧ ~~~d.moved.maskByte &&& d.moved.matchByte =
      (d.readSource bus).1 := by
    rw [hmoved]
    exact hhit
  have hstops : d.moved.stopOnMatch = true := by
    rw [hmoved]
    exact hstop
  rw [tick_of_enabled hon, checkMatch, if_pos hmatch, if_pos hstops] at h
  rw [← Option.some.inj h, notFound_found]

/-! ### Ticks of a block -/

/-- `n` ticks, one after the other. -/
def ticks (d : Dma) (bus : β) : ℕ → Option (Dma × β)
  | 0 => some (d, bus)
  | n + 1 =>
    (d.ticks bus n).bind fun r => (r.1.tick r.2).1.map fun e => (e, (r.1.tick r.2).2)

theorem ticks_succ {k : ℕ} {bus₁ bus₂ : β} {e' : Dma} (h : d.ticks bus k = some (e, bus₁))
    (htick : e.tick bus₁ = (some e', bus₂)) : d.ticks bus (k + 1) = some (e', bus₂) := by
  rw [ticks, h, Option.bind_some]
  simp only [htick, Option.map_some]

theorem ticks_succ_of_none {k : ℕ} {bus₁ : β} (h : d.ticks bus k = some (e, bus₁))
    (htick : (e.tick bus₁).1 = none) : d.ticks bus (k + 1) = none := by
  rw [ticks, h, Option.bind_some]
  simp only [htick, Option.map_none]

/-- A device that is disabled rests. -/
theorem ticks_of_disabled {k n : ℕ} {bus₁ : β} (h : d.ticks bus k = some (e, bus₁))
    (hoff : e.enabled = false) (hkn : k ≤ n) : d.ticks bus n = some (e, bus₁) := by
  induction n, hkn using Nat.le_induction with
  | base => exact h
  | succ n _ ih => exact ticks_succ ih (tick_of_disabled hoff)

/-- The device after `k` ticks, none of which ended the block. -/
structure Underway (d : Dma) (k : ℕ) (e : Dma) : Prop where
  view : e.view = d.view.passed k
  notFound : e.notFound = d.notFound
  byteCounter : e.byteCounter = d.byteCounter + BitVec.ofNat 16 k

theorem Underway.start (d : Dma) : d.Underway 0 d where
  view := rfl
  notFound := rfl
  byteCounter := (BitVec.add_zero _).symm

theorem Underway.enabled {k : ℕ} (h : d.Underway k e) (hon : d.enabled = true) :
    e.enabled = true := by
  have hview : e.enabled = (d.view.passed k).enabled := congrArg BlockTransfer.enabled h.view
  exact hview.trans hon

/-- The tick of a device that is underway, as a tick of the transfer. -/
theorem Underway.tick {k : ℕ} (h : d.Underway k e) (hon : d.enabled = true) (bus : β) :
    (e.tick (d.view.pass bus k)).1.map Dma.view =
        (d.view.passed k).moved.advance (d.view.byteAt bus k) ∧
      (e.tick (d.view.pass bus k)).2 = d.view.pass bus (k + 1) ∧
      (e.readSource (d.view.pass bus k)).1 = d.view.byteAt bus k := by
  have hstep := tick_view e (d.view.pass bus k)
  rw [h.view, BlockTransfer.tick_passed hon, Prod.mk.injEq] at hstep
  have hsource : e.sourceSide = d.view.source.after k := congrArg BlockTransfer.source h.view
  refine ⟨hstep.1.symm, hstep.2.symm, ?_⟩
  rw [readSource_eq, hsource]
  rfl

/-- What a device looks for does not change on the way. -/
theorem Underway.hits {k : ℕ} (h : d.Underway k e) (v : U8) : e.Hits v ↔ d.view.Hits v := by
  have hview : e.view.Hits v ↔ (d.view.passed k).Hits v := by rw [h.view]
  exact hview

/-- **The step.**  One more byte that is not wanted, before the last one. -/
theorem Underway.step {k : ℕ} (h : d.Underway k e) (hon : d.enabled = true) (bus : β)
    (hmiss : ¬ d.view.Hits (d.view.byteAt bus k)) (hk : k < d.view.rest) :
    ∃ e', e.tick (d.view.pass bus k) = (some e', d.view.pass bus (k + 1)) ∧
      d.Underway (k + 1) e' := by
  obtain ⟨hview, hbus, hbyte⟩ := h.tick hon bus
  rw [BlockTransfer.advance_passed hmiss hk] at hview
  obtain ⟨e', htick, hpassed⟩ := Option.map_eq_some_iff.1 hview
  have hmiss' : ¬ e.Hits (e.readSource (d.view.pass bus k)).1 := by
    rw [hbyte, h.hits]
    exact hmiss
  obtain ⟨hfound, hcount, -⟩ := tick_counts (h.enabled hon) htick fun hstop => hmiss' hstop.1
  rw [if_neg hmiss'] at hfound
  refine ⟨e', Prod.ext htick hbus, hpassed, hfound.trans h.notFound, ?_⟩
  rw [hcount, h.byteCounter, BitVec.add_assoc, BitVec.ofNat_add]
  rfl

/-- **The run.** -/
theorem run_underway (hon : d.enabled = true) (bus : β) {k : ℕ} (hk : k ≤ d.view.rest)
    (hmiss : ∀ i < k, ¬ d.view.Hits (d.view.byteAt bus i)) :
    ∃ e, d.ticks bus k = some (e, d.view.pass bus k) ∧ d.Underway k e := by
  induction k with
  | zero => exact ⟨d, rfl, Underway.start d⟩
  | succ k ih =>
    obtain ⟨e, hticks, hunderway⟩ := ih (Nat.le_of_succ_le hk) fun i hi => hmiss i (by omega)
    obtain ⟨e', htick, hnext⟩ := hunderway.step hon bus (hmiss k (Nat.lt_succ_self k)) hk
    exact ⟨e', ticks_succ hticks htick, hnext⟩

/-- **The tick that stops at a match.** -/
theorem Underway.stop {k : ℕ} (h : d.Underway k e) (hon : d.enabled = true) (bus : β)
    (hhit : d.view.Hits (d.view.byteAt bus k)) (hstop : d.stopOnMatch = true) :
    ∃ e', e.tick (d.view.pass bus k) = (some e', d.view.pass bus (k + 1)) ∧
      e'.enabled = false ∧ e'.notFound = false := by
  obtain ⟨hview, hbus, hbyte⟩ := h.tick hon bus
  have hstops : (d.view.passed k).moved.stopOnMatch = true := hstop
  have hmatch : (d.view.passed k).moved.search = true ∧
      (d.view.passed k).moved.wanted = d.view.byteAt bus k := hhit
  rw [BlockTransfer.advance, if_pos hmatch, if_pos hstops] at hview
  obtain ⟨e', htick, hpassed⟩ := Option.map_eq_some_iff.1 hview
  have hoff : e'.enabled = false := congrArg BlockTransfer.enabled hpassed
  have hstops' : e.stopOnMatch = true := (congrArg BlockTransfer.stopOnMatch h.view).trans hstop
  have hhit' : e.Hits (e.readSource (d.view.pass bus k)).1 := by
    rw [hbyte, h.hits]
    exact hhit
  exact ⟨e', Prod.ext htick hbus, hoff, tick_stops (h.enabled hon) hhit' hstops' htick⟩

/-- The tick of a match that does not stop the device disables it all the same. -/
theorem Underway.hit {k : ℕ} (h : d.Underway k e) (hon : d.enabled = true) (bus : β)
    (hhit : d.view.Hits (d.view.byteAt bus k)) (hk : k < d.view.rest) :
    ∃ e', e.tick (d.view.pass bus k) = (some e', d.view.pass bus (k + 1)) ∧
      e'.enabled = false := by
  obtain ⟨hview, hbus, -⟩ := h.tick hon bus
  have hrest : (d.view.passed k).moved.rest ≠ 0 := by
    show d.view.rest - k ≠ 0
    omega
  have hhit' : (d.view.passed k).moved.Hits (d.view.byteAt bus k) := hhit
  obtain ⟨t, hadvance, hoff⟩ := BlockTransfer.advance_of_hit hhit' (Or.inr hrest)
  rw [hadvance] at hview
  obtain ⟨e', htick, hpassed⟩ := Option.map_eq_some_iff.1 hview
  have henabled : e'.enabled = t.enabled := congrArg BlockTransfer.enabled hpassed
  exact ⟨e', Prod.ext htick hbus, henabled.trans hoff⟩

/-- **The tick that ends the block.**  A restart is a `todo!()`. -/
theorem Underway.finish (h : d.Underway d.view.rest e) (hon : d.enabled = true) (bus : β)
    (hgo : ¬ (d.view.Hits (d.view.byteAt bus d.view.rest) ∧ d.stopOnMatch = true)) :
    (d.restartAtEndOfBlock = true ∧ (e.tick (d.view.pass bus d.view.rest)).1 = none) ∨
      (d.restartAtEndOfBlock = false ∧
        ∃ e', e.tick (d.view.pass bus d.view.rest) =
            (some e', d.view.pass bus (d.view.rest + 1)) ∧
          e'.enabled = false ∧ e'.notEnded = false ∧
          e'.byteCounter = d.byteCounter + BitVec.ofNat 16 (d.view.rest + 1) ∧
          e'.notFound =
            if d.Hits (d.view.byteAt bus d.view.rest) then false else d.notFound) := by
  obtain ⟨hview, hbus, hbyte⟩ := h.tick hon bus
  have hrest : (d.view.passed d.view.rest).moved.rest = 0 := Nat.sub_self _
  obtain ⟨hrestart, hnone⟩ | ⟨hrestart, t, hadvance, hoff⟩ :=
    BlockTransfer.advance_last (v := d.view.byteAt bus d.view.rest) hrest
      fun hlost => hgo ⟨hlost.1, hlost.2.1⟩
  · rw [hnone] at hview
    exact Or.inl ⟨hrestart, Option.map_eq_none_iff.1 hview⟩
  · rw [hadvance] at hview
    obtain ⟨e', htick, hpassed⟩ := Option.map_eq_some_iff.1 hview
    have henabled : e'.enabled = t.enabled := congrArg BlockTransfer.enabled hpassed
    have hstops : e.stopOnMatch = d.stopOnMatch := congrArg BlockTransfer.stopOnMatch h.view
    have hhits : e.Hits (e.readSource (d.view.pass bus d.view.rest)).1 ↔
        d.Hits (d.view.byteAt bus d.view.rest) := by
      rw [hbyte]
      exact h.hits _
    obtain ⟨hfound, hcount, hend⟩ := tick_counts (h.enabled hon) htick (by
      rw [hhits, hstops]
      exact hgo)
    have hlast : e.view.rest = 0 := by
      rw [h.view]
      exact Nat.sub_self _
    refine Or.inr ⟨hrestart, e', Prod.ext htick hbus, henabled.trans hoff,
      hend ((bytesAfter_eq_zero _ _).1 hlast), ?_, ?_⟩
    · rw [hcount, h.byteCounter, BitVec.add_assoc, BitVec.ofNat_add]
      rfl
    · rw [hfound, h.notFound]
      simp only [hhits]

end

end Dma

/-! ### Copies in memory -/

/-- The counter after `i` bytes, as an address. -/
def IncrementMode.address (mode : IncrementMode) (start : U16) (i : ℕ) : U16 :=
  match mode with
  | .increment => start + BitVec.ofNat 16 i
  | .decrement => start - BitVec.ofNat 16 i
  | .fixed => start

theorem IncrementMode.iterate_step (mode : IncrementMode) (start : U16) (i : ℕ) :
    mode.step^[i] start = mode.address start i := by
  induction i with
  | zero => cases mode <;> simp [address]
  | succ i ih =>
    rw [Function.iterate_succ_apply', ih]
    cases mode with
    | increment =>
      show start + BitVec.ofNat 16 i + 1 = start + BitVec.ofNat 16 (i + 1)
      rw [BitVec.add_assoc, BitVec.ofNat_add]
      rfl
    | decrement =>
      show start - BitVec.ofNat 16 i - 1 = start - BitVec.ofNat 16 (i + 1)
      rw [BitVec.sub_sub, BitVec.ofNat_add]
      rfl
    | fixed => rfl

/-- The memory after `n` bytes copied one after the other. -/
def sequentialCopy (src dst : ℕ → U16) (mem : U16 → U8) : ℕ → U16 → U8
  | 0 => mem
  | n + 1 =>
    let before := sequentialCopy src dst mem n
    Function.update before (dst n) (before (src n))

/-- The accesses that copy them: every byte is read and then written. -/
def copyAccesses (src dst : ℕ → U16) (mem : U16 → U8) : ℕ → List BusAccess
  | 0 => []
  | n + 1 =>
    let byte := sequentialCopy src dst mem n (src n)
    copyAccesses src dst mem n ++ [.read (src n) byte, .write (dst n) byte]

namespace BlockTransfer

/-- A transfer from memory to memory is a copy. -/
theorem pass_copy {t : BlockTransfer} (htransfer : t.transfer = true)
    (hsource : t.source.isMemory = true) (hdestination : t.destination.isMemory = true)
    {src dst : ℕ → U16} (hsrc : ∀ k, (t.source.after k).counter = src k)
    (hdst : ∀ k, (t.destination.after k).counter = dst k) (bus : TestBus) (k : ℕ) :
    t.pass (⟨bus, []⟩ : Traced TestBus) k =
      ⟨{ bus with mem := sequentialCopy src dst bus.mem k },
        copyAccesses src dst bus.mem k⟩ := by
  induction k with
  | zero => rfl
  | succ k ih =>
    have hfetch : (t.source.after k).isMemory = true := hsource
    have hstore : (t.destination.after k).isMemory = true := hdestination
    rw [pass, ih]
    simp only [if_pos htransfer, Side.fetch, Side.store, if_pos hfetch, if_pos hstore, hsrc, hdst]
    show (⟨_, (_ ++ [_]) ++ [_]⟩ : Traced TestBus) = ⟨_, _ ++ [_, _]⟩
    rw [List.append_assoc]
    rfl

end BlockTransfer

namespace Dma

/-- The port the bytes are read from, and where from. -/
def sourceMode (d : Dma) : IncrementMode :=
  match d.direction with
  | .portAToB => d.portAIncrementMode
  | .portBToA => d.portBIncrementMode

def sourceCounter (d : Dma) : U16 :=
  match d.direction with
  | .portAToB => d.portACounter
  | .portBToA => d.portBCounter

/-- The port the bytes are written to, and where to. -/
def destinationMode (d : Dma) : IncrementMode :=
  match d.direction with
  | .portAToB => d.portBIncrementMode
  | .portBToA => d.portAIncrementMode

def destinationStart (d : Dma) : U16 :=
  match d.direction with
  | .portAToB => d.portBStartAddress
  | .portBToA => d.portAStartAddress

/-- The bytes of a block. -/
def blockBytes (d : Dma) : ℕ := if d.blockLength = 0 then 65536 else d.blockLength.toNat

/-- A device about to copy a block in memory. -/
structure AboutToCopy (d : Dma) : Prop where
  enabled : d.enabled = true
  transfer : d.transfer = true
  search : d.search = false
  restartAtEndOfBlock : d.restartAtEndOfBlock = false
  first : d.status &&& RR0Mask.TRANSFER_OCCURRED = 0
  byteCounter : d.byteCounter = 0
  portAIsMemory : d.portAIsMemory = true
  portBIsMemory : d.portBIsMemory = true
  destinationMode : d.destinationMode ≠ .fixed

theorem blockBytes_eq {d : Dma} (h : d.byteCounter = 0) : d.view.rest + 1 = d.blockBytes := by
  show bytesAfter d.blockLength d.byteCounter + 1 = _
  rw [h]
  unfold bytesAfter blockBytes
  by_cases hzero : d.blockLength = 0
  · rw [if_pos hzero, hzero]
    decide
  · rw [if_neg hzero]
    bv_omega

/-- The two sides of the copy. -/
theorem sides_aboutToCopy {d : Dma} (h : d.AboutToCopy) :
    d.view.source = ⟨true, d.sourceMode, d.sourceCounter⟩ ∧
      d.view.destination = ⟨true, d.destinationMode, d.destinationStart⟩ := by
  have hfirst := (started_eq_false d).2 h.first
  have hmode := h.destinationMode
  show d.sourceSide = _ ∧ d.destinationSide = _
  unfold sourceSide destinationSide firstDestination
  unfold destinationMode at hmode ⊢
  unfold sourceMode sourceCounter destinationStart
  cases hdirection : d.direction with
  | portAToB =>
    simp only [hdirection] at hmode ⊢
    rw [h.portAIsMemory, h.portBIsMemory, if_pos ⟨hfirst, hmode⟩]
    exact ⟨rfl, rfl⟩
  | portBToA =>
    simp only [hdirection] at hmode ⊢
    rw [h.portAIsMemory, h.portBIsMemory, if_pos ⟨hfirst, hmode⟩]
    exact ⟨rfl, rfl⟩

/-- **One block is copied.**  The ticks of a block read and write its bytes one after the other,
and the device is enabled until the last of them.  Then the memory is the copy, the device is
disabled with the end of the block in its status and all bytes counted, and further ticks change
nothing. -/
theorem copies_block {d : Dma} (h : d.AboutToCopy) (bus : TestBus) :
    let src := d.sourceMode.address d.sourceCounter
    let dst := d.destinationMode.address d.destinationStart
    let after : ℕ → Traced TestBus := fun k =>
      ⟨{ bus with mem := sequentialCopy src dst bus.mem k }, copyAccesses src dst bus.mem k⟩
    (∀ k < d.blockBytes, ∃ e, d.ticks (⟨bus, []⟩ : Traced TestBus) k = some (e, after k) ∧
      e.enabled = true) ∧
    ∃ e, e.enabled = false ∧ e.notEnded = false ∧
      e.byteCounter = BitVec.ofNat 16 d.blockBytes ∧
      ∀ k, d.blockBytes ≤ k →
        d.ticks (⟨bus, []⟩ : Traced TestBus) k = some (e, after d.blockBytes) := by
  intro src dst after
  have hpass (k : ℕ) : d.view.pass (⟨bus, []⟩ : Traced TestBus) k = after k := by
    obtain ⟨hsource, hdestination⟩ := sides_aboutToCopy h
    exact BlockTransfer.pass_copy h.transfer (congrArg Side.isMemory hsource)
      (congrArg Side.isMemory hdestination)
      (fun k => by
        rw [hsource]
        exact IncrementMode.iterate_step _ _ k)
      (fun k => by
        rw [hdestination]
        exact IncrementMode.iterate_step _ _ k) bus k
  have hbytes := blockBytes_eq h.byteCounter
  have hmiss (v : U8) : ¬ d.view.Hits v := by
    intro hhit
    have hsearch : d.search = true := hhit.1
    rw [h.search] at hsearch
    cases hsearch
  constructor
  · intro k hk
    obtain ⟨e, hticks, hunderway⟩ := run_underway h.enabled (⟨bus, []⟩ : Traced TestBus)
      (by omega) fun i (_ : i < k) => hmiss _
    rw [hpass] at hticks
    exact ⟨e, hticks, hunderway.enabled h.enabled⟩
  · obtain ⟨e, hticks, hunderway⟩ := run_underway h.enabled (⟨bus, []⟩ : Traced TestBus)
      (Nat.le_refl d.view.rest) fun i _ => hmiss _
    obtain ⟨hrestart, -⟩ | ⟨-, e', htick, hoff, hend, hcount, -⟩ :=
      hunderway.finish h.enabled (⟨bus, []⟩ : Traced TestBus) fun hhit => hmiss _ hhit.1
    · rw [h.restartAtEndOfBlock] at hrestart
      cases hrestart
    · have hlast := ticks_succ hticks htick
      rw [hbytes, hpass] at hlast
      rw [hbytes, h.byteCounter] at hcount
      replace hcount := hcount.trans (BitVec.zero_add _)
      exact ⟨e', hoff, hend, hcount, fun k hk => ticks_of_disabled hlast hoff hk⟩

/-- Five bytes from address 0 to address 5. -/
def fiveBytes : Dma := { (default : Dma) with
  enabled := true, transfer := true, direction := .portAToB, blockLength := 5
  portAIsMemory := true, portAIncrementMode := .increment
  portBIsMemory := true, portBIncrementMode := .increment, portBStartAddress := 5 }

theorem copies_block_five :
    ∃ e, e.enabled = false ∧
      fiveBytes.ticks (⟨TestBus.withMem [0x12, 0x34, 0x56, 0x78, 0x90], []⟩ : Traced TestBus) 7 =
        some (e, ⟨{ TestBus.withMem [0x12, 0x34, 0x56, 0x78, 0x90] with
          mem := sequentialCopy (fun i => BitVec.ofNat 16 i) (fun i => 5 + BitVec.ofNat 16 i)
            (TestBus.withMem [0x12, 0x34, 0x56, 0x78, 0x90]).mem 5 },
          [.read 0 0x12, .write 5 0x12, .read 1 0x34, .write 6 0x34, .read 2 0x56, .write 7 0x56,
            .read 3 0x78, .write 8 0x78, .read 4 0x90, .write 9 0x90]⟩) := by
  have hready : fiveBytes.AboutToCopy :=
    ⟨rfl, rfl, rfl, rfl, rfl, rfl, rfl, rfl, by decide⟩
  obtain ⟨-, e, hoff, -, -, hrest⟩ :=
    copies_block hready (TestBus.withMem [0x12, 0x34, 0x56, 0x78, 0x90])
  have hsrc : (fun i => BitVec.ofNat 16 i) = fiveBytes.sourceMode.address fiveBytes.sourceCounter :=
    funext fun i => (BitVec.zero_add _).symm
  rw [hsrc]
  exact ⟨e, hoff, hrest 7 (by decide)⟩

end Dma

end Possum
