import Possum.Dma.Control

/-!
# Interrupts of the DMA controller

A match raises the interrupt only while interrupts are enabled.  The end of a block and the ready
condition raise it in any case, where the interrupt control asks for them.

A run keeps silent as long as interrupts are disabled exactly if no tick meets one of these two
conditions in the meantime (**`silent_iff`**).
-/

set_option autoImplicit false

namespace Possum

open Lib

namespace Dma

/-! ### A device that is watched -/

/-- A device, and whether interrupts have been enabled since power-up and the last reset. -/
structure Watched where
  chip : Dma
  allowed : Bool

/-- What a byte says about interrupts, when the device takes it for a base byte. -/
def decides (data : U8) : Option Bool :=
  if data = 0xC3 then some false
  else if data = 0xAB then some true
  else if data &&& 0x83 = 0x80 ∧ data &&& 0x20 ≠ 0 then some true
  else none

/-- What an operation says about interrupts. -/
def Watched.decides (w : Watched) : Operation → Option Bool
  | .write data => if w.chip.Idle then Dma.decides data else none
  | _ => none

/-- An operation on a device that is watched. -/
def watch (m : Overflow) : Machine Watched Operation (Option U8) := fun w op =>
  (operate m w.chip op).map fun r => (r.1, ⟨r.2, (w.decides op).getD w.allowed⟩)

/-- No interrupt without leave. -/
def Watched.Silent (w : Watched) : Prop := w.allowed = false → w.chip.interrupting = false

/-! ### Ticks -/

/-- A tick with this byte raises no interrupt at the end of a block and none for readiness: the
byte is one to stop on, or the tick does not ask for them. -/
def Quiet (d : Dma) (byte : U8) : Prop :=
  (d.search = true ∧ ~~~d.maskByte &&& d.matchByte = byte ∧ d.stopOnMatch = true) ∨
    if d.byteCounter + 1 = d.blockLength then
      d.restartAtEndOfBlock = true ∨ (d.interruptAtEndOfBlock = false ∧ d.interruptOnReady = false)
    else d.interruptOnReady = false

/-- The tick of an enabled device is quiet while interrupts are disabled. -/
def Watched.Quiet (w : Watched) : Operation → Prop
  | @Operation.tick _ _ bus =>
    w.chip.enabled = true → w.allowed = false → w.chip.Quiet (w.chip.readSource bus).1
  | _ => True

section

variable {m : Overflow} {d d' : Dma} {byte : U8}

theorem interrupting_pendIf (d : Dma) (raise : Bool) :
    (d.pendIf raise).interrupting = (d.interrupting || raise) := by
  have hbit : ∀ s : U8, ((s ||| 0x08) &&& 0x08 != 0) = true := by decide
  cases raise with
  | false => exact (Bool.or_false _).symm
  | true => exact (hbit d.status).trans (Bool.or_true _).symm

theorem interrupting_ended (d : Dma) :
    d.ended.interrupting = (d.interrupting || d.interruptAtEndOfBlock) := by
  have hbit : ∀ s : U8, (s &&& ~~~0x20 &&& 0x08 != 0) = (s &&& 0x08 != 0) := by decide
  rw [ended, interrupting_pendIf]
  exact congrArg (· || d.interruptAtEndOfBlock) (hbit d.status)

/-- The interrupts at the end of a tick. -/
theorem countByte_silent (hsilent : d.interrupting = false) :
    (∀ e, d.countByte = some e → e.interrupting = false) ↔
      if d.byteCounter + 1 = d.blockLength then
        d.restartAtEndOfBlock = true ∨
          (d.interruptAtEndOfBlock = false ∧ d.interruptOnReady = false)
      else d.interruptOnReady = false := by
  have hcounted : d.counted.interrupting = false := hsilent
  have hready (e : Dma) (he : e.interruptOnReady = d.interruptOnReady) :
      e.ready.interrupting = (e.interrupting || d.interruptOnReady) := by
    rw [← he]
    exact interrupting_pendIf e e.interruptOnReady
  unfold countByte
  by_cases hlast : d.byteCounter + 1 = d.blockLength
  · have hend : d.counted.byteCounter = d.blockLength := hlast
    rw [if_pos hlast, if_pos hend]
    by_cases hrestart : d.restartAtEndOfBlock = true
    · rw [if_pos hrestart]
      exact iff_of_true (fun e h => by cases h) (Or.inl hrestart)
    · have hended : d.counted.ended.interruptOnReady = d.interruptOnReady := by
        unfold ended pendIf
        split <;> rfl
      rw [if_neg hrestart, or_iff_right hrestart]
      have hraised : d.counted.ended.ready.interrupting =
          (d.interruptAtEndOfBlock || d.interruptOnReady) := by
        rw [hready _ hended, interrupting_ended, hcounted]
        rfl
      rw [← Bool.or_eq_false_iff, ← hraised]
      exact ⟨fun h => h _ rfl, fun h e he => by rw [← Option.some.inj he, h]⟩
  · have hend : ¬ d.counted.byteCounter = d.blockLength := hlast
    have hraised : d.counted.ready.interrupting = d.interruptOnReady := by
      rw [hready d.counted rfl, hcounted]
      rfl
    rw [if_neg hlast, if_neg hend, ← hraised]
    exact ⟨fun h => h _ rfl, fun h e he => by rw [← Option.some.inj he, h]⟩

/-- While interrupts are disabled a match raises none. -/
theorem checkMatch_silent (hdisabled : d.interruptsEnabled = false)
    (hsilent : d.interrupting = false) :
    (∀ e, d.checkMatch byte = some e → e.interrupting = false) ↔ d.Quiet byte := by
  have hbit : ∀ s : U8, (s &&& ~~~0x10 &&& 0x08 != 0) = (s &&& 0x08 != 0) := by decide
  have hfound : d.found =
      { d with status := d.status &&& ~~~RR0Mask.MATCH_NOT_FOUND, enabled := false } := by
    rw [found, hdisabled]
    rfl
  have hquiet : d.found.interrupting = false := by
    rw [hfound]
    exact (hbit d.status).trans hsilent
  unfold checkMatch Quiet
  by_cases hmatch : d.search = true ∧ ~~~d.maskByte &&& d.matchByte = byte
  · rw [if_pos hmatch]
    by_cases hstop : d.stopOnMatch = true
    · rw [if_pos hstop]
      refine iff_of_true ?_ (Or.inl ⟨hmatch.1, hmatch.2, hstop⟩)
      intro e he
      rw [← Option.some.inj he, hquiet]
    · rw [if_neg hstop, countByte_silent hquiet, hfound]
      exact (or_iff_right fun h => hstop h.2.2).symm
  · rw [if_neg hmatch, countByte_silent hsilent]
    exact (or_iff_right fun h => hmatch ⟨h.1, h.2.1⟩).symm

/-- What the tick of an enabled device raises while interrupts are disabled. -/
theorem tick_silent {β : Type} [DeviceBus β] {bus : β} (hon : d.enabled = true)
    (hdisabled : d.interruptsEnabled = false) (hsilent : d.interrupting = false) :
    (∀ e, (d.tick bus).1 = some e → e.interrupting = false) ↔
      d.Quiet (d.readSource bus).1 := by
  have hbit : ∀ s : U8, ((s ||| 0x01) &&& 0x08 != 0) = (s &&& 0x08 != 0) := by decide
  obtain ⟨a, b, hmoved⟩ := moved_eq d
  rw [tick_of_enabled hon, hmoved, checkMatch_silent]
  · exact Iff.rfl
  · exact hdisabled
  · exact (hbit d.status).trans hsilent

/-! ### Writes -/

theorem queue_control (d : Dma) (bit : U8) (r : ReadRegister) :
    (d.queue bit r).control = d.control := by
  unfold queue
  split <;> rfl

theorem load_control (d : Dma) : d.load.control = d.control := by
  unfold load
  split <;> rfl

/-- Parts of the device that are made of the control parts. -/
theorem interrupts_of_control (h : d'.control = d.control) :
    d'.interruptsEnabled = d.interruptsEnabled ∧ d'.interrupting = d.interrupting := by
  have hstatus : d'.status = d.status := congrArg (fun c => c.2.2) h
  exact ⟨congrArg (fun c => c.2.1) h, congrArg (· &&& RR0Mask.INTERRUPT_PENDING != 0) hstatus⟩

/-- A reset lowers the interrupt, no other control byte touches it. -/
theorem command_interrupts {data : U8} (h : d.command data = some d') :
    d'.interruptsEnabled = (decides data).getD d.interruptsEnabled ∧
      d'.interrupting = if data = 0xC3 then false else d.interrupting := by
  have hreset : ∀ s : U8, (s &&& ~~~0x08 &&& 0x08 != 0) = false := by decide
  have hinit : ∀ s : U8, ((s ||| 0x10 ||| 0x20) &&& 0x08 != 0) = (s &&& 0x08 != 0) := by decide
  obtain ⟨rfl, rfl⟩ | ⟨rfl, rfl⟩ | ⟨rfl, rfl⟩ | ⟨rfl, rfl⟩ | ⟨rfl, rfl⟩ | ⟨rfl, rfl⟩ | ⟨rfl, rfl⟩ |
    ⟨rfl, rfl⟩ | ⟨rfl, rfl⟩ | ⟨rfl, rfl⟩ := command_cases h
  -- reset, load, continue, enable interrupts, read status, reinitialise, read mask
  · exact ⟨rfl, hreset d.status⟩
  · exact interrupts_of_control (load_control d)
  · exact ⟨rfl, rfl⟩
  · exact ⟨rfl, rfl⟩
  · exact ⟨rfl, rfl⟩
  · exact ⟨rfl, hinit d.status⟩
  · exact ⟨rfl, rfl⟩
  -- initiate read, enable, disable
  · have hcontrol : d.initiateRead.control = d.control := by
      simp only [initiateRead, queue_control]
    exact interrupts_of_control hcontrol
  · exact ⟨rfl, rfl⟩
  · exact ⟨rfl, rfl⟩

/-- What a write does to the interrupts. -/
theorem write_interrupts {data : U8} (h : d.write m data = some d') :
    d'.interruptsEnabled = (if d.Idle then decides data else none).getD d.interruptsEnabled ∧
      d'.interrupting = if d.Idle ∧ data = 0xC3 then false else d.interrupting := by
  obtain ⟨hother, hcontrol⟩ | ⟨hidle, h3, rfl⟩ | ⟨hidle, h6, hwr6⟩ := write_control h
  · obtain ⟨henabled, hpending⟩ := interrupts_of_control hcontrol
    by_cases hidle : d.Idle
    · obtain ⟨h3, h6⟩ := hother hidle
      have hc3 : data ≠ 0xC3 := by
        rintro rfl
        exact h6 rfl
      have hab : data ≠ 0xAB := by
        rintro rfl
        exact h6 rfl
      rw [if_pos hidle, if_neg fun h => hc3 h.2, decides, if_neg hc3, if_neg hab,
        if_neg fun h => h3 h.1]
      exact ⟨henabled, hpending⟩
    · rw [if_neg hidle, if_neg fun h => hidle h.1]
      exact ⟨henabled, hpending⟩
  · have hbits : ∀ b : U8, b &&& 0x83 = 0x80 → b ≠ 0xC3 ∧ b ≠ 0xAB := by decide
    obtain ⟨hc3, hab⟩ := hbits data h3
    have hcontrol : (d.writeWR3 data).control = (data &&& 0x40 != 0 || d.enabled,
        data &&& 0x20 != 0 || d.interruptsEnabled, d.status) :=
      (announce_control ..).trans (announce_control ..)
    have henabled : (d.writeWR3 data).interruptsEnabled =
        (data &&& 0x20 != 0 || d.interruptsEnabled) := congrArg (fun c => c.2.1) hcontrol
    have hstatus : (d.writeWR3 data).status = d.status := congrArg (fun c => c.2.2) hcontrol
    rw [if_pos hidle, if_neg fun h => hc3 h.2, decides, if_neg hc3, if_neg hab, henabled]
    refine ⟨?_, congrArg (· &&& RR0Mask.INTERRUPT_PENDING != 0) hstatus⟩
    by_cases h20 : data &&& 0x20 = 0
    · rw [h20, if_neg fun h => h.2 rfl]
      rfl
    · rw [if_pos ⟨h3, h20⟩, bne_iff_ne.2 h20]
      rfl
  · obtain ⟨henabled, hpending⟩ := command_interrupts hwr6
    rw [if_pos hidle]
    refine ⟨henabled, ?_⟩
    simp only [hidle, true_and]
    exact hpending

/-! ### Runs -/

/-- The device knows whether interrupts are allowed. -/
def Watched.Informed (w : Watched) : Prop := w.allowed = w.chip.interruptsEnabled

variable {w w' : Watched} {op : Operation} {answer : Option U8}

theorem watch_eq_some : watch m w op = some (answer, w') ↔
    ∃ e, operate m w.chip op = some (answer, e) ∧ w' = ⟨e, (w.decides op).getD w.allowed⟩ := by
  constructor
  · intro h
    obtain ⟨⟨a, e⟩, hop, heq⟩ := Option.map_eq_some_iff.1 h
    cases heq
    exact ⟨e, hop, rfl⟩
  · rintro ⟨e, hop, rfl⟩
    exact Option.map_eq_some_iff.2 ⟨(answer, e), hop, rfl⟩

theorem informed_watch (hinformed : w.Informed) (h : watch m w op = some (answer, w')) :
    w'.Informed := by
  obtain ⟨e, hop, rfl⟩ := watch_eq_some.1 h
  show (w.decides op).getD w.allowed = e.interruptsEnabled
  rw [hinformed]
  cases op with
  | write data => exact (write_interrupts (operate_write hop)).1.symm
  | read =>
    obtain ⟨order, rfl⟩ := operate_read hop
    rfl
  | tick bus =>
    obtain ⟨s, b, c, portA, portB, rfl⟩ := tick_eq (operate_tick.1 hop).2
    rfl

/-- From a silent state, a step that is quiet, and no other, leads to silent ones. -/
theorem quiet_iff (hinformed : w.Informed) (hsilent : w.Silent) :
    w.Quiet op ↔ ∀ answer w', watch m w op = some (answer, w') → w'.Silent := by
  cases op with
  | write data =>
    refine iff_of_true trivial fun answer w' h => ?_
    obtain ⟨e, hop, rfl⟩ := watch_eq_some.1 h
    intro hallowed
    have hdecided : (if w.chip.Idle then decides data else none).getD w.allowed = false := hallowed
    show e.interrupting = false
    rw [(write_interrupts (operate_write hop)).2]
    by_cases hreset : w.chip.Idle ∧ data = 0xC3
    · exact if_pos hreset
    · rw [if_neg hreset]
      refine hsilent ?_
      -- without a reset only leave is given
      by_cases hidle : w.chip.Idle
      · have hc3 : data ≠ 0xC3 := fun h => hreset ⟨hidle, h⟩
        rw [if_pos hidle, decides, if_neg hc3] at hdecided
        split at hdecided
        · cases hdecided
        · split at hdecided
          · cases hdecided
          · exact hdecided
      · rw [if_neg hidle] at hdecided
        exact hdecided
  | read =>
    refine iff_of_true trivial fun answer w' h => ?_
    obtain ⟨e, hop, rfl⟩ := watch_eq_some.1 h
    obtain ⟨order, rfl⟩ := operate_read hop
    exact hsilent
  | @tick β device bus =>
    have hsteps (P : Dma → Prop) : (∀ answer w', watch m w (.tick bus) = some (answer, w') →
        P w'.chip) ↔ ∀ e, (w.chip.tick bus).1 = some e → P e := by
      constructor
      · intro h e htick
        exact h none ⟨e, w.allowed⟩ (watch_eq_some.2 ⟨e, operate_tick.2 ⟨rfl, htick⟩, rfl⟩)
      · intro h answer w' hwatch
        obtain ⟨e, hop, rfl⟩ := watch_eq_some.1 hwatch
        exact h e (operate_tick.1 hop).2
    have hleave : ∀ answer w', watch m w (.tick bus) = some (answer, w') →
        w'.allowed = w.allowed := by
      intro answer w' h
      obtain ⟨e, -, rfl⟩ := watch_eq_some.1 h
      rfl
    cases hallowed : w.allowed with
    | true =>
      refine iff_of_true (fun _ h => ?_) fun answer w' h hoff => ?_
      · rw [hallowed] at h
        cases h
      · rw [hleave answer w' h, hallowed] at hoff
        cases hoff
    | false =>
      have hpending := hsilent hallowed
      have hstep : (∀ answer w', watch m w (.tick bus) = some (answer, w') → w'.Silent) ↔
          ∀ e, (w.chip.tick bus).1 = some e → e.interrupting = false := by
        rw [← hsteps fun e => e.interrupting = false]
        constructor
        · intro h answer w' hwatch
          exact h answer w' hwatch ((hleave answer w' hwatch).trans hallowed)
        · intro h answer w' hwatch _
          exact h answer w' hwatch
      rw [hstep]
      cases hon : w.chip.enabled with
      | true =>
        rw [tick_silent hon (hinformed.symm.trans hallowed) hpending]
        exact ⟨fun h => h hon hallowed, fun h _ _ => h⟩
      | false =>
        refine iff_of_true (fun h => ?_) fun e he => ?_
        · rw [hon] at h
          cases h
        · rw [tick_of_disabled hon] at he
          obtain rfl := Option.some.inj he
          exact hpending

end

/-- **When disabled interrupts are silent.**  In a run from power-up no interrupt is seen while
interrupts have not been enabled since power-up and the last reset, if and only if no tick in such
a state ends a block with the interrupt at the end of a block or leaves the device going on with
the interrupt on ready. -/
theorem silent_iff (m : Overflow) (ops : List Operation) :
    (watch m).Throughout Watched.Silent ⟨default, false⟩ ops ↔
      (watch m).Along Watched.Quiet ⟨default, false⟩ ops := by
  have hstep : ∀ w op answer w', Watched.Informed w → watch m w op = some (answer, w') →
      w'.Informed := fun _ _ _ _ => informed_watch
  have hinformed : Watched.Informed ⟨default, false⟩ := rfl
  have hsilent : Watched.Silent ⟨default, false⟩ := fun _ => rfl
  exact Machine.throughout_iff_along hstep (fun _ _ hi hs => quiet_iff hi hs) hinformed hsilent ops

/-- `simple_transfer` without the byte that enables interrupts, and the ticks of its block. -/
def unaskedTransfer : List Operation :=
  [0x7D, 0x00, 0x00, 0x05, 0x00, 0x14, 0x10, 0xBD, 0x05, 0x00, 0x22, 0xCF, 0x87].map .write ++
    List.replicate 5 (.tick (ConstantBus.mk 0))

/-- It ends in an interrupt. -/
theorem silent_not :
    ((watch .panics).run ⟨default, false⟩ unaskedTransfer).map
        (fun r => (r.2.allowed, r.2.chip.interrupting)) = some (false, true) ∧
      ¬ ∀ ops, (watch .panics).Throughout Watched.Silent ⟨default, false⟩ ops := by
  have hrun : ((watch .panics).run ⟨default, false⟩ unaskedTransfer).map
      (fun r => (r.2.allowed, r.2.chip.interrupting)) = some (false, true) := by decide
  refine ⟨hrun, fun h => ?_⟩
  obtain ⟨⟨answers, w'⟩, hlast, heq⟩ := Option.map_eq_some_iff.1 hrun
  have hallowed : w'.allowed = false := congrArg Prod.fst heq
  have hpending : w'.chip.interrupting = true := congrArg Prod.snd heq
  have hsilent := (h unaskedTransfer).last hlast hallowed
  rw [hpending] at hsilent
  cases hsilent

end Dma

end Possum
