import Possum.Dma.Framing
import Possum.Lib.Run

/-!
# Stopping the DMA controller

A control byte should stop a transfer.  The command decoder does so for every control byte but the
enable, but it never sees a byte that is written while the device is enabled: a guest can only stop
a device that is stopped (**`stops_iff`**).

`operate` is the device as a machine, whose inputs are the writes and reads of the guest and ticks
on any bus.  `write_control` says what a write does to the enables and the status.
-/

set_option autoImplicit false

namespace Possum

open Lib

namespace Dma

/-! ### Operations -/

/-- What happens to a device.  Every tick may find another bus. -/
inductive Operation : Type 1
  | write (data : U8)
  | read
  | tick {β : Type} [DeviceBus β] (bus : β)

/-- One operation, with the byte that a read answers. -/
def operate (m : Overflow) : Machine Dma Operation (Option U8)
  | d, .write data => (d.write m data).map fun d' => (none, d')
  | d, .read => (d.read m).map fun r => (some r.1, r.2)
  | d, @Operation.tick _ _ bus => (d.tick bus).1.map fun d' => (none, d')

variable {m : Overflow} {d d' : Dma} {data : U8}

theorem operate_write {answer : Option U8} (h : operate m d (.write data) = some (answer, d')) :
    d.write m data = some d' := by
  obtain ⟨e, hwrite, heq⟩ := Option.map_eq_some_iff.1 h
  cases heq
  exact hwrite

/-- A read takes a register off the list of those to read. -/
theorem operate_read {answer : Option U8} (h : operate m d .read = some (answer, d')) :
    ∃ order, d' = { d with readOrder := order } := by
  obtain ⟨r, hread, heq⟩ := Option.map_eq_some_iff.1 h
  cases heq
  obtain ⟨-, -, rfl⟩ := Option.map_eq_some_iff.1 hread
  split
  · exact ⟨_, rfl⟩
  · exact ⟨d.readOrder, rfl⟩

theorem operate_tick {β : Type} [DeviceBus β] {bus : β} {answer : Option U8} :
    operate m d (.tick bus) = some (answer, d') ↔ answer = none ∧ (d.tick bus).1 = some d' := by
  constructor
  · intro h
    obtain ⟨e, htick, heq⟩ := Option.map_eq_some_iff.1 h
    cases heq
    exact ⟨rfl, htick⟩
  · rintro ⟨rfl, htick⟩
    exact Option.map_eq_some_iff.2 ⟨d', htick, rfl⟩

/-- The parts of a device that its transfers and its interrupts hang on. -/
def control (d : Dma) : Bool × Bool × U8 := (d.enabled, d.interruptsEnabled, d.status)

theorem announce_control (d : Dma) (data bit : U8) (r : WriteRegister) :
    (d.announce data bit r).control = d.control := by
  unfold announce
  split <;> rfl

/-- **What a base byte can do.** -/
theorem writeBase_cases (h : d.writeBase data = some d') :
    (data &&& 0x87 = 0x04 ∧ d.writeWR1 data = some d') ∨
      (data &&& 0x87 = 0x00 ∧ d.writeWR2 data = some d') ∨
      (data &&& 0x80 = 0x00 ∧ d.writeWR0 data = some d') ∨
      (data &&& 0x83 = 0x80 ∧ d' = d.writeWR3 data) ∨
      (data &&& 0x83 = 0x81 ∧ d.writeWR4 data = some d') ∨
      (data &&& 0xC7 = 0x82 ∧ d.writeWR5 data = some d') ∨
      (data &&& 0x83 = 0x83 ∧ d.writeWR6 data = some d') ∨
      (data &&& 0x83 ≠ 0x80 ∧ data &&& 0x83 ≠ 0x83 ∧ d' = d) := by
  unfold writeBase at h
  by_cases h1 : data &&& 0x87 = 0x04
  · rw [if_pos h1] at h
    exact .inl ⟨h1, h⟩
  rw [if_neg h1] at h
  by_cases h2 : data &&& 0x87 = 0x00
  · rw [if_pos h2] at h
    exact .inr (.inl ⟨h2, h⟩)
  rw [if_neg h2] at h
  by_cases h0 : data &&& 0x80 = 0x00
  · rw [if_pos h0] at h
    exact .inr (.inr (.inl ⟨h0, h⟩))
  rw [if_neg h0] at h
  by_cases h3 : data &&& 0x83 = 0x80
  · rw [if_pos h3] at h
    exact .inr (.inr (.inr (.inl ⟨h3, (Option.some.inj h).symm⟩)))
  rw [if_neg h3] at h
  by_cases h4 : data &&& 0x83 = 0x81
  · rw [if_pos h4] at h
    exact .inr (.inr (.inr (.inr (.inl ⟨h4, h⟩))))
  rw [if_neg h4] at h
  by_cases h5 : data &&& 0xC7 = 0x82
  · rw [if_pos h5] at h
    exact .inr (.inr (.inr (.inr (.inr (.inl ⟨h5, h⟩)))))
  rw [if_neg h5] at h
  by_cases h6 : data &&& 0x83 = 0x83
  · rw [if_pos h6] at h
    exact .inr (.inr (.inr (.inr (.inr (.inr (.inl ⟨h6, h⟩))))))
  · rw [if_neg h6] at h
    exact .inr (.inr (.inr (.inr (.inr (.inr (.inr ⟨h3, h6, (Option.some.inj h).symm⟩))))))

/-- **What a write can do.** -/
theorem write_cases (h : d.write m data = some d') :
    (d.enabled = true ∧ d' = d) ∨ (d.Idle ∧ d.writeBase data = some d') ∨
      ∃ r rest, d.enabled = false ∧ d.writeOrder = r :: rest ∧
        (d.await rest).writeParameter r data = some d' := by
  obtain ⟨-, -, h⟩ := Option.bind_eq_some_iff.1 h
  cases henabled : d.enabled with
  | true =>
    rw [if_pos henabled] at h
    exact .inl ⟨rfl, (Option.some.inj h).symm⟩
  | false =>
    rw [henabled, if_neg Bool.false_ne_true] at h
    cases horder : d.writeOrder with
    | nil =>
      rw [horder] at h
      exact .inr (.inl ⟨⟨henabled, horder⟩, h⟩)
    | cons r rest =>
      rw [horder] at h
      exact .inr (.inr ⟨r, rest, rfl, rfl, h⟩)

/-- A byte decoded as a base byte: WR3, WR6, or one that leaves the control parts alone. -/
theorem writeBase_control (h : d.writeBase data = some d') :
    (data &&& 0x83 ≠ 0x80 ∧ data &&& 0x83 ≠ 0x83 ∧ d'.control = d.control) ∨
      (data &&& 0x83 = 0x80 ∧ d' = d.writeWR3 data) ∨
      (data &&& 0x83 = 0x83 ∧ d.writeWR6 data = some d') := by
  have hlow : ∀ b : U8, b &&& 0x87 = 0x04 ∨ b &&& 0x87 = 0x00 ∨ b &&& 0x80 = 0x00 →
      b &&& 0x83 ≠ 0x80 ∧ b &&& 0x83 ≠ 0x83 := by decide
  obtain ⟨h1, h⟩ | ⟨h2, h⟩ | ⟨h0, h⟩ | hwr3 | ⟨h4, h⟩ | ⟨h5, h⟩ | hwr6 | ⟨h3, h6, rfl⟩ :=
    writeBase_cases h
  · obtain ⟨mode, -, rfl⟩ := Option.map_eq_some_iff.1 h
    obtain ⟨h3, h6⟩ := hlow data (Or.inl h1)
    exact Or.inl ⟨h3, h6, announce_control ..⟩
  · obtain ⟨mode, -, rfl⟩ := Option.map_eq_some_iff.1 h
    obtain ⟨h3, h6⟩ := hlow data (Or.inr (Or.inl h2))
    exact Or.inl ⟨h3, h6, announce_control ..⟩
  · obtain ⟨h3, h6⟩ := hlow data (Or.inr (Or.inr h0))
    refine Or.inl ⟨h3, h6, ?_⟩
    obtain ⟨e, hmode, rfl⟩ := Option.map_eq_some_iff.1 h
    simp only [announce_control]
    unfold setMode at hmode
    split at hmode <;> cases hmode <;> rfl
  · exact Or.inr (Or.inl hwr3)
  · obtain ⟨mode, -, rfl⟩ := Option.map_eq_some_iff.1 h
    refine Or.inl ⟨?_, ?_, ?_⟩
    · rw [h4]
      decide
    · rw [h4]
      decide
    · simp only [announce_control]
      rfl
  · have hbits : ∀ b : U8, b &&& 0xC7 = 0x82 → b &&& 0x83 ≠ 0x80 ∧ b &&& 0x83 ≠ 0x83 := by decide
    obtain ⟨h3, h6⟩ := hbits data h5
    refine Or.inl ⟨h3, h6, ?_⟩
    unfold writeWR5 at h
    split at h
    · cases h
    · obtain rfl := Option.some.inj h
      rfl
  · exact Or.inr (Or.inr hwr6)
  · exact Or.inl ⟨h3, h6, rfl⟩

theorem writeInterruptControl_eq (h : d.writeInterruptControl data = some d') :
    d' = ({ d with
      interruptOnMatch := data &&& 0x01 != 0
      interruptAtEndOfBlock := data &&& 0x02 != 0
      statusAffectsVector := data &&& 0x20 != 0
      interruptOnReady := data &&& 0x40 != 0 }.announce data 0x10 .interruptVector).announce
        data 0x08 .pulseControl := by
  unfold writeInterruptControl at h
  by_cases hpulse : data &&& 0x04 ≠ 0
  · rw [if_pos hpulse] at h
    cases h
  · rw [if_neg hpulse] at h
    exact (Option.some.inj h).symm

theorem writeParameter_control {r : WriteRegister} (h : d.writeParameter r data = some d') :
    d'.control = d.control := by
  cases r with
  | interruptControl =>
    rw [writeInterruptControl_eq h, announce_control, announce_control]
    rfl
  | _ =>
    cases h
    try rfl

/-- **What a write does to the control parts**: nothing, unless the device is idle and takes
it for the base byte of WR3 or WR6. -/
theorem write_control (h : d.write m data = some d') :
    ((d.Idle → data &&& 0x83 ≠ 0x80 ∧ data &&& 0x83 ≠ 0x83) ∧ d'.control = d.control) ∨
      (d.Idle ∧ data &&& 0x83 = 0x80 ∧ d' = d.writeWR3 data) ∨
      (d.Idle ∧ data &&& 0x83 = 0x83 ∧ d.writeWR6 data = some d') := by
  obtain ⟨hon, rfl⟩ | ⟨hidle, hbase⟩ | ⟨r, rest, -, horder, hparameter⟩ := write_cases h
  · refine Or.inl ⟨fun hidle => ?_, rfl⟩
    rw [hidle.enabled] at hon
    cases hon
  · obtain ⟨h3, h6, hcontrol⟩ | ⟨h3, rfl⟩ | ⟨h6, hwr6⟩ := writeBase_control hbase
    · exact Or.inl ⟨fun _ => ⟨h3, h6⟩, hcontrol⟩
    · exact Or.inr (Or.inl ⟨hidle, h3, rfl⟩)
    · exact Or.inr (Or.inr ⟨hidle, h6, hwr6⟩)
  · have hcontrol : d'.control = (d.await rest).control := writeParameter_control hparameter
    refine Or.inl ⟨fun hidle => ?_, hcontrol⟩
    rw [hidle.writeOrder] at horder
    cases horder

/-! ### Stopping -/

/-- No control byte but the enable leaves the device enabled. -/
theorem enabled_command (hoff : d.enabled = false) (h : d.command data = some d') :
    d'.enabled = true ↔ data = 0x87 := by
  by_cases hbb : data = 0xBB
  · subst hbb
    obtain rfl := Option.some.inj h
    show d.enabled = true ↔ _
    rw [hoff]
    decide
  · exact (command_keeps h hbb hoff).2.1

/-- A device is enabled by a base byte that says so, and only while it is idle. -/
theorem enabled_write (hoff : d.enabled = false) (h : d.write m data = some d')
    (hon : d'.enabled = true) : d.Idle ∧ Enables data := by
  obtain ⟨-, hcontrol⟩ | ⟨hidle, h3, rfl⟩ | ⟨hidle, -, hwr6⟩ := write_control h
  · have hsame : d'.enabled = d.enabled := congrArg Prod.fst hcontrol
    rw [hsame, hoff] at hon
    cases hon
  · have henabled : (d.writeWR3 data).enabled = (data &&& 0x40 != 0 || d.enabled) :=
      congrArg Prod.fst ((announce_control ..).trans (announce_control ..))
    rw [henabled, hoff, Bool.or_false] at hon
    exact ⟨hidle, Or.inr ⟨h3, bne_iff_ne.1 hon⟩⟩
  · have hstopped : ({ d with enabled := false } : Dma).enabled = false := rfl
    exact ⟨hidle, Or.inl ((enabled_command hstopped hwr6).1 hon)⟩

/-- The operation is a write that enables the device. -/
def Starts (d : Dma) : Operation → Prop
  | .write data => d.Idle ∧ Enables data
  | _ => False

/-- A tick leaves the bus, and the device, as they are. -/
def Untouched (d : Dma) : Operation → Prop
  | @Operation.tick _ _ bus => d.tick bus = (some d, bus)
  | _ => True

/-- A control byte that stops the device: until the next enable, whatever happens, no tick goes to
the bus. -/
def Stops (m : Overflow) (d : Dma) (data : U8) : Prop :=
  ∃ d', d.write m data = some d' ∧ d'.enabled = false ∧
    ∀ ops, (operate m).Along (fun e op => ¬ e.Starts op) d' ops →
      (operate m).Along Untouched d' ops

theorem enabled_operate {op : Operation} {answer : Option U8} (hoff : d.enabled = false)
    (hstart : ¬ d.Starts op) (h : operate m d op = some (answer, d')) : d'.enabled = false := by
  cases op with
  | write data =>
    have hwrite := operate_write h
    exact Bool.eq_false_iff.2 fun hon => hstart (enabled_write hoff hwrite hon)
  | read =>
    obtain ⟨order, rfl⟩ := operate_read h
    exact hoff
  | tick bus =>
    have htick := (operate_tick.1 h).2
    rw [tick_of_disabled hoff] at htick
    obtain rfl := Option.some.inj htick
    exact hoff

theorem untouched_of_disabled (hoff : d.enabled = false) (op : Operation) : d.Untouched op := by
  cases op with
  | tick bus => exact tick_of_disabled hoff
  | _ => trivial

/-- A disabled device stays away from the bus until it is enabled. -/
theorem along_untouched (hoff : d.enabled = false) {ops : List Operation}
    (h : (operate m).Along (fun e op => ¬ e.Starts op) d ops) :
    (operate m).Along Untouched d ops := by
  induction ops generalizing d with
  | nil => trivial
  | cons op ops ih =>
    obtain ⟨hstart, hrest⟩ := h
    refine ⟨untouched_of_disabled hoff op, ?_⟩
    intro answer d' hstep
    exact ih (enabled_operate hoff hstart hstep) (hrest answer d' hstep)

/-- **When a control byte stops the device.**  At a command boundary, a supported control byte
other than the enable stops the device exactly if the device is not enabled. -/
theorem stops_iff (m : Overflow) {d : Dma} (hboundary : d.writeOrder = []) {data : U8}
    (hsupported : data ∈ commands) (hother : data ≠ 0x87) :
    Stops m d data ↔ d.enabled = false := by
  constructor
  · rintro ⟨d', hwrite, hoff, -⟩
    refine Bool.eq_false_iff.2 fun hon => ?_
    have hdropped := feed_enabled (m := m) hon (by rw [hboundary]; exact Nat.zero_le 8) [data]
    rw [feed_cons hwrite] at hdropped
    obtain rfl := Option.some.inj hdropped
    rw [hoff] at hon
    cases hon
  · intro hoff
    have hbase : ∀ b ∈ commands, b &&& 0x83 = 0x83 := by decide
    obtain ⟨d', hcommand⟩ := Option.isSome_iff_exists.1 ((command_isSome_iff d data).2 hsupported)
    have hwrite : d.write m data = some d' :=
      (Program.write_wr6 ⟨hoff, hboundary⟩ (hbase data hsupported)).trans hcommand
    have hstopped : d'.enabled = false :=
      Bool.eq_false_iff.2 fun hon => hother ((enabled_command hoff hcommand).1 hon)
    exact ⟨d', hwrite, hstopped, fun _ => along_untouched hstopped⟩

/-- `simple_transfer` from port A to port B, up to the enable. -/
def simpleTransfer : List U8 :=
  [0x7D, 0x00, 0x00, 0x05, 0x00, 0x14, 0x10, 0xBD, 0x05, 0x00, 0x22, 0xCF, 0xAB, 0x87]

/-- The device of the test after its transfer of five bytes. -/
def finished : Dma :=
  (((operate .panics).run default (simpleTransfer.map Operation.write ++
    List.replicate 5 (.tick (ConstantBus.mk 0)))).map Prod.snd).getD default

/-- Then a reset stops it for good. -/
theorem stops_iff_finished : Stops .panics finished 0xC3 :=
  (stops_iff .panics (by decide) (by decide) (by decide)).2 (by decide)

/-- The device of the test in the middle of its transfer. -/
def midway : Dma :=
  ((feed .panics default simpleTransfer).bind fun d => (d.tick (ConstantBus.mk 0)).1).getD default

theorem reachable_midway : Reachable .panics midway := by
  have hfeed : feed .panics default simpleTransfer =
      some ((feed .panics default simpleTransfer).getD default) := by decide
  have htick : ((feed .panics default simpleTransfer).getD default).tick (ConstantBus.mk 0) =
      (some midway, ConstantBus.mk 0) := rfl
  exact (reachable_feed .power hfeed).tick htick

/-- Neither disable nor reset stops it. -/
theorem stops_not :
    midway.enabled = true ∧ midway.writeOrder = [] ∧
      (midway.write .panics 0x83).map enabled = some true ∧
      (midway.write .panics 0xC3).map enabled = some true ∧
      ¬ ∀ (d : Dma) (data : U8), Reachable .panics d → d.writeOrder = [] → data ∈ commands →
        data ≠ 0x87 → Stops .panics d data := by
  refine ⟨by decide, by decide, by decide, by decide, ?_⟩
  intro h
  obtain ⟨d', hwrite, hoff, -⟩ :=
    h midway 0x83 reachable_midway (by decide) (by decide) (by decide)
  have hdropped : midway.write .panics 0x83 = some midway := by decide
  rw [hdropped] at hwrite
  obtain rfl := Option.some.inj hwrite
  exact absurd hoff (by decide)

end Dma

end Possum
