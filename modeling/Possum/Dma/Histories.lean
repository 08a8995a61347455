import Possum.Dma.Program

/-!
# Two devices with one program

Two idle devices with different histories are given one program.  The program does not say all
that decides the transfer: WR0 sets `transfer` and `search` and never clears them, and a device
that has ticked before does not load its destination counter.  A program that enables the device
with WR3 leaves out still more.

**`transfer_own_program`**: the devices show the same on every bus exactly when they agree in what
the program leaves to them (`Program.Agree`).
-/

set_option autoImplicit false

namespace Possum

open Lib Agent Dma

namespace Program

variable {p : Program} {d₁ d₂ : Dma}

/-- The devices agree in what the program leaves to them.  Whether and for what they search
does not matter for a block of one byte, unless a match would keep them from their restart. -/
structure Agree (p : Program) (d₁ d₂ : Dma) : Prop where
  transfers : p.transfers d₁ = p.transfers d₂
  destination : p.transfers d₁ = true → p.firstDestination d₁ = p.firstDestination d₂
  source : p.firstSource d₁ = p.firstSource d₂
  rest : p.rest d₁ = p.rest d₂
  restarts : p.restarts d₁ = p.restarts d₂
  search : (p.rest d₁ = 0 ∧ ¬ (p.restarts d₁ = true ∧ p.stops = true)) ∨
    (p.searches d₁ = p.searches d₂ ∧ (p.searches d₁ = true → p.wanted d₁ = p.wanted d₂))

theorem agree_iff : p.Agree d₁ d₂ ↔ (p.starts d₁).Same (p.starts d₂) := by
  constructor
  · intro h
    refine ⟨?_, h.transfers, fun hon => ?_, rfl, h.restarts, h.rest, h.search⟩
    · unfold starts
      rw [h.source]
    · unfold starts
      rw [h.destination hon]
  · intro h
    have hsource := congrArg Side.counter h.source
    have hdestination := fun hon => congrArg Side.counter (h.destination hon)
    unfold starts at hsource hdestination
    cases hdir : p.direction with
    | portAToB =>
      rw [hdir] at hsource hdestination
      exact ⟨h.transfer, hdestination, hsource, h.rest, h.restart, h.search⟩
    | portBToA =>
      rw [hdir] at hsource hdestination
      exact ⟨h.transfer, hdestination, hsource, h.rest, h.restart, h.search⟩

theorem starts_alike (p : Program) (d₁ d₂ : Dma) : (p.starts d₁).Alike (p.starts d₂) := by
  unfold starts
  cases p.direction <;> exact ⟨rfl, rfl, rfl, rfl, rfl⟩

/-- What a device shows after a program is what the transfer shows that the program starts. -/
theorem observe_begun {β : Type} [DeviceBus β] (p : Program) (d : Dma) (bus : β) (n : ℕ) :
    observe Dma.shown n (p.begun d) bus = observe BlockTransfer.shown n (p.starts d) bus :=
  Dma.shown_view.observe_eq (view_begun p d) bus n

end Program

/-- **Two devices with one program.**  Fed to two idle devices, a complete program makes them
perform the same accesses on every bus and stop at the same tick exactly when they agree in what
the program leaves to them. -/
theorem transfer_own_program (m : Overflow) (p : Program) {d₁ d₂ : Dma} (h₁ : d₁.Idle)
    (h₂ : d₂.Idle) :
    (∃ e₁ e₂, feed m d₁ p.bytes = some e₁ ∧ feed m d₂ p.bytes = some e₂ ∧
      ∀ (β : Type) [DeviceBus β] (bus : β) (n : ℕ),
        observe Dma.shown n e₁ bus = observe Dma.shown n e₂ bus) ↔
      p.Agree d₁ d₂ := by
  rw [Program.agree_iff, ← BlockTransfer.shown_iff rfl rfl (Program.starts_alike p d₁ d₂)]
  constructor
  · rintro ⟨e₁, e₂, hfeed₁, hfeed₂, hshown⟩ β _ bus n
    rw [Program.feed_bytes h₁] at hfeed₁
    rw [Program.feed_bytes h₂] at hfeed₂
    cases hfeed₁
    cases hfeed₂
    rw [← Program.observe_begun, ← Program.observe_begun]
    exact hshown β bus n
  · intro hshown
    refine ⟨p.begun d₁, p.begun d₂, Program.feed_bytes h₁, Program.feed_bytes h₂, ?_⟩
    intro β _ bus n
    rw [Program.observe_begun, Program.observe_begun]
    exact hshown β bus n

/-! ### A block after a block -/

/-- One byte from address 0 to address 5, in memory. -/
def oneByte : Program where
  wr0 := 0x7D
  startA := 0
  length := 1
  wr1 := 0x14
  wr2 := 0x10
  wr4 := 0xBD
  startB := 5
  control := 0x22
  vector := 0
  wr3 := 0x98
  maskByte := 0
  matchByte := 0
  wr5 := 0x82
  wr0_base := by decide
  wr0_mode := by decide
  wr0_parameters := by decide
  wr1_base := by decide
  wr1_moves := by decide
  wr1_timing := by decide
  wr2_base := by decide
  wr2_moves := by decide
  wr2_timing := by decide
  wr4_base := by decide
  wr4_parameters := by decide
  control_pulse := by decide
  wr3_base := by decide
  wr3_parameters := by decide
  wr5_base := by decide
  wr5_wait := by decide

/-- A device fresh from power-up and one whose interrupts were enabled before. -/
theorem transfer_own_program_enabled :
    ∃ e₁ e₂, feed .panics default oneByte.bytes = some e₁ ∧
      feed .panics { (default : Dma) with interruptsEnabled := true } oneByte.bytes = some e₂ ∧
      ∀ (β : Type) [DeviceBus β] (bus : β) (n : ℕ),
        observe Dma.shown n e₁ bus = observe Dma.shown n e₂ bus :=
  (transfer_own_program .panics oneByte ⟨rfl, rfl⟩ ⟨rfl, rfl⟩).2
    ⟨rfl, fun _ => rfl, rfl, rfl, rfl, Or.inr ⟨rfl, fun _ => rfl⟩⟩

/-- The device after the block of `oneByte`. -/
def afterOneByte : Dma := ((oneByte.begun default).tick (ConstantBus.mk 0)).1.getD default

theorem reachable_afterOneByte : Reachable .panics afterOneByte := by
  have hbegun : Reachable .panics (oneByte.begun default) :=
    reachable_feed .power (Program.feed_bytes ⟨rfl, rfl⟩)
  have htick : (oneByte.begun default).tick (ConstantBus.mk 0) =
      (some afterOneByte, ConstantBus.mk 0) := rfl
  exact hbegun.tick htick

/-- The second block of a device does not go where the first block of a fresh one goes: it is
written behind the first one. -/
theorem second_block :
    ¬ ∀ (m : Overflow) (p : Program) (d₁ d₂ : Dma), Reachable m d₁ → Reachable m d₂ →
      d₁.Idle → d₂.Idle →
      ∃ e₁ e₂, feed m d₁ p.bytes = some e₁ ∧ feed m d₂ p.bytes = some e₂ ∧
        ∀ (β : Type) [DeviceBus β] (bus : β) (n : ℕ),
          observe Dma.shown n e₁ bus = observe Dma.shown n e₂ bus := by
  intro h
  have hidle : afterOneByte.Idle := ⟨rfl, rfl⟩
  obtain ⟨e₁, e₂, hfeed₁, hfeed₂, hshown⟩ :=
    h .panics oneByte default afterOneByte .power reachable_afterOneByte ⟨rfl, rfl⟩ hidle
  rw [Program.feed_bytes ⟨rfl, rfl⟩] at hfeed₁
  rw [Program.feed_bytes hidle] at hfeed₂
  cases hfeed₁
  cases hfeed₂
  have hfirst := first_eq (hshown ConstantBus (ConstantBus.mk 0))
  revert hfirst
  decide

end Possum
