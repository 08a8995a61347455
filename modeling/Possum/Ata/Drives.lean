import Possum.Ata.Access

/-!
# The bus is two independent drives

The two cards share their task-file registers and nothing else.  The registers evolve by
the register writes alone (`PortOp.registersAfter`), so the accesses each drive sees, with
the register values at that moment, can be read off the port accesses without running
anything (`accesses`).  The two theorems here say that a run of the bus is exactly a pair of
runs of its cards on their own accesses: `run_card` projects a run of the bus to a drive,
`run_of_cards` puts two runs together.  Every claim about an interleaving of the two drives
becomes a claim about one card.
-/

set_option autoImplicit false

namespace Possum.Ata

open Lib.Machine

/-- The task-file registers after an access. -/
def PortOp.registersAfter (op : PortOp) (r : SharedRegisters) : SharedRegisters :=
  match op.access with
  | .writeRegister n data => r.put n data
  | _ => r

/-- The access a port access makes to drive `d`, if it reaches it. -/
def PortOp.reaches (op : PortOp) (r : SharedRegisters) (d : Drive) : Option CardAccess :=
  match op.access with
  | .card a => if r.drive = d then some a else none
  | _ => none

/-- The accesses that reach drive `d`, each with the registers it finds. -/
def accesses (d : Drive) : SharedRegisters → List PortOp → List (SharedRegisters × CardAccess)
  | _, [] => []
  | r, op :: ops =>
      match op.reaches r d with
      | some a => (r, a) :: accesses d (op.registersAfter r) ops
      | none => accesses d (op.registersAfter r) ops

theorem reaches_eq_some {op : PortOp} {r : SharedRegisters} {d : Drive} {a : CardAccess}
    (h : op.reaches r d = some a) : op.access = .card a := by
  unfold PortOp.reaches at h
  split at h
  next a' ha =>
    split at h
    · rw [ha, Option.some.inj h]
    · cases h
  next => cases h

/-- The answers, among those of a run, that drive `d` gave. -/
def answersOf (d : Drive) : SharedRegisters → List PortOp → List (Option U8) → List (Option U8)
  | r, op :: ops, o :: os =>
      match op.reaches r d with
      | some _ => o :: answersOf d (op.registersAfter r) ops os
      | none => answersOf d (op.registersAfter r) ops os
  | _, _, _ => []

theorem accesses_writeRegister {op : PortOp} {n : ℕ} {data : U8}
    (h : op.access = .writeRegister n data) (d : Drive) (r : SharedRegisters)
    (ops : List PortOp) : accesses d r (op :: ops) = accesses d (r.put n data) ops := by
  simp [accesses, PortOp.reaches, PortOp.registersAfter, h]

theorem accesses_card {op : PortOp} {a : CardAccess} (h : op.access = .card a) (d : Drive)
    (r : SharedRegisters) (ops : List PortOp) :
    accesses d r (op :: ops)
      = if r.drive = d then (r, a) :: accesses d r ops else accesses d r ops := by
  by_cases hd : r.drive = d <;>
    simp [accesses, PortOp.reaches, PortOp.registersAfter, h, hd]

section

variable {M : Type} [MemoryMap M]

/-- A card as a machine: it reads accesses, each with the registers of that moment. -/
def Card.step : Lib.Machine (Card M) (SharedRegisters × CardAccess) (Option U8) :=
  fun c x => c.access x.1 x.2

theorem Card.step_command {c c' : Card M} {r : SharedRegisters} {code : U8}
    (h : c.writeCommand r code = some c') : Card.step c (r, .command code) = some (none, c') := by
  rw [Card.step, Card.access, h, Option.map_some]

theorem Card.step_writeData {c c' : Card M} {r : SharedRegisters} {b : U8}
    (h : c.writeData b = some c') : Card.step c (r, .writeData b) = some (none, c') := by
  rw [Card.step, Card.access, h, Option.map_some]

theorem Card.step_readData {c c' : Card M} {r : SharedRegisters} {b : U8}
    (h : c.readData = some (b, c')) : Card.step c (r, .readData) = some (some b, c') := by
  rw [Card.step, Card.access, h, Option.map_some]

/-- A run that begins with a command. -/
theorem Card.run_command {c c₁ c₂ : Card M} {r : SharedRegisters} {code : U8}
    {xs : List (SharedRegisters × CardAccess)} {os : List (Option U8)}
    (h : c.writeCommand r code = some c₁) (hrun : run Card.step c₁ xs = some (os, c₂)) :
    run Card.step c ((r, .command code) :: xs) = some (none :: os, c₂) := by
  rw [run_cons (Card.step_command h), hrun, Option.map_some]

/-- Registers and cards after one access: the registers depend on the access alone, and a
drive the access does not reach keeps its card. -/
theorem step_registers {bus bus' : CardBus M} {op : PortOp} {o : Option U8}
    (h : step bus op = some (o, bus')) : bus'.registers = op.registersAfter bus.registers := by
  unfold PortOp.registersAfter
  cases ha : op.access with
  | readRegister =>
    obtain ⟨b, hb⟩ := step_readRegister bus ha
    rw [hb] at h
    cases h
    rfl
  | writeRegister n data =>
    rw [step_writeRegister bus ha] at h
    cases h
    rfl
  | card a =>
    rcases step_cases h with hcards | ⟨a', c, c', ha', -, -, rfl⟩
    · rw [step_card bus ha] at h
      cases hc : bus.card bus.registers.drive with
      | none => rw [hc] at h; cases h; rfl
      | some c =>
        rw [hc] at h
        simp only [Option.map_eq_some_iff, Prod.mk.injEq] at h
        obtain ⟨r, -, -, rfl⟩ := h
        simp
    · simp

theorem step_card_of_not_reaches {bus bus' : CardBus M} {op : PortOp} {o : Option U8} {d : Drive}
    (h : step bus op = some (o, bus')) (hr : op.reaches bus.registers d = none) :
    bus'.card d = bus.card d := by
  rcases step_cases h with hcards | ⟨a, c, c', ha, -, -, rfl⟩
  · exact hcards d
  · apply CardBus.card_setCard_of_ne
    rintro rfl
    simp [PortOp.reaches, ha] at hr

/-- An absent card stays absent. -/
theorem step_card_none {bus bus' : CardBus M} {op : PortOp} {o : Option U8} {d : Drive}
    (h : step bus op = some (o, bus')) (hc : bus.card d = none) : bus'.card d = none := by
  rcases step_cases h with hcards | ⟨a, c, c', -, hsel, -, rfl⟩
  · rw [hcards d, hc]
  · have hne : d ≠ bus.registers.drive := by
      rintro rfl
      rw [hsel] at hc
      cases hc
    rw [CardBus.card_setCard_of_ne _ _ hne, hc]

/-- An access that reaches drive `d` is a step of the card in it. -/
theorem step_card_of_reaches {bus bus' : CardBus M} {op : PortOp} {o : Option U8} {d : Drive}
    {a : CardAccess} {c : Card M} (h : step bus op = some (o, bus'))
    (hr : op.reaches bus.registers d = some a) (hc : bus.card d = some c) :
    ∃ c', c.access bus.registers a = some (o, c') ∧ bus'.card d = some c' := by
  have ha : op.access = .card a ∧ bus.registers.drive = d := by
    unfold PortOp.reaches at hr
    cases hacc : op.access with
    | card a' =>
      rw [hacc] at hr
      by_cases hd : bus.registers.drive = d
      · simp only [if_pos hd, Option.some.injEq] at hr
        exact ⟨by rw [hr], hd⟩
      · simp [hd] at hr
    | readRegister => simp [hacc] at hr
    | writeRegister n b => simp [hacc] at hr
  obtain ⟨ha, rfl⟩ := ha
  rw [step_card bus ha, hc] at h
  simp only [Option.map_eq_some_iff, Prod.mk.injEq] at h
  obtain ⟨r, hr', rfl, rfl⟩ := h
  exact ⟨r.2, hr', CardBus.card_setCard_self _ _ _⟩

/-- An access panics only if it reaches a card that panics. -/
theorem step_eq_none {bus : CardBus M} {op : PortOp} (h : step bus op = none) :
    ∃ a c, op.reaches bus.registers bus.registers.drive = some a ∧
      bus.card bus.registers.drive = some c ∧ c.access bus.registers a = none := by
  cases ha : op.access with
  | readRegister =>
    obtain ⟨b, hb⟩ := step_readRegister bus ha
    rw [hb] at h
    cases h
  | writeRegister n data =>
    rw [step_writeRegister bus ha] at h
    cases h
  | card a =>
    rw [step_card bus ha] at h
    cases hc : bus.card bus.registers.drive with
    | none => rw [hc] at h; cases h
    | some c =>
      rw [hc] at h
      simp only [Option.map_eq_none_iff] at h
      exact ⟨a, c, by simp [PortOp.reaches, ha], rfl, h⟩

/-! ### Runs -/

/-- **A run of the bus, seen from one drive**, is a run of its card on the accesses that
reach it. -/
theorem run_card {d : Drive} {ops : List PortOp} {bus bus' : CardBus M} {os : List (Option U8)}
    {c : Card M} (h : run step bus ops = some (os, bus')) (hc : bus.card d = some c) :
    ∃ c', run Card.step c (accesses d bus.registers ops)
        = some (answersOf d bus.registers ops os, c') ∧ bus'.card d = some c' := by
  induction ops generalizing bus os c with
  | nil =>
    cases h
    exact ⟨c, rfl, hc⟩
  | cons op ops ih =>
    obtain ⟨o, bus₁, os', hstep, hrest, rfl⟩ := run_cons_eq_some h
    have hregs := step_registers hstep
    cases hr : op.reaches bus.registers d with
    | none =>
      have hc₁ : bus₁.card d = some c := by rw [step_card_of_not_reaches hstep hr, hc]
      obtain ⟨c', hrun, hc'⟩ := ih hrest hc₁
      rw [hregs] at hrun
      exact ⟨c', by simpa only [accesses, answersOf, hr] using hrun, hc'⟩
    | some a =>
      obtain ⟨c₁, hacc, hc₁⟩ := step_card_of_reaches hstep hr hc
      obtain ⟨c', hrun, hc'⟩ := ih hrest hc₁
      rw [hregs] at hrun
      refine ⟨c', ?_, hc'⟩
      simp only [accesses, answersOf, hr]
      rw [run_cons (show Card.step c (bus.registers, a) = some (o, c₁) from hacc), hrun]
      rfl

/-- **Two runs of the cards make a run of the bus**: the bus panics only if a card does. -/
theorem run_of_cards {ops : List PortOp} {bus : CardBus M}
    (h : ∀ d c, bus.card d = some c →
      (run Card.step c (accesses d bus.registers ops)).isSome) :
    ∃ os bus', run step bus ops = some (os, bus') := by
  induction ops generalizing bus with
  | nil => exact ⟨[], bus, rfl⟩
  | cons op ops ih =>
    cases hstep : step bus op with
    | none =>
      -- the card the access reaches would have panicked first
      obtain ⟨a, c, hr, hc, hnone⟩ := step_eq_none hstep
      have hsome := h _ c hc
      rw [accesses, hr, run_cons_of_none hnone] at hsome
      cases hsome
    | some r =>
      obtain ⟨o, bus₁⟩ := r
      have hrest : ∀ d c, bus₁.card d = some c →
          (run Card.step c (accesses d bus₁.registers ops)).isSome := by
        intro d c₁ hc₁
        rw [step_registers hstep]
        cases hr : op.reaches bus.registers d with
        | none =>
          rw [step_card_of_not_reaches hstep hr] at hc₁
          simpa only [accesses, hr] using h d c₁ hc₁
        | some a =>
          cases hc : bus.card d with
          | none =>
            rw [step_card_none hstep hc] at hc₁
            cases hc₁
          | some c =>
            obtain ⟨c', hacc, hc'⟩ := step_card_of_reaches hstep hr hc
            rw [hc'] at hc₁
            cases hc₁
            have hsome := h d c hc
            rw [accesses, hr,
              run_cons (show Card.step c (bus.registers, a) = some (o, c₁) from hacc)] at hsome
            simpa using hsome
      obtain ⟨os, bus', hrun⟩ := ih hrest
      exact ⟨o :: os, bus', by rw [run_cons hstep, hrun]; rfl⟩

/-- **A run that reaches one drive only** is the run of the card in it; the other drive is
left alone. -/
theorem run_of_drive {d : Drive} {ops : List PortOp} {bus : CardBus M} {c c' : Card M}
    {os' : List (Option U8)} (hc : bus.card d = some c)
    (hother : ∀ d', d' ≠ d → accesses d' bus.registers ops = [])
    (hrun : run Card.step c (accesses d bus.registers ops) = some (os', c')) :
    ∃ os bus', run step bus ops = some (os, bus') ∧ bus'.card d = some c' ∧
      answersOf d bus.registers ops os = os' ∧ ∀ d', d' ≠ d → bus'.card d' = bus.card d' := by
  have hcards : ∀ d₁ c₁, bus.card d₁ = some c₁ →
      (run Card.step c₁ (accesses d₁ bus.registers ops)).isSome := by
    intro d₁ c₁ hc₁
    by_cases hd : d₁ = d
    · subst hd
      obtain rfl : c = c₁ := Option.some.inj (hc.symm.trans hc₁)
      rw [hrun]
      rfl
    · rw [hother d₁ hd]
      rfl
  obtain ⟨os, bus', hbus⟩ := run_of_cards hcards
  obtain ⟨c'', hproj, hc''⟩ := run_card hbus hc
  rw [hrun] at hproj
  cases hproj
  refine ⟨os, bus', hbus, hc'', rfl, ?_⟩
  intro d' hd'
  cases hc₁ : bus.card d' with
  | none => exact run_invariant (fun _ _ _ _ hn h => step_card_none h hn) hc₁ hbus
  | some c₁ =>
    obtain ⟨c₂, hproj', hc₂⟩ := run_card hbus hc₁
    rw [hother d' hd', run_nil] at hproj'
    obtain ⟨-, rfl⟩ := Prod.mk.inj (Option.some.inj hproj')
    exact hc₂

end

end Possum.Ata
