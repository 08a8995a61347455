import Possum.Ata.CardBus
import Mathlib.Data.Nat.Bitwise
import Mathlib.Tactic.IntervalCases

/-!
# What a port access does

Eight ports, two cards and a dozen commands come down to three kinds of access: to a
task-file register, to nothing but a register's value, or to the selected card.  `step_card`,
`step_writeRegister` and `step_readRegister` say once what each does to the bus; the files
after this one never unfold `CardBus.read` and `CardBus.write` again.

The LBA is spread over four registers; `SharedRegisters.lba` is their 28-bit value, and
`latchLba_eq` says that the four masked assignments of `write_command` compute it whatever
was latched before, and `lba_toNat` gives it as a number.
-/

set_option autoImplicit false

namespace Possum.Ata

/-! ### The LBA registers -/

namespace SharedRegisters

/-- The LBA the registers hold. -/
def lba (r : SharedRegisters) : U32 :=
  r.sectorNumber.setWidth 32 ||| (r.cylinderLow.setWidth 32 <<< 8)
    ||| (r.cylinderHigh.setWidth 32 <<< 16) ||| ((r.driveHead &&& 0x0F).setWidth 32 <<< 24)

/-- Bit 6 of the drive/head register: the sector commands insist on LBA mode. -/
def lbaMode (r : SharedRegisters) : Prop := r.driveHead &&& 0x40 ≠ 0

instance (r : SharedRegisters) : Decidable r.lbaMode := inferInstanceAs (Decidable (_ ≠ _))

/-- Write one of the registers behind ports 1 to 6. -/
def put (r : SharedRegisters) (n : ℕ) (data : U8) : SharedRegisters :=
  match n with
  | 1 => { r with feature := data }
  | 2 => { r with sectorCount := data }
  | 3 => { r with sectorNumber := data }
  | 4 => { r with cylinderLow := data }
  | 5 => { r with cylinderHigh := data }
  | 6 => { r with driveHead := data }
  | _ => r

end SharedRegisters

theorem latchLba_eq (lba : U32) (r : SharedRegisters) : Card.latchLba lba r = r.lba := by
  apply BitVec.eq_of_getLsbD_eq
  intro i hi
  interval_cases i <;> simp [Card.latchLba, SharedRegisters.lba]

/-- The LBA as a number: 28 bits, least significant register first. -/
theorem SharedRegisters.lba_toNat (r : SharedRegisters) :
    r.lba.toNat = r.sectorNumber.toNat + 2 ^ 8 * r.cylinderLow.toNat
      + 2 ^ 16 * r.cylinderHigh.toNat + 2 ^ 24 * (r.driveHead.toNat % 16) := by
  have hs := r.sectorNumber.isLt
  have hl := r.cylinderLow.isLt
  have hh := r.cylinderHigh.isLt
  have hd : (r.driveHead &&& 0x0F).toNat = r.driveHead.toNat % 16 := by
    rw [BitVec.toNat_and]
    exact Nat.and_two_pow_sub_one_eq_mod _ 4
  simp only [SharedRegisters.lba, BitVec.toNat_or, BitVec.toNat_shiftLeft, BitVec.toNat_setWidth]
  rw [hd]
  generalize r.sectorNumber.toNat = s at *
  generalize r.cylinderLow.toNat = l at *
  generalize r.cylinderHigh.toNat = h at *
  have hm : r.driveHead.toNat % 16 < 16 := Nat.mod_lt _ (by omega)
  generalize r.driveHead.toNat % 16 = n at *
  simp only [Nat.shiftLeft_eq]
  -- nothing is lost in 32 bits
  rw [Nat.mod_eq_of_lt (show s < 2 ^ 32 by omega), Nat.mod_eq_of_lt (show l < 2 ^ 32 by omega),
    Nat.mod_eq_of_lt (show h < 2 ^ 32 by omega), Nat.mod_eq_of_lt (show n < 2 ^ 32 by omega),
    Nat.mod_eq_of_lt (show l * 2 ^ 8 < 2 ^ 32 by omega),
    Nat.mod_eq_of_lt (show h * 2 ^ 16 < 2 ^ 32 by omega),
    Nat.mod_eq_of_lt (show n * 2 ^ 24 < 2 ^ 32 by omega)]
  -- the fields do not overlap, so each `or` is a sum
  rw [Nat.or_comm s, Nat.mul_comm l, ← Nat.two_pow_add_eq_or_of_lt (by omega),
    Nat.or_comm _ (h * 2 ^ 16), Nat.mul_comm h, ← Nat.two_pow_add_eq_or_of_lt (by omega),
    Nat.or_comm _ (n * 2 ^ 24), Nat.mul_comm n, ← Nat.two_pow_add_eq_or_of_lt (by omega)]
  omega

/-! ### Kinds of access -/

/-- An access that reaches the selected card. -/
inductive CardAccess
  | readData
  | readStatus
  | writeData (data : U8)
  | command (data : U8)
  deriving DecidableEq, Repr

/-- A port access, sorted by what it reaches. -/
inductive Access
  | card (a : CardAccess)
  | readRegister
  | writeRegister (n : ℕ) (data : U8)
  deriving DecidableEq, Repr

def PortOp.access : PortOp → Access
  | .read port =>
      match (port &&& 0x07).toNat with
      | 0 => .card .readData
      | 7 => .card .readStatus
      | _ => .readRegister
  | .write port data =>
      match (port &&& 0x07).toNat with
      | 0 => .card (.writeData data)
      | 7 => .card (.command data)
      | n => .writeRegister n data

/-- What an access answers when the selected drive has no card. -/
def CardAccess.absent : CardAccess → Option U8
  | .readData | .readStatus => some 0
  | .writeData _ | .command _ => none

section

variable {M : Type} [MemoryMap M]

/-- What an access does to the selected card. -/
def Card.access (c : Card M) (registers : SharedRegisters) :
    CardAccess → Option (Option U8 × Card M)
  | .readData => c.readData.map fun r => (some r.1, r.2)
  | .readStatus => some (some c.status, { c with interrupt := false })
  | .writeData data => (c.writeData data).map fun c => (none, c)
  | .command data => (c.writeCommand registers data).map fun c => (none, c)

/-- A port number modulo 8 is one of eight. -/
theorem port_lt (port : U16) : (port &&& 0x07).toNat < 8 := by
  have h : (port &&& 0x07).toNat ≤ 7 := by
    rw [BitVec.toNat_and]
    exact Nat.and_le_right
  omega

/-- **An access that reaches a card** is that card's own answer; without a card nothing
happens. -/
theorem step_card (bus : CardBus M) {op : PortOp} {a : CardAccess} (h : op.access = .card a) :
    step bus op = match bus.card bus.registers.drive with
      | some c => (c.access bus.registers a).map fun r =>
          (r.1, bus.setCard r.2 bus.registers.drive)
      | none => some (a.absent, bus) := by
  cases op with
  | read port =>
    have hp := port_lt port
    simp only [PortOp.access] at h
    simp only [step, CardBus.read, SharedRegisters.drive]
    generalize (port &&& 0x07).toNat = n at h hp
    interval_cases n <;> simp only [Access.card.injEq, reduceCtorEq] at h <;> subst h <;>
      by_cases hd : bus.registers.driveHead &&& 16#8 = 0#8 <;> cases hc : bus.card1 <;>
      simp [hd, hc, CardBus.card, CardBus.setCard, Card.access, CardAccess.absent,
        Option.map_map, Function.comp_def]
  | write port data =>
    have hp := port_lt port
    simp only [PortOp.access] at h
    simp only [step, CardBus.write, SharedRegisters.drive]
    generalize (port &&& 0x07).toNat = n at h hp
    interval_cases n <;> simp only [Access.card.injEq, reduceCtorEq] at h <;> subst h <;>
      by_cases hd : bus.registers.driveHead &&& 16#8 = 0#8 <;> cases hc : bus.card1 <;>
      simp [hd, hc, CardBus.card, CardBus.setCard, Card.access, CardAccess.absent,
        Option.map_map, Function.comp_def]

/-- **A register write** changes that register and nothing else. -/
theorem step_writeRegister (bus : CardBus M) {op : PortOp} {n : ℕ} {data : U8}
    (h : op.access = .writeRegister n data) :
    step bus op = some (none, bus.setRegisters (bus.registers.put n data)) := by
  cases op with
  | read port =>
    have hp := port_lt port
    simp only [PortOp.access] at h
    generalize (port &&& 0x07).toNat = k at h hp
    interval_cases k <;> cases h
  | write port b =>
    have hp := port_lt port
    simp only [PortOp.access] at h
    simp only [step, CardBus.write]
    generalize (port &&& 0x07).toNat = k at h hp
    interval_cases k <;> simp only [Access.writeRegister.injEq, reduceCtorEq] at h <;>
      obtain ⟨rfl, rfl⟩ := h <;> rfl

/-- **A register read** changes nothing. -/
theorem step_readRegister (bus : CardBus M) {op : PortOp} (h : op.access = .readRegister) :
    ∃ b, step bus op = some (some b, bus) := by
  cases op with
  | read port =>
    have hp := port_lt port
    simp only [PortOp.access] at h
    simp only [step, CardBus.read]
    generalize (port &&& 0x07).toNat = k at h hp
    interval_cases k <;> simp only [reduceCtorEq] at h <;> try exact ⟨_, rfl⟩
    -- port 1, the error code of the selected card
    by_cases hd : bus.registers.driveHead &&& 16#8 = 0#8
    · simp [hd]
    · cases hc : bus.card1 <;> simp [hd]
  | write port b =>
    have hp := port_lt port
    simp only [PortOp.access] at h
    generalize (port &&& 0x07).toNat = k at h hp
    interval_cases k <;> cases h

/-- **Inversion of a step.**  Either no card changes, or the access reached the card of the
selected drive, and only that card changes. -/
theorem step_cases {bus bus' : CardBus M} {op : PortOp} {o : Option U8}
    (h : step bus op = some (o, bus')) :
    (∀ d, bus'.card d = bus.card d) ∨
    ∃ a c c', op.access = .card a ∧ bus.card bus.registers.drive = some c ∧
      c.access bus.registers a = some (o, c') ∧ bus' = bus.setCard c' bus.registers.drive := by
  cases ha : op.access with
  | readRegister =>
    obtain ⟨b, hb⟩ := step_readRegister bus ha
    rw [hb] at h
    cases h
    exact .inl fun _ => rfl
  | writeRegister n data =>
    rw [step_writeRegister bus ha] at h
    cases h
    exact .inl fun d => CardBus.card_setRegisters _ _ d
  | card a =>
    rw [step_card bus ha] at h
    cases hc : bus.card bus.registers.drive with
    | none =>
      rw [hc] at h
      cases h
      exact .inl fun _ => rfl
    | some c =>
      rw [hc] at h
      cases hr : c.access bus.registers a with
      | none => simp [hr] at h
      | some r =>
        simp only [hr, Option.map_some, Option.some.injEq, Prod.mk.injEq] at h
        obtain ⟨rfl, rfl⟩ := h
        exact .inr ⟨a, c, r.2, rfl, rfl, hr, rfl⟩

/-- **The frame rule of a step.**  What holds of all cards holds of them after a step, if the
access that reached the selected card kept it there. -/
theorem forall_card_of_step {P : Card M → Prop} {bus bus' : CardBus M} {op : PortOp}
    {o : Option U8} (hstep : step bus op = some (o, bus')) (h : ∀ d c, bus.card d = some c → P c)
    (haccess : ∀ a c c', op.access = .card a → bus.card bus.registers.drive = some c →
      c.access bus.registers a = some (o, c') → P c') :
    ∀ d c, bus'.card d = some c → P c := by
  intro d c hc
  rcases step_cases hstep with hcards | ⟨a, c₀, c', ha, hc₀, hacc, rfl⟩
  · rw [hcards d] at hc
    exact h d c hc
  · by_cases hd : d = bus.registers.drive
    · subst hd
      rw [CardBus.card_setCard_self] at hc
      obtain rfl : c' = c := Option.some.inj hc
      exact haccess a c₀ c' ha hc₀ hacc
    · rw [CardBus.card_setCard_of_ne _ _ hd] at hc
      exact h d c hc

end

end Possum.Ata
