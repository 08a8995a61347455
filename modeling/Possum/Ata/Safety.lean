import Possum.Ata.Invariant

/-!
# Panics and the status register

Two properties of every run of a freshly built bus, each with the exact condition on the
accesses under which it holds.

* `no_panic_iff`: the bus does not panic exactly if every access is `Harmless`.  A guest can
  panic it with REQUEST SENSE, with an ERASE outside the image and with a data access of a
  transfer that runs past the image.
* `status_truthful_iff`: the status register tells the truth about the transfers exactly if
  no access is `Misleading`.  It stops doing so after the last byte of any WRITE, which
  leaves the card in `writeSectors`, and after a command that ends with ERR while a transfer
  is going on, which leaves DRQ and the transfer as they were.

Both are instances of the run rules of `Lib.Run` at the invariant of `Invariant`.
-/

set_option autoImplicit false

namespace Possum.Ata

open Lib Lib.Machine

section

variable {M : Type} [MemoryMap M]

/-! ### The invariant of the bus -/

/-- Both cards are well formed. -/
def CardBus.WellFormed (bus : CardBus M) : Prop := ∀ d c, bus.card d = some c → c.WellFormed

theorem wellFormed_bus_new (mmap0 : M) (mmap1 : Option M) :
    (CardBus.new mmap0 mmap1).WellFormed :=
  CardBus.forall_card_new Card.wellFormed_new mmap0 mmap1

theorem wellFormed_step (bus : CardBus M) (op : PortOp) (o : Option U8) (bus' : CardBus M)
    (h : bus.WellFormed) (hstep : step bus op = some (o, bus')) : bus'.WellFormed := by
  apply forall_card_of_step hstep h
  intro a c c' _ hc hacc
  exact (h _ c hc).access hacc

/-- The card an access reaches, and the access it makes there. -/
def PortOp.Reaches (op : PortOp) (bus : CardBus M) (a : CardAccess) (c : Card M) : Prop :=
  op.access = .card a ∧ bus.card bus.registers.drive = some c

theorem step_of_reaches {bus : CardBus M} {op : PortOp} {a : CardAccess} {c : Card M}
    (h : op.Reaches bus a c) :
    step bus op = (c.access bus.registers a).map fun r =>
      (r.1, bus.setCard r.2 bus.registers.drive) := by
  rw [step_card bus h.1, h.2]

/-! ### Panics -/

/-- The access does not make the card panic. -/
def Card.Harmless (c : Card M) (r : SharedRegisters) : CardAccess → Prop
  | .readData => c.state = .readSectors →
      c.lba.toNat * SECTOR_SIZE + c.sectorOffset < MemoryMap.len c.mmap
  | .writeData _ => c.state = .writeSectors →
      c.lba.toNat * SECTOR_SIZE + c.sectorOffset < MemoryMap.len c.mmap
  | .readStatus => True
  | .command code => command code ≠ .requestSense ∧
      (command code = .eraseSectors → r.lbaMode → InRange (MemoryMap.len c.mmap) r.lba.toNat)

theorem Card.access_eq_none_iff {c : Card M} (h : c.WellFormed) (r : SharedRegisters)
    (a : CardAccess) : c.access r a = none ↔ ¬ c.Harmless r a := by
  cases a with
  | readStatus => simp [Card.access, Card.Harmless]
  | readData =>
    rw [Card.access, Option.map_eq_none_iff, Card.readData_eq_none_iff h, Card.Harmless,
      Classical.not_imp, Nat.not_lt]
  | writeData b =>
    rw [Card.access, Option.map_eq_none_iff, Card.writeData_eq_none_iff h.ready, Card.Harmless,
      Classical.not_imp, Nat.not_lt]
  | command code =>
    rw [Card.access, Option.map_eq_none_iff, Card.writeCommand_of_ready h.ready,
      Card.dispatch_eq_none rfl, Card.Harmless]
    constructor
    · rintro (hcmd | ⟨hcmd, hmode, hout⟩) ⟨hsense, herase⟩
      · exact hsense hcmd
      · exact hout (herase hcmd hmode)
    · intro hno
      by_cases hsense : command code = .requestSense
      · exact .inl hsense
      · refine .inr ?_
        by_contra hne
        refine hno ⟨hsense, ?_⟩
        intro hcmd hmode
        by_contra hout
        exact hne ⟨hcmd, hmode, hout⟩

/-- The access reaches no card, or does not make it panic. -/
def Harmless (bus : CardBus M) (op : PortOp) : Prop :=
  ∀ a c, op.Reaches bus a c → c.Harmless bus.registers a

/-- One access panics exactly if it is harmful. -/
theorem step_isSome_iff {bus : CardBus M} (op : PortOp) (h : bus.WellFormed) :
    (step bus op).isSome ↔ Harmless bus op := by
  constructor
  · intro hsome a c hr
    by_contra hharm
    rw [step_of_reaches hr, (Card.access_eq_none_iff (h _ c hr.2) _ a).2 hharm] at hsome
    cases hsome
  · intro hharm
    by_contra hnone
    obtain ⟨a, c, hr, hc, hacc⟩ := step_eq_none (Option.not_isSome_iff_eq_none.1 hnone)
    have hreach : op.Reaches bus a c := ⟨reaches_eq_some hr, hc⟩
    exact (Card.access_eq_none_iff (h _ c hc) _ a).1 hacc (hharm a c hreach)

/-- **A run of a freshly built bus panics exactly if one of its accesses is harmful**: a
REQUEST SENSE to a card, an ERASE in LBA mode of a sector that is not wholly inside the
image, or a data access of a READ or WRITE whose running position is past the image. -/
theorem no_panic_iff (mmap0 : M) (mmap1 : Option M) (ops : List PortOp) :
    (run step (CardBus.new mmap0 mmap1) ops).isSome ↔
      Along step Harmless (CardBus.new mmap0 mmap1) ops :=
  run_isSome_iff_along wellFormed_step (fun _ op h => step_isSome_iff op h)
    (wellFormed_bus_new mmap0 mmap1) ops

/-- One write of REQUEST SENSE to the command port. -/
theorem panics_on_request_sense :
    ¬ (run step (CardBus.new (⟨[], []⟩ : Image) none) [.write 7 0x03]).isSome := by
  decide +kernel

/-! ### The status register -/

/-- DRQ says whether a transfer is going on, which then has bytes left to move; ERR is set
only when none is. -/
structure Card.Truthful (c : Card M) : Prop where
  drq : c.status &&& Status.DRQ ≠ 0 ↔ c.state ≠ .none
  offset : c.state ≠ .none → c.sectorOffset < SECTOR_SIZE
  err : c.status &&& Status.ERR ≠ 0 → c.status &&& Status.DRQ = 0 ∧ c.state = .none

theorem drq_clear_err : ∀ s : U8, (s &&& ~~~Status.ERR) &&& Status.DRQ = s &&& Status.DRQ := by
  decide +kernel

theorem err_clear_err : ∀ s : U8, (s &&& ~~~Status.ERR) &&& Status.ERR = 0 := by
  decide +kernel

theorem drq_clear_drq : ∀ s : U8, (s &&& ~~~Status.DRQ) &&& Status.DRQ = 0 := by
  decide +kernel

theorem drq_or_err : ∀ s : U8, (s ||| Status.ERR) &&& Status.DRQ = s &&& Status.DRQ := by
  decide +kernel

theorem err_or_err : ∀ s : U8, (s ||| Status.ERR) &&& Status.ERR ≠ 0 := by
  decide +kernel

theorem drq_or_drq : ∀ s : U8, (s ||| Status.DRQ) &&& Status.DRQ ≠ 0 := by
  decide +kernel

theorem err_or_drq : ∀ s : U8, (s ||| Status.DRQ) &&& Status.ERR = s &&& Status.ERR := by
  decide +kernel

namespace Card

theorem truthful_new (m : M) : (Card.new m).Truthful := by
  have hdrq : (Card.new m).status &&& Status.DRQ = 0 := by
    show (Status.RDY ||| Status.DSC) &&& Status.DRQ = 0
    decide
  exact ⟨iff_of_false (fun hne => hne hdrq) (fun hne => hne rfl), fun hne => absurd rfl hne,
    fun _ => ⟨hdrq, rfl⟩⟩

/-- The command ends with ERR: it is rejected, or the flush of an ERASE fails. -/
def Fails (c : Card M) (r : SharedRegisters) (cmd : Command) : Prop :=
  Rejects (MemoryMap.len c.mmap) r cmd ∨
    cmd = .eraseSectors ∧ r.lbaMode ∧ ∃ mmap, fillSector c.mmap (r.lba.toNat * SECTOR_SIZE)
      = some mmap ∧ (MemoryMap.flush mmap).2 = false

/-- The access leaves a status register that does not match the transfer: the last byte of a
WRITE, or a command that fails while a transfer is going on. -/
def Misleads (c : Card M) (r : SharedRegisters) : CardAccess → Prop
  | .writeData _ => c.state = .writeSectors ∧ c.sectorOffset + 1 = SECTOR_SIZE ∧
      c.lba.toNat * SECTOR_SIZE + c.sectorOffset < MemoryMap.len c.mmap
  | .command code => c.state ≠ .none ∧ c.Fails r (command code)
  | .readData | .readStatus => False

theorem starts_of_rejects {size : ℕ} {r : SharedRegisters} {cmd : Command}
    (h : Rejects size r cmd) : starts size r cmd = .none := by
  cases cmd with
  | readSectors =>
    refine if_neg ?_
    rintro ⟨hmode, hle⟩
    rcases h with h | h
    · exact h hmode
    · omega
  | writeSectors => exact if_neg h
  | identifyDevice => exact absurd h id
  | _ => rfl

/-- A command that fails does not panic. -/
theorem dispatch_of_fails {c : Card M} {r : SharedRegisters} {cmd : Command}
    (hlba : c.lba = r.lba) (h : c.Fails r cmd) : ∃ c', c.dispatch r cmd = some c' := by
  cases hd : c.dispatch r cmd with
  | some c' => exact ⟨c', rfl⟩
  | none =>
    exfalso
    rcases (dispatch_eq_none hlba).1 hd with rfl | ⟨rfl, hmode, hout⟩
    · rcases h with h | ⟨h, -⟩
      · exact h
      · cases h
    · rcases h with h | ⟨-, -, mmap, hf, -⟩
      · exact h hmode
      · rw [fillSector_eq_none hout] at hf
        cases hf

/-- **A command that fails** sets ERR and leaves DRQ and the command state. -/
theorem dispatched_of_fails {c c' : Card M} {r : SharedRegisters} {cmd : Command}
    (h : Dispatched c r cmd c') (hfail : c.Fails r cmd) :
    c'.status = c.status ||| Status.ERR ∧ c'.state = c.state := by
  cases h with
  | done error interrupt is8Bit hs hr he =>
    rcases hfail with hrej | ⟨hcmd, -⟩
    · exact absurd hrej hr
    · exact absurd hcmd he
  | rejected error interrupt offset hrej hoff => exact ⟨rfl, rfl⟩
  | started interrupt state hs hne =>
    rcases hfail with hrej | ⟨rfl, -⟩
    · exact absurd (hs.symm.trans (starts_of_rejects hrej)) hne
    · exact absurd hs.symm hne
  | erased mmap he hl hf hok =>
    rcases hfail with hrej | ⟨-, -, mmap', hf', hok'⟩
    · rw [he] at hrej
      exact absurd hl hrej
    · rw [hf] at hf'
      obtain rfl : mmap = mmap' := Option.some.inj hf'
      rw [hok] at hok'
      cases hok'
  | eraseFailed mmap error he hl hf hok => exact ⟨rfl, rfl⟩

/-- A command that does not fail goes on with the transfer or starts one. -/
theorem dispatched_of_not_fails {c c' : Card M} {r : SharedRegisters} {cmd : Command}
    (h : Dispatched c r cmd c') (hfail : ¬ c.Fails r cmd) :
    c'.status = c.status ∧ c'.state = c.state ∧ c'.sectorOffset = c.sectorOffset ∨
    c'.status = c.status ||| Status.DRQ ∧ c'.state ≠ .none ∧ c'.sectorOffset = 0 := by
  cases h with
  | done error interrupt is8Bit hs hr he => exact .inl ⟨rfl, rfl, rfl⟩
  | rejected error interrupt offset hrej hoff => exact absurd (.inl hrej) hfail
  | started interrupt state hs hne => exact .inr ⟨rfl, hne, rfl⟩
  | erased mmap he hl hf hok => exact .inl ⟨rfl, rfl, rfl⟩
  | eraseFailed mmap error he hl hf hok =>
    exact absurd (.inr ⟨he, hl, mmap, hf, hok⟩) hfail

/-! Each access keeps the register truthful unless it misleads. -/

theorem Truthful.readData {c c' : Card M} {b : U8} (h : c.Ready) (ht : c.Truthful)
    (hr : c.readData = some (b, c')) : c'.Truthful := by
  cases readData_cases h hr with
  | idle hs => exact ht
  | moved hs hoff =>
    have hlt := ht.offset (by rcases hs with hs | hs <;> rw [hs] <;> nofun)
    refine ⟨ht.drq, ?_, ht.err⟩
    intro _
    show c.sectorOffset + 1 < SECTOR_SIZE
    omega
  | last error hs hoff =>
    have hclear := drq_clear_drq c.status
    exact ⟨iff_of_false (fun hne => hne hclear) (fun hne => hne rfl), fun hne => absurd rfl hne,
      fun _ => ⟨hclear, rfl⟩⟩

theorem Truthful.writeData {c c' : Card M} {b : U8} {r : SharedRegisters} (h : c.Ready)
    (ht : c.Truthful) (hm : ¬ c.Misleads r (.writeData b)) (hw : c.writeData b = some c') :
    c'.Truthful := by
  cases writeData_cases h hw with
  | idle hs => exact ht
  | moved mmap hs hoff hlen =>
    have hlt := ht.offset (by rw [hs]; nofun)
    refine ⟨ht.drq, ?_, ht.err⟩
    intro _
    show c.sectorOffset + 1 < SECTOR_SIZE
    omega
  | last mmap error status hs hoff hlen hstatus =>
    exfalso
    refine hm ⟨hs, hoff, ?_⟩
    by_contra hout
    rw [(writeData_eq_none_iff h b).2 ⟨hs, Nat.not_lt.1 hout⟩] at hw
    cases hw

theorem Truthful.writeCommand {c c' : Card M} {code : U8} {r : SharedRegisters} (h : c.Ready)
    (ht : c.Truthful) (hm : ¬ c.Misleads r (.command code))
    (hw : c.writeCommand r code = some c') : c'.Truthful := by
  rw [writeCommand_of_ready h] at hw
  have hd := dispatch_cases rfl hw
  by_cases hfail : c.Fails r (command code)
  · -- it fails, so no transfer was going on
    have hnone : c.state = .none := by
      by_contra hne
      exact hm ⟨hne, hfail⟩
    obtain ⟨hstatus, hstate⟩ := dispatched_of_fails hd hfail
    have hstate' : c'.state = .none := hstate.trans hnone
    have hdrq : c'.status &&& Status.DRQ = 0 := by
      rw [hstatus, drq_or_err]
      show (c.status &&& ~~~Status.ERR) &&& Status.DRQ = 0
      rw [drq_clear_err]
      by_contra hne
      exact ht.drq.1 hne hnone
    exact ⟨iff_of_false (fun hne => hne hdrq) (fun hne => hne hstate'),
      fun hne => absurd hstate' hne, fun _ => ⟨hdrq, hstate'⟩⟩
  · rcases dispatched_of_not_fails hd hfail with ⟨hstatus, hstate, hoff⟩ | ⟨hstatus, hstate, hoff⟩
    · have hstatus' : c'.status = c.status &&& ~~~Status.ERR := hstatus
      have hstate' : c'.state = c.state := hstate
      have hoff' : c'.sectorOffset = c.sectorOffset := hoff
      refine ⟨?_, ?_, fun herr => absurd ?_ herr⟩
      · rw [hstatus', hstate', drq_clear_err]
        exact ht.drq
      · rw [hstate', hoff']
        exact ht.offset
      · rw [hstatus', err_clear_err]
    · refine ⟨iff_of_true ?_ hstate, fun _ => ?_, fun herr => absurd ?_ herr⟩
      · rw [hstatus]
        exact drq_or_drq _
      · rw [hoff]
        exact SECTOR_SIZE_pos
      · rw [hstatus, err_or_drq]
        exact err_clear_err c.status

theorem Truthful.access {c c' : Card M} {r : SharedRegisters} {a : CardAccess} {o : Option U8}
    (h : c.Ready) (ht : c.Truthful) (hm : ¬ c.Misleads r a) (ha : c.access r a = some (o, c')) :
    c'.Truthful := by
  cases a with
  | readStatus =>
    cases ha
    exact ⟨ht.drq, ht.offset, ht.err⟩
  | readData =>
    obtain ⟨⟨b, c''⟩, hr, heq⟩ := Option.map_eq_some_iff.1 ha
    cases heq
    exact Truthful.readData h ht hr
  | writeData b =>
    obtain ⟨c'', hw, heq⟩ := Option.map_eq_some_iff.1 ha
    cases heq
    exact Truthful.writeData h ht hm hw
  | command code =>
    obtain ⟨c'', hw, heq⟩ := Option.map_eq_some_iff.1 ha
    cases heq
    exact Truthful.writeCommand h ht hm hw

/-- A misleading access does not panic, and what it leaves is not truthful. -/
theorem access_of_misleads {c : Card M} {r : SharedRegisters} {a : CardAccess} (h : c.Ready)
    (hm : c.Misleads r a) : ∃ o c', c.access r a = some (o, c') ∧ ¬ c'.Truthful := by
  cases a with
  | readData | readStatus => exact absurd hm id
  | writeData b =>
    obtain ⟨hs, hoff, hin⟩ := hm
    obtain ⟨c', hw, -, -, htr⟩ := writeData_transfer (⟨h, hs, rfl, rfl⟩ : c.Transfer _ _ _) hin b
    refine ⟨none, c', by rw [access, hw, Option.map_some], ?_⟩
    intro ht
    have hstate : c'.state ≠ .none := by
      rw [htr.state_eq]
      intro hnone
      cases hnone
    have hlt := ht.offset hstate
    rw [htr.offset_eq] at hlt
    omega
  | command code =>
    obtain ⟨hne, hfail⟩ := hm
    obtain ⟨c', hd⟩ := dispatch_of_fails (c := c.latched r) rfl hfail
    have hw : c.writeCommand r code = some c' := (writeCommand_of_ready h r code).trans hd
    refine ⟨none, c', by rw [access, hw, Option.map_some], ?_⟩
    intro ht
    obtain ⟨hstatus, hstate⟩ := dispatched_of_fails (dispatch_cases rfl hd) hfail
    obtain ⟨-, hnone⟩ := ht.err (by rw [hstatus]; exact err_or_err _)
    exact hne (hstate.symm.trans hnone)

end Card

/-- Both status registers tell the truth. -/
def StatusTruthful (bus : CardBus M) : Prop := ∀ d c, bus.card d = some c → c.Truthful

/-- The access misleads the status register of the card it reaches. -/
def Misleading (bus : CardBus M) (op : PortOp) : Prop :=
  ∃ a c, op.Reaches bus a c ∧ c.Misleads bus.registers a

theorem statusTruthful_new (mmap0 : M) (mmap1 : Option M) :
    StatusTruthful (CardBus.new mmap0 mmap1) :=
  CardBus.forall_card_new Card.truthful_new mmap0 mmap1

/-- One access keeps the status registers truthful exactly if it is not misleading. -/
theorem not_misleading_iff (bus : CardBus M) (op : PortOp) (h : bus.WellFormed)
    (ht : StatusTruthful bus) :
    ¬ Misleading bus op ↔ ∀ o bus', step bus op = some (o, bus') → StatusTruthful bus' := by
  constructor
  · intro hm o bus' hstep
    apply forall_card_of_step hstep ht
    intro a c c' ha hc hacc
    have hnot : ¬ c.Misleads bus.registers a := fun hmis => hm ⟨a, c, ⟨ha, hc⟩, hmis⟩
    exact Card.Truthful.access (h _ c hc).ready (ht _ c hc) hnot hacc
  · rintro hnext ⟨a, c, hr, hmis⟩
    obtain ⟨o, c', hacc, hno⟩ := Card.access_of_misleads (h _ c hr.2).ready hmis
    have hstep : step bus op = some (o, bus.setCard c' bus.registers.drive) := by
      rw [step_of_reaches hr, hacc, Option.map_some]
    exact hno (hnext o _ hstep _ c' (CardBus.card_setCard_self _ _ _))

/-- **The status registers tell the truth throughout a run of a freshly built bus exactly if
no access of the run is misleading**: neither the last byte of a WRITE inside the image, nor
a command that ends with ERR while a transfer is going on. -/
theorem status_truthful_iff (mmap0 : M) (mmap1 : Option M) (ops : List PortOp) :
    Throughout step StatusTruthful (CardBus.new mmap0 mmap1) ops ↔
      Along step (fun bus op => ¬ Misleading bus op) (CardBus.new mmap0 mmap1) ops :=
  throughout_iff_along wellFormed_step not_misleading_iff (wellFormed_bus_new mmap0 mmap1)
    (statusTruthful_new mmap0 mmap1) ops

/-- A NOP in the middle of a READ: ERR, with DRQ and the transfer still there. -/
theorem not_truthful_after_nop :
    ¬ Throughout step StatusTruthful (CardBus.new (⟨List.replicate 512 0, []⟩ : Image) none)
      [.write 6 0x40, .write 7 0x20, .write 7 0x00] := by
  intro h
  have hrun : (run step (CardBus.new (⟨List.replicate 512 0, []⟩ : Image) none)
      [.write 6 0x40, .write 7 0x20, .write 7 0x00]).map
        (fun q => (q.2.card0.status, q.2.card0.state)) = some (0x59, .readSectors) := by
    decide +kernel
  obtain ⟨⟨os, bus⟩, hbus, heq⟩ := Option.map_eq_some_iff.1 hrun
  obtain ⟨hstatus, hstate⟩ := Prod.mk.inj heq
  obtain ⟨-, hnone⟩ := (h.last hbus .zero bus.card0 rfl).err (by rw [hstatus]; decide)
  rw [hstate] at hnone
  cases hnone

end

end Possum.Ata
