import Possum.Ata.Command

/-!
# Transfers of one card

A transfer is a state of the card (`Transfer st L k`): the command state, the latched LBA
and the number of bytes already moved.  This file says what one access does to a transfer
and then, by induction on the accesses, what any number of them does:

* `run_read`: in a READ the data port answers the bytes of the sector, in order;
* `run_write`: in a WRITE the image takes the bytes put on the data port at consecutive
  positions, also past the end of the sector, as long as the image goes on.

Both allow status polls, accesses in the wrong direction and quiet commands (those that
neither start a transfer nor erase) in between, provided that every such command finds the
LBA of the transfer in the registers, because a command latches whatever it finds there.
-/

set_option autoImplicit false

namespace Possum.Ata

open Lib Lib.Machine

/-! ### The data of a run -/

/-- The bytes the data port answered in a run of a card. -/
def dataRead : List (SharedRegisters × CardAccess) → List (Option U8) → List U8
  | (_, .readData) :: xs, o :: os => o.toList ++ dataRead xs os
  | _ :: xs, _ :: os => dataRead xs os
  | _, _ => []

/-- The bytes put on the data port. -/
def dataWritten : List (SharedRegisters × CardAccess) → List U8
  | [] => []
  | (_, .writeData b) :: xs => b :: dataWritten xs
  | _ :: xs => dataWritten xs

/-- The number of reads of the data port. -/
def dataReads (xs : List (SharedRegisters × CardAccess)) : ℕ :=
  xs.countP fun x => x.2 = .readData

theorem dataRead_cons_of_ne {x : SharedRegisters × CardAccess} (h : x.2 ≠ .readData)
    (xs : List (SharedRegisters × CardAccess)) (o : Option U8) (os : List (Option U8)) :
    dataRead (x :: xs) (o :: os) = dataRead xs os := by
  obtain ⟨r, a⟩ := x
  cases a with
  | readData => exact absurd rfl h
  | readStatus | writeData b | command code => rfl

theorem dataRead_cons_command (r : SharedRegisters) (code : U8)
    (xs : List (SharedRegisters × CardAccess)) (o : Option U8) (os : List (Option U8)) :
    dataRead ((r, .command code) :: xs) (o :: os) = dataRead xs os := rfl

theorem dataRead_eq_nil {xs : List (SharedRegisters × CardAccess)} (os : List (Option U8))
    (h : ∀ x ∈ xs, x.2 ≠ .readData) : dataRead xs os = [] := by
  induction xs generalizing os with
  | nil => rfl
  | cons x xs ih =>
    cases os with
    | nil => obtain ⟨r, a⟩ := x; cases a <;> rfl
    | cons o os =>
      rw [dataRead_cons_of_ne (h x (List.mem_cons_self ..)),
        ih os fun y hy => h y (List.mem_cons_of_mem _ hy)]

theorem dataRead_append {xs : List (SharedRegisters × CardAccess)} {os : List (Option U8)}
    (h : os.length = xs.length) (ys : List (SharedRegisters × CardAccess))
    (ps : List (Option U8)) : dataRead (xs ++ ys) (os ++ ps) = dataRead xs os ++ dataRead ys ps := by
  induction xs generalizing os with
  | nil =>
    rw [List.eq_nil_of_length_eq_zero h]
    rfl
  | cons x xs ih =>
    obtain ⟨o, os, rfl⟩ := List.exists_cons_of_length_eq_add_one h
    have hlen : os.length = xs.length := by simpa using h
    by_cases hx : x.2 = .readData
    · obtain ⟨r, a⟩ := x
      obtain rfl : a = .readData := hx
      simp only [List.cons_append, dataRead, ih hlen, List.append_assoc]
    · simp only [List.cons_append, dataRead_cons_of_ne hx, ih hlen]

theorem dataReads_cons_of_ne {x : SharedRegisters × CardAccess} (h : x.2 ≠ .readData)
    (xs : List (SharedRegisters × CardAccess)) : dataReads (x :: xs) = dataReads xs := by
  simp [dataReads, h]

theorem dataReads_cons_command (r : SharedRegisters) (code : U8)
    (xs : List (SharedRegisters × CardAccess)) :
    dataReads ((r, .command code) :: xs) = dataReads xs :=
  dataReads_cons_of_ne (by simp) xs

theorem dataReads_append (xs ys : List (SharedRegisters × CardAccess)) :
    dataReads (xs ++ ys) = dataReads xs + dataReads ys := List.countP_append

theorem dataReads_eq_zero {xs : List (SharedRegisters × CardAccess)}
    (h : ∀ x ∈ xs, x.2 ≠ .readData) : dataReads xs = 0 :=
  List.countP_eq_zero.2 fun x hx => by simpa using h x hx

theorem dataReads_cons_readData (r : SharedRegisters) (xs : List (SharedRegisters × CardAccess)) :
    dataReads ((r, .readData) :: xs) = dataReads xs + 1 := by
  simp [dataReads]

theorem dataWritten_cons_of_ne {x : SharedRegisters × CardAccess}
    (h : ∀ b, x.2 ≠ .writeData b) (xs : List (SharedRegisters × CardAccess)) :
    dataWritten (x :: xs) = dataWritten xs := by
  obtain ⟨r, a⟩ := x
  cases a with
  | writeData b => exact absurd rfl (h b)
  | readStatus | readData | command code => rfl

theorem dataWritten_append (xs ys : List (SharedRegisters × CardAccess)) :
    dataWritten (xs ++ ys) = dataWritten xs ++ dataWritten ys := by
  induction xs with
  | nil => rfl
  | cons x xs ih =>
    obtain ⟨r, a⟩ := x
    cases a with
    | writeData b => simp only [List.cons_append, dataWritten, ih]
    | readStatus | readData | command code => simpa only [List.cons_append, dataWritten] using ih

theorem dataWritten_eq_nil {xs : List (SharedRegisters × CardAccess)}
    (h : ∀ x ∈ xs, ∀ b, x.2 ≠ .writeData b) : dataWritten xs = [] := by
  induction xs with
  | nil => rfl
  | cons x xs ih =>
    rw [dataWritten_cons_of_ne (h x (List.mem_cons_self ..)),
      ih fun y hy => h y (List.mem_cons_of_mem _ hy)]

/-! ### Quiet accesses -/

/-- A command that neither starts a transfer nor erases: one of the harmless ones, or a
sector command that is rejected. -/
def Card.Command.Quiet (size : ℕ) (r : SharedRegisters) : Card.Command → Prop
  | .nop | .executeDriveDiagnostic | .setFeatures | .readVerifySectors | .invalid => True
  | .readSectors => Card.Rejects size r .readSectors
  | .writeSectors => Card.Rejects size r .writeSectors
  | .eraseSectors => Card.Rejects size r .eraseSectors
  | .identifyDevice | .requestSense => False

/-- An access that starts nothing. -/
def CardAccess.Quiet (size : ℕ) (r : SharedRegisters) : CardAccess → Prop
  | .command code => (Card.command code).Quiet size r
  | _ => True

/-- Every command among the accesses finds `L` in the LBA registers. -/
def Addressed (L : ℕ) (xs : List (SharedRegisters × CardAccess)) : Prop :=
  ∀ x ∈ xs, ∀ code, x.2 = .command code → x.1.lba.toNat = L

/-! Accesses without a command are quiet, and there is no LBA to find. -/

theorem quiet_of_no_command {xs : List (SharedRegisters × CardAccess)}
    (h : ∀ x ∈ xs, ∀ code, x.2 ≠ .command code) (size : ℕ) : ∀ x ∈ xs, x.2.Quiet size x.1 := by
  intro x hx
  cases ha : x.2 with
  | command code => exact absurd ha (h x hx code)
  | readData | readStatus | writeData b => trivial

theorem addressed_of_no_command {xs : List (SharedRegisters × CardAccess)}
    (h : ∀ x ∈ xs, ∀ code, x.2 ≠ .command code) (L : ℕ) : Addressed L xs := by
  intro x hx code hc
  exact absurd hc (h x hx code)

section

variable {M : Type} [MemoryMap M]

namespace Card

/-- The card is moving sector `L` and has moved `k` bytes of it.  With state `none` the
transfer is over. -/
structure Transfer (c : Card M) (st : CommandState) (L k : ℕ) : Prop where
  ready : c.Ready
  state_eq : c.state = st
  lba_eq : c.lba.toNat = L
  offset_eq : c.sectorOffset = k

/-- The card goes on with what it was doing, its image as it was. -/
structure Still (c c' : Card M) : Prop where
  ready : c'.Ready
  state_eq : c'.state = c.state
  mmap_eq : c'.mmap = c.mmap

/-- **A quiet command** leaves everything but the LBA it latches; only a READ rejected for its
address clears the offset. -/
theorem writeCommand_quiet {c : Card M} {r : SharedRegisters} {code : U8} (h : c.Ready)
    (hq : (command code).Quiet (MemoryMap.len c.mmap) r) :
    ∃ c', c.writeCommand r code = some c' ∧ c.Still c' ∧ c'.lba = r.lba ∧
      (r.lba.toNat * SECTOR_SIZE ≤ MemoryMap.len c.mmap → c'.sectorOffset = c.sectorOffset) := by
  have hready := h.latched r
  rw [writeCommand_of_ready h]
  cases hd : (c.latched r).dispatch r (command code) with
  | none =>
    -- the two commands that can panic are not quiet
    exfalso
    rcases (dispatch_eq_none rfl).1 hd with hcmd | ⟨hcmd, hmode, -⟩
    · rw [hcmd] at hq
      exact hq
    · rw [hcmd] at hq
      exact hq hmode
  | some c' =>
    refine ⟨c', rfl, ?_⟩
    cases dispatch_cases rfl hd with
    | done error interrupt is8Bit => exact ⟨⟨hready, rfl, rfl⟩, rfl, fun _ => rfl⟩
    | rejected error interrupt offset hrej hoff =>
      refine ⟨⟨(busy_or_err _).trans hready, rfl, rfl⟩, rfl, ?_⟩
      intro hle
      rcases hoff with hoff | ⟨-, hlt⟩
      · exact hoff
      · exact absurd hlt (Nat.not_lt.2 hle)
    | started interrupt state hs hne =>
      exfalso
      generalize command code = cmd at hq hs
      cases cmd with
      | readSectors =>
        simp only [Command.Quiet, Rejects] at hq
        have hno : ¬ (r.lbaMode ∧ r.lba.toNat * SECTOR_SIZE ≤ MemoryMap.len c.mmap) := by
          rintro ⟨hmode, hle⟩
          rcases hq with hq | hq
          · exact hq hmode
          · omega
        exact hne (hs.symm.trans (if_neg hno))
      | writeSectors => exact hne (hs.symm.trans (if_neg hq))
      | identifyDevice | requestSense => exact hq
      | _ => exact hne hs.symm
    | erased mmap he hl => rw [he] at hq; exact absurd hl hq
    | eraseFailed mmap error he hl => rw [he] at hq; exact absurd hl hq

/-! ### Accepted commands -/

theorem dispatch_read {c : Card M} {r : SharedRegisters} (hmode : r.lbaMode)
    (hlen : c.lba.toNat * SECTOR_SIZE ≤ MemoryMap.len c.mmap) :
    c.dispatch r .readSectors = some { c with
      interrupt := true, sectorOffset := 0, status := c.status ||| Status.DRQ,
      state := .readSectors } := by
  have hmode' : ¬ r.driveHead &&& 0x40 = 0 := hmode
  simp only [dispatch, if_neg hmode']
  exact if_neg (Nat.not_lt.2 hlen)

theorem writeCommand_read {c : Card M} {r : SharedRegisters} {code : U8} (h : c.Ready)
    (hcode : command code = .readSectors) (hmode : r.lbaMode)
    (hlen : r.lba.toNat * SECTOR_SIZE ≤ MemoryMap.len c.mmap) :
    ∃ c', c.writeCommand r code = some c' ∧ c'.mmap = c.mmap ∧
      c'.Transfer .readSectors r.lba.toNat 0 ∧
      c'.status = c.status &&& ~~~Status.ERR ||| Status.DRQ := by
  rw [writeCommand_of_ready h, hcode, dispatch_read hmode hlen]
  exact ⟨_, rfl, rfl, ⟨(busy_or_drq _).trans (h.latched r), rfl, rfl, rfl⟩, rfl⟩

theorem writeCommand_write {c : Card M} {r : SharedRegisters} {code : U8} (h : c.Ready)
    (hcode : command code = .writeSectors) (hmode : r.lbaMode) :
    ∃ c', c.writeCommand r code = some c' ∧ c'.mmap = c.mmap ∧
      c'.Transfer .writeSectors r.lba.toNat 0 ∧
      c'.status = c.status &&& ~~~Status.ERR ||| Status.DRQ := by
  rw [writeCommand_of_ready h, hcode]
  simp only [dispatch, latched]
  rw [if_neg hmode]
  exact ⟨_, rfl, rfl, ⟨(busy_or_drq _).trans (h.latched r), rfl, rfl, rfl⟩, rfl⟩

theorem writeCommand_erase {c : Card M} {r : SharedRegisters} {code : U8} (h : c.Ready)
    (hcode : command code = .eraseSectors) (hmode : r.lbaMode)
    (hin : InRange (MemoryMap.len c.mmap) r.lba.toNat) :
    ∃ c', c.writeCommand r code = some c' ∧ c'.Ready ∧
      MemoryMap.len c'.mmap = MemoryMap.len c.mmap ∧
      MemoryMap.byte c'.mmap = overlay (MemoryMap.byte c.mmap) (r.lba.toNat * SECTOR_SIZE)
        (List.replicate SECTOR_SIZE 0xFF) := by
  obtain ⟨m, hfill, hlen, hbyte⟩ := fillSector_eq_some hin
  have hflush : MemoryMap.byte (MemoryMap.flush m).1 = MemoryMap.byte m :=
    funext fun j => MemoryMap.byte_flush m j
  rw [writeCommand_of_ready h, hcode]
  simp only [dispatch, latched]
  rw [if_neg hmode, hfill, Option.bind_eq_bind, Option.bind_some]
  split
  · exact ⟨_, rfl, h.latched r, by simpa using hlen, hflush.trans hbyte⟩
  · exact ⟨_, rfl, (busy_or_err _).trans (h.latched r), by simpa [fail] using hlen,
      hflush.trans hbyte⟩

/-! ### One access -/

theorem readData_transfer {c : Card M} {L k : ℕ} (h : c.Transfer .readSectors L k)
    (hin : L * SECTOR_SIZE + k < MemoryMap.len c.mmap) :
    c.readData = some (MemoryMap.byte c.mmap (L * SECTOR_SIZE + k),
      if k + 1 = SECTOR_SIZE then
        { c with sectorOffset := k + 1, status := c.status &&& ~~~Status.DRQ, state := .none }
      else { c with sectorOffset := k + 1 }) := by
  have hready : c.status &&& Status.BUSY = 0 := h.ready
  rw [readData, if_neg (by simpa using hready)]
  simp only [h.state_eq, h.lba_eq, h.offset_eq, index, if_pos hin, Option.bind_eq_bind,
    Option.bind_some]
  split <;> rfl

/-- A byte written: the image takes it at the running offset, whether that is inside the
sector or past its end, and the card stays in `writeSectors`. -/
theorem writeData_transfer {c : Card M} {L k : ℕ} (h : c.Transfer .writeSectors L k)
    (hin : L * SECTOR_SIZE + k < MemoryMap.len c.mmap) (b : U8) :
    ∃ c', c.writeData b = some c' ∧ MemoryMap.len c'.mmap = MemoryMap.len c.mmap ∧
      MemoryMap.byte c'.mmap
        = Function.update (MemoryMap.byte c.mmap) (L * SECTOR_SIZE + k) b ∧
      c'.Transfer .writeSectors L (k + 1) := by
  have hready : c.status &&& Status.BUSY = 0 := h.ready
  have hbyte := byte_setByte_eq_update hin b
  have hflush : MemoryMap.byte
      (MemoryMap.flush (MemoryMap.setByte c.mmap (L * SECTOR_SIZE + k) b)).1
      = Function.update (MemoryMap.byte c.mmap) (L * SECTOR_SIZE + k) b := by
    funext j
    rw [MemoryMap.byte_flush, hbyte]
  rw [writeData, if_neg (by simpa using hready)]
  simp only [h.state_eq, h.lba_eq, h.offset_eq, indexMut, if_pos hin, Option.bind_eq_bind,
    Option.bind_some]
  split
  · -- the 512th byte is flushed; either way the state is left as it is
    split
    · exact ⟨_, rfl, by simp, hflush, hready, rfl, h.lba_eq, rfl⟩
    · exact ⟨_, rfl, by simp, hflush, busy_flush_error _, rfl, h.lba_eq, rfl⟩
  · exact ⟨_, rfl, by simp, hbyte, hready, rfl, h.lba_eq, rfl⟩

/-- Past the end of the image the write panics. -/
theorem writeData_eq_none {c : Card M} {L k : ℕ} (h : c.Transfer .writeSectors L k)
    (hout : MemoryMap.len c.mmap ≤ L * SECTOR_SIZE + k) (b : U8) : c.writeData b = none := by
  have hready : c.status &&& Status.BUSY = 0 := h.ready
  rw [writeData, if_neg (by simpa using hready)]
  simp only [h.state_eq, h.lba_eq, h.offset_eq, indexMut, if_neg (Nat.not_lt.2 hout),
    Option.bind_eq_bind, Option.bind_none]

/-- **An access that moves no byte**: a status poll, a quiet command, or a data access that
does not fit the command state.  A command leaves the LBA of the transfer latched if it
finds it in the registers. -/
theorem access_still {c : Card M} {r : SharedRegisters} {a : CardAccess} (h : c.Ready)
    (hst : c.state ≠ .identifyDevice) (hq : a.Quiet (MemoryMap.len c.mmap) r)
    (hr : a = .readData → c.state ≠ .readSectors)
    (hw : ∀ b, a = .writeData b → c.state ≠ .writeSectors) :
    ∃ o c', c.access r a = some (o, c') ∧ c.Still c' ∧ (a = .readData → o = some 0) ∧
      (InRange (MemoryMap.len c.mmap) c.lba.toNat →
        (∀ code, a = .command code → r.lba.toNat = c.lba.toNat) →
        c'.lba.toNat = c.lba.toNat ∧ c'.sectorOffset = c.sectorOffset) := by
  have hready : c.status &&& Status.BUSY = 0 := h
  cases a with
  | readStatus =>
    refine ⟨_, _, rfl, ⟨h, rfl, rfl⟩, ?_, fun _ _ => ⟨rfl, rfl⟩⟩
    intro hread
    cases hread
  | command code =>
    obtain ⟨c', hc', hstill, hlba, hoff⟩ := writeCommand_quiet h hq
    have hother : CardAccess.command code ≠ .readData := by
      intro hread
      cases hread
    refine ⟨none, c', by simp [access, hc'], hstill, fun hread => absurd hread hother, ?_⟩
    intro hin hL
    have hL' := hL code rfl
    refine ⟨by rw [hlba, hL'], hoff ?_⟩
    unfold InRange at hin
    rw [hL']
    omega
  | readData =>
    have hread : c.readData = some (0, c) := by
      rw [readData, if_neg (by simpa using hready)]
      cases hs : c.state with
      | none | writeSectors => rfl
      | identifyDevice => exact absurd hs hst
      | readSectors => exact absurd hs (hr rfl)
    exact ⟨some 0, c, by simp [access, hread], ⟨h, rfl, rfl⟩, fun _ => rfl, fun _ _ => ⟨rfl, rfl⟩⟩
  | writeData b =>
    have hwrite : c.writeData b = some c := by
      rw [writeData, if_neg (by simpa using hready)]
      cases hs : c.state with
      | none | identifyDevice | readSectors => rfl
      | writeSectors => exact absurd hs (hw b rfl)
    refine ⟨none, c, by simp [access, hwrite], ⟨h, rfl, rfl⟩, ?_, fun _ _ => ⟨rfl, rfl⟩⟩
    intro hread
    cases hread

/-- Within a transfer, such an access leaves the transfer alone. -/
theorem access_unmoved {c : Card M} {st : CommandState} {L k : ℕ} {r : SharedRegisters}
    {a : CardAccess} (h : c.Transfer st L k) (hin : InRange (MemoryMap.len c.mmap) L)
    (hst : st ≠ .identifyDevice) (hq : a.Quiet (MemoryMap.len c.mmap) r)
    (hL : ∀ code, a = .command code → r.lba.toNat = L) (hr : a = .readData → st ≠ .readSectors)
    (hw : ∀ b, a = .writeData b → st ≠ .writeSectors) :
    ∃ o c', c.access r a = some (o, c') ∧ c'.Transfer st L k ∧ c'.mmap = c.mmap ∧
      (a = .readData → o = some 0) := by
  obtain ⟨hready, rfl, rfl, rfl⟩ := h
  obtain ⟨o, c', hacc, hstill, hzero, hkeep⟩ := access_still hready hst hq hr hw
  obtain ⟨hlba, hoff⟩ := hkeep hin hL
  exact ⟨o, c', hacc, ⟨hstill.ready, hstill.state_eq, hlba, hoff⟩, hstill.mmap_eq, hzero⟩

/-! ### Runs -/

/-- Accesses without data move no byte, whatever their commands find in the registers. -/
theorem run_still {c : Card M} {xs : List (SharedRegisters × CardAccess)} (h : c.Ready)
    (hst : c.state ≠ .identifyDevice) (hq : ∀ x ∈ xs, x.2.Quiet (MemoryMap.len c.mmap) x.1)
    (hr : ∀ x ∈ xs, x.2 ≠ .readData) (hw : ∀ x ∈ xs, ∀ b, x.2 ≠ .writeData b) :
    ∃ os c', run Card.step c xs = some (os, c') ∧ c'.mmap = c.mmap := by
  induction xs generalizing c with
  | nil => exact ⟨[], c, rfl, rfl⟩
  | cons x xs ih =>
    obtain ⟨o, c₁, hacc, hstill, -, -⟩ := access_still h hst (hq x (List.mem_cons_self ..))
      (fun ha => absurd ha (hr x (List.mem_cons_self ..)))
      (fun b hb => absurd hb (hw x (List.mem_cons_self ..) b))
    have hq₁ : ∀ y ∈ xs, y.2.Quiet (MemoryMap.len c₁.mmap) y.1 := by
      intro y hy
      rw [hstill.mmap_eq]
      exact hq y (List.mem_cons_of_mem _ hy)
    obtain ⟨os, c', hrun, hm⟩ := ih hstill.ready (by rw [hstill.state_eq]; exact hst) hq₁
      (fun y hy => hr y (List.mem_cons_of_mem _ hy)) fun y hy => hw y (List.mem_cons_of_mem _ hy)
    refine ⟨o :: os, c', ?_, hm.trans hstill.mmap_eq⟩
    rw [run_cons (show Card.step c x = some (o, c₁) from hacc), hrun]
    rfl

/-- The command state of a READ after `k` bytes. -/
def readState (k : ℕ) : CommandState := if k < SECTOR_SIZE then .readSectors else .none

theorem readState_zero : readState 0 = .readSectors := by
  rw [readState, SECTOR_SIZE_eq]
  rfl

theorem readState_ne_identify (k : ℕ) : readState k ≠ .identifyDevice := by
  unfold readState
  split <;> nofun

/-- One byte of a READ. -/
theorem access_readData {c : Card M} {L k : ℕ} {r : SharedRegisters}
    (h : c.Transfer (readState k) L k) (hin : InRange (MemoryMap.len c.mmap) L)
    (hk : k < SECTOR_SIZE) :
    ∃ c', c.access r .readData = some (some (MemoryMap.byte c.mmap (L * SECTOR_SIZE + k)), c') ∧
      c'.Transfer (readState (k + 1)) L (k + 1) ∧ c'.mmap = c.mmap := by
  rw [show readState k = .readSectors from if_pos hk] at h
  simp only [access, readData_transfer h (hin.lt hk), Option.map_some]
  refine ⟨_, rfl, ?_⟩
  by_cases hlast : k + 1 = SECTOR_SIZE
  · rw [if_pos hlast, show readState (k + 1) = .none from if_neg (by omega)]
    exact ⟨⟨(busy_clear_drq _).trans h.ready, rfl, h.lba_eq, rfl⟩, rfl⟩
  · rw [if_neg hlast, show readState (k + 1) = .readSectors from if_pos (by omega)]
    exact ⟨⟨h.ready, h.state_eq, h.lba_eq, rfl⟩, rfl⟩

/-- **A READ answers its sector**: byte `k` of the sector, byte `k + 1`, and so on, whatever
quiet accesses come in between; the image stays as it is. -/
theorem run_read {c : Card M} {L k : ℕ} {xs : List (SharedRegisters × CardAccess)}
    (h : c.Transfer (readState k) L k) (hin : InRange (MemoryMap.len c.mmap) L)
    (hq : ∀ x ∈ xs, x.2.Quiet (MemoryMap.len c.mmap) x.1) (hL : Addressed L xs)
    (hk : k + dataReads xs ≤ SECTOR_SIZE) :
    ∃ os c', run Card.step c xs = some (os, c') ∧ c'.mmap = c.mmap ∧
      c'.Transfer (readState (k + dataReads xs)) L (k + dataReads xs) ∧
      dataRead xs os = (List.range' k (dataReads xs)).map
        fun j => MemoryMap.byte c.mmap (L * SECTOR_SIZE + j) := by
  induction xs generalizing c k with
  | nil => exact ⟨[], c, rfl, rfl, h, rfl⟩
  | cons x xs ih =>
    obtain ⟨r, a⟩ := x
    have hL' : Addressed L xs := fun x hx => hL x (List.mem_cons_of_mem _ hx)
    have hq' : ∀ x ∈ xs, x.2.Quiet (MemoryMap.len c.mmap) x.1 := by
      intro x hx
      exact hq x (List.mem_cons_of_mem _ hx)
    by_cases ha : a = .readData
    · subst ha
      rw [dataReads_cons_readData] at hk ⊢
      obtain ⟨c₁, hacc, htr, hm⟩ := access_readData (r := r) h hin (by omega)
      obtain ⟨os, c', hrun, hm', htr', hdata⟩ :=
        ih htr (by rwa [hm]) (by rwa [hm]) hL' (by omega)
      refine ⟨_, c', by rw [run_cons (show Card.step c (r, .readData) = _ from hacc), hrun]; rfl,
        hm'.trans hm, ?_, ?_⟩
      · rwa [show k + (dataReads xs + 1) = k + 1 + dataReads xs by omega]
      · rw [List.range'_succ, List.map_cons, dataRead, hdata, hm]
        rfl
    · have hst : ∀ b, a = .writeData b → readState k ≠ .writeSectors := by
        intro b _
        unfold readState
        split <;> nofun
      obtain ⟨o, c₁, hacc, htr, hm, -⟩ := access_unmoved h hin (readState_ne_identify k)
        (hq _ (List.mem_cons_self ..)) (fun code hc => hL _ (List.mem_cons_self ..) code hc)
        (fun hr => absurd hr ha) hst
      rw [dataReads_cons_of_ne ha] at hk ⊢
      obtain ⟨os, c', hrun, hm', htr', hdata⟩ := ih htr (by rwa [hm]) (by rwa [hm]) hL' hk
      refine ⟨o :: os, c', by rw [run_cons (show Card.step c (r, a) = _ from hacc), hrun]; rfl,
        hm'.trans hm, htr', ?_⟩
      rw [dataRead_cons_of_ne ha, hdata, hm]

/-- **A WRITE stores its bytes** at consecutive positions from the running offset on; what
is read from the data port meanwhile is zero.  Nothing here stops at the end of the sector. -/
theorem run_write {c : Card M} {L k : ℕ} {xs : List (SharedRegisters × CardAccess)}
    (h : c.Transfer .writeSectors L k) (hin : InRange (MemoryMap.len c.mmap) L)
    (hq : ∀ x ∈ xs, x.2.Quiet (MemoryMap.len c.mmap) x.1) (hL : Addressed L xs)
    (hlen : L * SECTOR_SIZE + k + (dataWritten xs).length ≤ MemoryMap.len c.mmap) :
    ∃ os c', run Card.step c xs = some (os, c') ∧
      MemoryMap.len c'.mmap = MemoryMap.len c.mmap ∧
      MemoryMap.byte c'.mmap
        = overlay (MemoryMap.byte c.mmap) (L * SECTOR_SIZE + k) (dataWritten xs) ∧
      c'.Transfer .writeSectors L (k + (dataWritten xs).length) ∧
      ∀ b ∈ dataRead xs os, b = 0 := by
  induction xs generalizing c k with
  | nil => exact ⟨[], c, rfl, rfl, rfl, h, nofun⟩
  | cons x xs ih =>
    obtain ⟨r, a⟩ := x
    have hL' : Addressed L xs := fun x hx => hL x (List.mem_cons_of_mem _ hx)
    have hq' : ∀ x ∈ xs, x.2.Quiet (MemoryMap.len c.mmap) x.1 := by
      intro x hx
      exact hq x (List.mem_cons_of_mem _ hx)
    by_cases ha : ∃ b, a = .writeData b
    · obtain ⟨b, rfl⟩ := ha
      simp only [dataWritten, List.length_cons] at hlen ⊢
      obtain ⟨c₁, hw, hlen₁, hbyte, htr⟩ := writeData_transfer h (by omega) b
      obtain ⟨os, c', hrun, hlen', hbyte', htr', hzero⟩ :=
        ih htr (by rwa [hlen₁]) (by rwa [hlen₁]) hL' (by omega)
      have hacc : Card.step c (r, .writeData b) = some (none, c₁) := step_writeData hw
      refine ⟨none :: os, c', by rw [run_cons hacc, hrun]; rfl, hlen'.trans hlen₁, ?_, ?_, hzero⟩
      · rw [hbyte', hbyte, overlay_cons, Nat.add_assoc]
      · rwa [show k + ((dataWritten xs).length + 1) = k + 1 + (dataWritten xs).length by omega]
    · have ha' : ∀ b, a ≠ .writeData b := fun b hb => ha ⟨b, hb⟩
      obtain ⟨o, c₁, hacc, htr, hm, ho⟩ := access_unmoved h hin nofun
        (hq _ (List.mem_cons_self ..)) (fun code hc => hL _ (List.mem_cons_self ..) code hc)
        (fun _ => nofun) (fun b hb => absurd hb (ha' b))
      rw [dataWritten_cons_of_ne ha'] at hlen ⊢
      obtain ⟨os, c', hrun, hlen', hbyte', htr', hzero⟩ :=
        ih htr (by rwa [hm]) (by rwa [hm]) hL' (by rwa [hm])
      refine ⟨o :: os, c', by rw [run_cons (show Card.step c (r, a) = _ from hacc), hrun]; rfl,
        by rw [hlen', hm], by rw [hbyte', hm], htr', ?_⟩
      by_cases hr : a = .readData
      · subst hr
        rw [ho rfl]
        simpa [dataRead] using hzero
      · rwa [dataRead_cons_of_ne hr]

end Card

end

end Possum.Ata
