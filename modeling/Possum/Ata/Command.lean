import Possum.Ata.Drives
import Possum.Lib.Overlay

/-!
# What a command does

The command port, said once.  A ready card latches the LBA and clears its error
(`Card.latched`); after that a command is one of four things (`dispatch_cases`):

* it is **done** at once, touching no more than the error register, the interrupt line and
  the 8-bit flag;
* it is **rejected** with ERR, whatever transfer was going on staying as it was;
* it **starts** a transfer: DRQ, offset 0, a new command state;
* it **erases** a sector and flushes.

`dispatch_eq_none` says when it panics instead.  `InRange` is the condition for a whole
sector to lie in the image.
-/

set_option autoImplicit false

namespace Possum.Ata

open Lib

/-! ### Status bits -/

theorem busy_or_err : ∀ s : U8, (s ||| Status.ERR) &&& Status.BUSY = s &&& Status.BUSY := by
  decide +kernel

theorem busy_or_drq : ∀ s : U8, (s ||| Status.DRQ) &&& Status.BUSY = s &&& Status.BUSY := by
  decide +kernel

theorem busy_clear_err : ∀ s : U8, (s &&& ~~~Status.ERR) &&& Status.BUSY = s &&& Status.BUSY := by
  decide +kernel

theorem busy_clear_drq : ∀ s : U8, (s &&& ~~~Status.DRQ) &&& Status.BUSY = s &&& Status.BUSY := by
  decide +kernel

theorem busy_flush_error :
    ∀ s : U8, (s &&& ~~~(Status.BUSY ||| Status.DRQ) ||| Status.ERR) &&& Status.BUSY = 0 := by
  decide +kernel

/-! ### Filling a sector -/

/-- Sector `L` lies inside an image of the given size. -/
def InRange (size L : ℕ) : Prop := L * SECTOR_SIZE + SECTOR_SIZE ≤ size

instance (size L : ℕ) : Decidable (InRange size L) := inferInstanceAs (Decidable (_ ≤ _))

theorem InRange.lt {size L k : ℕ} (h : InRange size L) (hk : k < SECTOR_SIZE) :
    L * SECTOR_SIZE + k < size := by
  unfold InRange at h
  omega

theorem InRange.le {size L : ℕ} (h : InRange size L) : L * SECTOR_SIZE ≤ size := by
  unfold InRange at h
  omega

/-- A position outside a sector lies before it or behind it. -/
theorem outside_of_div_ne {i L : ℕ} (h : i / SECTOR_SIZE ≠ L) :
    i < L * SECTOR_SIZE ∨ L * SECTOR_SIZE + SECTOR_SIZE ≤ i := by
  by_contra hno
  have hle : L ≤ i / SECTOR_SIZE := (Nat.le_div_iff_mul_le SECTOR_SIZE_pos).2 (by omega)
  have hlt : i / SECTOR_SIZE < L + 1 := by
    rw [Nat.div_lt_iff_lt_mul SECTOR_SIZE_pos, Nat.add_mul]
    omega
  omega

/-- The sectors in range are those below the number of whole sectors. -/
theorem inRange_iff (size L : ℕ) : InRange size L ↔ L < size / SECTOR_SIZE := by
  rw [InRange, Nat.lt_iff_add_one_le, Nat.le_div_iff_mul_le SECTOR_SIZE_pos, Nat.add_mul,
    Nat.one_mul]

section

variable {M : Type} [MemoryMap M]

theorem byte_setByte_eq_update {m : M} {i : ℕ} (h : i < MemoryMap.len m) (b : U8) :
    MemoryMap.byte (MemoryMap.setByte m i b) = Function.update (MemoryMap.byte m) i b := by
  funext j
  rw [MemoryMap.byte_setByte m i b j h, Function.update_apply]

namespace Card

theorem fill_eq_some (m : M) (offset n : ℕ) (h : offset + n ≤ MemoryMap.len m) :
    ∃ m', (List.range n).foldlM (fun m i => indexMut m (offset + i) 0xFF) m = some m' ∧
      MemoryMap.len m' = MemoryMap.len m ∧
      MemoryMap.byte m' = overlay (MemoryMap.byte m) offset (List.replicate n 0xFF) := by
  induction n with
  | zero => exact ⟨m, rfl, rfl, rfl⟩
  | succ n ih =>
    obtain ⟨m', hfill, hlen, hbyte⟩ := ih (by omega)
    have hin : offset + n < MemoryMap.len m' := by omega
    refine ⟨MemoryMap.setByte m' (offset + n) 0xFF, ?_, by simpa using hlen, ?_⟩
    · rw [List.range_succ, List.foldlM_append, hfill]
      simp [indexMut, hin]
    · rw [byte_setByte_eq_update hin, hbyte, List.replicate_succ', overlay_append,
        List.length_replicate]
      rfl

theorem fill_eq_none (m : M) (offset n : ℕ) (hn : 0 < n) (h : MemoryMap.len m < offset + n) :
    (List.range n).foldlM (fun m i => indexMut m (offset + i) 0xFF) m = none := by
  induction n with
  | zero => omega
  | succ n ih =>
    rw [List.range_succ, List.foldlM_append]
    by_cases hlt : MemoryMap.len m < offset + n
    · rcases Nat.eq_zero_or_pos n with rfl | hpos
      · simp [indexMut, show ¬ offset < MemoryMap.len m by omega]
      · rw [ih hpos hlt]
        rfl
    · -- the first `n` bytes still fit, the last one does not
      obtain ⟨m', hfill, hlen, -⟩ := fill_eq_some m offset n (by omega)
      rw [hfill]
      simp [indexMut, show ¬ offset + n < MemoryMap.len m' by omega]

/-- ERASE of an in-range sector fills it with `0xFF`. -/
theorem fillSector_eq_some {m : M} {L : ℕ} (h : InRange (MemoryMap.len m) L) :
    ∃ m', fillSector m (L * SECTOR_SIZE) = some m' ∧ MemoryMap.len m' = MemoryMap.len m ∧
      MemoryMap.byte m'
        = overlay (MemoryMap.byte m) (L * SECTOR_SIZE) (List.replicate SECTOR_SIZE 0xFF) :=
  fill_eq_some m _ _ h

theorem fillSector_eq_none {m : M} {L : ℕ} (h : ¬ InRange (MemoryMap.len m) L) :
    fillSector m (L * SECTOR_SIZE) = none := by
  refine fill_eq_none m _ _ SECTOR_SIZE_pos ?_
  unfold InRange at h
  omega

/-! ### Ready cards -/

/-- The card is not busy.  No command ever sets BUSY. -/
def Ready (c : Card M) : Prop := c.status &&& Status.BUSY = 0

theorem ready_new (m : M) : (Card.new m).Ready := by
  show (Status.RDY ||| Status.DSC) &&& Status.BUSY = 0
  decide

/-- The card with the LBA latched and the errors cleared, as a command finds it. -/
def latched (c : Card M) (r : SharedRegisters) : Card M :=
  { c with lba := r.lba, error := 0, status := c.status &&& ~~~Status.ERR }

theorem writeCommand_of_ready {c : Card M} (h : c.Ready) (r : SharedRegisters) (code : U8) :
    c.writeCommand r code = (c.latched r).dispatch r (command code) := by
  have hbusy : c.status &&& Status.BUSY = 0 := h
  rw [writeCommand, if_neg (by simpa using hbusy)]
  simp only [latchLba_eq]
  rfl

omit [MemoryMap M] in
theorem Ready.latched {c : Card M} (h : c.Ready) (r : SharedRegisters) : (c.latched r).Ready := by
  have hbusy : c.status &&& Status.BUSY = 0 := h
  exact (busy_clear_err c.status).trans hbusy

/-! ### The four kinds of command -/

/-- The command ends with ERR before it does anything. -/
def Rejects (size : ℕ) (r : SharedRegisters) : Command → Prop
  | .nop | .invalid => True
  | .eraseSectors | .readVerifySectors | .writeSectors => ¬ r.lbaMode
  | .readSectors => ¬ r.lbaMode ∨ size < r.lba.toNat * SECTOR_SIZE
  | .setFeatures => r.feature ≠ 0x01 ∧ r.feature ≠ 0x02
  | .executeDriveDiagnostic | .identifyDevice | .requestSense => False

instance (size : ℕ) (r : SharedRegisters) : (cmd : Command) → Decidable (Rejects size r cmd)
  | .nop | .invalid => inferInstanceAs (Decidable True)
  | .eraseSectors | .readVerifySectors | .writeSectors => inferInstanceAs (Decidable (¬ _))
  | .readSectors => inferInstanceAs (Decidable (_ ∨ _))
  | .setFeatures => inferInstanceAs (Decidable (_ ∧ _))
  | .executeDriveDiagnostic | .identifyDevice | .requestSense => inferInstanceAs (Decidable False)

/-- The command state an accepted command enters, for those that start a transfer. -/
def starts (size : ℕ) (r : SharedRegisters) : Command → CommandState
  | .identifyDevice => .identifyDevice
  | .readSectors =>
      if r.lbaMode ∧ r.lba.toNat * SECTOR_SIZE ≤ size then .readSectors else .none
  | .writeSectors => if r.lbaMode then .writeSectors else .none
  | _ => .none

/-- What a command leaves of a card whose LBA is that of the registers. -/
inductive Dispatched (c : Card M) (r : SharedRegisters) (cmd : Command) : Card M → Prop
  | done (error : U8) (interrupt is8Bit : Bool) (h : starts (MemoryMap.len c.mmap) r cmd = .none)
      (hr : ¬ Rejects (MemoryMap.len c.mmap) r cmd) (he : cmd ≠ .eraseSectors) :
      Dispatched c r cmd
        { c with error := error, interrupt := interrupt, is8Bit := is8Bit }
  | rejected (error : U8) (interrupt : Bool) (offset : ℕ) (h : Rejects (MemoryMap.len c.mmap) r cmd)
      (ho : offset = c.sectorOffset ∨
        offset = 0 ∧ MemoryMap.len c.mmap < r.lba.toNat * SECTOR_SIZE) :
      Dispatched c r cmd
        { c with
          error := error, interrupt := interrupt, sectorOffset := offset,
          status := c.status ||| Status.ERR }
  | started (interrupt : Bool) (state : CommandState) (h : starts (MemoryMap.len c.mmap) r cmd = state)
      (hs : state ≠ .none) :
      Dispatched c r cmd
        { c with
          interrupt := interrupt, sectorOffset := 0, status := c.status ||| Status.DRQ,
          state := state }
  | erased (mmap : M) (he : cmd = .eraseSectors) (hl : r.lbaMode)
      (hf : fillSector c.mmap (r.lba.toNat * SECTOR_SIZE) = some mmap)
      (hok : (MemoryMap.flush mmap).2 = true) :
      Dispatched c r cmd { c with mmap := (MemoryMap.flush mmap).1 }
  | eraseFailed (mmap : M) (error : U8) (he : cmd = .eraseSectors) (hl : r.lbaMode)
      (hf : fillSector c.mmap (r.lba.toNat * SECTOR_SIZE) = some mmap)
      (hok : (MemoryMap.flush mmap).2 = false) :
      Dispatched c r cmd
        { c with
          mmap := (MemoryMap.flush mmap).1, error := error, status := c.status ||| Status.ERR }

/-- **Inversion of a command.** -/
theorem dispatch_cases {c c' : Card M} {r : SharedRegisters} {cmd : Command}
    (hlba : c.lba = r.lba) (h : c.dispatch r cmd = some c') : Dispatched c r cmd c' := by
  obtain ⟨mmap, info, interrupt, enabled, is8Bit, state, error, status, lba, offset⟩ := c
  obtain rfl : lba = r.lba := hlba
  cases cmd with
  | executeDriveDiagnostic =>
    cases h
    exact .done 0x01 interrupt is8Bit rfl id nofun
  | eraseSectors =>
    simp only [dispatch] at h
    split at h
    next hm =>
      cases h
      exact .rejected _ interrupt offset (not_not.2 hm) (.inl rfl)
    next hm =>
      cases hf : fillSector mmap (r.lba.toNat * SECTOR_SIZE) with
      | none => rw [hf] at h; cases h
      | some filled =>
        rw [hf] at h
        simp only [Option.bind_eq_bind, Option.bind_some] at h
        split at h
        next hok => cases h; exact .erased filled rfl hm hf hok
        next hok => cases h; exact .eraseFailed filled _ rfl hm hf (by simpa using hok)
  | identifyDevice =>
    cases h
    exact .started true .identifyDevice rfl nofun
  | nop =>
    cases h
    exact .rejected _ interrupt offset trivial (.inl rfl)
  | readSectors =>
    simp only [dispatch, Nat.add_zero] at h
    split at h
    next hm =>
      cases h
      exact .rejected _ interrupt offset (Or.inl (not_not.2 hm)) (.inl rfl)
    next hm =>
      split at h
      next hlen =>
        cases h
        exact .rejected _ true 0 (Or.inr hlen) (.inr ⟨rfl, hlen⟩)
      next hlen =>
        cases h
        have haccept : r.lbaMode ∧ r.lba.toNat * SECTOR_SIZE ≤ MemoryMap.len mmap :=
          ⟨hm, by omega⟩
        exact .started true .readSectors (by simp only [starts, if_pos haccept]) nofun
  | readVerifySectors =>
    simp only [dispatch] at h
    split at h
    next hm =>
      cases h
      exact .rejected _ interrupt offset (not_not.2 hm) (.inl rfl)
    next hm =>
      cases h
      exact .done error true is8Bit rfl (not_not.2 hm) nofun
  | requestSense => cases h
  | setFeatures =>
    simp only [dispatch] at h
    split at h
    next hf =>
      cases h
      refine .done error interrupt true rfl (fun hr => hr.1 ?_) nofun
      exact BitVec.eq_of_toNat_eq hf
    next hf =>
      cases h
      refine .done error interrupt false rfl (fun hr => hr.2 ?_) nofun
      exact BitVec.eq_of_toNat_eq hf
    next h1 h2 =>
      cases h
      refine .rejected _ interrupt offset ⟨?_, ?_⟩ (.inl rfl)
      · exact fun hf => h1 (by rw [hf]; rfl)
      · exact fun hf => h2 (by rw [hf]; rfl)
  | writeSectors =>
    simp only [dispatch] at h
    split at h
    next hm =>
      cases h
      exact .rejected _ interrupt offset (not_not.2 hm) (.inl rfl)
    next hm =>
      cases h
      have haccept : r.lbaMode := hm
      exact .started interrupt .writeSectors (by simp only [starts, if_pos haccept]) nofun
  | invalid =>
    cases h
    exact .rejected _ interrupt offset trivial (.inl rfl)

/-- **When a command panics.** -/
theorem dispatch_eq_none {c : Card M} {r : SharedRegisters} {cmd : Command}
    (hlba : c.lba = r.lba) : c.dispatch r cmd = none ↔
      cmd = .requestSense ∨
        cmd = .eraseSectors ∧ r.lbaMode ∧ ¬ InRange (MemoryMap.len c.mmap) r.lba.toNat := by
  cases cmd with
  | eraseSectors =>
    simp only [dispatch, hlba, reduceCtorEq, true_and, false_or]
    by_cases hm : r.driveHead &&& 0x40 = 0
    · have hno : ¬ r.lbaMode := not_not.2 hm
      rw [if_pos hm]
      simp [hno]
    · by_cases hin : InRange (MemoryMap.len c.mmap) r.lba.toNat
      · obtain ⟨m', hf, -⟩ := fillSector_eq_some hin
        simp only [if_neg hm, hf, Option.bind_eq_bind, Option.bind_some, hin, not_true_eq_false,
          and_false, iff_false]
        split <;> nofun
      · simp only [if_neg hm, fillSector_eq_none hin]
        simpa [SharedRegisters.lbaMode, hin] using hm
  | readSectors =>
    simp only [dispatch, reduceCtorEq, false_and, or_false, iff_false]
    split
    · nofun
    · split <;> nofun
  | readVerifySectors | writeSectors =>
    simp only [dispatch, reduceCtorEq, false_and, or_false, iff_false]
    split <;> nofun
  | setFeatures =>
    simp only [dispatch, reduceCtorEq, false_and, or_false, iff_false]
    split <;> nofun
  | requestSense => simp [dispatch]
  | executeDriveDiagnostic | identifyDevice | nop | invalid => simp [dispatch]

/-! ### What a rejected command leaves -/

/-- The error of a rejected command. -/
def rejection (r : SharedRegisters) : Command → U8
  | .nop | .invalid | .setFeatures => Error.AMNF ||| Error.ABRT
  | .readSectors =>
      if r.lbaMode then Error.AMNF ||| Error.IDNF else Error.AMNF ||| Error.IDNF ||| Error.ABRT
  | _ => Error.AMNF ||| Error.IDNF ||| Error.ABRT

/-- READ in LBA mode starts its sector again, even where it is rejected. -/
def offsetOfRejected (r : SharedRegisters) (cmd : Command) (offset : ℕ) : ℕ :=
  if cmd = .readSectors ∧ r.lbaMode then 0 else offset

omit [MemoryMap M] in
theorem fail_of_fine {c : Card M} (h : c.error = 0) (error : U8) :
    c.fail error = { c with error := error, status := c.status ||| Status.ERR } := by
  rw [fail, h, show 0 ||| error = error from BitVec.zero_or]

/-- **A rejected command**: ERR, its error, and nothing else but the interrupt line and, for a READ
in LBA mode, the offset. -/
theorem dispatch_of_rejects {c : Card M} {r : SharedRegisters} {cmd : Command}
    (hlba : c.lba = r.lba) (herror : c.error = 0) (h : Rejects (MemoryMap.len c.mmap) r cmd) :
    ∃ interrupt, c.dispatch r cmd = some { c with
      error := rejection r cmd
      interrupt := interrupt
      sectorOffset := offsetOfRejected r cmd c.sectorOffset
      status := c.status ||| Status.ERR } := by
  have hfail (hother : ¬ (cmd = .readSectors ∧ r.lbaMode)) :
      some (c.fail (rejection r cmd)) = some { c with
        error := rejection r cmd
        interrupt := c.interrupt
        sectorOffset := offsetOfRejected r cmd c.sectorOffset
        status := c.status ||| Status.ERR } := by
    rw [fail_of_fine herror, offsetOfRejected, if_neg hother]
  have hmode (hno : ¬ r.lbaMode) : r.driveHead &&& 0x40 = 0 := not_not.1 hno
  cases cmd with
  | executeDriveDiagnostic | identifyDevice | requestSense => exact h.elim
  | nop | invalid => exact ⟨c.interrupt, hfail nofun⟩
  | eraseSectors | readVerifySectors | writeSectors =>
    refine ⟨c.interrupt, ?_⟩
    rw [dispatch, if_pos (hmode h)]
    exact hfail nofun
  | setFeatures =>
    refine ⟨c.interrupt, ?_⟩
    simp only [dispatch]
    split
    case h_1 hone => exact absurd (BitVec.eq_of_toNat_eq hone) h.1
    case h_2 htwo => exact absurd (BitVec.eq_of_toNat_eq htwo) h.2
    case h_3 => exact hfail nofun
  | readSectors =>
    by_cases hlbaMode : r.lbaMode
    · have hlen : MemoryMap.len c.mmap < r.lba.toNat * SECTOR_SIZE :=
        h.resolve_left (not_not.2 hlbaMode)
      refine ⟨true, ?_⟩
      simp only [dispatch, Nat.add_zero, hlba]
      rw [if_neg hlbaMode, if_pos hlen, offsetOfRejected, if_pos ⟨rfl, hlbaMode⟩, rejection,
        if_pos hlbaMode]
      exact congrArg some (fail_of_fine
        (c := { c with interrupt := true, lba := r.lba, sectorOffset := 0 }) herror _)
    · refine ⟨c.interrupt, ?_⟩
      have herr : rejection r .readSectors = Error.AMNF ||| Error.IDNF ||| Error.ABRT :=
        if_neg hlbaMode
      rw [dispatch, if_pos (hmode hlbaMode), notLba, ← herr]
      exact hfail fun hboth => hlbaMode hboth.2

end Card

end

end Possum.Ata
