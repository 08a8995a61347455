import Possum.Ata.Transfer

/-!
# Well-formed cards

The invariant of a card, from its construction through every access that does not panic:
it is never busy, its identify buffer is the one built for its image, and an IDENTIFY in
progress has not run past that buffer (`WellFormed`).

`readData_cases` and `writeData_cases` say what the data port can do to a card, as
`dispatch_cases` does for the command port; together with the exact panic conditions
(`readData_eq_none_iff`, `writeData_eq_none_iff`) nothing after this file unfolds the model
of the card again.  The last section reads the identify buffer through the data port.
-/

set_option autoImplicit false

namespace Possum.Ata

open Lib Lib.Machine

/-! ### The identify buffer -/

@[simp] theorem length_putBytes (info : List U8) (start : ℕ) (bs : List U8) :
    (putBytes info start bs).length = info.length := by
  induction bs generalizing info start with
  | nil => rfl
  | cons b bs ih => rw [putBytes, ih, List.length_set]

theorem length_deviceInfo (size : ℕ) : (deviceInfo size).length = SECTOR_SIZE := by
  simp [deviceInfo]

theorem getElem?_putBytes_of_lt (info : List U8) (start : ℕ) (bs : List U8) {i : ℕ}
    (h : i < start) : (putBytes info start bs)[i]? = info[i]? := by
  induction bs generalizing info start with
  | nil => rfl
  | cons b bs ih => rw [putBytes, ih _ _ (by omega), List.getElem?_set_ne (by omega)]

/-- The bytes put into a buffer can be read from it. -/
theorem take_drop_putBytes (info : List U8) (start : ℕ) (bs : List U8)
    (h : start + bs.length ≤ info.length) :
    ((putBytes info start bs).drop start).take bs.length = bs := by
  induction bs generalizing info start with
  | nil => rfl
  | cons b bs ih =>
    rw [List.length_cons] at h
    have hlen : start < (putBytes (info.set start b) (start + 1) bs).length := by
      rw [length_putBytes, List.length_set]
      omega
    have hfirst : (putBytes (info.set start b) (start + 1) bs)[start]? = some b := by
      rw [getElem?_putBytes_of_lt _ _ _ (Nat.lt_succ_self start), List.getElem?_set_self (by omega)]
    have hget : (putBytes (info.set start b) (start + 1) bs)[start] = b := by
      rw [List.getElem?_eq_getElem hlen] at hfirst
      exact Option.some.inj hfirst
    rw [putBytes, List.drop_eq_getElem_cons hlen, List.length_cons, List.take_succ_cons, hget,
      ih _ _ (by rw [List.length_set]; omega)]

/-- The number a list of bytes stands for, least significant byte first. -/
def leValue (bs : List U8) : ℕ := bs.foldr (fun b n => b.toNat + 256 * n) 0

theorem leValue_toLeBytes (x : U32) : leValue (toLeBytes x) = x.toNat := by
  have hx := x.isLt
  simp only [leValue, toLeBytes, List.foldr_cons, List.foldr_nil, BitVec.toNat_setWidth,
    BitVec.toNat_ushiftRight, Nat.shiftRight_eq_div_pow]
  omega

/-- **IDENTIFY reports the capacity**: bytes 120 to 123 are the number of whole sectors. -/
theorem leValue_deviceInfo (size : ℕ) (h : size / SECTOR_SIZE < 2 ^ 32) :
    leValue (((deviceInfo size).drop 120).take 4) = size / SECTOR_SIZE := by
  have hlen := length_deviceInfo size
  have hread : ((deviceInfo size).drop 120).take 4
      = toLeBytes (BitVec.ofNat 32 (size / SECTOR_SIZE)) := by
    -- the capacity is the last thing put into the buffer
    obtain ⟨info, hinfo⟩ : ∃ info, deviceInfo size
        = putBytes info 120 (toLeBytes (BitVec.ofNat 32 (size / SECTOR_SIZE))) := by
      simp only [deviceInfo]
      exact ⟨_, rfl⟩
    rw [hinfo, length_putBytes, SECTOR_SIZE_eq] at hlen
    rw [hinfo]
    refine take_drop_putBytes info 120 (toLeBytes _) ?_
    rw [hlen]
    show 120 + 4 ≤ 512
    omega
  rw [hread, leValue_toLeBytes, BitVec.toNat_ofNat, Nat.mod_eq_of_lt h]

section

variable {M : Type} [MemoryMap M]

namespace Card

/-! ### The data port, inverted -/

/-- What reading the data port leaves of a ready card. -/
inductive ReadStep (c : Card M) : Card M → Prop
  | idle (h : c.state = .none ∨ c.state = .writeSectors) : ReadStep c c
  | moved (h : c.state = .identifyDevice ∨ c.state = .readSectors)
      (hoff : c.sectorOffset + 1 ≠ SECTOR_SIZE) :
      ReadStep c { c with sectorOffset := c.sectorOffset + 1 }
  | last (error : U8) (h : c.state = .identifyDevice ∨ c.state = .readSectors)
      (hoff : c.sectorOffset + 1 = SECTOR_SIZE) :
      ReadStep c { c with
        sectorOffset := c.sectorOffset + 1, error := error,
        status := c.status &&& ~~~Status.DRQ, state := .none }

theorem readData_cases {c c' : Card M} {b : U8} (h : c.Ready) (hr : c.readData = some (b, c')) :
    ReadStep c c' := by
  have hready : c.status &&& Status.BUSY = 0 := h
  rw [readData, if_neg (by simpa using hready)] at hr
  cases hs : c.state with
  | none =>
    rw [hs] at hr
    cases hr
    exact .idle (.inl hs)
  | writeSectors =>
    rw [hs] at hr
    cases hr
    exact .idle (.inr hs)
  | identifyDevice =>
    simp only [hs, Option.bind_eq_bind] at hr
    obtain ⟨data, -, hr⟩ := Option.bind_eq_some_iff.1 hr
    split at hr
    next hoff => cases hr; exact .last 0 (.inl hs) hoff
    next hoff =>
      have hstep := ReadStep.moved (.inl hs) hoff
      rw [hs] at hstep
      cases hr
      exact hstep
  | readSectors =>
    simp only [hs, Option.bind_eq_bind] at hr
    obtain ⟨data, -, hr⟩ := Option.bind_eq_some_iff.1 hr
    split at hr
    next hoff => cases hr; exact .last c.error (.inr hs) hoff
    next hoff =>
      have hstep := ReadStep.moved (.inr hs) hoff
      rw [hs] at hstep
      cases hr
      exact hstep

/-- What writing the data port leaves of a ready card. -/
inductive WriteStep (c : Card M) : Card M → Prop
  | idle (h : c.state ≠ .writeSectors) : WriteStep c c
  | moved (mmap : M) (h : c.state = .writeSectors) (hoff : c.sectorOffset + 1 ≠ SECTOR_SIZE)
      (hlen : MemoryMap.len mmap = MemoryMap.len c.mmap) :
      WriteStep c { c with mmap := mmap, sectorOffset := c.sectorOffset + 1 }
  | last (mmap : M) (error status : U8) (h : c.state = .writeSectors)
      (hoff : c.sectorOffset + 1 = SECTOR_SIZE)
      (hlen : MemoryMap.len mmap = MemoryMap.len c.mmap) (hstatus : status &&& Status.BUSY = 0) :
      WriteStep c { c with
        mmap := mmap, sectorOffset := c.sectorOffset + 1, error := error, status := status }

theorem writeData_cases {c c' : Card M} {b : U8} (h : c.Ready) (hw : c.writeData b = some c') :
    WriteStep c c' := by
  have hready : c.status &&& Status.BUSY = 0 := h
  rw [writeData, if_neg (by simpa using hready)] at hw
  cases hs : c.state with
  | none | identifyDevice | readSectors =>
    have hidle : c.state ≠ .writeSectors := by
      rw [hs]
      intro hwrite
      cases hwrite
    rw [hs] at hw
    cases hw
    exact .idle hidle
  | writeSectors =>
    simp only [hs, Option.bind_eq_bind, indexMut] at hw
    obtain ⟨mmap, hmmap, hw⟩ := Option.bind_eq_some_iff.1 hw
    obtain ⟨-, rfl⟩ : _ ∧ MemoryMap.setByte c.mmap _ b = mmap := by
      split at hmmap
      next hlt => exact ⟨hlt, Option.some.inj hmmap⟩
      next => cases hmmap
    split at hw
    next hoff =>
      split at hw
      · have hstep := WriteStep.last (MemoryMap.flush (MemoryMap.setByte c.mmap
          (c.lba.toNat * SECTOR_SIZE + c.sectorOffset) b)).1 c.error c.status hs hoff (by simp) hready
        rw [hs] at hstep
        cases hw
        exact hstep
      · have hstep := WriteStep.last (MemoryMap.flush (MemoryMap.setByte c.mmap
          (c.lba.toNat * SECTOR_SIZE + c.sectorOffset) b)).1 (c.error ||| (Error.AMNF ||| Error.BBK))
          (c.status &&& ~~~(Status.BUSY ||| Status.DRQ) ||| Status.ERR) hs hoff (by simp)
          (busy_flush_error _)
        rw [hs] at hstep
        cases hw
        exact hstep
    next hoff =>
      have hstep := WriteStep.moved (MemoryMap.setByte c.mmap
        (c.lba.toNat * SECTOR_SIZE + c.sectorOffset) b) hs hoff (by simp)
      rw [hs] at hstep
      cases hw
      exact hstep

/-! ### The invariant -/

/-- **The invariant of a card.** -/
structure WellFormed (c : Card M) : Prop where
  ready : c.Ready
  info : c.deviceInfo = Ata.deviceInfo (MemoryMap.len c.mmap)
  identify : c.state = .identifyDevice → c.sectorOffset < SECTOR_SIZE

theorem wellFormed_new (m : M) : (Card.new m).WellFormed :=
  ⟨ready_new m, rfl, nofun⟩

theorem WellFormed.readData {c c' : Card M} {b : U8} (h : c.WellFormed)
    (hr : c.readData = some (b, c')) : c'.WellFormed := by
  cases readData_cases h.ready hr with
  | idle hs => exact h
  | moved hs hoff =>
    refine ⟨h.ready, h.info, ?_⟩
    intro hid
    have hlt := h.identify hid
    show c.sectorOffset + 1 < SECTOR_SIZE
    omega
  | last error hs hoff => exact ⟨(busy_clear_drq _).trans h.ready, h.info, nofun⟩

theorem WellFormed.writeData {c c' : Card M} {b : U8} (h : c.WellFormed)
    (hw : c.writeData b = some c') : c'.WellFormed := by
  cases writeData_cases h.ready hw with
  | idle hs => exact h
  | moved mmap hs hoff hlen =>
    refine ⟨h.ready, by rw [hlen]; exact h.info, ?_⟩
    intro hid
    rw [hs] at hid
    cases hid
  | last mmap error status hs hoff hlen hstatus =>
    refine ⟨hstatus, by rw [hlen]; exact h.info, ?_⟩
    intro hid
    rw [hs] at hid
    cases hid

theorem WellFormed.writeCommand {c c' : Card M} {r : SharedRegisters} {code : U8}
    (h : c.WellFormed) (hw : c.writeCommand r code = some c') : c'.WellFormed := by
  have hready := h.ready.latched r
  rw [writeCommand_of_ready h.ready] at hw
  have hlenE : ∀ mmap, fillSector c.mmap (r.lba.toNat * SECTOR_SIZE) = some mmap →
      MemoryMap.len (MemoryMap.flush mmap).1 = MemoryMap.len c.mmap := by
    intro mmap hf
    by_cases hin : InRange (MemoryMap.len c.mmap) r.lba.toNat
    · obtain ⟨m', hf', hlen, -⟩ := fillSector_eq_some hin
      rw [hf] at hf'
      cases hf'
      rw [MemoryMap.len_flush, hlen]
    · rw [fillSector_eq_none hin] at hf
      cases hf
  cases dispatch_cases rfl hw with
  | done error interrupt is8Bit => exact ⟨hready, h.info, h.identify⟩
  | rejected error interrupt offset hrej hoff =>
    refine ⟨(busy_or_err _).trans hready, h.info, ?_⟩
    intro hid
    rcases hoff with rfl | ⟨rfl, -⟩
    · exact h.identify hid
    · exact SECTOR_SIZE_pos
  | started interrupt state hs hne =>
    exact ⟨(busy_or_drq _).trans hready, h.info, fun _ => SECTOR_SIZE_pos⟩
  | erased mmap he hl hf hok =>
    have hlen := hlenE mmap hf
    exact ⟨hready, by rw [hlen]; exact h.info, h.identify⟩
  | eraseFailed mmap error he hl hf hok =>
    have hlen := hlenE mmap hf
    exact ⟨(busy_or_err _).trans hready, by rw [hlen]; exact h.info, h.identify⟩

theorem WellFormed.access {c c' : Card M} {r : SharedRegisters} {a : CardAccess} {o : Option U8}
    (h : c.WellFormed) (ha : c.access r a = some (o, c')) : c'.WellFormed := by
  cases a with
  | readStatus =>
    cases ha
    exact ⟨h.ready, h.info, h.identify⟩
  | readData =>
    obtain ⟨⟨b, c''⟩, hr, heq⟩ := Option.map_eq_some_iff.1 ha
    cases heq
    exact h.readData hr
  | writeData b =>
    obtain ⟨c'', hw, heq⟩ := Option.map_eq_some_iff.1 ha
    cases heq
    exact h.writeData hw
  | command code =>
    obtain ⟨c'', hw, heq⟩ := Option.map_eq_some_iff.1 ha
    cases heq
    exact h.writeCommand hw

/-! ### When the data port panics -/

theorem readData_eq_none_iff {c : Card M} (h : c.WellFormed) :
    c.readData = none ↔ c.state = .readSectors ∧
      MemoryMap.len c.mmap ≤ c.lba.toNat * SECTOR_SIZE + c.sectorOffset := by
  have hready : c.status &&& Status.BUSY = 0 := h.ready
  rw [readData, if_neg (by simpa using hready)]
  cases hs : c.state with
  | none | writeSectors => simp
  | identifyDevice =>
    have hlt : c.sectorOffset < c.deviceInfo.length := by
      rw [h.info, length_deviceInfo]
      exact h.identify hs
    simp only [List.getElem?_eq_getElem hlt, Option.bind_eq_bind, Option.bind_some]
    split <;> simp
  | readSectors =>
    by_cases hin : c.lba.toNat * SECTOR_SIZE + c.sectorOffset < MemoryMap.len c.mmap
    · simp only [index, if_pos hin, Option.bind_eq_bind, Option.bind_some, true_and,
        Nat.not_le.2 hin, iff_false]
      split <;> simp
    · simp [index, hin, Nat.not_lt.1 hin]

theorem writeData_eq_none_iff {c : Card M} (h : c.Ready) (b : U8) :
    c.writeData b = none ↔ c.state = .writeSectors ∧
      MemoryMap.len c.mmap ≤ c.lba.toNat * SECTOR_SIZE + c.sectorOffset := by
  have hready : c.status &&& Status.BUSY = 0 := h
  rw [writeData, if_neg (by simpa using hready)]
  cases hs : c.state with
  | none | identifyDevice | readSectors => simp
  | writeSectors =>
    by_cases hin : c.lba.toNat * SECTOR_SIZE + c.sectorOffset < MemoryMap.len c.mmap
    · simp only [indexMut, if_pos hin, Option.bind_eq_bind, Option.bind_some, true_and,
        Nat.not_le.2 hin, iff_false]
      split
      · split <;> simp
      · simp
    · simp [indexMut, hin, Nat.not_lt.1 hin]

/-! ### Reading the identify buffer -/

/-- In an IDENTIFY the data port answers the buffer, byte by byte. -/
theorem run_identify {c : Card M} {k : ℕ} (h : c.WellFormed) (hs : c.state = .identifyDevice)
    (hoff : c.sectorOffset = k) (r : SharedRegisters) (n : ℕ) (hn : k + n = SECTOR_SIZE) :
    ∃ os c', run Card.step c (List.replicate n (r, .readData)) = some (os, c') ∧
      dataRead (List.replicate n (r, .readData)) os = c.deviceInfo.drop k := by
  have hlen : c.deviceInfo.length = SECTOR_SIZE := by rw [h.info, length_deviceInfo]
  induction n generalizing c k with
  | zero =>
    have hlt := h.identify hs
    omega
  | succ n ih =>
    have hready : c.status &&& Status.BUSY = 0 := h.ready
    have hlt : k < c.deviceInfo.length := by omega
    have hread : c.readData = some (c.deviceInfo[k],
        if k + 1 = SECTOR_SIZE then
          { c with
            sectorOffset := k + 1, error := 0, status := c.status &&& ~~~Status.DRQ,
            state := .none }
        else { c with sectorOffset := k + 1 }) := by
      rw [readData, if_neg (by simpa using hready)]
      simp only [hs, hoff, List.getElem?_eq_getElem hlt, Option.bind_eq_bind, Option.bind_some]
      split <;> rfl
    have hdrop : c.deviceInfo.drop k = c.deviceInfo[k] :: c.deviceInfo.drop (k + 1) :=
      List.drop_eq_getElem_cons hlt
    have hwf := h.readData hread
    rw [List.replicate_succ, hdrop]
    rcases Nat.eq_zero_or_pos n with rfl | hpos
    · -- the last byte
      refine ⟨[some c.deviceInfo[k]], _, run_cons (step_readData hread) [], ?_⟩
      rw [List.drop_of_length_le (by omega)]
      rfl
    · rw [if_neg (by omega)] at hread hwf
      obtain ⟨os, c', hrun, hdata⟩ := ih (c := { c with sectorOffset := k + 1 }) (k := k + 1) hwf hs
        rfl (by omega) hlen
      refine ⟨some c.deviceInfo[k] :: os, c', by rw [run_cons (step_readData hread), hrun]; rfl, ?_⟩
      rw [dataRead, hdata]
      rfl

end Card

end

end Possum.Ata
