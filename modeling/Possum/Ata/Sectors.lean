import Possum.Ata.Invariant
import Possum.Ata.Refinement

/-!
# What a sector command can touch

Three laws of the sector commands, each with the exact extent to which the card keeps it.

* **Confinement of WRITE.**  The running offset is compared with 512 once, when the 512th
  byte is flushed, and the card stays in `writeSectors`; the 513th byte goes on to the next
  sector.  `write_confined_iff`: a WRITE is confined to its sector exactly if no more than
  512 bytes follow it.
* **Stability of a transfer.**  Every command latches the LBA, also one that starts nothing.
  `transfer_stays`: as long as each such command finds the LBA of the transfer in the
  registers, the transfer stays in its sector.
* **One capacity.**  IDENTIFY reports `len / 512` sectors.  READ compares with `<` where it
  needs `≤`, WRITE does not look at the length and ERASE indexes past it.
  `capacity_agrees_iff`: the three commands agree with the report exactly on the sectors
  below it.
-/

set_option autoImplicit false

namespace Possum.Ata

open Lib Lib.Machine

/-- Drive `d` sees one command and then `data`; the other drive sees nothing. -/
structure Sees (registers : SharedRegisters) (ops : List PortOp) (d : Drive)
    (r : SharedRegisters) (code : U8) (data : List (SharedRegisters × CardAccess)) : Prop where
  command : accesses d registers ops = (r, .command code) :: data
  other : ∀ d', d' ≠ d → accesses d' registers ops = []

section

variable {M : Type} [MemoryMap M]

/-- A command and its data, run on the card, make a run of the bus that leaves the other
drive alone. -/
theorem run_of_sees {bus : CardBus M} {ops : List PortOp} {d : Drive} {c c₁ c₂ : Card M}
    {r : SharedRegisters} {code : U8} {data : List (SharedRegisters × CardAccess)}
    {os' : List (Option U8)} (hc : bus.card d = some c) (hs : Sees bus.registers ops d r code data)
    (hcmd : c.writeCommand r code = some c₁) (hdata : run Card.step c₁ data = some (os', c₂)) :
    ∃ os bus', run step bus ops = some (os, bus') ∧ bus'.card d = some c₂ ∧
      answersOf d bus.registers ops os = none :: os' ∧
      ∀ d', d' ≠ d → bus'.card d' = bus.card d' := by
  apply run_of_drive hc hs.other
  rw [hs.command]
  exact Card.run_command hcmd hdata

/-! ### Confinement of WRITE -/

/-- The port accesses change no byte but those of sector `L` of drive `d`, and what follows
the first 512 data bytes on that drive is ignored. -/
def ConfinedWrite (bus : CardBus M) (ops : List PortOp) (d : Drive) (L : ℕ) : Prop :=
  ∃ os bus', run step bus ops = some (os, bus') ∧
    (∀ d' c c', bus.card d' = some c → bus'.card d' = some c' →
      ∀ i, (d' = d → i / SECTOR_SIZE ≠ L) → MemoryMap.byte c'.mmap i = MemoryMap.byte c.mmap i) ∧
    ∀ c c', bus.card d = some c → bus'.card d = some c' →
      ∃ os₁, run Card.step c ((accesses d bus.registers ops).take (SECTOR_SIZE + 1))
        = some (os₁, c')

namespace Card

theorem length_dataWritten {data : List (SharedRegisters × CardAccess)}
    (h : ∀ x ∈ data, ∃ b, x.2 = .writeData b) : (dataWritten data).length = data.length := by
  induction data with
  | nil => rfl
  | cons x data ih =>
    obtain ⟨r, a⟩ := x
    obtain ⟨b, hb⟩ := h _ (List.mem_cons_self ..)
    obtain rfl : a = .writeData b := hb
    rw [dataWritten, List.length_cons, List.length_cons,
      ih fun y hy => h y (List.mem_cons_of_mem _ hy)]

/-- The running offset counts every byte written, also those past the sector. -/
theorem offset_of_writes {c c' : Card M} {L k : ℕ} {data : List (SharedRegisters × CardAccess)}
    {os : List (Option U8)} (h : c.Transfer .writeSectors L k)
    (hdata : ∀ x ∈ data, ∃ b, x.2 = .writeData b) (hrun : run Card.step c data = some (os, c')) :
    c'.sectorOffset = k + data.length := by
  induction data generalizing c k os with
  | nil =>
    cases hrun
    exact h.offset_eq
  | cons x data ih =>
    obtain ⟨r, a⟩ := x
    obtain ⟨b, hb⟩ := hdata _ (List.mem_cons_self ..)
    obtain rfl : a = .writeData b := hb
    obtain ⟨o, c₁, os', hstep, hrest, -⟩ := run_cons_eq_some hrun
    obtain ⟨c₂, hw, heq⟩ := Option.map_eq_some_iff.1 hstep
    obtain rfl : c₂ = c₁ := congrArg Prod.snd heq
    -- the byte was written, so it is inside the image
    have hin : L * SECTOR_SIZE + k < MemoryMap.len c.mmap := by
      by_contra hout
      rw [writeData_eq_none h (Nat.not_lt.1 hout) b] at hw
      cases hw
    obtain ⟨c₃, hw', -, -, htr⟩ := writeData_transfer h hin b
    obtain rfl : c₂ = c₃ := Option.some.inj (hw.symm.trans hw')
    rw [ih htr (fun y hy => hdata y (List.mem_cons_of_mem _ hy)) hrest, List.length_cons]
    omega

end Card

/-- Up to 512 bytes, a WRITE changes its sector only. -/
theorem confinedWrite_of_le {bus : CardBus M} {ops : List PortOp} {d : Drive} {c : Card M}
    {L : ℕ} {r : SharedRegisters} {code : U8} {data : List (SharedRegisters × CardAccess)}
    (hc : bus.card d = some c) (hready : c.Ready) (hs : Sees bus.registers ops d r code data)
    (hcode : Card.command code = .writeSectors) (hr : r.Addresses L)
    (hin : InRange (MemoryMap.len c.mmap) L) (hdata : ∀ x ∈ data, ∃ b, x.2 = .writeData b)
    (hlen : data.length ≤ SECTOR_SIZE) : ConfinedWrite bus ops d L := by
  obtain ⟨hmode, rfl⟩ := hr
  obtain ⟨c₁, hcmd, hm₁, htr₁, -⟩ := Card.writeCommand_write hready hcode hmode
  have hno : ∀ x ∈ data, ∀ code', x.2 ≠ .command code' := by
    intro x hx code'
    obtain ⟨b, hb⟩ := hdata x hx
    rw [hb]
    nofun
  have hcount := Card.length_dataWritten hdata
  have hroom : r.lba.toNat * SECTOR_SIZE + 0 + (dataWritten data).length
      ≤ MemoryMap.len c₁.mmap := by
    rw [hm₁, hcount]
    unfold InRange at hin
    omega
  obtain ⟨os₁, c₂, hrun₁, -, hbyte, -, -⟩ := Card.run_write htr₁ (hm₁.symm ▸ hin)
    (quiet_of_no_command hno _) (addressed_of_no_command hno _) hroom
  obtain ⟨os, bus', hbus, hc₂, -, hother⟩ := run_of_sees hc hs hcmd hrun₁
  refine ⟨os, bus', hbus, ?_, ?_⟩
  · intro d' c₀ c' hc₀ hc' i hi
    by_cases hd : d' = d
    · subst hd
      obtain rfl : c = c₀ := Option.some.inj (hc.symm.trans hc₀)
      obtain rfl : c₂ = c' := Option.some.inj (hc₂.symm.trans hc')
      have hout := outside_of_div_ne (hi rfl)
      rw [hbyte, hm₁]
      exact overlay_of_out _ _ _ (by rw [hcount]; omega)
    · rw [hother d' hd, hc₀] at hc'
      obtain rfl : c₀ = c' := Option.some.inj hc'
      rfl
  · intro c₀ c' hc₀ hc'
    obtain rfl : c = c₀ := Option.some.inj (hc.symm.trans hc₀)
    obtain rfl : c₂ = c' := Option.some.inj (hc₂.symm.trans hc')
    rw [List.take_of_length_le (by rw [hs.command, List.length_cons]; omega), hs.command]
    exact ⟨_, Card.run_command hcmd hrun₁⟩

/-- The 513th byte is not ignored. -/
theorem not_confinedWrite_of_lt {bus : CardBus M} {ops : List PortOp} {d : Drive} {c : Card M}
    {L : ℕ} {r : SharedRegisters} {code : U8} {data : List (SharedRegisters × CardAccess)}
    (hc : bus.card d = some c) (hready : c.Ready) (hs : Sees bus.registers ops d r code data)
    (hcode : Card.command code = .writeSectors) (hr : r.Addresses L)
    (hdata : ∀ x ∈ data, ∃ b, x.2 = .writeData b)
    (hlen : SECTOR_SIZE < data.length) : ¬ ConfinedWrite bus ops d L := by
  rintro ⟨os, bus', hbus, -, hignored⟩
  obtain ⟨hmode, rfl⟩ := hr
  obtain ⟨c₁, hcmd, hm₁, htr₁, -⟩ := Card.writeCommand_write hready hcode hmode
  have hacc : Card.step c (r, .command code) = some (none, c₁) := Card.step_command hcmd
  obtain ⟨c', hproj, hc'⟩ := run_card hbus hc
  obtain ⟨os₁, htake⟩ := hignored c c' hc hc'
  rw [hs.command] at hproj htake
  rw [List.take_succ_cons] at htake
  -- the offset of the final card counts all bytes, and it counts 512 of them
  obtain ⟨o, c₂, os₂, hstep, hrest, -⟩ := run_cons_eq_some hproj
  obtain ⟨-, rfl⟩ : none = o ∧ c₁ = c₂ := Prod.mk.inj (Option.some.inj (hacc.symm.trans hstep))
  obtain ⟨o', c₃, os₃, hstep', hrest', -⟩ := run_cons_eq_some htake
  obtain ⟨-, rfl⟩ : none = o' ∧ c₁ = c₃ := Prod.mk.inj (Option.some.inj (hacc.symm.trans hstep'))
  have hall := Card.offset_of_writes htr₁ hdata hrest
  have hfirst := Card.offset_of_writes htr₁ (fun x hx => hdata x (List.mem_of_mem_take hx)) hrest'
  rw [List.length_take] at hfirst
  omega

/-- **A WRITE is confined to its sector exactly if at most 512 data bytes follow it.**  The
card may be in any state that accepts commands, and the flush may succeed or fail. -/
theorem write_confined_iff {bus : CardBus M} {ops : List PortOp} {d : Drive} {c : Card M}
    {L : ℕ} {r : SharedRegisters} {code : U8} {data : List (SharedRegisters × CardAccess)}
    (hc : bus.card d = some c) (hready : c.Ready) (hs : Sees bus.registers ops d r code data)
    (hcode : Card.command code = .writeSectors) (hr : r.Addresses L)
    (hin : InRange (MemoryMap.len c.mmap) L) (hdata : ∀ x ∈ data, ∃ b, x.2 = .writeData b) :
    ConfinedWrite bus ops d L ↔ data.length ≤ SECTOR_SIZE := by
  constructor
  · intro h
    by_contra hlt
    exact not_confinedWrite_of_lt hc hready hs hcode hr hdata (Nat.not_le.1 hlt) h
  · exact confinedWrite_of_le hc hready hs hcode hr hin hdata

/-- WRITE of sector 0 and `n` data bytes after it. -/
def writeTwos (n : ℕ) : List PortOp := setUp 0 0 0 0x40 0x30 ++ List.replicate n (.write 0 2)

theorem sees_writeTwos (n : ℕ) :
    Sees {} (writeTwos n) .zero { driveHead := 0x40 } 0x30
      (List.replicate n ({ driveHead := 0x40 }, .writeData 2)) where
  command := by
    rw [writeTwos, accesses_setUp, if_pos (by decide), accesses_replicate (a := .writeData 2) rfl,
      if_pos (by decide)]
    rfl
  other d' hd := by
    cases d' with
    | zero => exact absurd rfl hd
    | one =>
      rw [writeTwos, accesses_setUp, if_neg (by decide), accesses_replicate (a := .writeData 2) rfl,
        if_neg (by decide)]

/-- A disk of two sectors, the first zeroed and the second filled with ones. -/
def twoSectors : Image := ⟨List.replicate 512 0 ++ List.replicate 512 1, []⟩

theorem len_twoSectors : MemoryMap.len twoSectors = 1024 := by
  show (List.replicate 512 (0 : U8) ++ List.replicate 512 1).length = 1024
  rw [List.length_append, List.length_replicate, List.length_replicate]

theorem inRange_twoSectors : InRange (MemoryMap.len twoSectors) 0 := by
  rw [len_twoSectors, InRange, SECTOR_SIZE_eq]
  omega

theorem writeData_of_mem_replicate {n : ℕ} {r : SharedRegisters} {b : U8} :
    ∀ x ∈ List.replicate n ((r, .writeData b) : SharedRegisters × CardAccess),
      ∃ b', x.2 = .writeData b' :=
  fun x hx => ⟨b, by rw [List.eq_of_mem_replicate hx]⟩

/-- One byte too many escapes: a 2 among the ones. -/
theorem not_confinedWrite_513 :
    ¬ ConfinedWrite (CardBus.new twoSectors none) (writeTwos 513) .zero 0 :=
  not_confinedWrite_of_lt rfl (Card.ready_new _) (sees_writeTwos 513) (by decide)
    ⟨by decide, by decide⟩ writeData_of_mem_replicate
    (by rw [List.length_replicate, SECTOR_SIZE_eq]; omega)

theorem write_confined_iff_512 :
    ConfinedWrite (CardBus.new twoSectors none) (writeTwos 512) .zero 0 :=
  (write_confined_iff rfl (Card.ready_new _) (sees_writeTwos 512) (by decide)
    ⟨by decide, by decide⟩ inRange_twoSectors writeData_of_mem_replicate).2
    (by rw [List.length_replicate, SECTOR_SIZE_eq])

/-! ### Stability of a transfer -/

/-- Drive `d` answers bytes of sector `L`, in order, until the transfer is over or aborted and
zeros after that; its image stays as it is. -/
def ReadsSector (bus : CardBus M) (ops : List PortOp) (d : Drive) (L : ℕ) : Prop :=
  ∃ os bus', run step bus ops = some (os, bus') ∧
    ∀ c c', bus.card d = some c → bus'.card d = some c' →
      (∀ i, MemoryMap.byte c'.mmap i = MemoryMap.byte c.mmap i) ∧
      ∃ n ≤ dataReads (accesses d bus.registers ops),
        dataRead (accesses d bus.registers ops) (answersOf d bus.registers ops os)
          = ((List.range' 0 n).map fun j => MemoryMap.byte c.mmap (L * SECTOR_SIZE + j))
            ++ List.replicate (dataReads (accesses d bus.registers ops) - n) 0

/-- Drive `d` stores the bytes written in sector `L`, in order, until the transfer is over or
aborted; it answers nothing but zeros. -/
def WritesSector (bus : CardBus M) (ops : List PortOp) (d : Drive) (L : ℕ) : Prop :=
  ∃ os bus', run step bus ops = some (os, bus') ∧
    ∀ c c', bus.card d = some c → bus'.card d = some c' →
      (∃ n, MemoryMap.byte c'.mmap = overlay (MemoryMap.byte c.mmap) (L * SECTOR_SIZE)
        ((dataWritten (accesses d bus.registers ops)).take n)) ∧
      ∀ b ∈ dataRead (accesses d bus.registers ops) (answersOf d bus.registers ops os), b = 0

/-- Every command that comes before the last data access finds `L` in the registers. -/
def AddressedUntilLast (L : ℕ) (data : List (SharedRegisters × CardAccess)) : Prop :=
  ∃ front back, data = front ++ back ∧ Addressed L front ∧
    ∀ x ∈ back, x.2 ≠ .readData ∧ ∀ b, x.2 ≠ .writeData b

/-- What follows the last data access changes neither the image nor what has been read. -/
theorem run_back {bus : CardBus M} {ops : List PortOp} {d : Drive} {c c₁ c₂ : Card M}
    {r : SharedRegisters} {code : U8} {front back : List (SharedRegisters × CardAccess)}
    {os₁ : List (Option U8)} (hc : bus.card d = some c)
    (hs : Sees bus.registers ops d r code (front ++ back))
    (hcmd : c.writeCommand r code = some c₁) (hrun₁ : run Card.step c₁ front = some (os₁, c₂))
    (hready : c₂.Ready) (hst : c₂.state ≠ .identifyDevice)
    (hquiet : ∀ x ∈ front ++ back, x.2.Quiet (MemoryMap.len c₂.mmap) x.1)
    (hback : ∀ x ∈ back, x.2 ≠ .readData ∧ ∀ b, x.2 ≠ .writeData b) :
    ∃ os bus' c₃, run step bus ops = some (os, bus') ∧ bus'.card d = some c₃ ∧
      c₃.mmap = c₂.mmap ∧
      dataRead (accesses d bus.registers ops) (answersOf d bus.registers ops os) =
        dataRead front os₁ := by
  obtain ⟨os₂, c₃, hrun₂, hm₃⟩ := Card.run_still hready hst
    (fun x hx => hquiet x (List.mem_append_right _ hx)) (fun x hx => (hback x hx).1)
    (fun x hx => (hback x hx).2)
  obtain ⟨os, bus', hbus, hc₃, hans, -⟩ :=
    run_of_sees hc hs hcmd (run_append_of_some hrun₁ hrun₂)
  refine ⟨os, bus', c₃, hbus, hc₃, hm₃, ?_⟩
  rw [hans, hs.command, dataRead_cons_command, dataRead_append (length_of_run hrun₁),
    dataRead_eq_nil os₂ (fun x hx => (hback x hx).1), List.append_nil]

theorem readsSector {bus : CardBus M} {ops : List PortOp} {d : Drive} {c : Card M}
    {L : ℕ} {r : SharedRegisters} {code : U8} {data : List (SharedRegisters × CardAccess)}
    (hc : bus.card d = some c) (hready : c.Ready) (hs : Sees bus.registers ops d r code data)
    (hcode : Card.command code = .readSectors) (hr : r.Addresses L)
    (hin : InRange (MemoryMap.len c.mmap) L)
    (hquiet : ∀ x ∈ data, x.2.Quiet (MemoryMap.len c.mmap) x.1)
    (hcount : dataReads data ≤ SECTOR_SIZE) (haddr : AddressedUntilLast L data) :
    ReadsSector bus ops d L := by
  obtain ⟨hmode, rfl⟩ := hr
  obtain ⟨front, back, rfl, hfront, hback⟩ := haddr
  have hnone : dataReads back = 0 := dataReads_eq_zero fun x hx => (hback x hx).1
  rw [dataReads_append] at hcount
  obtain ⟨c₁, hcmd, hm₁, htr₁, -⟩ := Card.writeCommand_read hready hcode hmode hin.le
  rw [← hm₁] at hquiet
  rw [← Card.readState_zero] at htr₁
  -- the transfer, then what follows its last byte
  obtain ⟨os₁, c₂, hrun₁, hm₂, htr₂, hdata⟩ := Card.run_read htr₁ (hm₁.symm ▸ hin)
    (fun x hx => hquiet x (List.mem_append_left _ hx)) hfront (by omega)
  rw [← hm₂] at hquiet
  have hst : c₂.state ≠ .identifyDevice := by
    rw [htr₂.state_eq]
    exact Card.readState_ne_identify _
  obtain ⟨os, bus', c₃, hbus, hc₃, hm₃, hans⟩ :=
    run_back hc hs hcmd hrun₁ htr₂.ready hst hquiet hback
  refine ⟨os, bus', hbus, ?_⟩
  intro c₀ c' hc₀ hc'
  obtain rfl : c = c₀ := Option.some.inj (hc.symm.trans hc₀)
  obtain rfl : c₃ = c' := Option.some.inj (hc₃.symm.trans hc')
  rw [hans, hs.command, dataReads_cons_command, dataReads_append, hnone, hdata, hm₁]
  refine ⟨fun i => by rw [hm₃, hm₂, hm₁], dataReads front, Nat.le_refl _, ?_⟩
  rw [Nat.add_zero, Nat.sub_self, List.replicate_zero, List.append_nil]

theorem writesSector {bus : CardBus M} {ops : List PortOp} {d : Drive} {c : Card M}
    {L : ℕ} {r : SharedRegisters} {code : U8} {data : List (SharedRegisters × CardAccess)}
    (hc : bus.card d = some c) (hready : c.Ready) (hs : Sees bus.registers ops d r code data)
    (hcode : Card.command code = .writeSectors) (hr : r.Addresses L)
    (hin : InRange (MemoryMap.len c.mmap) L)
    (hquiet : ∀ x ∈ data, x.2.Quiet (MemoryMap.len c.mmap) x.1)
    (hcount : (dataWritten data).length ≤ SECTOR_SIZE) (haddr : AddressedUntilLast L data) :
    WritesSector bus ops d L := by
  obtain ⟨hmode, rfl⟩ := hr
  obtain ⟨front, back, rfl, hfront, hback⟩ := haddr
  have hnone : dataWritten back = [] := dataWritten_eq_nil fun x hx => (hback x hx).2
  rw [dataWritten_append, hnone, List.append_nil] at hcount
  obtain ⟨c₁, hcmd, hm₁, htr₁, -⟩ := Card.writeCommand_write hready hcode hmode
  have hroom : r.lba.toNat * SECTOR_SIZE + 0 + (dataWritten front).length
      ≤ MemoryMap.len c₁.mmap := by
    rw [hm₁]
    unfold InRange at hin
    omega
  rw [← hm₁] at hquiet
  -- the transfer, then what follows its last byte
  obtain ⟨os₁, c₂, hrun₁, hlen₂, hbyte, htr₂, hzero⟩ := Card.run_write htr₁ (hm₁.symm ▸ hin)
    (fun x hx => hquiet x (List.mem_append_left _ hx)) hfront hroom
  rw [← hlen₂] at hquiet
  have hst : c₂.state ≠ .identifyDevice := by
    rw [htr₂.state_eq]
    intro hidentify
    cases hidentify
  obtain ⟨os, bus', c₃, hbus, hc₃, hm₃, hans⟩ :=
    run_back hc hs hcmd hrun₁ htr₂.ready hst hquiet hback
  refine ⟨os, bus', hbus, ?_⟩
  intro c₀ c' hc₀ hc'
  obtain rfl : c = c₀ := Option.some.inj (hc.symm.trans hc₀)
  obtain rfl : c₃ = c' := Option.some.inj (hc₃.symm.trans hc')
  rw [hans, hs.command, dataWritten_cons_of_ne (by simp), dataWritten_append, hnone,
    List.append_nil]
  refine ⟨⟨(dataWritten front).length, ?_⟩, hzero⟩
  rw [List.take_length, hm₃, hbyte, hm₁]
  rfl

/-- **A transfer stays in its sector** as long as every command issued on its drive before
its last data byte finds the LBA of the transfer in the registers.  Such a command starts
nothing and may be accepted or rejected; data accesses in either direction, status polls and
writes to the other registers may come in between in any order. -/
theorem transfer_stays {bus : CardBus M} {ops : List PortOp} {d : Drive} {c : Card M}
    {L : ℕ} {r : SharedRegisters} {code : U8} {data : List (SharedRegisters × CardAccess)}
    (hc : bus.card d = some c) (hready : c.Ready) (hs : Sees bus.registers ops d r code data)
    (hr : r.Addresses L) (hin : InRange (MemoryMap.len c.mmap) L)
    (hquiet : ∀ x ∈ data, x.2.Quiet (MemoryMap.len c.mmap) x.1)
    (hcount : dataReads data + (dataWritten data).length ≤ SECTOR_SIZE)
    (haddr : AddressedUntilLast L data) :
    (Card.command code = .readSectors → ReadsSector bus ops d L) ∧
      (Card.command code = .writeSectors → WritesSector bus ops d L) := by
  constructor
  · intro hcode
    exact readsSector hc hready hs hcode hr hin hquiet (by omega) haddr
  · intro hcode
    exact writesSector hc hready hs hcode hr hin hquiet (by omega) haddr

/-- READ of sector 0, then a NOP with `lba` in the low LBA register, then one data byte. -/
def readAcrossNop (lba : U8) : List PortOp :=
  setUp 0 0 0 0x40 0x20 ++ [.write 3 lba, .write 7 0x00, .read 0]

/-- What drive 0 sees of it after the READ. -/
def acrossNop (lba : U8) : List (SharedRegisters × CardAccess) :=
  [({ sectorNumber := lba, driveHead := 0x40 }, .command 0x00),
    ({ sectorNumber := lba, driveHead := 0x40 }, .readData)]

theorem accesses_acrossNop (d : Drive) (r : SharedRegisters) (lba : U8) :
    accesses d r [.write 3 lba, .write 7 0x00, .read 0]
      = if r.drive = d then
          [({ r with sectorNumber := lba }, .command 0x00),
            ({ r with sectorNumber := lba }, .readData)]
        else [] := by
  rw [accesses_writeRegister (show (PortOp.write 3 lba).access = .writeRegister 3 lba from rfl),
    accesses_card (show (PortOp.write 7 0x00).access = .card (.command 0x00) from rfl),
    accesses_card (show (PortOp.read 0).access = .card .readData from rfl)]
  have hdrive : (r.put 3 lba).drive = r.drive := rfl
  rw [hdrive]
  split_ifs <;> rfl

theorem sees_readAcrossNop (lba : U8) :
    Sees {} (readAcrossNop lba) .zero { driveHead := 0x40 } 0x20 (acrossNop lba) where
  command := by
    rw [readAcrossNop, accesses_setUp, if_pos (by decide), accesses_acrossNop,
      if_pos (by decide)]
    rfl
  other d' hd := by
    cases d' with
    | zero => exact absurd rfl hd
    | one =>
      rw [readAcrossNop, accesses_setUp, if_neg (by decide), accesses_acrossNop,
        if_neg (by decide)]

/-- The NOP latches sector 1, and the byte answered is the first of sector 1. -/
theorem not_readsSector_acrossNop :
    ¬ ReadsSector (CardBus.new twoSectors none) (readAcrossNop 1) .zero 0 := by
  rintro ⟨os, bus, hrun, h⟩
  have hread : (run step (CardBus.new twoSectors none) (readAcrossNop 1)).map
      (fun q => dataRead (accesses .zero {} (readAcrossNop 1))
        (answersOf .zero {} (readAcrossNop 1) q.1)) = some [1] := by
    decide +kernel
  have hfirst : MemoryMap.byte twoSectors 0 = 0 := by decide +kernel
  rw [hrun, Option.map_some, Option.some.injEq] at hread
  obtain ⟨-, n, hn, hdata⟩ := h _ bus.card0 rfl rfl
  have hcount : dataReads (accesses .zero {} (readAcrossNop 1)) = 1 := by decide +kernel
  change n ≤ dataReads (accesses .zero {} (readAcrossNop 1)) at hn
  change dataRead (accesses .zero {} (readAcrossNop 1))
    (answersOf .zero {} (readAcrossNop 1) os) = _ ++ List.replicate
      (dataReads (accesses .zero {} (readAcrossNop 1)) - n) 0 at hdata
  rw [hcount] at hn hdata
  rw [hread] at hdata
  -- aborted at once, or one byte of sector 0: zero both times
  rcases Nat.le_one_iff_eq_zero_or_eq_one.1 hn with rfl | rfl
  · exact absurd hdata (by decide)
  · have hbyte : (1 : U8) = MemoryMap.byte (CardBus.new twoSectors none).card0.mmap 0 := by
      simpa using hdata
    exact absurd (hbyte.trans hfirst) (by decide)

theorem quiet_acrossNop (size : ℕ) (lba : U8) : ∀ x ∈ acrossNop lba, x.2.Quiet size x.1 := by
  intro x hx
  rcases List.mem_pair.1 hx with rfl | rfl <;> trivial

theorem addressed_acrossNop : AddressedUntilLast 0 (acrossNop 0) := by
  refine ⟨acrossNop 0, [], (List.append_nil _).symm, ?_, nofun⟩
  intro x hx code hc
  rcases List.mem_pair.1 hx with rfl | rfl
  · decide
  · cases hc

/-- The same with the LBA of the transfer left in the registers. -/
theorem transfer_stays_acrossNop :
    ReadsSector (CardBus.new twoSectors none) (readAcrossNop 0) .zero 0 :=
  (transfer_stays rfl (Card.ready_new _) (sees_readAcrossNop 0) ⟨by decide, by decide⟩
    inRange_twoSectors (quiet_acrossNop _ 0) (by rw [SECTOR_SIZE_eq]; decide)
    addressed_acrossNop).1 (by decide)

/-! ### One capacity -/

/-- The command was accepted on sector `L`: a transfer of it has begun, or it is erased. -/
def Accepts (c c' : Card M) (L : ℕ) : Card.Command → Prop
  | .readSectors => c'.Transfer .readSectors L 0 ∧ c'.status &&& Status.DRQ ≠ 0 ∧
      c'.status &&& Status.ERR = 0
  | .writeSectors => c'.Transfer .writeSectors L 0 ∧ c'.status &&& Status.DRQ ≠ 0 ∧
      c'.status &&& Status.ERR = 0
  | .eraseSectors => MemoryMap.byte c'.mmap = overlay (MemoryMap.byte c.mmap) (L * SECTOR_SIZE)
      (List.replicate SECTOR_SIZE 0xFF)
  | _ => False

/-- The command was rejected for its address: ERR and IDNF, no DRQ, the image as it was. -/
def Refuses (c c' : Card M) : Prop :=
  c'.status &&& Status.ERR ≠ 0 ∧ c'.error &&& Error.IDNF ≠ 0 ∧ c'.status &&& Status.DRQ = 0 ∧
    MemoryMap.byte c'.mmap = MemoryMap.byte c.mmap

/-- READ, WRITE and ERASE. -/
def Card.Command.OnSector (cmd : Card.Command) : Prop :=
  cmd = .readSectors ∨ cmd = .writeSectors ∨ cmd = .eraseSectors

/-- IDENTIFY reports `N` sectors, as many as the image has; with the registers `r` in LBA mode
the sector commands are accepted below `N`, where the whole sector is inside the image, and
rejected from `N` on. -/
structure CapacityAgrees (c : Card M) (r : SharedRegisters) : Prop where
  reports : ∃ os c', run Card.step c
      ((r, .command 0xEC) :: List.replicate SECTOR_SIZE (r, .readData)) = some (os, c') ∧
    leValue (((dataRead ((r, .command 0xEC) :: List.replicate SECTOR_SIZE (r, .readData)) os).drop
      120).take 4) = MemoryMap.len c.mmap / SECTOR_SIZE
  inside : r.lba.toNat < MemoryMap.len c.mmap / SECTOR_SIZE →
    (∀ k < SECTOR_SIZE, r.lba.toNat * SECTOR_SIZE + k < MemoryMap.len c.mmap) ∧
    ∀ code, (Card.command code).OnSector →
      ∃ c', c.writeCommand r code = some c' ∧ Accepts c c' r.lba.toNat (Card.command code)
  outside : MemoryMap.len c.mmap / SECTOR_SIZE ≤ r.lba.toNat →
    ∀ code, (Card.command code).OnSector → ∃ c', c.writeCommand r code = some c' ∧ Refuses c c'

theorem started_status : ∀ s : U8, (s &&& ~~~Status.ERR ||| Status.DRQ) &&& Status.DRQ ≠ 0 ∧
    (s &&& ~~~Status.ERR ||| Status.DRQ) &&& Status.ERR = 0 := by
  decide +kernel

/-- IDENTIFY of a well-formed card reports its capacity. -/
theorem reports_capacity {c : Card M} (h : c.WellFormed)
    (hsize : MemoryMap.len c.mmap / SECTOR_SIZE < 2 ^ 32) (r : SharedRegisters) :
    ∃ os c', run Card.step c
        ((r, .command 0xEC) :: List.replicate SECTOR_SIZE (r, .readData)) = some (os, c') ∧
      leValue (((dataRead ((r, .command 0xEC) :: List.replicate SECTOR_SIZE (r, .readData))
        os).drop 120).take 4) = MemoryMap.len c.mmap / SECTOR_SIZE := by
  have hcmd : ∃ c₁, c.writeCommand r 0xEC = some c₁ ∧ c₁.state = .identifyDevice ∧
      c₁.sectorOffset = 0 ∧ c₁.deviceInfo = c.deviceInfo := by
    rw [Card.writeCommand_of_ready h.ready]
    exact ⟨_, rfl, rfl, rfl, rfl⟩
  obtain ⟨c₁, hw, hstate, hoff, hinfo⟩ := hcmd
  obtain ⟨os, c', hrun, hdata⟩ :=
    Card.run_identify (h.writeCommand hw) hstate hoff r SECTOR_SIZE (Nat.zero_add _)
  refine ⟨none :: os, c', Card.run_command hw hrun, ?_⟩
  rw [dataRead_cons_command, hdata, List.drop_zero, hinfo, h.info, leValue_deviceInfo _ hsize]

/-- READ is accepted up to the sector at the end of the image, whole or not. -/
theorem accepts_read {c : Card M} (h : c.Ready) {r : SharedRegisters} {code : U8}
    (hcode : Card.command code = .readSectors) (hmode : r.lbaMode)
    (hlen : r.lba.toNat * SECTOR_SIZE ≤ MemoryMap.len c.mmap) :
    ∃ c', c.writeCommand r code = some c' ∧ Accepts c c' r.lba.toNat .readSectors := by
  obtain ⟨c', hw, -, htr, hstatus⟩ := Card.writeCommand_read h hcode hmode hlen
  refine ⟨c', hw, ?_⟩
  rw [Accepts, hstatus]
  exact ⟨htr, started_status c.status⟩

/-- WRITE is accepted anywhere. -/
theorem accepts_write {c : Card M} (h : c.Ready) {r : SharedRegisters} {code : U8}
    (hcode : Card.command code = .writeSectors) (hmode : r.lbaMode) :
    ∃ c', c.writeCommand r code = some c' ∧ Accepts c c' r.lba.toNat .writeSectors := by
  obtain ⟨c', hw, -, htr, hstatus⟩ := Card.writeCommand_write h hcode hmode
  refine ⟨c', hw, ?_⟩
  rw [Accepts, hstatus]
  exact ⟨htr, started_status c.status⟩

theorem accepts_inside {c : Card M} (h : c.Ready) {r : SharedRegisters} (hmode : r.lbaMode)
    (hin : InRange (MemoryMap.len c.mmap) r.lba.toNat) {code : U8}
    (hcode : (Card.command code).OnSector) :
    ∃ c', c.writeCommand r code = some c' ∧ Accepts c c' r.lba.toNat (Card.command code) := by
  rcases hcode with hcmd | hcmd | hcmd
  · rw [hcmd]
    exact accepts_read h hcmd hmode hin.le
  · rw [hcmd]
    exact accepts_write h hcmd hmode
  · obtain ⟨c', hw, -, -, hbyte⟩ := Card.writeCommand_erase h hcmd hmode hin
    refine ⟨c', hw, ?_⟩
    rw [hcmd]
    exact hbyte

/-- An ERASE outside the image panics, and does not reject. -/
theorem erase_outside {c : Card M} (h : c.Ready) {r : SharedRegisters} (hmode : r.lbaMode)
    (hout : MemoryMap.len c.mmap / SECTOR_SIZE ≤ r.lba.toNat) :
    c.writeCommand r 0xC0 = none := by
  have hin : ¬ InRange (MemoryMap.len c.mmap) r.lba.toNat := by
    rw [inRange_iff]
    omega
  rw [Card.writeCommand_of_ready h]
  exact (Card.dispatch_eq_none rfl).2 (.inr ⟨rfl, hmode, hin⟩)

/-- A READ of the sector just past the last whole one is accepted. -/
theorem read_past_end {c : Card M} (h : c.Ready) {r : SharedRegisters} (hmode : r.lbaMode)
    (hL : r.lba.toNat = MemoryMap.len c.mmap / SECTOR_SIZE) :
    ∃ c', c.writeCommand r 0x20 = some c' ∧ Accepts c c' r.lba.toNat .readSectors := by
  apply accepts_read h (by decide) hmode
  rw [hL]
  exact Nat.div_mul_le_self _ _

/-- **Reported capacity and addressable sectors agree exactly on the sectors inside the
image.**  For every well-formed card, whatever it is doing, and every LBA in LBA mode. -/
theorem capacity_agrees_iff {c : Card M} (h : c.WellFormed)
    (hsize : MemoryMap.len c.mmap / SECTOR_SIZE < 2 ^ 32) {r : SharedRegisters}
    (hmode : r.lbaMode) :
    CapacityAgrees c r ↔ r.lba.toNat < MemoryMap.len c.mmap / SECTOR_SIZE := by
  constructor
  · intro hcap
    by_contra hout
    obtain ⟨c', hw, -⟩ := hcap.outside (Nat.not_lt.1 hout) 0xC0 (.inr (.inr rfl))
    rw [erase_outside h.ready hmode (Nat.not_lt.1 hout)] at hw
    cases hw
  · intro hlt
    have hin := (inRange_iff _ _).2 hlt
    refine ⟨reports_capacity h hsize r, ?_, fun hout => absurd hlt (Nat.not_lt.2 hout)⟩
    intro _
    refine ⟨fun k hk => hin.lt hk, ?_⟩
    intro code hcode
    exact accepts_inside h.ready hmode hin hcode

theorem capacity_agrees_iff_first :
    CapacityAgrees (Card.new twoSectors) { driveHead := 0x40 } :=
  (capacity_agrees_iff (Card.wellFormed_new _)
    (by rw [show (Card.new twoSectors).mmap = twoSectors from rfl, len_twoSectors,
      SECTOR_SIZE_eq]; omega) (by decide)).2
    (by rw [show (Card.new twoSectors).mmap = twoSectors from rfl, len_twoSectors,
      SECTOR_SIZE_eq]; decide)

/-- Sector 2 of a disk of two sectors: WRITE is accepted there, ERASE panics. -/
theorem not_capacityAgrees_past_end :
    ¬ CapacityAgrees (Card.new twoSectors) { sectorNumber := 2, driveHead := 0x40 } := by
  intro hcap
  have hout : MemoryMap.len (Card.new twoSectors).mmap / SECTOR_SIZE
      ≤ ({ sectorNumber := 2, driveHead := 0x40 } : SharedRegisters).lba.toNat := by
    rw [show (Card.new twoSectors).mmap = twoSectors from rfl, len_twoSectors, SECTOR_SIZE_eq]
    decide
  obtain ⟨c', hw, -⟩ := hcap.outside hout 0xC0 (.inr (.inr rfl))
  rw [erase_outside (Card.ready_new _) (by decide) hout] at hw
  cases hw

end

end Possum.Ata
