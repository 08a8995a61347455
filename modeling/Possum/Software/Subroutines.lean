import Possum.Software.HelloHd

/-!
# The subroutines on the system

What the subroutines of `hello_hd.az8` do wherever they are called with interrupts disabled: the
contracts of `Print` and `Disk` for the whole emulator, in every build.

`Like P t` is a system that runs what the board runs in a state with `P`, beside a video chip that
can tick on for ever.  `At r b` is a program with words `r` and interrupts disabled on board `b`, and
`Near n r b` one whose memory is that of `b`, but for the `n` bytes under its stack pointer.
-/

set_option autoImplicit false

namespace Possum.Software

open Lib Sys Ata Ata.CardBus

/-- **`KbWriteX`** prints A in two digits and returns; only AF, C and its stack change. -/
theorem system_kbWriteX {H K : Type} [Device H] [Device K] (m : Overflow) {r : Regs} {b : Board H K}
    {kb' : K} {org : U16} (hcode : Code b org (kbWriteX org))
    (hclear : ∀ k < 20, pcAt org k ≠ r.sp - 2 ∧ pcAt org k ≠ r.sp - 2 + 1)
    (htypes : types b.kb (hexByte (hi r.af)) = some kb') :
    Leads (System.loop m) (System.Like (At (atCode r org 0) b))
      (System.Like fun s => ∃ af, At { r with
        pc := top b r.sp
        sp := r.sp + 2
        af := af
        bc := word (hi r.bc) (hi r.af) } { pushed b (r.sp - 2) (pcAt org 8) with kb := kb' } s) :=
  System.follows_board m (leads_kbWriteX hcode hclear htypes)

/-- `$A5`, at a keyboard where nobody types. -/
theorem system_kbWriteX_a5 :
    let kb := AsciiKeyboard.new ⟨fun _ => 0, fun _ => none, fun _ => true⟩ 0
    let b : Board (CardBus Image) AsciiKeyboard := Board.boot (kbWriteX 0) kb none
    let r : Regs := { sp := 0xFFF0, af := 0xA500 }
    Leads (System.loop .panics) (System.Like (At (atCode r 0 0) b))
      (System.Like fun s => ∃ af, At { r with
        pc := top b r.sp
        sp := r.sp + 2
        af := af
        bc := word (hi r.bc) (hi r.af) }
        { pushed b (r.sp - 2) (pcAt 0 8) with kb := { kb with stdout := [0x41, 0x35] } } s) := by
  intro kb b r
  have hcode : Code b 0 (kbWriteX 0) := by
    refine code_boot (p := []) (q := []) ?_ ?_ kb none
    · rw [List.nil_append, List.append_nil]
    · exact (by decide : 20 ≤ 0x10000)
  have hdigits : hexByte (hi r.af) = [0x41, 0x35] := by decide
  refine system_kbWriteX .panics hcode (by decide) ?_
  rw [hdigits]
  exact types_of_accepts (k := kb) (fun _ => rfl) [0x41, 0x35]

section

variable {M K : Type} [MemoryMap M] [Device K] {b : Board (CardBus M) K} {cards : CardBus M}
  {d : Drive} {c : Card M} {n L : ℕ} {r : Regs} {org wait err buf : U16} {bytes : List U8} {cmd : U8}

/-- The program of `hello_hd.az8`, called from `w`, with `bytes` in its sector buffer. -/
def calledFrom (mmap : Image) (w : U16) (bytes : List U8) : Board (CardBus Image) AsciiKeyboard :=
  pushed (fill (Board.boot helloHdRom (AsciiKeyboard.new AsciiKeyboard.hostHiQ 0)
    (some (CardBus.new mmap none))) sectorBuf bytes) (0xFFFF - 2) w

theorem loaded_calledFrom (mmap : Image) {bytes : List U8} (hlen : bytes.length ≤ SECTOR_SIZE) :
    Loaded (CardBus.new mmap none) (Card.new mmap) (AsciiKeyboard.new AsciiKeyboard.hostHiQ 0)
      bytes (fill (Board.boot helloHdRom (AsciiKeyboard.new AsciiKeyboard.hostHiQ 0)
        (some (CardBus.new mmap none))) sectorBuf bytes) :=
  (loaded_boot _ mmap none).fill hlen

/-- **`HdRead`**: with the registers of a ready card at a sector of the image, the buffer takes the
sector, the image is as it was, and C is clear. -/
theorem system_hdRead (m : Overflow) {bufIn : U16} (hn : n ≤ 0xFFFA)
    (hcode : CommandCode (n + 4) r.sp b 0x20 org wait err bufIn (hdBufIn wait err buf bufIn))
    (hapart : Apart buf bufIn (hdBufIn wait err buf bufIn)) (hapartWait : Apart buf wait hdWait)
    (hapartErr : Apart buf err (hdErr wait)) (hsel : cards.registers.drive = d) (hready : c.Ready)
    (hmode : cards.registers.lbaMode) (hL : cards.registers.lba.toNat = L)
    (hin : InRange (MemoryMap.len c.mmap) L) :
    Leads (System.loop m) (System.Like (Near (n + 4) (atCode r org 0) (withCard b cards d c)))
      (System.Like fun s => ∃ c' af, (c'.Ready ∧ c'.mmap = c.mmap ∧ carry af = false) ∧
        Near (n + 6) { r with
          pc := top (fill b buf (sector c.mmap L)) r.sp
          sp := r.sp + 2
          af := af
          bc := word 0x80 (lo r.bc)
          de := 0
          hl := buf + 0x200 } (withCard (fill b buf (sector c.mmap L)) cards d (quiet c')) s) :=
  System.follows_board m (leads_hdRead hn hcode hapart hapartWait hapartErr hsel hready hmode
    hL hin)

/-- Sector 1, by the program of `hello_hd.az8`. -/
theorem system_hdRead_one :
    let cards := (CardBus.new twoSectors none).setRegisters (address {} 0 1)
    let b := calledFrom twoSectors 0x0068 []
    let r : Regs := { sp := 0xFFFF - 2 }
    Leads (System.loop .panics)
      (System.Like (Near 4 (atCode r hdReadAt 0) (withCard b cards .zero (Card.new twoSectors))))
      (System.Like fun s => ∃ c' af, (c'.Ready ∧ c'.mmap = twoSectors ∧ carry af = false) ∧
        Near 6 { r with
          pc := top (fill b sectorBuf (sector twoSectors 1)) r.sp
          sp := r.sp + 2
          af := af
          bc := word 0x80 (lo r.bc)
          de := 0
          hl := sectorBuf + 0x200 }
        (withCard (fill b sectorBuf (sector twoSectors 1)) cards .zero (quiet c')) s) := by
  intro cards b r
  obtain ⟨hsel, hmode, hlba⟩ := address_spec {} 0 1
  have hcode : CommandCode 4 r.sp b 0x20 hdReadAt hdWaitAt hdErrAt hdBufInAt
      (hdBufIn hdWaitAt hdErrAt sectorBuf hdBufInAt) :=
    ((loaded_calledFrom twoSectors (Nat.zero_le _)).command layout.hdRead layout.hdBufIn).nested 0x0068
  have hin : InRange (MemoryMap.len twoSectors) 1 := by
    rw [len_twoSectors, InRange, SECTOR_SIZE_eq]
  exact system_hdRead .panics (by decide) hcode (apart_sectorBuf (by decide))
    (apart_sectorBuf (by decide)) (apart_sectorBuf (by decide)) hsel (Card.ready_new _) hmode hlba hin

/-- **`HdWrite`**: the sector takes the buffer, the rest of the image is as it was, and C is clear
exactly if the flush of that image succeeded; otherwise the error is in A. -/
theorem system_hdWrite (m : Overflow) {bufOut : U16} (hn : n ≤ 0xFFFA)
    (hcode : CommandCode (n + 4) r.sp b 0x30 org wait err bufOut (hdBufOut wait err buf bufOut))
    (hbuf : Kept (n + 4) r.sp b buf bytes) (hlen : bytes.length = SECTOR_SIZE)
    (hsel : cards.registers.drive = d) (hready : c.Ready) (hmode : cards.registers.lbaMode)
    (hL : cards.registers.lba.toNat = L) (hin : InRange (MemoryMap.len c.mmap) L) :
    Leads (System.loop m) (System.Like (Near (n + 4) (atCode r org 0) (withCard b cards d c)))
      (System.Like fun s => ∃ c' af, (c'.Ready ∧
        c'.mmap = (MemoryMap.flush (storeBytes c.mmap (L * SECTOR_SIZE) bytes)).1 ∧
        MemoryMap.len c'.mmap = MemoryMap.len c.mmap ∧
        MemoryMap.byte c'.mmap = overlay (MemoryMap.byte c.mmap) (L * SECTOR_SIZE) bytes ∧
        carry af = (!(MemoryMap.flush (storeBytes c.mmap (L * SECTOR_SIZE) bytes)).2) ∧
        ((MemoryMap.flush (storeBytes c.mmap (L * SECTOR_SIZE) bytes)).2 = false →
          hi af = Error.AMNF ||| Error.BBK)) ∧
        Near (n + 6) { r with
          pc := top b r.sp
          sp := r.sp + 2
          af := af
          bc := word 0x80 (lo r.bc)
          de := 0
          hl := buf + 0x200 } (withCard b cards d (quiet c')) s) :=
  System.follows_board m (leads_hdWrite hn hcode hbuf hlen hsel hready hmode hL hin)

/-- A sector of `$E5`, by the program of `hello_hd.az8`, on an image whose flush fails. -/
theorem system_hdWrite_e5 :
    let mmap : Image := { twoSectors with flushes := [false] }
    let cards := (CardBus.new mmap none).setRegisters (address {} 0 0)
    let bytes : List U8 := List.replicate SECTOR_SIZE 0xE5
    let b := calledFrom mmap 0x0086 bytes
    let r : Regs := { sp := 0xFFFF - 2 }
    Leads (System.loop .panics)
      (System.Like (Near 4 (atCode r hdWriteAt 0) (withCard b cards .zero (Card.new mmap))))
      (System.Like fun s => ∃ c' af, (c'.Ready ∧
        c'.mmap = (MemoryMap.flush (storeBytes mmap (0 * SECTOR_SIZE) bytes)).1 ∧
        MemoryMap.len c'.mmap = MemoryMap.len mmap ∧
        MemoryMap.byte c'.mmap = overlay (MemoryMap.byte mmap) (0 * SECTOR_SIZE) bytes ∧
        carry af = true ∧ hi af = 0x81) ∧
        Near 6 { r with
          pc := top b r.sp
          sp := r.sp + 2
          af := af
          bc := word 0x80 (lo r.bc)
          de := 0
          hl := sectorBuf + 0x200 } (withCard b cards .zero (quiet c')) s) := by
  intro mmap cards bytes b r
  obtain ⟨hsel, hmode, hlba⟩ : cards.registers.drive = .zero ∧ cards.registers.lbaMode ∧
      cards.registers.lba.toNat = 0 := address_zero {}
  have hin : InRange (MemoryMap.len (Card.new mmap).mmap) 0 := inRange_twoSectors
  have hlen : bytes.length = SECTOR_SIZE := List.length_replicate
  have hload := loaded_calledFrom mmap hlen.le
  have hcode : CommandCode 4 r.sp b 0x30 hdWriteAt hdWaitAt hdErrAt hdBufOutAt
      (hdBufOut hdWaitAt hdErrAt sectorBuf hdBufOutAt) :=
    (hload.command layout.hdWrite layout.hdBufOut).nested 0x0086
  have hbad : (MemoryMap.flush (storeBytes mmap (0 * SECTOR_SIZE) bytes)).2 = false := by
    show (storeBytes mmap (0 * SECTOR_SIZE) bytes).flushes.headD true = false
    rw [flushes_storeBytes]
    rfl
  have hwrite := system_hdWrite .panics (by decide) hcode (hload.buf.nested 0x0086) hlen hsel
    (Card.ready_new mmap) hmode hlba hin
  rw [show (Card.new mmap).mmap = mmap from rfl, hbad] at hwrite
  refine hwrite.conseq (fun t ht => ht) ?_
  rintro t ⟨s, hruns, c', af, ⟨hready, hmmap, hlen', hbyte, hcarry, herror⟩, hs⟩
  exact ⟨s, hruns, c', af, ⟨hready, hmmap, hlen', hbyte, hcarry, herror rfl⟩, hs⟩

/-- ERR is cleared before it is set. -/
theorem err_of_latched : ∀ s : U8, s &&& ~~~Status.ERR ||| Status.ERR = s ||| Status.ERR := by
  decide +kernel

/-- **A command that the card rejects** returns with C and the error in A.  Memory and the image are
as they were.  Of the card only the LBA, the error, ERR and the interrupt line change, and by a READ
in LBA mode the offset: a transfer that was going on goes on in the sector of the registers. -/
theorem system_hdCommand_rejected (m : Overflow) {next : U16} {body : List U8} (hn : n ≤ 0xFFFA)
    (hcode : CommandCode (n + 4) r.sp b cmd org wait err next body)
    (hsel : cards.registers.drive = d) (hready : c.Ready)
    (hrejects : Card.Rejects (MemoryMap.len c.mmap) cards.registers (Card.command cmd)) :
    Leads (System.loop m) (System.Like (Near (n + 4) (atCode r org 0) (withCard b cards d c)))
      (System.Like fun s => ∃ af,
        (carry af = true ∧ hi af = Card.rejection cards.registers (Card.command cmd)) ∧
        Near (n + 6) { r with
          pc := top b r.sp
          sp := r.sp + 2
          af := af
          bc := word 0x80 (lo r.bc) } (withCard b cards d { quiet c with
            lba := cards.registers.lba
            error := Card.rejection cards.registers (Card.command cmd)
            status := c.status ||| Status.ERR
            sectorOffset :=
              Card.offsetOfRejected cards.registers (Card.command cmd) c.sectorOffset }) s) := by
  have hquiet : (quiet c).Ready := hready
  obtain ⟨interrupt, hdispatch⟩ := Card.dispatch_of_rejects
    (c := (quiet c).latched cards.registers) rfl rfl hrejects
  have hcmd := Card.writeCommand_of_ready hquiet cards.registers cmd
  rw [hdispatch, show ((quiet c).latched cards.registers).status ||| Status.ERR =
    c.status ||| Status.ERR from err_of_latched c.status] at hcmd
  have hready₁ : (c.status ||| Status.ERR) &&& Status.BUSY = 0 := (busy_or_err _).trans hready
  have hfailed : (c.status ||| Status.ERR) &&& Status.ERR ≠ 0 := err_or_err _
  exact System.follows_board m
    (leads_refused hn hcode hsel hready hcmd hready₁ (bne_iff_ne.2 hfailed))

/-- A READ behind the end of the image, after five bytes of sector 1. -/
theorem system_hdCommand_rejected_read :
    let cards := (CardBus.new twoSectors none).setRegisters (address {} 0 3)
    let card : Card Image := { Card.new twoSectors with
      state := .readSectors
      status := 0x58
      lba := 1
      sectorOffset := 5 }
    let b := calledFrom twoSectors 0x0068 []
    let r : Regs := { sp := 0xFFFF - 2 }
    Leads (System.loop .panics)
      (System.Like (Near 4 (atCode r hdReadAt 0) (withCard b cards .zero card)))
      (System.Like fun s => ∃ af, (carry af = true ∧ hi af = 0x11) ∧ Near 6 { r with
          pc := top b r.sp
          sp := r.sp + 2
          af := af
          bc := word 0x80 (lo r.bc) }
        (withCard b cards .zero
          { quiet card with lba := 3, error := 0x11, status := 0x59, sectorOffset := 0 }) s) := by
  intro cards card b r
  obtain ⟨hsel, hmode, hlba⟩ : cards.registers.drive = .zero ∧ cards.registers.lbaMode ∧
      cards.registers.lba.toNat = 3 := address_spec {} 0 3
  have hcode : CommandCode 4 r.sp b 0x20 hdReadAt hdWaitAt hdErrAt hdBufInAt
      (hdBufIn hdWaitAt hdErrAt sectorBuf hdBufInAt) :=
    ((loaded_calledFrom twoSectors (Nat.zero_le _)).command layout.hdRead layout.hdBufIn).nested
      0x0068
  have hrejects : Card.Rejects (MemoryMap.len card.mmap) cards.registers (Card.command 0x20) := by
    refine .inr ?_
    rw [show card.mmap = twoSectors from rfl, len_twoSectors, SECTOR_SIZE_eq, hlba]
    decide
  have hready : card.Ready := show (0x58 : U8) &&& Status.BUSY = 0 by decide
  have hread := system_hdCommand_rejected .panics (by decide) hcode hsel hready hrejects
  rw [show Card.rejection cards.registers (Card.command 0x20) = 0x11 from if_pos hmode,
    show Card.offsetOfRejected cards.registers (Card.command 0x20) card.sectorOffset = 0 from
      if_pos ⟨rfl, hmode⟩,
    show cards.registers.lba = 3 from BitVec.eq_of_toNat_eq hlba,
    show card.status ||| Status.ERR = 0x59 by decide] at hread
  exact hread

end

end Possum.Software
