import Possum.Software.Calls
import Possum.Sys.BlockIo
import Possum.Ata.Safety

/-!
# The disk routines

The subroutines of `hello_hd.az8` that use the disk.
-/

set_option autoImplicit false

namespace Possum.Software

open Lib Sys Ata Ata.CardBus

/-! ### The ports of the disk -/

section

variable {M : Type} [MemoryMap M] {cards : CardBus M} {c c' : Card M} {d : Drive}

/-- An access that reaches the selected card. -/
theorem access_selected {op : PortOp} {a : CardAccess} {o : Option U8} (ha : op.access = .card a)
    (hsel : cards.registers.drive = d) (h : c.access cards.registers a = some (o, c')) :
    step (cards.setCard c d) op = some (o, cards.setCard c' d) := by
  rw [step_card _ ha, registers_setCard, hsel]
  simp only [card_setCard_self]
  rw [h, Option.map_some, setCard_setCard]

theorem read_of_step {port : U16} {v : U8} {cards' : CardBus M}
    (h : step cards (.read port) = some (some v, cards')) : cards.read port = some (v, cards') := by
  obtain ⟨⟨v', cards''⟩, hread, heq⟩ := Option.map_eq_some_iff.1 h
  cases heq
  exact hread

theorem write_of_step {port : U16} {data : U8} {cards' : CardBus M}
    (h : step cards (.write port data) = some (none, cards')) :
    cards.write port data = some cards' := by
  obtain ⟨cards'', hwrite, heq⟩ := Option.map_eq_some_iff.1 h
  cases heq
  exact hwrite

/-- What reading the status leaves. -/
def quiet (c : Card M) : Card M := { c with interrupt := false }

theorem wellFormed_quiet (h : c.WellFormed) : (quiet c).WellFormed := ⟨h.ready, h.info, h.identify⟩

theorem read_status (hsel : cards.registers.drive = d) :
    (cards.setCard c d).read 0x27 = some (c.status, cards.setCard (quiet c) d) :=
  read_of_step (access_selected (a := .readStatus) rfl hsel rfl)

theorem read_byte (hsel : cards.registers.drive = d) {v : U8} (h : c.readData = some (v, c')) :
    (cards.setCard c d).read 0x20 = some (v, cards.setCard c' d) := by
  refine read_of_step (access_selected (a := .readData) rfl hsel ?_)
  rw [Card.access, h, Option.map_some]

theorem write_byte (hsel : cards.registers.drive = d) {v : U8} (h : c.writeData v = some c') :
    (cards.setCard c d).write 0x20 v = some (cards.setCard c' d) := by
  refine write_of_step (access_selected (a := .writeData v) rfl hsel ?_)
  rw [Card.access, h, Option.map_some]

theorem write_command (hsel : cards.registers.drive = d) {data : U8}
    (h : c.writeCommand cards.registers data = some c') :
    (cards.setCard c d).write 0x27 data = some (cards.setCard c' d) := by
  refine write_of_step (access_selected (a := .command data) rfl hsel ?_)
  rw [Card.access, h, Option.map_some]

theorem write_register {port : U16} {j : ℕ} {data : U8}
    (h : (PortOp.write port data).access = .writeRegister j data) :
    (cards.setCard c d).write port data =
      some ((cards.setRegisters (cards.registers.put j data)).setCard c d) := by
  refine write_of_step ?_
  rw [step_writeRegister _ h, registers_setCard]
  cases d with
  | zero | one => rfl

theorem read_error (hsel : cards.registers.drive = d) :
    (cards.setCard c d).read 0x21 = some (c.error, cards.setCard c d) := by
  have hdrive : (cards.setCard c d).registers = cards.registers := registers_setCard cards c d
  rw [SharedRegisters.drive] at hsel
  show (if (cards.setCard c d).registers.driveHead &&& 0x10 = 0 then _ else _) = _
  rw [hdrive]
  split at hsel
  case isTrue hzero =>
    subst hsel
    exact if_pos hzero
  case isFalse hone =>
    subst hsel
    exact if_neg hone

/-! ### A sector behind the data port -/

/-- ERR of the status. -/
def failed (c : Card M) : Bool := c.status &&& Status.ERR != 0

/-- What `HdErr` returns: C is ERR, and with C the error is in A. -/
def Reports (c : Card M) (af : U16) : Prop :=
  carry af = failed c ∧ (failed c = true → hi af = c.error)

/-- The image after `bytes` were written from position `i` on, one by one. -/
def storeBytes (mmap : M) (i : ℕ) : List U8 → M
  | [] => mmap
  | v :: bytes => storeBytes (MemoryMap.setByte mmap i v) (i + 1) bytes

theorem storeBytes_snoc (mmap : M) (i : ℕ) (bytes : List U8) (v : U8) :
    storeBytes mmap i (bytes ++ [v]) =
      MemoryMap.setByte (storeBytes mmap i bytes) (i + bytes.length) v := by
  induction bytes generalizing mmap i with
  | nil => rfl
  | cons w bytes ih =>
    rw [List.cons_append, storeBytes, ih, storeBytes, List.length_cons, Nat.add_assoc,
      Nat.add_comm 1]

/-- The card has flushed the image, and says whether the flush failed. -/
structure Flushed (mmap : M) (c : Card M) : Prop where
  mmap_eq : c.mmap = (MemoryMap.flush mmap).1
  failed_eq : failed c = !(MemoryMap.flush mmap).2
  error_eq : c.error = if (MemoryMap.flush mmap).2 then 0 else Error.AMNF ||| Error.BBK

/-- The card has taken `bytes` of sector `L`, and flushed them if they are the whole sector. -/
structure Took (c₀ c : Card M) (L : ℕ) (bytes : List U8) : Prop where
  transfer : c.Transfer .writeSectors L bytes.length
  len_eq : MemoryMap.len c.mmap = MemoryMap.len c₀.mmap
  byte_eq : MemoryMap.byte c.mmap = overlay (MemoryMap.byte c₀.mmap) (L * SECTOR_SIZE) bytes
  stored : bytes.length < SECTOR_SIZE →
    c.mmap = storeBytes c₀.mmap (L * SECTOR_SIZE) bytes ∧ failed c = false ∧ c.error = 0
  flushed : bytes.length = SECTOR_SIZE → Flushed (storeBytes c₀.mmap (L * SECTOR_SIZE) bytes) c

theorem Took.quiet {c₀ : Card M} {L : ℕ} {bytes : List U8} (h : Took c₀ c L bytes) :
    Took c₀ (quiet c) L bytes where
  transfer := ⟨h.transfer.ready, h.transfer.state_eq, h.transfer.lba_eq, h.transfer.offset_eq⟩
  len_eq := h.len_eq
  byte_eq := h.byte_eq
  stored := h.stored
  flushed := by
    intro hlen
    exact ⟨(h.flushed hlen).mmap_eq, (h.flushed hlen).failed_eq, (h.flushed hlen).error_eq⟩

theorem err_of_flush : ∀ s : U8,
    (s &&& ~~~(Status.BUSY ||| Status.DRQ) ||| Status.ERR) &&& Status.ERR ≠ 0 := by
  decide +kernel

/-- **One byte more.** -/
theorem Took.step {c₀ : Card M} {L : ℕ} {bytes : List U8} (h : Took c₀ c L bytes)
    (hin : InRange (MemoryMap.len c₀.mmap) L) (hlt : bytes.length < SECTOR_SIZE) (v : U8) :
    ∃ c', c.writeData v = some c' ∧ Took c₀ c' L (bytes ++ [v]) := by
  have hpos : L * SECTOR_SIZE + bytes.length < MemoryMap.len c.mmap := h.len_eq.symm ▸ hin.lt hlt
  obtain ⟨c', hwrite, hlen, hbyte, htransfer⟩ := Card.writeData_transfer h.transfer hpos v
  have hready : c.status &&& Status.BUSY = 0 := h.transfer.ready
  obtain ⟨hmmap, hfailed, herror⟩ := h.stored hlt
  have hfine : c.status &&& Status.ERR = 0 := by simpa [failed] using hfailed
  have hsnoc : storeBytes c₀.mmap (L * SECTOR_SIZE) (bytes ++ [v]) =
      MemoryMap.setByte c.mmap (L * SECTOR_SIZE + bytes.length) v := by
    rw [storeBytes_snoc, ← hmmap]
  have hstatus : (bytes.length + 1 < SECTOR_SIZE →
        c'.mmap = MemoryMap.setByte c.mmap (L * SECTOR_SIZE + bytes.length) v ∧
          failed c' = false ∧ c'.error = 0) ∧
      (bytes.length + 1 = SECTOR_SIZE →
        Flushed (MemoryMap.setByte c.mmap (L * SECTOR_SIZE + bytes.length) v) c') := by
    rw [Card.writeData, if_neg (by simpa using hready)] at hwrite
    simp only [h.transfer.state_eq, h.transfer.lba_eq, h.transfer.offset_eq, Ata.indexMut,
      if_pos hpos, Option.bind_eq_bind, Option.bind_some] at hwrite
    split at hwrite
    case isTrue hlast =>
      refine ⟨fun hless => absurd hlast (Nat.ne_of_lt hless), fun _ => ?_⟩
      split at hwrite
      case isTrue hok =>
        cases hwrite
        exact ⟨rfl, by simp [failed, hfine, hok], by rw [if_pos hok]; exact herror⟩
      case isFalse hbad =>
        cases hwrite
        refine ⟨rfl, ?_, ?_⟩
        · rw [Bool.not_eq_true] at hbad
          rw [hbad]
          exact bne_iff_ne.2 (err_of_flush c.status)
        · rw [if_neg hbad]
          show c.error ||| (Error.AMNF ||| Error.BBK) = _
          rw [herror]
          rfl
    case isFalse hmore =>
      cases hwrite
      exact ⟨fun _ => ⟨rfl, by simp [failed, hfine], herror⟩, fun hlast => absurd hlast hmore⟩
  refine ⟨c', hwrite, ?_, hlen.trans h.len_eq, ?_, ?_, ?_⟩
  · rw [List.length_append]
    exact htransfer
  · rw [overlay_append, ← h.byte_eq]
    exact hbyte
  · rw [List.length_append, hsnoc]
    exact hstatus.1
  · rw [List.length_append, hsnoc]
    exact hstatus.2

/-- The card gives `bytes`, with its status read before each of them. -/
inductive Gives : Card M → List U8 → Card M → Prop
  | done (c : Card M) : Gives c [] c
  | byte {c c₁ c' : Card M} {v : U8} {bytes : List U8} (ready : c.Ready)
      (read : (quiet c).readData = some (v, c₁)) (rest : Gives c₁ bytes c') :
      Gives c (v :: bytes) c'

theorem Gives.cons {v : U8} {bytes : List U8} (h : Gives c (v :: bytes) c') :
    c.Ready ∧ ∃ c₁, (quiet c).readData = some (v, c₁) ∧ Gives c₁ bytes c' := by
  cases h with
  | byte ready read rest => exact ⟨ready, _, read, rest⟩

theorem Gives.nil (h : Gives c [] c') : c' = c := by
  cases h
  rfl

/-- The bytes of a sector. -/
def sector (mmap : M) (L : ℕ) : List U8 :=
  (List.range SECTOR_SIZE).map fun j => MemoryMap.byte mmap (L * SECTOR_SIZE + j)

theorem length_sector (mmap : M) (L : ℕ) : (sector mmap L).length = SECTOR_SIZE := by
  rw [sector, List.length_map, List.length_range]

theorem failed_clear_drq : ∀ s : U8, (s &&& ~~~Status.DRQ) &&& Status.ERR = s &&& Status.ERR := by
  decide +kernel

/-- A read leaves ERR. -/
theorem failed_readData {v : U8} (h : c.Ready) (hr : c.readData = some (v, c')) :
    failed c' = failed c := by
  cases Card.readData_cases h hr with
  | idle | moved => rfl
  | last => exact congrArg (· != 0) (failed_clear_drq c.status)

omit [MemoryMap M] in
/-- An accepted command clears ERR. -/
theorem failed_started {s : U8} (h : c'.status = s &&& ~~~Status.ERR ||| Status.DRQ) :
    failed c' = false := by
  rw [failed, h, err_or_drq, err_clear_err]
  rfl

/-- **A card gives the sector** that it moves. -/
theorem gives_sector {L k m : ℕ} (htransfer : c.Transfer (Card.readState k) L k)
    (hin : InRange (MemoryMap.len c.mmap) L) (hm : k + m = SECTOR_SIZE) :
    ∃ c', Gives c ((List.range' k m).map fun j => MemoryMap.byte c.mmap (L * SECTOR_SIZE + j)) c' ∧
      c'.Ready ∧ c'.mmap = c.mmap ∧ failed c' = failed c := by
  induction m generalizing c k with
  | zero => exact ⟨c, .done c, htransfer.ready, rfl, rfl⟩
  | succ m ih =>
    have hquiet : (quiet c).Transfer (Card.readState k) L k :=
      ⟨htransfer.ready, htransfer.state_eq, htransfer.lba_eq, htransfer.offset_eq⟩
    obtain ⟨c₁, hread, htransfer₁, hmmap⟩ := readData_sector hquiet hin (by omega)
    have hmmap' : c₁.mmap = c.mmap := hmmap
    obtain ⟨c', hgives, hready, hmmap₁, hfailed⟩ := ih htransfer₁ (hmmap'.symm ▸ hin) (by omega)
    rw [hmmap'] at hgives hmmap₁
    refine ⟨c', .byte htransfer.ready hread hgives, hready, hmmap₁, ?_⟩
    rw [hfailed, failed_readData hquiet.ready hread]
    rfl

/-- **A card gives its identify buffer.** -/
theorem gives_identify {k m : ℕ} (h : c.WellFormed)
    (hstate : k < SECTOR_SIZE → c.state = .identifyDevice) (hoff : c.sectorOffset = k)
    (hm : k + m = SECTOR_SIZE) :
    ∃ c', Gives c (c.deviceInfo.drop k) c' ∧ c'.WellFormed ∧ c'.mmap = c.mmap ∧
      failed c' = failed c := by
  have hlen : c.deviceInfo.length = SECTOR_SIZE := by rw [h.info, length_deviceInfo]
  induction m generalizing c k with
  | zero =>
    rw [List.drop_of_length_le (by omega)]
    exact ⟨c, .done c, h, rfl, rfl⟩
  | succ m ih =>
    have hlt : k < c.deviceInfo.length := by omega
    have hquiet : (quiet c).WellFormed := wellFormed_quiet h
    have hready : (quiet c).status &&& Status.BUSY = 0 := h.ready
    have hid : (quiet c).state = .identifyDevice := hstate (by omega)
    have hinfo : (quiet c).deviceInfo[k]? = some c.deviceInfo[k] := List.getElem?_eq_getElem hlt
    obtain ⟨c₁, hread, hstate₁, hoff₁, hmmap₁, hinfo₁⟩ : ∃ c₁,
        (quiet c).readData = some (c.deviceInfo[k], c₁) ∧
          (k + 1 < SECTOR_SIZE → c₁.state = .identifyDevice) ∧ c₁.sectorOffset = k + 1 ∧
          c₁.mmap = c.mmap ∧ c₁.deviceInfo = c.deviceInfo := by
      rw [Card.readData, if_neg (by simpa using hready), hid]
      simp only [show (quiet c).sectorOffset = k from hoff, hinfo, Option.bind_eq_bind,
        Option.bind_some]
      split
      case isTrue hlast =>
        exact ⟨_, rfl, fun hless => absurd hlast (Nat.ne_of_lt hless), rfl, rfl, rfl⟩
      case isFalse => exact ⟨_, rfl, fun _ => rfl, rfl, rfl, rfl⟩
    obtain ⟨c', hgives, hwf, hmmap, hfailed⟩ :=
      ih (hquiet.readData hread) hstate₁ hoff₁ (by omega) (hinfo₁ ▸ hlen)
    rw [hinfo₁] at hgives
    refine ⟨c', ?_, hwf, hmmap.trans hmmap₁, ?_⟩
    · rw [List.drop_eq_getElem_cons hlt]
      exact .byte h.ready hread hgives
    · rw [hfailed, failed_readData hquiet.ready hread]
      rfl

end

section

variable {M K : Type} [MemoryMap M] [Device K] {b : Board (CardBus M) K} {cards cards' : CardBus M}
  {n k : ℕ} {r : Regs} {org : U16} {code : List U8} {p v : U8}

/-- The board with a card in a drive. -/
abbrev withCard (b : Board (CardBus M) K) (cards : CardBus M) (d : Drive) (c : Card M) :
    Board (CardBus M) K :=
  { b with hd := some (cards.setCard c d) }

omit [MemoryMap M] [Device K] in
theorem kept_withHd {sp : U16} (h : Kept n sp b org code) (hd : Option (CardBus M)) :
    Kept n sp { b with hd := hd } org code :=
  ⟨h.holds, h.clear⟩

/-- `out (p), a`, for a port of the disk -/
theorem leads_outDisk (hcode : Kept n r.sp b org code) (hk : code[k]? = some 0xD3)
    (hv : code[k + 1]? = some p) (hsel : selection (p.setWidth 16) = .hd)
    (h : cards.write (p.setWidth 16) (hi r.af) = some cards') :
    Leads Board.loop (Near n (atCode r org k) { b with hd := some cards })
      (Near n (atCode r org (k + 2)) { b with hd := some cards' }) := by
  apply leads_near
  intro b' hb'
  have hlow : lo (word (hi r.af) p) = lo (p.setWidth 16) := by
    rw [lo_word, lo]
    bv_omega
  have hport : word (hi r.af) p &&& 0xFF = p.setWidth 16 := by rw [and_low_byte, lo_word]
  have hout : b'.output (word (hi r.af) p) (hi r.af) = some { b' with hd := some cards' } := by
    rw [Board.output, (low_port hlow).2, hsel, hport, hb'.hd]
    exact congrArg (Option.map fun hd => { b' with hd := some hd }) h
  have hholds := ((kept_withHd hcode (some cards)).same hb').holds
  refine (leads_out hholds hk hv hout).conseq (fun s hs => hs) ?_
  intro s hs
  exact ⟨_, hs, hb'.withHd _⟩

/-- `in a, (p)`, for a port of the disk -/
theorem leads_inDisk (hcode : Kept n r.sp b org code) (hk : code[k]? = some 0xDB)
    (hv : code[k + 1]? = some p) (hsel : selection (p.setWidth 16) = .hd)
    (h : cards.read (p.setWidth 16) = some (v, cards')) :
    Leads Board.loop (Near n (atCode r org k) { b with hd := some cards })
      (Near n { atCode r org (k + 2) with af := word v (lo r.af) }
        { b with hd := some cards' }) := by
  apply leads_near
  intro b' hb'
  have hlow : lo (word (hi r.af) p) = lo (p.setWidth 16) := by
    rw [lo_word, lo]
    bv_omega
  have hport : word (hi r.af) p &&& 0xFF = p.setWidth 16 := by rw [and_low_byte, lo_word]
  have hin : b'.input (word (hi r.af) p) = some (v, { b' with hd := some cards' }) := by
    rw [Board.input, (low_port hlow).2, hsel, hport, hb'.hd]
    exact congrArg (Option.map fun r => (r.1, { b' with hd := some r.2 })) h
  have hholds := ((kept_withHd hcode (some cards)).same hb').holds
  refine (leads_in hholds hk hv hin).conseq (fun s hs => hs) ?_
  intro s hs
  exact ⟨_, hs, hb'.withHd _⟩

/-- `out (p), a`, for a register of the disk -/
theorem leads_outRegister {d : Drive} {c : Card M} {j : ℕ} {v : U8}
    (hcode : Kept n r.sp b org code) (hk : code[k]? = some 0xD3) (hp : code[k + 1]? = some p)
    (hsel : selection (p.setWidth 16) = .hd) (hv : hi r.af = v)
    (h : (PortOp.write (p.setWidth 16) v).access = .writeRegister j v) :
    Leads Board.loop (Near n (atCode r org k) (withCard b cards d c))
      (Near n (atCode r org (k + 2))
        (withCard b (cards.setRegisters (cards.registers.put j v)) d c)) := by
  subst hv
  exact leads_outDisk hcode hk hp hsel (write_register h)

end

/-! ### The routines -/

/-- `ld b, HD_STAT.BSY`, and at `.loop`: `in a, (HD_PORT.STAT)`, `and b`, `jr nz, .loop`, `ret` -/
def hdWait : List U8 := [0x06, 0x80, 0xDB, 0x27, 0xA0, 0x20, 0xFB, 0xC9]

/-- `call HdWait`, `in a, (HD_PORT.STAT)`, `and HD_STAT.ERR`, `ret z`, `scf`,
`in a, (HD_PORT.ERR)`, `ret` -/
def hdErr (wait : U16) : List U8 :=
  [0xCD, lo wait, hi wait, 0xDB, 0x27, 0xE6, 0x01, 0xC8, 0x37, 0xDB, 0x21, 0xC9]

/-- `ld a, e`, `out (HD_PORT.SEC_NUM), a`, `ld a, d`, `out (HD_PORT.CYL_LO), a`, `ld a, l`,
`out (HD_PORT.CYL_HI), a`, `ld a, h`, `and $0F`, `or HD_DRIVE0`, `out (HD_PORT.HEAD), a`, `ret` -/
def hdLba : List U8 :=
  [0x7B, 0xD3, 0x23, 0x7A, 0xD3, 0x24, 0x7D, 0xD3, 0x25, 0x7C, 0xE6, 0x0F, 0xF6, 0xE0, 0xD3, 0x26,
    0xC9]

/-- `ld de, SECTOR_SIZE`, `ld hl, SECTOR_BUF`, and at `.inb`: `call HdWait`,
`in a, (HD_PORT.DATA)`, `ld (hl), a`, `inc hl`, `dec de`, `ld a, d`, `or e`, `jp nz, .inb`,
`jp HdErr` -/
def hdBufIn (wait err buf org : U16) : List U8 :=
  [0x11, 0x00, 0x02, 0x21, lo buf, hi buf, 0xCD, lo wait, hi wait, 0xDB, 0x20, 0x77, 0x23, 0x1B,
    0x7A, 0xB3, 0xC2, lo (pcAt org 6), hi (pcAt org 6), 0xC3, lo err, hi err]

/-- `ld de, SECTOR_SIZE`, `ld hl, SECTOR_BUF`, and at `.outb`: `call HdWait`, `ld a, (hl)`,
`out (HD_PORT.DATA), a`, `inc hl`, `dec de`, `ld a, d`, `or e`, `jp nz, .outb`, `jp HdErr` -/
def hdBufOut (wait err buf org : U16) : List U8 :=
  [0x11, 0x00, 0x02, 0x21, lo buf, hi buf, 0xCD, lo wait, hi wait, 0x7E, 0xD3, 0x20, 0x23, 0x1B,
    0x7A, 0xB3, 0xC2, lo (pcAt org 6), hi (pcAt org 6), 0xC3, lo err, hi err]

/-- `call HdWait`, `ld a, HD_FEAT.BITS8`, `out (HD_PORT.FEAT), a`, `ld a, HD_CMD.FEAT`,
`out (HD_PORT.CMD), a`, `jp HdErr` -/
def hd8Bit (wait err : U16) : List U8 :=
  [0xCD, lo wait, hi wait, 0x3E, 0x01, 0xD3, 0x21, 0x3E, 0xEF, 0xD3, 0x27, 0xC3, lo err, hi err]

/-- `HdRead`, `HdWrite` and `HdIdent`: `call HdWait`, `ld a, cmd`, `out (HD_PORT.CMD), a`,
`call HdErr`, `ret c`, `jp next` -/
def hdCommand (cmd : U8) (wait err next : U16) : List U8 :=
  [0xCD, lo wait, hi wait, 0x3E, cmd, 0xD3, 0x27, 0xCD, lo err, hi err, 0xD8, 0xC3, lo next,
    hi next]

section

variable {M K : Type} [MemoryMap M] [Device K] {b : Board (CardBus M) K} {cards : CardBus M}
  {d : Drive} {c : Card M} {n : ℕ} {r : Regs} {wait err : U16}

/-- **`HdWait`**: a card that is ready is not waited for. -/
theorem leads_hdWait (hn : n ≤ 0xFFFE) (hcode : Kept n r.sp b wait hdWait)
    (hsel : cards.registers.drive = d) (hready : c.Ready) :
    Leads Board.loop (Near n (atCode r wait 0) (withCard b cards d c))
      (fun s => ∃ af, Near (n + 2) { r with
        pc := top b r.sp
        sp := r.sp + 2
        af := af
        bc := word 0x80 (lo r.bc) } (withCard b cards d (quiet c)) s) := by
  have hkept := kept_withHd hcode
  let r₁ : Regs := { r with bc := word 0x80 (lo r.bc) }
  have hload : Leads Board.loop (Near n (atCode r wait 0) (withCard b cards d c))
      (Near n (atCode r₁ wait 2) (withCard b cards d c)) := by
    refine leads_still rfl ?_
    intro b' hb'
    exact leads_ld (k := 0) ((hkept _).same hb').holds rfl rfl rfl rfl
  let r₂ : Regs := { r₁ with af := word c.status (lo r.af) }
  let b₁ : Board (CardBus M) K := withCard b cards d (quiet c)
  have hstatus : Leads Board.loop (Near n (atCode r₁ wait 2) (withCard b cards d c))
      (Near n (atCode r₂ wait 4) b₁) :=
    leads_inDisk (k := 2) hcode rfl rfl (by decide) (read_status hsel)
  let af := Arith.af .and c.status 0x80 (r₂.cpu.flag .C)
  have hand : Leads Board.loop (Near n (atCode r₂ wait 4) b₁)
      (Near n (atCode { r₂ with af := af } wait 5) b₁) := by
    refine leads_still rfl ?_
    intro b' hb'
    have hbase := leads_base (r := r₂) (b := b') (i := .and .B) (k := 4) .and
      ((hkept _).same hb').holds rfl rfl rfl fun bus => ⟨rfl, rfl⟩
    rw [show hi r₂.af = c.status from hi_word _ _,
      show (atCode r₂ wait (4 + 1)).cpu.register .B = 0x80 from hi_word _ _] at hbase
    exact hbase
  have hzero : ({ r₂ with af := af } : Regs).cpu.condition .NZ = false := by
    show (!_) = false
    rw [flag_base]
    show (!(c.status &&& 0x80 == 0)) = false
    rw [show c.status &&& 0x80 = 0 from hready]
    rfl
  have hpass : Leads Board.loop (Near n (atCode { r₂ with af := af } wait 5) b₁)
      (Near n (atCode { r₂ with af := af } wait 7) b₁) := by
    refine leads_still rfl ?_
    intro b' hb'
    have hjr := leads_jr (r := { r₂ with af := af }) (b := b') (k := 5) (j := 2)
      ((hkept _).same hb').holds rfl rfl rfl (by decide)
    rw [hzero] at hjr
    exact hjr
  have hret : Leads Board.loop (Near n (atCode { r₂ with af := af } wait 7) b₁)
      (Near (n + 2) { r₂ with af := af, pc := top b₁ r.sp, sp := r.sp + 2 } b₁) :=
    leads_retNear (k := 7) hn (hkept _) rfl
  refine (((hload.trans hstatus).trans hand).trans (hpass.trans hret)).conseq (fun s hs => hs) ?_
  intro s hs
  exact ⟨af, hs⟩

variable {org : U16} {code : List U8} {k : ℕ}

/-- `call HdWait` -/
theorem leads_callWait (hn : n ≤ 0xFFFE) (hcode : Kept (n + 2) r.sp b org code)
    (hwait : Kept (n + 2) r.sp b wait hdWait) (hk : code[k]? = some 0xCD)
    (hlo : code[k + 1]? = some (lo wait)) (hhi : code[k + 2]? = some (hi wait))
    (hsel : cards.registers.drive = d) (hready : c.Ready) :
    Leads Board.loop (Near (n + 2) (atCode r org k) (withCard b cards d c))
      (fun s => ∃ af, Near (n + 2) { atCode r org (k + 3) with
        af := af
        bc := word 0x80 (lo r.bc) } (withCard b cards d (quiet c)) s) := by
  refine leads_callNear (kept_withHd hcode _) hk hlo hhi ?_
  have hcall := leads_hdWait (r := { r with sp := r.sp - 2 }) hn
    (hwait.nested (pcAt org (k + 3))) hsel hready
  rw [atCode, pcAt, BitVec.add_zero] at hcall
  refine hcall.conseq (fun s hs => hs) ?_
  rintro s ⟨af, hs⟩
  exact ⟨af, Near.back (r := { r with af := af, bc := word 0x80 (lo r.bc) }) hs
    ((same_pushed n r.sp _ b).withHd _)⟩

/-- **`HdErr`**: C is ERR, and with C the error is in A. -/
theorem leads_hdErr (hn : n ≤ 0xFFFC) (hcode : Kept (n + 2) r.sp b err (hdErr wait))
    (hwait : Kept (n + 2) r.sp b wait hdWait) (hsel : cards.registers.drive = d)
    (hready : c.Ready) :
    Leads Board.loop (Near (n + 2) (atCode r err 0) (withCard b cards d c))
      (fun s => ∃ af, Reports c af ∧ Near (n + 4) { r with
        pc := top b r.sp
        sp := r.sp + 2
        af := af
        bc := word 0x80 (lo r.bc) } (withCard b cards d (quiet c)) s) := by
  have hcall := leads_callWait (k := 0) (by omega) hcode hwait rfl rfl rfl hsel hready
  refine hcall.trans (Leads.exists_elim ?_)
  intro af₀
  have hkept := kept_withHd hcode
  let b₁ : Board (CardBus M) K := withCard b cards d (quiet c)
  let r₁ : Regs := { r with bc := word 0x80 (lo r.bc) }
  let r₂ : Regs := { r₁ with af := word c.status (lo af₀) }
  have hstatus : Leads Board.loop (Near (n + 2) (atCode { r₁ with af := af₀ } err 3) b₁)
      (Near (n + 2) (atCode r₂ err 5) b₁) :=
    leads_inDisk (r := { r₁ with af := af₀ }) (k := 3) hcode rfl rfl
      (by decide : selection 0x27 = .hd) (read_status (c := quiet c) hsel)
  let af := Arith.af .and c.status 0x01 (r₂.cpu.flag .C)
  let r₃ : Regs := { r₂ with af := af }
  have hand : Leads Board.loop (Near (n + 2) (atCode r₂ err 5) b₁)
      (Near (n + 2) (atCode r₃ err 7) b₁) := by
    refine leads_still rfl ?_
    intro b' hb'
    have hbase := leads_baseImmediate (r := r₂) (b := b') (v := 0x01) (k := 5) .and
      ((hkept _).same hb').holds rfl rfl rfl rfl fun c bus => ⟨rfl, rfl⟩
    rw [show hi r₂.af = c.status from hi_word _ _] at hbase
    exact hbase
  have hzero : r₃.cpu.condition .Z = !failed c := by
    show Cpu.flag _ .Z = _
    rw [flag_base]
    exact (Bool.not_not _).symm
  have hcarry : carry af = false := (Cpu.flag_eq r₃.cpu .C).symm.trans (flag_base .and r₂ _ _ _ .C)
  have hstart := hstatus.trans hand
  cases hfailed : failed c with
  | false =>
    rw [hfailed] at hzero
    have hret := leads_retTaken (r := r₃) (b := b₁) (k := 7) (by omega) (hkept _) rfl rfl hzero
    refine (hstart.trans hret).conseq (fun s hs => hs) ?_
    intro s hs
    exact ⟨af, ⟨hcarry.trans hfailed.symm,
      fun h => absurd (hfailed.symm.trans h) Bool.false_ne_true⟩, hs⟩
  | true =>
    rw [hfailed] at hzero
    obtain ⟨af', hscf, hcarry'⟩ := scf_af (atCode r₃ err 9).cpu
    let r₄ : Regs := { r₂ with af := af' }
    have hpass : Leads Board.loop (Near (n + 2) (atCode r₃ err 7) b₁)
        (Near (n + 2) (atCode r₃ err 8) b₁) := leads_retPassed (k := 7) (hkept _) rfl rfl hzero
    have hset : Leads Board.loop (Near (n + 2) (atCode r₃ err 8) b₁)
        (Near (n + 2) (atCode r₄ err 9) b₁) := by
      refine leads_still rfl ?_
      intro b' hb'
      have hone := leads_one (r := r₃) (b := b') (k := 8) (i := .scf) ((hkept _).same hb').holds rfl
        rfl rfl rfl
      rw [show ((atCode r₃ err 9).cpu.exec (⟨some b'⟩ : OnBoard (CardBus M) K) .scf).cpu.regs =
        atCode r₄ err 9 from congrArg Cpu.regs hscf] at hone
      exact hone
    have herror : Leads Board.loop (Near (n + 2) (atCode r₄ err 9) b₁)
        (Near (n + 2) (atCode { r₄ with af := word c.error (lo af') } err 11) b₁) :=
      leads_inDisk (r := r₄) (k := 9) hcode rfl rfl (by decide : selection 0x21 = .hd)
        (read_error (c := quiet c) hsel)
    have hret : Leads Board.loop
        (Near (n + 2) (atCode { r₄ with af := word c.error (lo af') } err 11) b₁)
        (Near (n + 4) { r₄ with
          pc := top b₁ r.sp
          sp := r.sp + 2
          af := word c.error (lo af') } b₁) := leads_retNear (k := 11) (by omega) (hkept _) rfl
    refine (hstart.trans ((hpass.trans hset).trans (herror.trans hret))).conseq (fun s hs => hs) ?_
    intro s hs
    refine ⟨word c.error (lo af'), ⟨?_, fun _ => hi_word _ _⟩, hs⟩
    rw [carry, lo_word, hfailed]
    exact hcarry'

end

/-! ### Byte by byte -/

/-- The end of `.inb` and of `.outb`: `inc hl`, `dec de`, `ld a, d`, `or e`, `jp nz, .inb` -/
def hdNext (start : U16) : List U8 := [0x23, 0x1B, 0x7A, 0xB3, 0xC2, lo start, hi start]

section

variable {H K : Type} [Device H] [Device K] {b : Board H K} {n k : ℕ} {r : Regs} {org start : U16}

theorem or_parts (w : U16) : (hi w ||| lo w == 0) = decide (w = 0) := by
  rw [Bool.beq_eq_decide_eq, decide_eq_decide]
  constructor
  · intro h
    obtain ⟨hhigh, hlow⟩ := BitVec.or_eq_zero_iff.1 h
    rw [← word_hi_lo w, hhigh, hlow]
    rfl
  · rintro rfl
    rfl

/-- **One byte less.**  DE counts down, and the loop ends at zero. -/
theorem leads_hdNext (hcode : Kept n r.sp b org (hdNext start)) (hk : k < 0xFFFF)
    (hde : r.de = BitVec.ofNat 16 (k + 1)) :
    Leads Board.loop (Near n (atCode r org 0) b)
      (fun s => ∃ af, Near n { r with
        pc := if k = 0 then pcAt org 7 else start
        af := af
        de := BitVec.ofNat 16 k
        hl := r.hl + 1 } b s) := by
  let r₁ : Regs := { r with hl := r.hl + 1 }
  let r₂ : Regs := { r₁ with de := BitVec.ofNat 16 k }
  have hinc : Leads Board.loop (Near n (atCode r org 0) b) (Near n (atCode r₁ org 1) b) := by
    refine leads_still rfl ?_
    intro b' hb'
    exact leads_one (k := 0) (i := .incWide .HL) (hcode.same hb').holds rfl rfl rfl rfl
  have hdec : Leads Board.loop (Near n (atCode r₁ org 1) b) (Near n (atCode r₂ org 2) b) := by
    refine leads_still rfl ?_
    intro b' hb'
    have hone := leads_one (r := r₁) (b := b') (k := 1) (i := .decWide .DE) (hcode.same hb').holds
      rfl rfl rfl rfl
    have hless : r.de - 1 = BitVec.ofNat 16 k := by
      rw [hde]
      bv_omega
    have hregs : ((atCode r₁ org 2).cpu.exec (⟨some b'⟩ : OnBoard H K) (.decWide .DE)).cpu.regs =
        { atCode r₁ org 2 with de := r.de - 1 } := rfl
    rw [hregs, hless] at hone
    exact hone
  let d := hi (BitVec.ofNat 16 k)
  let r₃ : Regs := { r₂ with af := word d (lo r.af) }
  have hload : Leads Board.loop (Near n (atCode r₂ org 2) b) (Near n (atCode r₃ org 3) b) := by
    refine leads_still rfl ?_
    intro b' hb'
    exact leads_one (k := 2) (i := .copyRegister .A .D) (hcode.same hb').holds rfl rfl rfl rfl
  let af := Arith.af .or d (lo (BitVec.ofNat 16 k)) (r₃.cpu.flag .C)
  let r₄ : Regs := { r₂ with af := af }
  have hor : Leads Board.loop (Near n (atCode r₃ org 3) b) (Near n (atCode r₄ org 4) b) := by
    refine leads_still rfl ?_
    intro b' hb'
    have hbase := leads_base (r := r₃) (b := b') (i := .or .E) (k := 3) .or (hcode.same hb').holds
      rfl rfl rfl fun bus => ⟨rfl, rfl⟩
    rw [show hi r₃.af = d from hi_word _ _] at hbase
    exact hbase
  have hcond : r₄.cpu.condition .NZ = !decide (k = 0) := by
    show (!Cpu.flag _ .Z) = _
    rw [flag_base]
    show (!(d ||| lo (BitVec.ofNat 16 k) == 0)) = _
    rw [or_parts]
    congr 2
    rw [eq_iff_iff]
    bv_omega
  have hjump : Leads Board.loop (Near n (atCode r₄ org 4) b)
      (Near n { r₄ with pc := if k = 0 then pcAt org 7 else start } b) := by
    refine leads_still rfl ?_
    intro b' hb'
    have hjp := leads_jpConditional (r := r₄) (b := b') (k := 4) (hcode.same hb').holds rfl
      rfl rfl rfl
    rw [hcond, word_hi_lo] at hjp
    by_cases hzero : k = 0
    · simpa [hzero] using hjp
    · simpa [hzero] using hjp
  refine (((hinc.trans hdec).trans hload).trans (hor.trans hjump)).conseq (fun s hs => hs) ?_
  intro s hs
  exact ⟨af, hs⟩

end

section

variable {M K : Type} [MemoryMap M] [Device K] {b : Board (CardBus M) K} {cards : CardBus M}
  {d : Drive} {c₀ : Card M} {n L : ℕ} {r : Regs} {org wait err buf : U16} {bytes : List U8}

/-- With `k` bytes to go. -/
def Sending (n : ℕ) (r : Regs) (b : Board (CardBus M) K) (cards : CardBus M) (d : Drive)
    (c₀ : Card M) (L : ℕ) (org buf : U16) (bytes : List U8) (k : ℕ)
    (s : Cpu × Board (CardBus M) K) : Prop :=
  ∃ done rest c af v, bytes = done ++ rest ∧ rest.length = k ∧ Took c₀ c L done ∧
    Near n { r with
      pc := if k = 0 then pcAt org 19 else pcAt org 6
      af := af
      bc := word v (lo r.bc)
      de := BitVec.ofNat 16 k
      hl := buf + BitVec.ofNat 16 done.length } { b with hd := some (cards.setCard c d) } s

/-- **One byte out.** -/
theorem sending_step (hn : n ≤ 0xFFFE) (hcode : Kept (n + 2) r.sp b org (hdBufOut wait err buf org))
    (hwait : Kept (n + 2) r.sp b wait hdWait) (hbuf : Kept (n + 2) r.sp b buf bytes)
    (hlen : bytes.length = SECTOR_SIZE) (hsel : cards.registers.drive = d)
    (hin : InRange (MemoryMap.len c₀.mmap) L) (k : ℕ) :
    Leads Board.loop (Sending (n + 2) r b cards d c₀ L org buf bytes (k + 1))
      (Sending (n + 2) r b cards d c₀ L org buf bytes k) := by
  rintro s ⟨done, rest, c, af, v, rfl, hrest, htook, hs⟩
  obtain ⟨data, rest, rfl⟩ := List.exists_cons_of_length_eq_add_one hrest
  simp only [List.length_append, List.length_cons, SECTOR_SIZE_eq] at hrest hlen
  have hdone : done.length < SECTOR_SIZE := by
    rw [SECTOR_SIZE_eq]
    omega
  let r₁ : Regs := { r with
    bc := word 0x80 (lo r.bc)
    de := BitVec.ofNat 16 (k + 1)
    hl := buf + BitVec.ofNat 16 done.length }
  have hkept := kept_withHd hcode
  rw [if_neg (Nat.succ_ne_zero k)] at hs
  have hwaited := leads_callWait (r := { r₁ with af := af, bc := word v (lo r.bc) }) (k := 6)
    (b := b) hn hcode hwait rfl rfl rfl hsel htook.transfer.ready
  obtain ⟨s₁, harrives₁, af₁, hs₁⟩ := hwaited s hs
  rw [lo_word] at hs₁
  let r₂ : Regs := { r₁ with af := word data (lo af₁) }
  have hload : Leads Board.loop
      (Near (n + 2) (atCode { r₁ with af := af₁ } org 9) (withCard b cards d (quiet c)))
      (Near (n + 2) (atCode r₂ org 10) (withCard b cards d (quiet c))) := by
    refine leads_still rfl ?_
    intro b' hb'
    have hbyte : b'.byte r₁.hl = data := by
      apply ((kept_withHd hbuf _).same hb').holds
      rw [List.getElem?_append_right (Nat.le_refl _), Nat.sub_self]
      rfl
    have hone := leads_one (r := { r₁ with af := af₁ }) (b := b') (k := 9)
      (i := .copyRegisterHlIndirect .A) ((hkept _).same hb').holds rfl rfl rfl rfl
    have hregs : ((atCode { r₁ with af := af₁ } org 10).cpu.exec
        (⟨some b'⟩ : OnBoard (CardBus M) K) (.copyRegisterHlIndirect .A)).cpu.regs =
          { atCode r₁ org 10 with af := word (b'.byte r₁.hl) (lo af₁) } := rfl
    rw [hregs, hbyte] at hone
    exact hone
  obtain ⟨c', hwrite, htook'⟩ := htook.quiet.step hin hdone data
  have hout : Leads Board.loop (Near (n + 2) (atCode r₂ org 10) (withCard b cards d (quiet c)))
      (Near (n + 2) (atCode r₂ org 12) (withCard b cards d c')) := by
    refine leads_outDisk (k := 10) hcode rfl rfl (by decide : selection 0x20 = .hd) ?_
    rw [hi_word]
    exact write_byte hsel hwrite
  have hnext : Kept (n + 2) r.sp b (pcAt org 12) (hdNext (pcAt org 6)) :=
    Kept.part (p := (hdBufOut wait err buf org).take 12) (q := (hdBufOut wait err buf org).drop 19)
      hcode
  have hagain := leads_hdNext (r := r₂) (k := k) (kept_withHd hnext (some (cards.setCard c' d)))
    (by omega) rfl
  simp only [atCode, pcAt_pcAt] at hagain
  obtain ⟨s', harrives, af', hs'⟩ := (hload.trans (hout.trans hagain)) s₁ hs₁
  refine ⟨s', harrives₁.trans harrives, done ++ [data], rest, c', af', 0x80, ?_, ?_, htook', ?_⟩
  · rw [List.append_assoc, List.singleton_append]
  · omega
  · have hhl : buf + BitVec.ofNat 16 done.length + 1 =
        buf + BitVec.ofNat 16 (done ++ [data]).length := by
      rw [List.length_append, List.length_singleton]
      exact pcAt_succ buf done.length
    rw [← hhl]
    exact hs'

/-- **`HdBufOut`**: the card takes the buffer. -/
theorem leads_hdBufOut (hn : n ≤ 0xFFFC)
    (hcode : Kept (n + 2) r.sp b org (hdBufOut wait err buf org))
    (hwait : Kept (n + 2) r.sp b wait hdWait) (herr : Kept (n + 2) r.sp b err (hdErr wait))
    (hbuf : Kept (n + 2) r.sp b buf bytes) (hlen : bytes.length = SECTOR_SIZE)
    (hsel : cards.registers.drive = d) (htransfer : c₀.Transfer .writeSectors L 0)
    (hfine : failed c₀ = false) (herror : c₀.error = 0) (hin : InRange (MemoryMap.len c₀.mmap) L) :
    Leads Board.loop (Near (n + 2) (atCode r org 0) (withCard b cards d c₀))
      (fun s => ∃ c af, Took c₀ c L bytes ∧ Reports c af ∧ Near (n + 4) { r with
        pc := top b r.sp
        sp := r.sp + 2
        af := af
        bc := word 0x80 (lo r.bc)
        de := 0
        hl := buf + 0x200 } (withCard b cards d (quiet c)) s) := by
  have hkept := kept_withHd hcode
  let r₁ : Regs := { r with de := 0x200 }
  let r₂ : Regs := { r₁ with hl := buf }
  have hcount : Leads Board.loop (Near (n + 2) (atCode r org 0) (withCard b cards d c₀))
      (Near (n + 2) (atCode r₁ org 3) (withCard b cards d c₀)) := by
    refine leads_still rfl ?_
    intro b' hb'
    exact leads_ldWide (k := 0) ((hkept _).same hb').holds rfl rfl rfl rfl rfl
  have hstart : Leads Board.loop (Near (n + 2) (atCode r₁ org 3) (withCard b cards d c₀))
      (Near (n + 2) (atCode r₂ org 6) (withCard b cards d c₀)) := by
    refine leads_still rfl ?_
    intro b' hb'
    have hld := leads_ldWide (r := r₁) (k := 3) ((hkept _).same hb').holds rfl rfl rfl
      rfl rfl
    rw [word_hi_lo] at hld
    exact hld
  have hfirst : Leads Board.loop (Near (n + 2) (atCode r₂ org 6) (withCard b cards d c₀))
      (Sending (n + 2) r b cards d c₀ L org buf bytes bytes.length) := by
    apply Leads.of_imp
    intro s hs
    refine ⟨[], bytes, c₀, r.af, hi r.bc, rfl, rfl, ?_, ?_⟩
    · exact ⟨htransfer, rfl, rfl, fun _ => ⟨rfl, hfine, herror⟩,
        fun h => absurd h (Nat.ne_of_lt SECTOR_SIZE_pos)⟩
    · rw [hlen, SECTOR_SIZE_eq, if_neg (by decide), word_hi_lo]
      rw [show buf + BitVec.ofNat 16 ([] : List U8).length = buf from BitVec.add_zero buf]
      exact hs
  have hloop :=
    Leads.countdown (sending_step (by omega) hcode hwait hbuf hlen hsel hin) bytes.length
  refine (((hcount.trans hstart).trans hfirst).trans hloop).trans ?_
  rintro s ⟨done, rest, c, af, v, rfl, hrest, htook, hs⟩
  obtain rfl := List.eq_nil_of_length_eq_zero hrest
  rw [List.append_nil] at hlen ⊢
  rw [if_pos rfl, hlen, SECTOR_SIZE_eq] at hs
  let r₃ : Regs := { r with
    af := af
    bc := word v (lo r.bc)
    de := 0
    hl := buf + 0x200 }
  have hjump : Leads Board.loop (Near (n + 2) (atCode r₃ org 19) (withCard b cards d c))
      (Near (n + 2) (atCode r₃ err 0) (withCard b cards d c)) :=
    leads_jpNear (k := 19) (hkept _) rfl rfl rfl
  have hend := leads_hdErr (r := r₃) hn herr hwait hsel htook.transfer.ready
  obtain ⟨s', harrives, af', hreports, hs'⟩ := (hjump.trans hend) s hs
  rw [lo_word] at hs'
  exact ⟨s', harrives, c, af', htook, hreports, hs'⟩

end

section

variable {M K : Type} [MemoryMap M] [Device K] {b : Board (CardBus M) K} {cards : CardBus M}
  {d : Drive} {c c' : Card M} {n : ℕ} {r : Regs} {org wait err buf : U16} {bytes : List U8}

/-- With `k` bytes to go. -/
def Receiving (n : ℕ) (r : Regs) (b : Board (CardBus M) K) (cards : CardBus M) (d : Drive)
    (c' : Card M) (org buf : U16) (bytes : List U8) (k : ℕ) (s : Cpu × Board (CardBus M) K) :
    Prop :=
  ∃ done rest c af v, bytes = done ++ rest ∧ rest.length = k ∧ Gives c rest c' ∧
    Near n { r with
      pc := if k = 0 then pcAt org 19 else pcAt org 6
      af := af
      bc := word v (lo r.bc)
      de := BitVec.ofNat 16 k
      hl := pcAt buf done.length } (withCard (fill b buf done) cards d c) s

/-- Code outside the buffer. -/
def Apart (buf org : U16) (code : List U8) : Prop :=
  ∀ j < code.length, ∀ k < SECTOR_SIZE, pcAt org j ≠ pcAt buf k

/-- **One byte in.** -/
theorem receiving_step (hn : n ≤ 0xFFFE)
    (hcode : Kept (n + 2) r.sp b org (hdBufIn wait err buf org))
    (hwait : Kept (n + 2) r.sp b wait hdWait) (hapart : Apart buf org (hdBufIn wait err buf org))
    (hapart' : Apart buf wait hdWait) (hlen : bytes.length = SECTOR_SIZE)
    (hsel : cards.registers.drive = d) (k : ℕ) :
    Leads Board.loop (Receiving (n + 2) r b cards d c' org buf bytes (k + 1))
      (Receiving (n + 2) r b cards d c' org buf bytes k) := by
  rintro s ⟨done, rest, c, af, v, rfl, hrest, hgives, hs⟩
  obtain ⟨data, rest, rfl⟩ := List.exists_cons_of_length_eq_add_one hrest
  simp only [List.length_append, List.length_cons] at hrest hlen
  obtain ⟨hready, c₁, hread, hgives'⟩ := hgives.cons
  let r₁ : Regs := { r with
    bc := word 0x80 (lo r.bc)
    de := BitVec.ofNat 16 (k + 1)
    hl := pcAt buf done.length }
  have hcode₁ : Kept (n + 2) r.sp (fill b buf done) org (hdBufIn wait err buf org) :=
    hcode.fill fun j hj k hk => hapart j hj k (by omega)
  have hwait₁ : Kept (n + 2) r.sp (fill b buf done) wait hdWait :=
    hwait.fill fun j hj k hk => hapart' j hj k (by omega)
  rw [if_neg (Nat.succ_ne_zero k)] at hs
  have hwaited := leads_callWait (r := { r₁ with af := af, bc := word v (lo r.bc) }) (k := 6)
    (b := fill b buf done) hn hcode₁ hwait₁ rfl rfl rfl hsel hready
  obtain ⟨s₁, harrives₁, af₁, hs₁⟩ := hwaited s hs
  rw [lo_word] at hs₁
  let r₂ : Regs := { r₁ with af := word data (lo af₁) }
  have hin : Leads Board.loop
      (Near (n + 2) (atCode { r₁ with af := af₁ } org 9)
        (withCard (fill b buf done) cards d (quiet c)))
      (Near (n + 2) (atCode r₂ org 11) (withCard (fill b buf done) cards d c₁)) :=
    leads_inDisk (r := { r₁ with af := af₁ }) (k := 9) hcode₁ rfl rfl
      (by decide : selection 0x20 = .hd) (read_byte hsel hread)
  have hboard : (withCard (fill b buf done) cards d c₁).write (pcAt buf done.length) data =
      withCard (fill b buf (done ++ [data])) cards d c₁ := by
    rw [withCard, fill_snoc]
    rfl
  have hstore : Leads Board.loop
      (Near (n + 2) (atCode r₂ org 11) (withCard (fill b buf done) cards d c₁))
      (Near (n + 2) (atCode r₂ org 12) (withCard (fill b buf (done ++ [data])) cards d c₁)) := by
    apply leads_near
    intro b' hb'
    have hst := leads_store (r := r₂) (b := b') (k := 11)
      ((kept_withHd hcode₁ _).same hb').holds rfl rfl rfl (hi_word _ _)
    refine hst.conseq (fun s hs => hs) ?_
    intro s hs
    refine ⟨_, hs, ?_⟩
    rw [← hboard]
    exact hb'.write _ _
  have hnext : Kept (n + 2) r.sp (fill b buf (done ++ [data])) (pcAt org 12)
      (hdNext (pcAt org 6)) := by
    refine Kept.part (p := (hdBufIn wait err buf org).take 12)
      (q := (hdBufIn wait err buf org).drop 19) ?_
    refine hcode.fill fun j hj k hk => hapart j hj k ?_
    rw [List.length_append, List.length_singleton] at hk
    omega
  have hagain := leads_hdNext (r := r₂) (k := k) (kept_withHd hnext (some (cards.setCard c₁ d)))
    (by rw [SECTOR_SIZE_eq] at hlen; omega) rfl
  simp only [atCode, pcAt_pcAt] at hagain
  obtain ⟨s', harrives, af', hs'⟩ := (hin.trans (hstore.trans hagain)) s₁ hs₁
  refine ⟨s', harrives₁.trans harrives, done ++ [data], rest, c₁, af', 0x80, ?_, ?_, hgives', ?_⟩
  · rw [List.append_assoc, List.singleton_append]
  · omega
  · have hhl : pcAt buf done.length + 1 = pcAt buf (done ++ [data]).length := by
      rw [List.length_append, List.length_singleton]
      exact pcAt_succ buf done.length
    rw [← hhl]
    exact hs'

/-- **`HdBufIn`**: the buffer takes what the card gives. -/
theorem leads_hdBufIn (hn : n ≤ 0xFFFC) (hcode : Kept (n + 2) r.sp b org (hdBufIn wait err buf org))
    (hwait : Kept (n + 2) r.sp b wait hdWait) (herr : Kept (n + 2) r.sp b err (hdErr wait))
    (hapart : Apart buf org (hdBufIn wait err buf org)) (hapartWait : Apart buf wait hdWait)
    (hapartErr : Apart buf err (hdErr wait)) (hlen : bytes.length = SECTOR_SIZE)
    (hsel : cards.registers.drive = d) (hgives : Gives c bytes c') (hready : c'.Ready) :
    Leads Board.loop (Near (n + 2) (atCode r org 0) (withCard b cards d c))
      (fun s => ∃ af, Reports c' af ∧ Near (n + 4) { r with
        pc := top (fill b buf bytes) r.sp
        sp := r.sp + 2
        af := af
        bc := word 0x80 (lo r.bc)
        de := 0
        hl := buf + 0x200 } (withCard (fill b buf bytes) cards d (quiet c')) s) := by
  have hkept := kept_withHd hcode
  let r₁ : Regs := { r with de := 0x200 }
  let r₂ : Regs := { r₁ with hl := buf }
  have hcount : Leads Board.loop (Near (n + 2) (atCode r org 0) (withCard b cards d c))
      (Near (n + 2) (atCode r₁ org 3) (withCard b cards d c)) := by
    refine leads_still rfl ?_
    intro b' hb'
    exact leads_ldWide (k := 0) ((hkept _).same hb').holds rfl rfl rfl rfl rfl
  have hstart : Leads Board.loop (Near (n + 2) (atCode r₁ org 3) (withCard b cards d c))
      (Near (n + 2) (atCode r₂ org 6) (withCard b cards d c)) := by
    refine leads_still rfl ?_
    intro b' hb'
    have hld := leads_ldWide (r := r₁) (k := 3) ((hkept _).same hb').holds rfl rfl rfl
      rfl rfl
    rw [word_hi_lo] at hld
    exact hld
  have hfirst : Leads Board.loop (Near (n + 2) (atCode r₂ org 6) (withCard b cards d c))
      (Receiving (n + 2) r b cards d c' org buf bytes bytes.length) := by
    apply Leads.of_imp
    intro s hs
    refine ⟨[], bytes, c, r.af, hi r.bc, rfl, rfl, hgives, ?_⟩
    have hhl : pcAt buf ([] : List U8).length = buf := BitVec.add_zero buf
    rw [hlen, SECTOR_SIZE_eq, if_neg (by decide), word_hi_lo, hhl]
    exact hs
  have hloop : Leads Board.loop (Receiving (n + 2) r b cards d c' org buf bytes bytes.length)
      (Receiving (n + 2) r b cards d c' org buf bytes 0) :=
    Leads.countdown (receiving_step (by omega) hcode hwait hapart hapartWait hlen hsel) bytes.length
  refine (((hcount.trans hstart).trans hfirst).trans hloop).trans ?_
  rintro s ⟨done, rest, c₁, af, v, rfl, hrest, hdone, hs⟩
  obtain rfl := List.eq_nil_of_length_eq_zero hrest
  obtain rfl := hdone.nil
  rw [List.append_nil] at hlen ⊢
  have hhl : pcAt buf done.length = buf + 0x200 := by
    rw [hlen, SECTOR_SIZE_eq]
    rfl
  rw [if_pos rfl, hhl] at hs
  have hfill : ∀ {org : U16} {code : List U8}, Kept (n + 2) r.sp b org code → Apart buf org code →
      Kept (n + 2) r.sp (fill b buf done) org code :=
    fun h ha => h.fill fun j hj k hk => ha j hj k (hlen ▸ hk)
  let r₃ : Regs := { r with
    af := af
    bc := word v (lo r.bc)
    de := 0
    hl := buf + 0x200 }
  have hjump : Leads Board.loop
      (Near (n + 2) (atCode r₃ org 19) (withCard (fill b buf done) cards d c'))
      (Near (n + 2) (atCode r₃ err 0) (withCard (fill b buf done) cards d c')) :=
    leads_jpNear (k := 19) (kept_withHd (hfill hcode hapart) _) rfl rfl rfl
  have hend := leads_hdErr (r := r₃) (b := fill b buf done) hn (hfill herr hapartErr)
    (hfill hwait hapartWait) hsel hready
  obtain ⟨s', harrives, af', hreports, hs'⟩ := (hjump.trans hend) s hs
  rw [lo_word] at hs'
  exact ⟨s', harrives, af', hreports, hs'⟩

end

section

variable {M K : Type} {b : Board (CardBus M) K} {cards : CardBus M} {d : Drive} {c c₁ : Card M}
  {n k : ℕ} {r : Regs} {org wait err next : U16} {code body : List U8} {cmd : U8}

/-- A command on the board, with `HdWait`, `HdErr` and what it goes on with. -/
structure CommandCode (n : ℕ) (sp : U16) (b : Board (CardBus M) K) (cmd : U8)
    (org wait err next : U16) (body : List U8) : Prop where
  command : Kept n sp b org (hdCommand cmd wait err next)
  body : Kept n sp b next body
  hdWait : Kept n sp b wait hdWait
  hdErr : Kept n sp b err (hdErr wait)

theorem CommandCode.nested {sp : U16} (h : CommandCode (n + 2) sp b cmd org wait err next body)
    (w : U16) : CommandCode n (sp - 2) (pushed b (sp - 2) w) cmd org wait err next body :=
  ⟨h.command.nested w, h.body.nested w, h.hdWait.nested w, h.hdErr.nested w⟩

variable [MemoryMap M] [Device K]

/-- `call HdErr` -/
theorem leads_callErr (hn : n ≤ 0xFFFC) (hcode : Kept (n + 4) r.sp b org code)
    (hwait : Kept (n + 4) r.sp b wait hdWait) (herr : Kept (n + 4) r.sp b err (hdErr wait))
    (hk : code[k]? = some 0xCD) (hlo : code[k + 1]? = some (lo err))
    (hhi : code[k + 2]? = some (hi err)) (hsel : cards.registers.drive = d) (hready : c.Ready) :
    Leads Board.loop (Near (n + 4) (atCode r org k) (withCard b cards d c))
      (fun s => ∃ af, Reports c af ∧ Near (n + 4) { atCode r org (k + 3) with
        af := af
        bc := word 0x80 (lo r.bc) } (withCard b cards d (quiet c)) s) := by
  refine leads_callNear (kept_withHd hcode _) hk hlo hhi ?_
  have hcall := leads_hdErr (r := { r with sp := r.sp - 2 }) hn
    (herr.nested (pcAt org (k + 3))) (hwait.nested _) hsel hready
  have hentry : pcAt err 0 = err := BitVec.add_zero err
  rw [atCode, hentry] at hcall
  refine hcall.conseq (fun s hs => hs) ?_
  rintro s ⟨af, hreports, hs⟩
  exact ⟨af, hreports, Near.back (r := { r with af := af, bc := word 0x80 (lo r.bc) }) hs
    ((same_pushed (n + 2) r.sp _ b).withHd _)⟩

/-- **A command**: the card takes it, and `HdErr` reports. -/
theorem leads_hdCommand (hn : n ≤ 0xFFFC)
    (hcode : CommandCode (n + 4) r.sp b cmd org wait err next body)
    (hsel : cards.registers.drive = d) (hready : c.Ready)
    (hcmd : (quiet c).writeCommand cards.registers cmd = some c₁) (hready₁ : c₁.Ready) :
    Leads Board.loop (Near (n + 4) (atCode r org 0) (withCard b cards d c))
      (fun s => ∃ af, Reports c₁ af ∧ Near (n + 4) { atCode r org 10 with
        af := af
        bc := word 0x80 (lo r.bc) } (withCard b cards d (quiet c₁)) s) := by
  have hwaited := leads_callWait (k := 0) (b := b) (by omega) hcode.command hcode.hdWait rfl rfl rfl
    hsel hready
  refine hwaited.trans (Leads.exists_elim ?_)
  intro af₀
  let r₁ : Regs := { r with af := af₀, bc := word 0x80 (lo r.bc) }
  let r₂ : Regs := { r₁ with af := word cmd (lo af₀) }
  have hload : Leads Board.loop (Near (n + 4) (atCode r₁ org 3) (withCard b cards d (quiet c)))
      (Near (n + 4) (atCode r₂ org 5) (withCard b cards d (quiet c))) := by
    refine leads_still rfl ?_
    intro b' hb'
    exact leads_ld (k := 3) ((kept_withHd hcode.command _).same hb').holds rfl rfl rfl rfl
  have hout : Leads Board.loop (Near (n + 4) (atCode r₂ org 5) (withCard b cards d (quiet c)))
      (Near (n + 4) (atCode r₂ org 7) (withCard b cards d c₁)) := by
    refine leads_outDisk (k := 5) hcode.command rfl rfl (by decide : selection 0x27 = .hd) ?_
    rw [hi_word]
    exact write_command hsel hcmd
  have herror := leads_callErr (r := r₂) (b := b) (k := 7) hn hcode.command hcode.hdWait hcode.hdErr
    rfl rfl rfl hsel hready₁
  refine ((hload.trans hout).trans herror).conseq (fun s hs => hs) ?_
  rintro s ⟨af, hreports, hs⟩
  rw [lo_word] at hs
  exact ⟨af, hreports, hs⟩

end

/-! ### A sector in and out -/

section

variable {M K : Type} [MemoryMap M] [Device K] {b : Board (CardBus M) K} {cards : CardBus M}
  {d : Drive} {c : Card M} {n L : ℕ} {r : Regs} {org wait err next buf : U16} {body : List U8}
  {cmd : U8}

/-- **A command that the card refuses** returns, with C and the error in A. -/
theorem leads_refused {c₁ : Card M} (hn : n ≤ 0xFFFA)
    (hcode : CommandCode (n + 4) r.sp b cmd org wait err next body)
    (hsel : cards.registers.drive = d) (hready : c.Ready)
    (hcmd : (quiet c).writeCommand cards.registers cmd = some c₁) (hready₁ : c₁.Ready)
    (hfailed : failed c₁ = true) :
    Leads Board.loop (Near (n + 4) (atCode r org 0) (withCard b cards d c))
      (fun s => ∃ af, (carry af = true ∧ hi af = c₁.error) ∧ Near (n + 6) { r with
        pc := top b r.sp
        sp := r.sp + 2
        af := af
        bc := word 0x80 (lo r.bc) } (withCard b cards d (quiet c₁)) s) := by
  have hstart := leads_hdCommand (by omega) hcode hsel hready hcmd hready₁
  refine hstart.trans ?_
  rintro s ⟨af, ⟨hcarry, herror⟩, hs⟩
  let r₁ : Regs := { r with af := af, bc := word 0x80 (lo r.bc) }
  have hcond : r₁.cpu.condition .C = true := (condition_carry r₁).trans (hcarry.trans hfailed)
  have hret := leads_retTaken (r := r₁) (b := withCard b cards d (quiet c₁)) (k := 10) (by omega)
    (kept_withHd hcode.command _) rfl rfl hcond
  obtain ⟨s', harrives, hs'⟩ := hret s hs
  exact ⟨s', harrives, af, ⟨hcarry.trans hfailed, herror hfailed⟩, hs'⟩

/-- A command that the card accepts goes on with its sector. -/
theorem leads_accepted {c₁ : Card M} (hn : n ≤ 0xFFFA)
    (hcode : CommandCode (n + 4) r.sp b cmd org wait err next body)
    (hsel : cards.registers.drive = d) (hready : c.Ready)
    (hcmd : (quiet c).writeCommand cards.registers cmd = some c₁) (hready₁ : c₁.Ready)
    (hfailed : failed c₁ = false) :
    Leads Board.loop (Near (n + 4) (atCode r org 0) (withCard b cards d c))
      (fun s => ∃ af, Near (n + 4) (atCode { r with af := af, bc := word 0x80 (lo r.bc) } next 0)
        (withCard b cards d (quiet c₁)) s) := by
  have hstart := leads_hdCommand (by omega) hcode hsel hready hcmd hready₁
  refine hstart.trans ?_
  rintro s ⟨af, ⟨hcarry, -⟩, hs⟩
  let r₁ : Regs := { r with af := af, bc := word 0x80 (lo r.bc) }
  have hcond : r₁.cpu.condition .C = false := (condition_carry r₁).trans (hcarry.trans hfailed)
  have hkept := kept_withHd hcode.command (some (cards.setCard (quiet c₁) d))
  have hpass := leads_retPassed (r := r₁) (k := 10) hkept rfl rfl hcond
  have hjump := leads_jpNear (r := r₁) (k := 11) hkept rfl rfl rfl
  obtain ⟨s', harrives, hs'⟩ := (hpass.trans hjump) s hs
  exact ⟨s', harrives, af, hs'⟩

/-- An accepted command with bytes for the buffer. -/
theorem leads_received {c₁ c' : Card M} {bytes : List U8} {bufIn : U16} (hn : n ≤ 0xFFFA)
    (hcode : CommandCode (n + 4) r.sp b cmd org wait err bufIn (hdBufIn wait err buf bufIn))
    (hapart : Apart buf bufIn (hdBufIn wait err buf bufIn)) (hapartWait : Apart buf wait hdWait)
    (hapartErr : Apart buf err (hdErr wait)) (hsel : cards.registers.drive = d) (hready : c.Ready)
    (hcmd : (quiet c).writeCommand cards.registers cmd = some c₁) (hready₁ : c₁.Ready)
    (hfailed : failed c₁ = false) (hlen : bytes.length = SECTOR_SIZE)
    (hgives : Gives (quiet c₁) bytes c') (hready' : c'.Ready) (hfailed' : failed c' = failed c₁) :
    Leads Board.loop (Near (n + 4) (atCode r org 0) (withCard b cards d c))
      (fun s => ∃ af, carry af = false ∧ Near (n + 6) { r with
        pc := top (fill b buf bytes) r.sp
        sp := r.sp + 2
        af := af
        bc := word 0x80 (lo r.bc)
        de := 0
        hl := buf + 0x200 } (withCard (fill b buf bytes) cards d (quiet c')) s) := by
  have hstart := leads_accepted hn hcode hsel hready hcmd hready₁ hfailed
  refine hstart.trans (Leads.exists_elim ?_)
  intro af
  have hload := leads_hdBufIn (r := { r with af := af, bc := word 0x80 (lo r.bc) }) (by omega)
    hcode.body hcode.hdWait hcode.hdErr hapart hapartWait hapartErr hlen hsel hgives hready'
  refine hload.conseq (fun s hs => hs) ?_
  rintro s ⟨af', ⟨hcarry, -⟩, hs⟩
  rw [lo_word] at hs
  exact ⟨af', hcarry.trans (hfailed'.trans hfailed), hs⟩

/-- **`HdRead`**: the buffer holds the sector, the image is as it was, and C is clear. -/
theorem leads_hdRead {bufIn : U16} (hn : n ≤ 0xFFFA)
    (hcode : CommandCode (n + 4) r.sp b 0x20 org wait err bufIn (hdBufIn wait err buf bufIn))
    (hapart : Apart buf bufIn (hdBufIn wait err buf bufIn)) (hapartWait : Apart buf wait hdWait)
    (hapartErr : Apart buf err (hdErr wait)) (hsel : cards.registers.drive = d) (hready : c.Ready)
    (hmode : cards.registers.lbaMode) (hL : cards.registers.lba.toNat = L)
    (hin : InRange (MemoryMap.len c.mmap) L) :
    Leads Board.loop (Near (n + 4) (atCode r org 0) (withCard b cards d c))
      (fun s => ∃ c' af, (c'.Ready ∧ c'.mmap = c.mmap ∧ carry af = false) ∧ Near (n + 6) { r with
        pc := top (fill b buf (sector c.mmap L)) r.sp
        sp := r.sp + 2
        af := af
        bc := word 0x80 (lo r.bc)
        de := 0
        hl := buf + 0x200 } (withCard (fill b buf (sector c.mmap L)) cards d (quiet c')) s) := by
  obtain ⟨c₁, hcmd, hmmap, htransfer, hstatus⟩ :=
    Card.writeCommand_read (c := quiet c) (r := cards.registers) hready
      (show Card.command 0x20 = .readSectors from rfl) hmode
      (hL.symm ▸ hin.le)
  have hmmap' : c₁.mmap = c.mmap := hmmap
  rw [hL] at htransfer
  obtain ⟨c', hgives, hready', hmmap₁, hfailed⟩ := gives_sector (c := quiet c₁) (k := 0)
    (m := SECTOR_SIZE) (L := L) ⟨htransfer.ready, Card.readState_zero ▸ htransfer.state_eq,
      htransfer.lba_eq, htransfer.offset_eq⟩ (hmmap'.symm ▸ hin) (Nat.zero_add _)
  have hbytes : (List.range' 0 SECTOR_SIZE).map
      (fun j => MemoryMap.byte (quiet c₁).mmap (L * SECTOR_SIZE + j)) = sector c.mmap L := by
    rw [sector, ← hmmap', List.range_eq_range']
    rfl
  rw [hbytes] at hgives
  have hreceived := leads_received hn hcode hapart hapartWait hapartErr hsel hready hcmd
    htransfer.ready (failed_started hstatus) (length_sector _ _) hgives hready' hfailed
  refine hreceived.conseq (fun s hs => hs) ?_
  rintro s ⟨af, hcarry, hs⟩
  exact ⟨c', af, ⟨hready', hmmap₁.trans hmmap', hcarry⟩, hs⟩

/-- **`HdIdent`**: the buffer holds what the card tells of itself, and C is clear. -/
theorem leads_hdIdent {bufIn : U16} (hn : n ≤ 0xFFFA)
    (hcode : CommandCode (n + 4) r.sp b 0xEC org wait err bufIn (hdBufIn wait err buf bufIn))
    (hapart : Apart buf bufIn (hdBufIn wait err buf bufIn)) (hapartWait : Apart buf wait hdWait)
    (hapartErr : Apart buf err (hdErr wait)) (hsel : cards.registers.drive = d)
    (hwf : c.WellFormed) :
    Leads Board.loop (Near (n + 4) (atCode r org 0) (withCard b cards d c))
      (fun s => ∃ c' af, (c'.WellFormed ∧ c'.mmap = c.mmap ∧ carry af = false) ∧
        Near (n + 6) { r with
          pc := top (fill b buf (deviceInfo (MemoryMap.len c.mmap))) r.sp
          sp := r.sp + 2
          af := af
          bc := word 0x80 (lo r.bc)
          de := 0
          hl := buf + 0x200 }
        (withCard (fill b buf (deviceInfo (MemoryMap.len c.mmap))) cards d (quiet c')) s) := by
  have hquiet : (quiet c).WellFormed := wellFormed_quiet hwf
  obtain ⟨c₁, hcmd, hstate, hoff, hmmap, hstatus⟩ : ∃ c₁,
      (quiet c).writeCommand cards.registers 0xEC = some c₁ ∧ c₁.state = .identifyDevice ∧
        c₁.sectorOffset = 0 ∧ c₁.mmap = c.mmap ∧
        c₁.status = c.status &&& ~~~Status.ERR ||| Status.DRQ := by
    rw [Card.writeCommand_of_ready hquiet.ready]
    exact ⟨_, rfl, rfl, rfl, rfl, rfl⟩
  have hwf₁ : c₁.WellFormed := hquiet.writeCommand hcmd
  obtain ⟨c', hgives, hwf', hmmap', hfailed⟩ := gives_identify (c := quiet c₁) (k := 0)
    (m := SECTOR_SIZE) (wellFormed_quiet hwf₁) (fun _ => hstate) hoff (Nat.zero_add _)
  have hinfo : (quiet c₁).deviceInfo.drop 0 = deviceInfo (MemoryMap.len c.mmap) := by
    rw [List.drop_zero, ← hmmap]
    exact hwf₁.info
  rw [hinfo] at hgives
  have hreceived := leads_received hn hcode hapart hapartWait hapartErr hsel hwf.ready hcmd
    hwf₁.ready (failed_started hstatus) (length_deviceInfo _) hgives hwf'.ready hfailed
  refine hreceived.conseq (fun s hs => hs) ?_
  rintro s ⟨af, hcarry, hs⟩
  exact ⟨c', af, ⟨hwf', hmmap'.trans hmmap, hcarry⟩, hs⟩

/-- **`HdWrite`**: the sector holds the buffer, and C is clear exactly if the image, with the buffer
in its sector, was flushed. -/
theorem leads_hdWrite {bufOut : U16} {bytes : List U8} (hn : n ≤ 0xFFFA)
    (hcode : CommandCode (n + 4) r.sp b 0x30 org wait err bufOut (hdBufOut wait err buf bufOut))
    (hbuf : Kept (n + 4) r.sp b buf bytes) (hlen : bytes.length = SECTOR_SIZE)
    (hsel : cards.registers.drive = d) (hready : c.Ready) (hmode : cards.registers.lbaMode)
    (hL : cards.registers.lba.toNat = L) (hin : InRange (MemoryMap.len c.mmap) L) :
    Leads Board.loop (Near (n + 4) (atCode r org 0) (withCard b cards d c))
      (fun s => ∃ c' af, (c'.Ready ∧
        c'.mmap = (MemoryMap.flush (storeBytes c.mmap (L * SECTOR_SIZE) bytes)).1 ∧
        MemoryMap.len c'.mmap = MemoryMap.len c.mmap ∧
        MemoryMap.byte c'.mmap = overlay (MemoryMap.byte c.mmap) (L * SECTOR_SIZE) bytes ∧
        carry af = (!(MemoryMap.flush (storeBytes c.mmap (L * SECTOR_SIZE) bytes)).2) ∧
        ((MemoryMap.flush (storeBytes c.mmap (L * SECTOR_SIZE) bytes)).2 = false →
          hi af = Error.AMNF ||| Error.BBK)) ∧
        Near (n + 6) { r with
          pc := top b r.sp
          sp := r.sp + 2
          af := af
          bc := word 0x80 (lo r.bc)
          de := 0
          hl := buf + 0x200 } (withCard b cards d (quiet c')) s) := by
  obtain ⟨c₁, hcmd, hmmap, htransfer, hstatus⟩ :=
    Card.writeCommand_write (c := quiet c) (r := cards.registers) hready
      (show Card.command 0x30 = .writeSectors from rfl) hmode
  have hmmap' : c₁.mmap = c.mmap := hmmap
  have herror : c₁.error = 0 := by
    have hdispatch := hcmd
    rw [Card.writeCommand_of_ready (show (quiet c).Ready from hready),
      show Card.command 0x30 = .writeSectors from rfl] at hdispatch
    simp only [Card.dispatch, if_neg hmode] at hdispatch
    cases hdispatch
    rfl
  rw [hL] at htransfer
  have hstart := leads_accepted hn hcode hsel hready hcmd htransfer.ready (failed_started hstatus)
  refine hstart.trans (Leads.exists_elim ?_)
  intro af
  have hquiet : (quiet c₁).Transfer .writeSectors L 0 :=
    ⟨htransfer.ready, htransfer.state_eq, htransfer.lba_eq, htransfer.offset_eq⟩
  have hstore := leads_hdBufOut (r := { r with af := af, bc := word 0x80 (lo r.bc) }) (by omega)
    hcode.body hcode.hdWait hcode.hdErr hbuf hlen hsel hquiet (failed_started hstatus) herror
    (show InRange (MemoryMap.len c₁.mmap) L from hmmap'.symm ▸ hin)
  refine hstore.conseq (fun s hs => hs) ?_
  rintro s ⟨c', af', htook, ⟨hcarry, hreport⟩, hs⟩
  obtain ⟨hflush, hfailed, hcode'⟩ := htook.flushed hlen
  have hsize : MemoryMap.len c'.mmap = MemoryMap.len c₁.mmap := htook.len_eq
  have hbytes : MemoryMap.byte c'.mmap = overlay (MemoryMap.byte c₁.mmap) (L * SECTOR_SIZE) bytes :=
    htook.byte_eq
  rw [show (quiet c₁).mmap = c.mmap from hmmap'] at hflush hfailed hcode'
  rw [hmmap'] at hsize hbytes
  rw [lo_word] at hs
  refine ⟨c', af', ⟨htook.transfer.ready, hflush, hsize, hbytes, hcarry.trans hfailed, ?_⟩, hs⟩
  intro hbad
  rw [hbad] at hfailed hcode'
  exact (hreport hfailed).trans hcode'

end

/-! ### The other routines -/

section

variable {M K : Type} [MemoryMap M] [Device K] {b : Board (CardBus M) K} {cards : CardBus M}
  {d : Drive} {c : Card M} {n : ℕ} {r : Regs} {org wait err : U16}

/-- **`Hd8Bit`**: the card moves bytes, and C is clear. -/
theorem leads_hd8Bit (hn : n ≤ 0xFFFC) (hcode : Kept (n + 2) r.sp b org (hd8Bit wait err))
    (hwait : Kept (n + 2) r.sp b wait hdWait) (herr : Kept (n + 2) r.sp b err (hdErr wait))
    (hsel : cards.registers.drive = d) (hwf : c.WellFormed) :
    Leads Board.loop (Near (n + 2) (atCode r org 0) (withCard b cards d c))
      (fun s => ∃ c' af, (c'.WellFormed ∧ c'.mmap = c.mmap ∧ c'.is8Bit = true ∧ carry af = false) ∧
        Near (n + 4) { r with
          pc := top b r.sp
          sp := r.sp + 2
          af := af
          bc := word 0x80 (lo r.bc) }
        (withCard b (cards.setRegisters (cards.registers.put 1 0x01)) d (quiet c')) s) := by
  have hwaited := leads_callWait (k := 0) (b := b) (by omega) hcode hwait rfl rfl rfl hsel hwf.ready
  refine hwaited.trans (Leads.exists_elim ?_)
  intro af₀
  let r₁ : Regs := { r with af := af₀, bc := word 0x80 (lo r.bc) }
  let r₂ : Regs := { r₁ with af := word 0x01 (lo r₁.af) }
  let r₃ : Regs := { r₂ with af := word 0xEF (lo r₂.af) }
  let cards₁ := cards.setRegisters (cards.registers.put 1 0x01)
  have hfeature : Leads Board.loop (Near (n + 2) (atCode r₁ org 3) (withCard b cards d (quiet c)))
      (Near (n + 2) (atCode r₂ org 5) (withCard b cards d (quiet c))) :=
    leads_loadA (k := 3) (kept_withHd hcode _) rfl rfl
  have hput : Leads Board.loop (Near (n + 2) (atCode r₂ org 5) (withCard b cards d (quiet c)))
      (Near (n + 2) (atCode r₂ org 7) (withCard b cards₁ d (quiet c))) :=
    leads_outRegister (k := 5) (j := 1) hcode rfl rfl (by decide : selection 0x21 = .hd)
      (hi_word _ _) rfl
  have hload : Leads Board.loop (Near (n + 2) (atCode r₂ org 7) (withCard b cards₁ d (quiet c)))
      (Near (n + 2) (atCode r₃ org 9) (withCard b cards₁ d (quiet c))) :=
    leads_loadA (k := 7) (kept_withHd hcode _) rfl rfl
  have hquiet : (quiet c).WellFormed := wellFormed_quiet hwf
  obtain ⟨c₁, hcmd, hmmap, hbits, hstatus⟩ : ∃ c₁,
      (quiet c).writeCommand cards₁.registers 0xEF = some c₁ ∧ c₁.mmap = c.mmap ∧
        c₁.is8Bit = true ∧ c₁.status = c.status &&& ~~~Status.ERR := by
    rw [Card.writeCommand_of_ready hquiet.ready]
    exact ⟨_, rfl, rfl, rfl, rfl⟩
  have hwf₁ : c₁.WellFormed := hquiet.writeCommand hcmd
  have hfine : failed c₁ = false := by
    rw [failed, hstatus, err_clear_err]
    rfl
  have hout : Leads Board.loop (Near (n + 2) (atCode r₃ org 9) (withCard b cards₁ d (quiet c)))
      (Near (n + 2) (atCode r₃ org 11) (withCard b cards₁ d c₁)) := by
    refine leads_outDisk (k := 9) hcode rfl rfl (by decide : selection 0x27 = .hd) ?_
    rw [show hi r₃.af = 0xEF from hi_word _ _]
    exact write_command (show cards₁.registers.drive = d from hsel) hcmd
  have hjump : Leads Board.loop (Near (n + 2) (atCode r₃ org 11) (withCard b cards₁ d c₁))
      (Near (n + 2) (atCode r₃ err 0) (withCard b cards₁ d c₁)) :=
    leads_jpNear (k := 11) (kept_withHd hcode _) rfl rfl rfl
  have hend := leads_hdErr (r := r₃) hn herr hwait (show cards₁.registers.drive = d from hsel)
    hwf₁.ready
  refine (((hfeature.trans hput).trans (hload.trans hout)).trans (hjump.trans hend)).conseq
    (fun s hs => hs) ?_
  rintro s ⟨af, ⟨hcarry, -⟩, hs⟩
  rw [lo_word] at hs
  exact ⟨c₁, af, ⟨hwf₁, hmmap, hbits, hcarry.trans hfine⟩, hs⟩

/-- The registers behind `HdLba`: sector HL, DE of drive 0. -/
def address (g : SharedRegisters) (hl de : U16) : SharedRegisters :=
  { g with
    sectorNumber := lo de
    cylinderLow := hi de
    cylinderHigh := lo hl
    driveHead := (hi hl &&& 0x0F) ||| 0xE0 }

theorem head_drive0 : ∀ v : U8, ((v &&& 0x0F) ||| 0xE0) &&& 0x10 = 0 ∧
    ((v &&& 0x0F) ||| 0xE0) &&& 0x40 ≠ 0 ∧ ((v &&& 0x0F) ||| 0xE0).toNat % 16 = v.toNat % 16 := by
  decide +kernel

/-- **The address**: drive 0, LBA mode, and 28 bits of HL and DE. -/
theorem address_spec (g : SharedRegisters) (hl de : U16) :
    (address g hl de).drive = .zero ∧ (address g hl de).lbaMode ∧
      (address g hl de).lba.toNat = de.toNat + 2 ^ 16 * (hl.toNat % 2 ^ 12) := by
  obtain ⟨hdrive, hmode, hhead⟩ := head_drive0 (hi hl)
  refine ⟨if_pos hdrive, hmode, ?_⟩
  rw [SharedRegisters.lba_toNat]
  show (lo de).toNat + 2 ^ 8 * (hi de).toNat + 2 ^ 16 * (lo hl).toNat +
    2 ^ 24 * (((hi hl &&& 0x0F) ||| 0xE0).toNat % 16) = _
  rw [hhead, lo_toNat, hi_toNat, lo_toNat, hi_toNat]
  omega

/-- `ld a, reg`, `out (p), a`, for a register of the disk -/
theorem leads_pass {code : List U8} {k j : ℕ} {op p : U8} (reg : Register)
    (hcode : Kept n r.sp b org code) (hk : code[k]? = some op)
    (hop : doOpcodeTable op = .run (.copyRegister .A reg)) (hreg : registerPlain reg = true)
    (hout : code[k + 1]? = some 0xD3) (hp : code[k + 2]? = some p)
    (hsel : selection (p.setWidth 16) = .hd)
    (haccess : ∀ data, (PortOp.write (p.setWidth 16) data).access = .writeRegister j data) :
    Leads Board.loop (Near n (atCode r org k) (withCard b cards d c))
      (Near n { atCode r org (k + 3) with af := word (r.cpu.register reg) (lo r.af) }
        (withCard b (cards.setRegisters (cards.registers.put j (r.cpu.register reg))) d c)) := by
  let v := r.cpu.register reg
  let r₁ : Regs := { r with af := word v (lo r.af) }
  have hload : Leads Board.loop (Near n (atCode r org k) (withCard b cards d c))
      (Near n (atCode r₁ org (k + 1)) (withCard b cards d c)) := by
    refine leads_still rfl ?_
    intro b' hb'
    have hplain : plain (.copyRegister .A reg) = true := by simpa [plain, registerPlain] using hreg
    have hone :=
      leads_one (b := b') (r := r) ((kept_withHd hcode _).same hb').holds hk hop hplain rfl
    have hregs : ((atCode r org (k + 1)).cpu.exec (⟨some b'⟩ : OnBoard (CardBus M) K)
        (.copyRegister .A reg)).cpu.regs = atCode r₁ org (k + 1) := by
      cases reg with
      | A | B | C | D | E | H | L => rfl
      | _ => cases hreg
    rw [hregs] at hone
    exact hone
  have hstore : Leads Board.loop (Near n (atCode r₁ org (k + 1)) (withCard b cards d c))
      (Near n (atCode r₁ org (k + 3)) (withCard b (cards.setRegisters (cards.registers.put j v)) d
        c)) :=
    leads_outRegister hcode hout hp hsel (hi_word _ _) (haccess v)
  exact hload.trans hstore

/-- **`HdLba`** selects a sector of drive 0. -/
theorem leads_hdLba (cards : CardBus M) (hn : n ≤ 0xFFFE) (hcode : Kept n r.sp b org hdLba) :
    Leads Board.loop (Near n (atCode r org 0) (withCard b cards d c))
      (fun s => ∃ af, Near (n + 2) { r with
        pc := top b r.sp
        sp := r.sp + 2
        af := af }
          (withCard b (cards.setRegisters (address cards.registers r.hl r.de)) d c) s) := by
  let v := (hi r.hl &&& 0x0F) ||| 0xE0
  let r₁ : Regs := { r with af := word (lo r.de) (lo r.af) }
  let r₂ : Regs := { r₁ with af := word (hi r.de) (lo r₁.af) }
  let r₃ : Regs := { r₂ with af := word (lo r.hl) (lo r₂.af) }
  let g₁ := cards.registers.put 3 (lo r.de)
  let g₂ := g₁.put 4 (hi r.de)
  let g₃ := g₂.put 5 (lo r.hl)
  have hnum : Leads Board.loop (Near n (atCode r org 0) (withCard b cards d c))
      (Near n (atCode r₁ org 3) (withCard b (cards.setRegisters g₁) d c)) :=
    leads_pass .E (k := 0) hcode rfl rfl rfl rfl rfl (by decide : selection 0x23 = .hd)
      fun _ => rfl
  have hlow : Leads Board.loop (Near n (atCode r₁ org 3) (withCard b (cards.setRegisters g₁) d c))
      (Near n (atCode r₂ org 6) (withCard b (cards.setRegisters g₂) d c)) :=
    leads_pass .D (r := r₁) (k := 3) hcode rfl rfl rfl rfl rfl
      (by decide : selection 0x24 = .hd) fun _ => rfl
  have hhigh : Leads Board.loop (Near n (atCode r₂ org 6) (withCard b (cards.setRegisters g₂) d c))
      (Near n (atCode r₃ org 9) (withCard b (cards.setRegisters g₃) d c)) :=
    leads_pass .L (r := r₂) (k := 6) hcode rfl rfl rfl rfl rfl
      (by decide : selection 0x25 = .hd) fun _ => rfl
  let r₄ : Regs := { r₃ with af := word (hi r.hl) (lo r₃.af) }
  let r₅ : Regs := { r₄ with af := Arith.af .and (hi r.hl) 0x0F (r₄.cpu.flag .C) }
  let r₆ : Regs := { r₅ with af := Arith.af .or (hi r.hl &&& 0x0F) 0xE0 (r₅.cpu.flag .C) }
  let b₃ := withCard b (cards.setRegisters g₃) d c
  have hkept : Kept n r.sp b₃ org hdLba := kept_withHd hcode _
  have hload : Leads Board.loop (Near n (atCode r₃ org 9) b₃) (Near n (atCode r₄ org 10) b₃) := by
    refine leads_still rfl ?_
    intro b' hb'
    exact leads_one (r := r₃) (k := 9) (i := .copyRegister .A .H) (hkept.same hb').holds rfl rfl
      rfl rfl
  have hand : Leads Board.loop (Near n (atCode r₄ org 10) b₃) (Near n (atCode r₅ org 12) b₃) := by
    refine leads_still rfl ?_
    intro b' hb'
    have hbase := leads_baseImmediate (r := r₄) (k := 10) .and (hkept.same hb').holds rfl rfl rfl
      rfl fun c bus => ⟨rfl, rfl⟩
    rw [show hi r₄.af = hi r.hl from hi_word _ _] at hbase
    exact hbase
  have hor : Leads Board.loop (Near n (atCode r₅ org 12) b₃) (Near n (atCode r₆ org 14) b₃) := by
    refine leads_still rfl ?_
    intro b' hb'
    have hbase := leads_baseImmediate (r := r₅) (k := 12) .or (hkept.same hb').holds rfl rfl rfl rfl
      fun c bus => ⟨rfl, rfl⟩
    rw [show hi r₅.af = hi r.hl &&& 0x0F from hi_word _ _] at hbase
    exact hbase
  have hhead : Leads Board.loop (Near n (atCode r₆ org 14) b₃) (Near n (atCode r₆ org 16)
      (withCard b (cards.setRegisters (address cards.registers r.hl r.de)) d c)) :=
    leads_outRegister (k := 14) (j := 6) hcode rfl rfl
      (by decide : selection 0x26 = .hd) (hi_word _ _) rfl
  have hret := leads_retNear (r := r₆) (k := 16) (b := withCard b
    (cards.setRegisters (address cards.registers r.hl r.de)) d c) hn (kept_withHd hcode _) rfl
  refine ((((hnum.trans hlow).trans hhigh).trans ((hload.trans hand).trans hor)).trans
    (hhead.trans hret)).conseq (fun s hs => hs) ?_
  intro s hs
  exact ⟨r₆.af, hs⟩

end

end Possum.Software
