import Possum.Software.Print
import Possum.Software.Disk
import Possum.Ata.Sectors

/-!
# `hello_hd.az8`

The assembled program: it asks the disk for its name, prints it, reads sector 0, writes it back with
a message at its start, and waits for a `q`.  It is followed from the first byte of the ROM to the
end of the loop of `main`, for every image of a sector or more (**`main_hello_hd`**).

Between two of its parts the program is described by the address it has reached and by what it works
on: the disk, the keyboard and the sector buffer (`Reached`).
-/

set_option autoImplicit false

namespace Possum.Software

open Lib Sys Ata Ata.CardBus

/-! ### The ROM -/

def errAt : U16 := 0x0092
def exitAt : U16 := 0x00A1
def hd8BitAt : U16 := 0x00AA
def hdIdentAt : U16 := 0x00B8
def hdReadAt : U16 := 0x00C6
def hdWriteAt : U16 := 0x00D4
def hdLbaAt : U16 := 0x00E2
def hdBufInAt : U16 := 0x00F3
def hdBufOutAt : U16 := 0x0109
def hdErrAt : U16 := 0x011F
def hdWaitAt : U16 := 0x012B
def kbWriteXAt : U16 := 0x0133
def kbWriteCAt : U16 := 0x0147
def kbWriteAt : U16 := 0x014A
def kbWriteLnAt : U16 := 0x0151
def helloMsgAt : U16 := 0x015D
def modelMsgAt : U16 := 0x0183
def serialMsgAt : U16 := 0x018F
def sizeMsgAt : U16 := 0x0199
def errMsgAt : U16 := 0x01A4
def sectorBuf : U16 := 0x01B0

/-- `"Hello! Successfully wrote to the disk!"` -/
def helloMsg : List U8 :=
  ascii ['H', 'e', 'l', 'l', 'o', '!', ' ', 'S', 'u', 'c', 'c', 'e', 's', 's', 'f', 'u', 'l', 'l',
    'y', ' ', 'w', 'r', 'o', 't', 'e', ' ', 't', 'o', ' ', 't', 'h', 'e', ' ', 'd', 'i', 's', 'k',
    '!']

/-- `"Model Name:\t"` -/
def modelMsg : List U8 := ascii ['M', 'o', 'd', 'e', 'l', ' ', 'N', 'a', 'm', 'e', ':', '\t']

/-- `"Serial #:\t"` -/
def serialMsg : List U8 := ascii ['S', 'e', 'r', 'i', 'a', 'l', ' ', '#', ':', '\t']

/-- `"Disk Size:\t"` -/
def sizeMsg : List U8 := ascii ['D', 'i', 's', 'k', ' ', 'S', 'i', 'z', 'e', ':', '\t']

/-- `"Disk error:\t"` -/
def errMsg : List U8 := ascii ['D', 'i', 's', 'k', ' ', 'e', 'r', 'r', 'o', 'r', ':', '\t']

/-- `call entry`, `call c, Err` -/
def callOrErr (entry : U16) : List U8 := [0xCD, lo entry, hi entry, 0xDC, lo errAt, hi errAt]

/-- `ld hl, msg`, `ld b, len`, `call entry` -/
def say (msg : U16) (len : ℕ) (entry : U16) : List U8 :=
  [0x21, lo msg, hi msg, 0x06, BitVec.ofNat 8 len, 0xCD, lo entry, hi entry]

/-- `ld a, v`, `call KbWriteC` -/
def sayChar (v : U8) : List U8 := [0x3E, v, 0xCD, lo kbWriteCAt, hi kbWriteCAt]

/-- `ld de, SECTOR_BUF + HDIdent.size + 3`, `ld a, (de)`, `call KbWriteX`, and three times `dec de`,
`ld a, (de)`, `call KbWriteX` -/
def saySize : List U8 :=
  [0x11, lo (sectorBuf + 17), hi (sectorBuf + 17),
    0x1A, 0xCD, lo kbWriteXAt, hi kbWriteXAt,
    0x1B, 0x1A, 0xCD, lo kbWriteXAt, hi kbWriteXAt,
    0x1B, 0x1A, 0xCD, lo kbWriteXAt, hi kbWriteXAt,
    0x1B, 0x1A, 0xCD, lo kbWriteXAt, hi kbWriteXAt]

/-- `ld de, $0000`, `ld hl, $0000`, `call HdLba`, `call entry`, `jr c, Err` -/
def sectorZero (entry : U16) (jump : U8) : List U8 :=
  [0x11, 0x00, 0x00, 0x21, 0x00, 0x00, 0xCD, lo hdLbaAt, hi hdLbaAt, 0xCD, lo entry, hi entry,
    0x38, jump]

/-- `.cpy`: `ld a, (hl)`, `ex de, hl`, `ld (hl), a`, `ex de, hl`, `inc hl`, `inc de`, `djnz .cpy` -/
def copyLoop : List U8 := [0x7E, 0xEB, 0x77, 0xEB, 0x23, 0x13, 0x10, 0xF8]

/-- `ld hl, HELLO_MSG`, `ld de, SECTOR_BUF`, `ld b, HELLO_MSG.len`, and the loop -/
def copyHello : List U8 :=
  [0x21, lo helloMsgAt, hi helloMsgAt, 0x11, lo sectorBuf, hi sectorBuf, 0x06, 0x26] ++ copyLoop

/-- `Start` -/
def helloHdStart : List U8 :=
  [0x31, 0xFF, 0xFF] ++ callOrErr hd8BitAt ++ callOrErr hdIdentAt ++
    say modelMsgAt 12 kbWriteAt ++ say (sectorBuf + 0x36) 40 kbWriteLnAt ++
    say serialMsgAt 10 kbWriteAt ++ say (sectorBuf + 0x14) 20 kbWriteLnAt ++
    say sizeMsgAt 11 kbWriteAt ++ sayChar 0x24 ++ saySize ++ sayChar 0x0D ++ sayChar 0x0A ++
    sectorZero hdReadAt 0x28 ++ copyHello ++ sectorZero hdWriteAt 0x0A ++
    say helloMsgAt 38 kbWriteLnAt ++ [0x18, 0x0F]

/-- `push af`, `ld hl, HD_MSG_ERR`, `ld b, HD_MSG_ERR.len`, `call KbWrite`, `ld a, '$'`, `pop af`,
`call KbWriteX` -/
def helloHdErr : List U8 :=
  [0xF5] ++ say errMsgAt 12 kbWriteAt ++ [0x3E, 0x24, 0xF1, 0xCD, lo kbWriteXAt, hi kbWriteXAt]

/-- `in a, (KB_PORT)`, `set 5, a`, `cp 'q'`, `jr nz, Exit`, `halt` -/
def helloHdExit : List U8 := [0xDB, 0x02, 0xCB, 0xEF, 0xFE, 0x71, 0x20, 0xF8, 0x76]

/-- The program, up to `SECTOR_BUF`. -/
def helloHdRom : List U8 :=
  helloHdStart ++ helloHdErr ++ helloHdExit ++ hd8Bit hdWaitAt hdErrAt ++
    hdCommand 0xEC hdWaitAt hdErrAt hdBufInAt ++ hdCommand 0x20 hdWaitAt hdErrAt hdBufInAt ++
    hdCommand 0x30 hdWaitAt hdErrAt hdBufOutAt ++ hdLba ++
    hdBufIn hdWaitAt hdErrAt sectorBuf hdBufInAt ++
    hdBufOut hdWaitAt hdErrAt sectorBuf hdBufOutAt ++ hdErr hdWaitAt ++ hdWait ++
    kbWriteX kbWriteXAt ++ kbWriteC ++ kbWrite ++ kbWriteLn kbWriteAt ++ helloMsg ++ modelMsg ++ serialMsg ++ sizeMsg ++ errMsg

theorem length_helloHdRom : helloHdRom.length = 0x1B0 := by decide +kernel

/-- A part of the program, and its address. -/
def PartAt (a : U16) (part : List U8) : Prop := (helloHdRom.drop a.toNat).take part.length = part

/-- Where the assembler has put what. -/
structure Layout : Prop where
  start : PartAt 0x00 [0x31, 0xFF, 0xFF]
  callHd8Bit : PartAt 0x03 (callOrErr hd8BitAt)
  callHdIdent : PartAt 0x09 (callOrErr hdIdentAt)
  sayModel : PartAt 0x0F (say modelMsgAt modelMsg.length kbWriteAt)
  sayModelName : PartAt 0x17 (say (sectorBuf + 0x36) modelNumber.length kbWriteLnAt)
  saySerial : PartAt 0x1F (say serialMsgAt serialMsg.length kbWriteAt)
  saySerialNumber : PartAt 0x27 (say (sectorBuf + 0x14) serialNumber.length kbWriteLnAt)
  sayDiskSize : PartAt 0x2F (say sizeMsgAt sizeMsg.length kbWriteAt)
  sayDollar : PartAt 0x37 (sayChar 0x24)
  saySectors : PartAt 0x3C saySize
  sayReturn : PartAt 0x52 (sayChar 0x0D)
  sayFeed : PartAt 0x57 (sayChar 0x0A)
  readZero : PartAt 0x5C (sectorZero hdReadAt 0x28)
  copy : PartAt 0x6A copyHello
  copyLoop : PartAt 0x72 copyLoop
  writeZero : PartAt 0x7A (sectorZero hdWriteAt 0x0A)
  sayHello : PartAt 0x88 (say helloMsgAt helloMsg.length kbWriteLnAt)
  skipErr : PartAt 0x90 [0x18, 0x0F]
  err : PartAt errAt helloHdErr
  sayErr : PartAt 0x93 (say errMsgAt 12 kbWriteAt)
  exit : PartAt exitAt helloHdExit
  hd8Bit : PartAt hd8BitAt (hd8Bit hdWaitAt hdErrAt)
  hdIdent : PartAt hdIdentAt (hdCommand 0xEC hdWaitAt hdErrAt hdBufInAt)
  hdRead : PartAt hdReadAt (hdCommand 0x20 hdWaitAt hdErrAt hdBufInAt)
  hdWrite : PartAt hdWriteAt (hdCommand 0x30 hdWaitAt hdErrAt hdBufOutAt)
  hdLba : PartAt hdLbaAt hdLba
  hdBufIn : PartAt hdBufInAt (hdBufIn hdWaitAt hdErrAt sectorBuf hdBufInAt)
  hdBufOut : PartAt hdBufOutAt (hdBufOut hdWaitAt hdErrAt sectorBuf hdBufOutAt)
  hdErr : PartAt hdErrAt (hdErr hdWaitAt)
  hdWait : PartAt hdWaitAt hdWait
  kbWriteX : PartAt kbWriteXAt (kbWriteX kbWriteXAt)
  kbWriteC : PartAt kbWriteCAt kbWriteC
  kbWrite : PartAt kbWriteAt kbWrite
  kbWriteLn : PartAt kbWriteLnAt (kbWriteLn kbWriteAt)
  helloMsg : PartAt helloMsgAt helloMsg
  modelMsg : PartAt modelMsgAt modelMsg
  serialMsg : PartAt serialMsgAt serialMsg
  sizeMsg : PartAt sizeMsgAt sizeMsg
  errMsg : PartAt errMsgAt errMsg

theorem layout : Layout := by
  constructor <;> rfl

/-! ### Between two parts -/

/-- Memory far below the stack. -/
theorem clear_low {a : U16} (h : a.toNat < 0xFFF0) : ¬ Below 6 0xFFFF a := by
  unfold Below
  bv_omega

theorem toNat_pcAt {org : U16} {k : ℕ} (h : org.toNat + k < 0x10000) :
    (pcAt org k).toNat = org.toNat + k := by
  rw [pcAt, BitVec.toNat_add, BitVec.toNat_ofNat]
  omega

/-- Code before the sector buffer. -/
theorem apart_sectorBuf {org : U16} {code : List U8} (h : org.toNat + code.length ≤ 0x1B0) :
    Apart sectorBuf org code := by
  intro j hj k hk heq
  rw [SECTOR_SIZE_eq] at hk
  have hcode : (pcAt org j).toNat = org.toNat + j := toNat_pcAt (by omega)
  have hbuf : (pcAt sectorBuf k).toNat = 0x1B0 + k := toNat_pcAt (show 0x1B0 + k < 0x10000 by omega)
  rw [heq, hbuf] at hcode
  omega

section

variable {M K : Type} {cards cards' : CardBus M} {c c' : Card M} {kb kb' : K} {buf bytes : List U8}
  {b : Board (CardBus M) K} {s : Cpu × Board (CardBus M) K} {a : U16}

/-- A board with the program, a card in drive 0, a keyboard and a sector buffer. -/
structure Loaded (cards : CardBus M) (c : Card M) (kb : K) (buf : List U8)
    (b : Board (CardBus M) K) : Prop where
  rom : Kept 6 0xFFFF b 0 helloHdRom
  hd : b.hd = some (cards.setCard c .zero)
  kb : b.kb = kb
  buf : Kept 6 0xFFFF b sectorBuf buf

/-- A part of the program. -/
theorem Loaded.code {part : List U8} (h : Loaded cards c kb buf b)
    (hpart : PartAt a part) : Kept 6 0xFFFF b a part := by
  have haddr : pcAt 0 a.toNat = a := by
    rw [pcAt, BitVec.ofNat_toNat, BitVec.setWidth_eq]
    exact BitVec.zero_add a
  rw [← haddr]
  exact h.rom.slice hpart

/-- A command of the program. -/
theorem Loaded.command {org next : U16} {cmd : U8} {body : List U8} (h : Loaded cards c kb buf b)
    (hcmd : PartAt org (hdCommand cmd hdWaitAt hdErrAt next)) (hbody : PartAt next body) :
    CommandCode 6 0xFFFF b cmd org hdWaitAt hdErrAt next body :=
  ⟨h.code hcmd, h.code hbody, h.code layout.hdWait, h.code layout.hdErr⟩

theorem Loaded.withCard_eq (h : Loaded cards c kb buf b) : withCard b cards .zero c = b := by
  rw [withCard, ← h.hd]

theorem Loaded.withCard (h : Loaded cards c kb buf b) (cards' : CardBus M) (c' : Card M) :
    Loaded cards' c' kb buf (withCard b cards' .zero c') :=
  ⟨kept_withHd h.rom _, rfl, h.kb, kept_withHd h.buf _⟩

theorem Loaded.withKb (h : Loaded cards c kb buf b) (kb' : K) :
    Loaded cards c kb' buf { b with kb := kb' } :=
  ⟨kept_withKb h.rom _, h.hd, rfl, kept_withKb h.buf _⟩

/-- Bytes for the sector buffer. -/
theorem Loaded.fill (h : Loaded cards c kb buf b) (hlen : bytes.length ≤ SECTOR_SIZE) :
    Loaded cards c kb bytes (Software.fill b sectorBuf bytes) := by
  have hrom : Apart sectorBuf 0 helloHdRom := apart_sectorBuf (by
    rw [length_helloHdRom]
    decide)
  have hless : bytes.length ≤ 512 := SECTOR_SIZE_eq ▸ hlen
  refine ⟨h.rom.fill fun j hj k hk => hrom j hj k (by omega), ?_, ?_,
    code_fill b sectorBuf (by omega), ?_⟩
  · rw [hd_fill]
    exact h.hd
  · rw [kb_fill]
    exact h.kb
  · intro k hk
    have haddr : (pcAt sectorBuf k).toNat = 0x1B0 + k :=
      toNat_pcAt (show 0x1B0 + k < 0x10000 by omega)
    exact clear_low (by omega)

/-- The program has reached `a`. -/
def Reached (a : U16) (cards : CardBus M) (c : Card M) (kb : K) (buf : List U8)
    (s : Cpu × Board (CardBus M) K) : Prop :=
  ∃ (r : Regs) (b : Board (CardBus M) K), Loaded cards c kb buf b ∧
    Near 6 (atCode { r with sp := 0xFFFF } a 0) b s

theorem reached_of_near {q : Regs} (hpc : q.pc = a) (hsp : q.sp = 0xFFFF)
    (hload : Loaded cards c kb buf b) (hs : Near 6 q b s) : Reached a cards c kb buf s := by
  obtain ⟨pc, sp, af, bc, de, hl⟩ := q
  cases hpc
  cases hsp
  have haddr : pcAt pc 0 = pc := BitVec.add_zero pc
  refine ⟨{ af := af, bc := bc, de := de, hl := hl }, b, hload, ?_⟩
  rw [atCode, haddr]
  exact hs

variable [MemoryMap M] [Device K]

theorem leads_reached {Q : Cpu × Board (CardBus M) K → Prop}
    (h : ∀ (r : Regs) b, Loaded cards c kb buf b →
      Leads Board.loop (Near 6 (atCode { r with sp := 0xFFFF } a 0) b) Q) :
    Leads Board.loop (Reached a cards c kb buf) Q := by
  rintro s ⟨r, b, hload, hs⟩
  exact h r b hload s hs

/-! ### Printing -/

/-- `ld hl, msg`, `ld b, len` -/
theorem leads_sayArgs {n : ℕ} {r : Regs} {m entry : U16} {len : ℕ}
    (hcode : Kept n r.sp b a (say m len entry)) :
    Leads Board.loop (Near n (atCode r a 0) b)
      (Near n (atCode { r with hl := m, bc := word (BitVec.ofNat 8 len) (lo r.bc) } a 5) b) := by
  have haddr : Leads Board.loop (Near n (atCode r a 0) b)
      (Near n (atCode { r with hl := m } a 3) b) := by
    refine leads_still rfl ?_
    intro b' hb'
    have hld := leads_ldWide (r := r) (k := 0) (hcode.same hb').holds rfl rfl rfl rfl rfl
    rw [word_hi_lo] at hld
    exact hld
  have hlen : Leads Board.loop (Near n (atCode { r with hl := m } a 3) b)
      (Near n (atCode { r with hl := m, bc := word (BitVec.ofNat 8 len) (lo r.bc) } a 5) b) := by
    refine leads_still rfl ?_
    intro b' hb'
    exact leads_ld (k := 3) (hcode.same hb').holds rfl rfl rfl rfl
  exact haddr.trans hlen

variable {m : U16} {msg : List U8}

/-- A message by `KbWrite`. -/
theorem reached_say (hcode : PartAt a (say m msg.length kbWriteAt))
    (hmsg : ∀ b, Loaded cards c kb buf b → Kept 6 0xFFFF b m msg) (hpos : 0 < msg.length)
    (hlen : msg.length ≤ 256) (htypes : types kb msg = some kb') :
    Leads Board.loop (Reached a cards c kb buf) (Reached (pcAt a 8) cards c kb' buf) := by
  apply leads_reached
  intro r b hload
  have hkept : Kept 6 0xFFFF b a (say m msg.length kbWriteAt) := hload.code hcode
  let q : Regs := { r with sp := 0xFFFF, hl := m, bc := word (BitVec.ofNat 8 msg.length) (lo r.bc) }
  have hwrite : Kept 6 0xFFFF b kbWriteAt kbWrite := hload.code layout.kbWrite
  have hcall := leads_callPrint (r := q) (k := 5) hkept rfl rfl rfl
    (leads_kbWriteBack (r := { q with sp := q.sp - 2 }) (by decide) (hwrite.nested _)
      ((hmsg b hload).nested _) hpos hlen (hi_word _ _) (hload.kb.symm ▸ htypes))
  refine ((leads_sayArgs hkept).trans hcall).conseq (fun s hs => hs) ?_
  rintro s ⟨q', hpc, hsp, -, hs⟩
  exact reached_of_near hpc hsp (hload.withKb kb') hs

/-- A line by `KbWriteLn`. -/
theorem reached_sayLn (hcode : PartAt a (say m msg.length kbWriteLnAt))
    (hmsg : ∀ b, Loaded cards c kb buf b → Kept 6 0xFFFF b m msg) (hpos : 0 < msg.length)
    (hlen : msg.length ≤ 256) (htypes : types kb (msg ++ [0x0D, 0x0A]) = some kb') :
    Leads Board.loop (Reached a cards c kb buf) (Reached (pcAt a 8) cards c kb' buf) := by
  apply leads_reached
  intro r b hload
  have hkept : Kept 6 0xFFFF b a (say m msg.length kbWriteLnAt) := hload.code hcode
  let q : Regs := { r with sp := 0xFFFF, hl := m, bc := word (BitVec.ofNat 8 msg.length) (lo r.bc) }
  have hwrite : Kept 6 0xFFFF b kbWriteAt kbWrite := hload.code layout.kbWrite
  have hline : Kept 6 0xFFFF b kbWriteLnAt (kbWriteLn kbWriteAt) := hload.code layout.kbWriteLn
  have hcall := leads_callPrint (r := q) (k := 5) hkept rfl rfl rfl
    (leads_kbWriteLn (n := 2) (r := { q with sp := q.sp - 2 }) (by decide) (hline.nested _)
      (hwrite.nested _) ((hmsg b hload).nested _) hpos hlen (hi_word _ _) (hload.kb.symm ▸ htypes))
  refine ((leads_sayArgs hkept).trans hcall).conseq (fun s hs => hs) ?_
  rintro s ⟨q', hpc, hsp, -, hs⟩
  exact reached_of_near hpc hsp (hload.withKb kb') hs

/-- A byte by `KbWriteC`. -/
theorem reached_sayChar {v : U8} (hcode : PartAt a (sayChar v))
    (htypes : types kb [v] = some kb') :
    Leads Board.loop (Reached a cards c kb buf) (Reached (pcAt a 5) cards c kb' buf) := by
  apply leads_reached
  intro r b hload
  have hkept : Kept 6 0xFFFF b a (sayChar v) := hload.code hcode
  let q : Regs := { r with sp := 0xFFFF, af := word v (lo r.af) }
  have hwrite : Kept 6 0xFFFF b kbWriteCAt kbWriteC := hload.code layout.kbWriteC
  have hload' : Leads Board.loop (Near 6 (atCode { r with sp := 0xFFFF } a 0) b)
      (Near 6 (atCode q a 2) b) := leads_loadA (k := 0) hkept rfl rfl
  have hbyte : types b.kb [hi q.af] = some kb' := by
    rw [hi_word, hload.kb]
    exact htypes
  have hcall := leads_callPrint (r := q) (k := 2) hkept rfl rfl rfl
    (leads_kbWriteC (r := { q with sp := q.sp - 2 }) (by decide) (hwrite.nested _) hbyte)
  refine (hload'.trans hcall).conseq (fun s hs => hs) ?_
  rintro s ⟨q', hpc, hsp, -, hs⟩
  exact reached_of_near hpc hsp (hload.withKb kb') hs

end

/-! ### The size of the disk -/

section

variable {M K : Type} [MemoryMap M] [Device K] {cards : CardBus M} {c : Card M} {kb kb' : K}
  {buf : List U8} {b : Board (CardBus M) K} {a de : U16} {k : ℕ} {v : U8}

/-- `ld a, (de)`, `call KbWriteX` -/
theorem leads_digits (hcode : Kept 6 0xFFFF b a saySize) (hload : saySize[k]? = some 0x1A)
    (hcall : saySize[k + 1]? = some 0xCD) (hlo : saySize[k + 2]? = some (lo kbWriteXAt))
    (hhi : saySize[k + 3]? = some (hi kbWriteXAt))
    (hwrite : Kept 6 0xFFFF b kbWriteXAt (kbWriteX kbWriteXAt)) (hv : Kept 6 0xFFFF b de [v])
    (htypes : types b.kb (hexByte v) = some kb') :
    Leads Board.loop (Back 6 { pc := pcAt a k, sp := 0xFFFF, de := de } b)
      (Back 6 { pc := pcAt a (k + 4), sp := 0xFFFF, de := de } { b with kb := kb' }) := by
  apply leads_back
  intro af bc hl
  let q : Regs := { sp := 0xFFFF, af := af, bc := bc, de := de, hl := hl }
  let q₁ : Regs := { q with af := word v (lo af) }
  have hbyte : Leads Board.loop (Near 6 (atCode q a k) b) (Near 6 (atCode q₁ a (k + 1)) b) := by
    refine leads_still rfl ?_
    intro b' hb'
    have haddr : pcAt de 0 = de := BitVec.add_zero de
    have hget : b'.byte de = v := by
      have h := (hv.same hb').holds.byte (k := 0) rfl
      rw [haddr] at h
      exact h
    have hone := leads_one (r := q) (b := b') (i := .readIndirectWz .A .DE) (hcode.same hb').holds
      hload rfl rfl rfl
    have hregs : ((atCode q a (k + 1)).cpu.exec (⟨some b'⟩ : OnBoard (CardBus M) K)
        (.readIndirectWz .A .DE)).cpu.regs =
          { atCode q a (k + 1) with af := word (b'.byte de) (lo af) } := rfl
    rw [hregs, hget] at hone
    exact hone
  have hprint := leads_callPrint (r := q₁) (k := k + 1) hcode hcall hlo hhi
    (leads_kbWriteXBack (n := 2) (r := { q₁ with sp := q₁.sp - 2 }) (by decide)
      (hwrite.nested _) (by
      rw [hi_word]
      exact htypes))
  refine (hbyte.trans hprint).conseq (fun s hs => hs) ?_
  rintro s ⟨q', hpc, hsp, hde, hs⟩
  exact ⟨q', hpc, hsp, hde, hs⟩

/-- `dec de` -/
theorem leads_before (hcode : Kept 6 0xFFFF b a saySize) (hk : saySize[k]? = some 0x1B) :
    Leads Board.loop (Back 6 { pc := pcAt a k, sp := 0xFFFF, de := de } b)
      (Back 6 { pc := pcAt a (k + 1), sp := 0xFFFF, de := de - 1 } b) := by
  apply leads_back
  intro af bc hl
  let q : Regs := { sp := 0xFFFF, af := af, bc := bc, de := de, hl := hl }
  have hdec : Leads Board.loop (Near 6 (atCode q a k) b)
      (Near 6 (atCode { q with de := de - 1 } a (k + 1)) b) := by
    refine leads_still rfl ?_
    intro b' hb'
    exact leads_one (r := q) (i := .decWide .DE) (hcode.same hb').holds hk rfl rfl rfl
  refine hdec.conseq (fun s hs => hs) ?_
  intro s hs
  exact ⟨{ q with pc := pcAt a (k + 1), de := de - 1 }, rfl, rfl, rfl, hs⟩

/-- **The number of sectors**, in eight digits. -/
theorem reached_saySize {x y z w : U8} (hcode : PartAt a saySize)
    (hsize : (buf.drop 14).take 4 = [x, y, z, w])
    (htypes : types kb ([w, z, y, x].flatMap hexByte) = some kb') :
    Leads Board.loop (Reached a cards c kb buf) (Reached (pcAt a 22) cards c kb' buf) := by
  apply leads_reached
  intro r b hload
  have hkept : Kept 6 0xFFFF b a saySize := hload.code hcode
  have hwrite : Kept 6 0xFFFF b kbWriteXAt (kbWriteX kbWriteXAt) := hload.code layout.kbWriteX
  have hbytes : Kept 6 0xFFFF b (pcAt sectorBuf 14) [x, y, z, w] := hload.buf.slice hsize
  have hlines : types b.kb (hexByte w ++ (hexByte z ++ (hexByte y ++ hexByte x))) = some kb' :=
    hload.kb.symm ▸ htypes
  rw [types_append] at hlines
  obtain ⟨kb₁, hw, hlines⟩ := Option.bind_eq_some_iff.1 hlines
  rw [types_append] at hlines
  obtain ⟨kb₂, hz, hlines⟩ := Option.bind_eq_some_iff.1 hlines
  rw [types_append] at hlines
  obtain ⟨kb₃, hy, hx⟩ := Option.bind_eq_some_iff.1 hlines
  have hstart : Leads Board.loop (Near 6 (atCode { r with sp := 0xFFFF } a 0) b)
      (Back 6 { pc := pcAt a 3, sp := 0xFFFF, de := sectorBuf + 17 } b) := by
    have hld : Leads Board.loop (Near 6 (atCode { r with sp := 0xFFFF } a 0) b)
        (Near 6 (atCode { r with sp := 0xFFFF, de := sectorBuf + 17 } a 3) b) := by
      refine leads_still rfl ?_
      intro b' hb'
      exact leads_ldWide (k := 0) (hkept.same hb').holds rfl rfl rfl rfl rfl
    refine hld.conseq (fun s hs => hs) ?_
    intro s hs
    exact ⟨{ r with pc := pcAt a 3, sp := 0xFFFF, de := sectorBuf + 17 }, rfl, rfl, rfl, hs⟩
  -- From the last byte to the first one.
  let on := fun (k : ℕ) (de : U16) (kb : K) =>
    Back 6 { pc := pcAt a k, sp := 0xFFFF, de := de } { b with kb := kb }
  have hfirst : Leads Board.loop (on 3 (sectorBuf + 17) b.kb) (on 7 (sectorBuf + 17) kb₁) :=
    leads_digits (k := 3) hkept rfl rfl rfl rfl hwrite (hbytes.slice (a := 3) rfl) hw
  have hsecond : Leads Board.loop (on 7 (sectorBuf + 17) kb₁) (on 12 (sectorBuf + 16) kb₂) :=
    (leads_before (k := 7) (kept_withKb hkept kb₁) rfl).trans (leads_digits (k := 8)
      (kept_withKb hkept kb₁) rfl rfl rfl rfl (kept_withKb hwrite kb₁)
      (kept_withKb (hbytes.slice (a := 2) rfl) kb₁) hz)
  have hthird : Leads Board.loop (on 12 (sectorBuf + 16) kb₂) (on 17 (sectorBuf + 15) kb₃) :=
    (leads_before (k := 12) (kept_withKb hkept kb₂) rfl).trans (leads_digits (k := 13)
      (kept_withKb hkept kb₂) rfl rfl rfl rfl (kept_withKb hwrite kb₂)
      (kept_withKb (hbytes.slice (a := 1) rfl) kb₂) hy)
  have hlast : Leads Board.loop (on 17 (sectorBuf + 15) kb₃) (on 22 (sectorBuf + 14) kb') :=
    (leads_before (k := 17) (kept_withKb hkept kb₃) rfl).trans (leads_digits (k := 18)
      (kept_withKb hkept kb₃) rfl rfl rfl rfl (kept_withKb hwrite kb₃)
      (kept_withKb (hbytes.slice (a := 0) rfl) kb₃) hx)
  refine (hstart.trans (((hfirst.trans hsecond).trans hthird).trans hlast)).conseq
    (fun s hs => hs) ?_
  rintro s ⟨q, hpc, hsp, -, hs⟩
  exact reached_of_near hpc hsp (hload.withKb kb') hs

end

/-! ### The disk -/

section

variable {M K : Type} [MemoryMap M] [Device K] {cards : CardBus M} {c : Card M} {kb : K}
  {buf : List U8} {b : Board (CardBus M) K} {r : Regs} {a entry : U16}

/-- `call c, Err`, without an error -/
theorem leads_noErr (hcode : Kept 6 r.sp b a (callOrErr entry)) (hcarry : carry r.af = false) :
    Leads Board.loop (Near 6 (atCode r a 3) b) (Near 6 (atCode r a 6) b) := by
  refine leads_still rfl ?_
  intro b' hb'
  exact leads_callPassed (k := 3) (hcode.same hb').holds rfl rfl rfl rfl
    ((condition_carry r).trans hcarry)

omit [MemoryMap M] [Device K] in
/-- Back from a call that has filled the buffer. -/
theorem near_filled {q : Regs} {w : U16} {bytes : List U8} {cards' : CardBus M} {c' : Card M}
    {s : Cpu × Board (CardBus M) K} (hlen : bytes.length = SECTOR_SIZE)
    (hs : Near 6 { q with
      pc := top (fill (pushed b (0xFFFF - 2) w) sectorBuf bytes) (0xFFFF - 2)
      sp := 0xFFFF - 2 + 2 }
      (withCard (fill (pushed b (0xFFFF - 2) w) sectorBuf bytes) cards' .zero c') s) :
    Near 6 { q with pc := w, sp := 0xFFFF }
      (withCard (fill b sectorBuf bytes) cards' .zero c') s := by
  have htop : top (fill (pushed b (0xFFFF - 2) w) sectorBuf bytes) (0xFFFF - 2) =
      top (pushed b (0xFFFF - 2) w) (0xFFFF - 2) := by
    apply top_fill
    intro k hk
    rw [hlen, SECTOR_SIZE_eq] at hk
    have haddr : (pcAt sectorBuf k).toNat = 0x1B0 + k :=
      toNat_pcAt (show 0x1B0 + k < 0x10000 by omega)
    constructor
    · intro heq
      rw [← heq] at haddr
      exact absurd haddr (by show ¬ 0xFFFD = _; omega)
    · intro heq
      rw [← heq] at haddr
      exact absurd haddr (by show ¬ 0xFFFE = _; omega)
  rw [htop] at hs
  exact Near.back (r := q) hs (((same_pushed 4 0xFFFF w b).fill sectorBuf bytes).withHd _)

/-- `call Hd8Bit`, `call c, Err` -/
theorem reached_hd8Bit (hsel : cards.registers.drive = .zero) (hwf : c.WellFormed) :
    Leads Board.loop (Reached 0x03 cards c kb buf) (fun s => ∃ c',
      (c'.WellFormed ∧ c'.mmap = c.mmap) ∧
        Reached 0x09 (cards.setRegisters (cards.registers.put 1 0x01)) c' kb buf s) := by
  apply leads_reached
  intro r b hload
  let cards' := cards.setRegisters (cards.registers.put 1 0x01)
  have hkept : Kept 6 0xFFFF b 0x03 (callOrErr hd8BitAt) := hload.code layout.callHd8Bit
  have hroutine : Kept 6 0xFFFF b hd8BitAt (hd8Bit hdWaitAt hdErrAt) :=
    hload.code layout.hd8Bit
  have hwait : Kept 6 0xFFFF b hdWaitAt hdWait := hload.code layout.hdWait
  have herr : Kept 6 0xFFFF b hdErrAt (hdErr hdWaitAt) := hload.code layout.hdErr
  let q : Regs := { r with sp := 0xFFFF }
  have hsub := leads_hd8Bit (n := 2) (r := { q with sp := q.sp - 2 }) (by decide)
    (hroutine.nested (pcAt 0x03 3)) (hwait.nested _) (herr.nested _) hsel hwf
  have hcall := leads_callNear (r := q) (k := 0) (b := withCard b cards .zero c)
    (kept_withHd hkept _) rfl rfl rfl hsub
  rw [hload.withCard_eq] at hcall
  refine hcall.trans ?_
  rintro s ⟨c', af, ⟨hwf', hmmap, -, hcarry⟩, hs⟩
  let q' : Regs := { q with af := af, bc := word 0x80 (lo r.bc) }
  have hback : Near 6 (atCode q' 0x03 3) (withCard b cards' .zero (quiet c')) s :=
    Near.back (r := q') hs ((same_pushed 4 q.sp _ b).withHd _)
  obtain ⟨s', harrives, hs'⟩ := leads_noErr (r := q') (kept_withHd hkept _) hcarry s hback
  exact ⟨s', harrives, quiet c', ⟨wellFormed_quiet hwf', hmmap⟩,
    reached_of_near rfl rfl (hload.withCard cards' (quiet c')) hs'⟩

/-- `call HdIdent`, `call c, Err` -/
theorem reached_hdIdent (hsel : cards.registers.drive = .zero) (hwf : c.WellFormed) :
    Leads Board.loop (Reached 0x09 cards c kb buf) (fun s => ∃ c',
      (c'.WellFormed ∧ c'.mmap = c.mmap) ∧
        Reached 0x0F cards c' kb (deviceInfo (MemoryMap.len c.mmap)) s) := by
  apply leads_reached
  intro r b hload
  have hkept : Kept 6 0xFFFF b 0x09 (callOrErr hdIdentAt) := hload.code layout.callHdIdent
  have hcode : CommandCode 6 0xFFFF b 0xEC hdIdentAt hdWaitAt hdErrAt hdBufInAt
      (hdBufIn hdWaitAt hdErrAt sectorBuf hdBufInAt) :=
    hload.command layout.hdIdent layout.hdBufIn
  let q : Regs := { r with sp := 0xFFFF }
  have hsub := leads_hdIdent (n := 0) (r := { q with sp := q.sp - 2 }) (by decide)
    (hcode.nested (pcAt 0x09 3)) (apart_sectorBuf (by decide)) (apart_sectorBuf (by decide))
    (apart_sectorBuf (by decide)) hsel hwf
  have hcall := leads_callNear (r := q) (k := 0) (b := withCard b cards .zero c)
    (kept_withHd hkept _) rfl rfl rfl hsub
  rw [hload.withCard_eq] at hcall
  refine hcall.trans ?_
  rintro s ⟨c', af, ⟨hwf', hmmap, hcarry⟩, hs⟩
  let q' : Regs := { q with
    af := af
    bc := word 0x80 (lo r.bc)
    de := 0
    hl := sectorBuf + 0x200 }
  have hload' : Loaded cards (quiet c') kb (deviceInfo (MemoryMap.len c.mmap)) _ :=
    (hload.fill (length_deviceInfo _).le).withCard cards (quiet c')
  have hback : Near 6 (atCode q' 0x09 3) _ s := near_filled (q := q') (length_deviceInfo _) hs
  have hkept' : Kept 6 0xFFFF _ 0x09 (callOrErr hdIdentAt) := hload'.code layout.callHdIdent
  obtain ⟨s', harrives, hs'⟩ := leads_noErr (r := q') hkept' hcarry s hback
  exact ⟨s', harrives, quiet c', ⟨wellFormed_quiet hwf', hmmap⟩, reached_of_near rfl rfl hload' hs'⟩

theorem address_zero (g : SharedRegisters) : (address g 0 0).drive = .zero ∧
    (address g 0 0).lbaMode ∧ (address g 0 0).lba.toNat = 0 := address_spec g 0 0

/-- `ld de, $0000`, `ld hl, $0000`, `call HdLba`: sector 0 of drive 0. -/
theorem leads_sectorZero {jump : U8} (hload : Loaded cards c kb buf b)
    (hcode : Kept 6 0xFFFF b a (sectorZero entry jump)) :
    Leads Board.loop (Near 6 (atCode { r with sp := 0xFFFF } a 0) b)
      (fun s => ∃ af, Near 6 (atCode { r with sp := 0xFFFF, af := af, de := 0, hl := 0 } a 9)
        (withCard b (cards.setRegisters (address cards.registers 0 0)) .zero c) s) := by
  let q : Regs := { r with sp := 0xFFFF }
  let q₁ : Regs := { q with de := 0 }
  let q₂ : Regs := { q₁ with hl := 0 }
  have hlow : Leads Board.loop (Near 6 (atCode q a 0) b) (Near 6 (atCode q₁ a 3) b) := by
    refine leads_still rfl ?_
    intro b' hb'
    exact leads_ldWide (k := 0) (hcode.same hb').holds rfl rfl rfl rfl rfl
  have hhigh : Leads Board.loop (Near 6 (atCode q₁ a 3) b) (Near 6 (atCode q₂ a 6) b) := by
    refine leads_still rfl ?_
    intro b' hb'
    exact leads_ldWide (k := 3) (hcode.same hb').holds rfl rfl rfl rfl rfl
  have hroutine : Kept 6 0xFFFF b hdLbaAt hdLba := hload.code layout.hdLba
  have hsub := leads_hdLba (n := 4) (r := { q₂ with sp := q₂.sp - 2 }) (d := .zero)
    (c := c) cards (by decide) (hroutine.nested (pcAt a 9))
  have hcall := leads_callNear (r := q₂) (k := 6) (b := withCard b cards .zero c)
    (kept_withHd hcode _) rfl rfl rfl hsub
  rw [hload.withCard_eq] at hcall
  refine ((hlow.trans hhigh).trans hcall).conseq (fun s hs => hs) ?_
  rintro s ⟨af, hs⟩
  exact ⟨af, Near.back (r := { q₂ with af := af }) hs ((same_pushed 4 q₂.sp _ b).withHd _)⟩

/-- `jr c, Err` -/
theorem leads_jrErr (entry : U16) (jump : U8) (j : ℕ)
    (hcode : Kept 6 r.sp b a (sectorZero entry jump))
    (hjump : signExtend jump = BitVec.ofNat 16 j - BitVec.ofNat 16 14) :
    Leads Board.loop (Near 6 (atCode r a 12) b)
      (Near 6 (atCode r a (if carry r.af then j else 14)) b) := by
  refine leads_still rfl ?_
  intro b' hb'
  have hjr :=
    leads_jr (r := r) (b := b') (k := 12) (j := j) (hcode.same hb').holds rfl rfl rfl hjump
  rw [condition_carry] at hjr
  exact hjr

/-- `call HdLba`, `call HdRead`, `jr c, Err` -/
theorem reached_hdRead (hready : c.Ready) (hin : InRange (MemoryMap.len c.mmap) 0) :
    Leads Board.loop (Reached 0x5C cards c kb buf) (fun s => ∃ c',
      (c'.Ready ∧ c'.mmap = c.mmap) ∧
        Reached 0x6A (cards.setRegisters (address cards.registers 0 0)) c' kb (sector c.mmap 0)
          s) := by
  apply leads_reached
  intro r b hload
  let cards' := cards.setRegisters (address cards.registers 0 0)
  obtain ⟨hsel, hmode, hlba⟩ : cards'.registers.drive = .zero ∧ cards'.registers.lbaMode ∧
      cards'.registers.lba.toNat = 0 := address_zero cards.registers
  have hkept : Kept 6 0xFFFF b 0x5C (sectorZero hdReadAt 0x28) := hload.code layout.readZero
  have hcode : CommandCode 6 0xFFFF b 0x20 hdReadAt hdWaitAt hdErrAt hdBufInAt
      (hdBufIn hdWaitAt hdErrAt sectorBuf hdBufInAt) :=
    hload.command layout.hdRead layout.hdBufIn
  refine (leads_sectorZero hload hkept).trans (Leads.exists_elim ?_)
  intro af₀
  let q : Regs := { r with sp := 0xFFFF, af := af₀, de := 0, hl := 0 }
  have hsub := leads_hdRead (n := 0) (r := { q with sp := q.sp - 2 }) (by decide)
    (hcode.nested (pcAt 0x5C 12)) (apart_sectorBuf (by decide)) (apart_sectorBuf (by decide))
    (apart_sectorBuf (by decide)) hsel hready hmode hlba hin
  refine (leads_callNear (r := q) (k := 9) (b := withCard b cards' .zero c) (kept_withHd hkept _)
    rfl rfl rfl hsub).trans ?_
  rintro s ⟨c', af, ⟨hready', hmmap, hcarry⟩, hs⟩
  let q' : Regs := { q with
    af := af
    bc := word 0x80 (lo r.bc)
    de := 0
    hl := sectorBuf + 0x200 }
  have hload' : Loaded cards' (quiet c') kb (sector c.mmap 0) _ :=
    (hload.fill (length_sector _ _).le).withCard cards' (quiet c')
  have hback : Near 6 (atCode q' 0x5C 12) _ s := near_filled (q := q') (length_sector _ _) hs
  have hjr := leads_jrErr hdReadAt 0x28 54 (r := q') (a := 0x5C)
    (hload'.code layout.readZero) (by decide)
  rw [show carry q'.af = false from hcarry] at hjr
  obtain ⟨s', harrives, hs'⟩ := hjr s hback
  exact ⟨s', harrives, quiet c', ⟨hready', hmmap⟩, reached_of_near rfl rfl hload' hs'⟩

end

/-! ### The copy -/

section

variable {H K : Type} [Device H] [Device K] {n : ℕ} {r : Regs} {b : Board H K} {org : U16}
  {msg : List U8}

/-- With `k` bytes to go. -/
def Copying (n : ℕ) (r : Regs) (b : Board H K) (org : U16) (msg : List U8) (k : ℕ)
    (s : Cpu × Board H K) : Prop :=
  ∃ done rest af, msg = done ++ rest ∧ rest.length = k ∧ Near n { r with
    pc := pcAt org (if k = 0 then 8 else 0)
    af := af
    bc := word (BitVec.ofNat 8 k) (lo r.bc)
    de := pcAt r.de done.length
    hl := pcAt r.hl done.length } (fill b r.de done) s

/-- **One byte.** -/
theorem copying_step (hcode : Kept n r.sp b org copyLoop) (hmsg : Kept n r.sp b r.hl msg)
    (hlen : msg.length ≤ 256)
    (hapart : ∀ j < copyLoop.length, ∀ k < msg.length, pcAt org j ≠ pcAt r.de k)
    (hapartMsg : ∀ j < msg.length, ∀ k < msg.length, pcAt r.hl j ≠ pcAt r.de k) (k : ℕ) :
    Leads Board.loop (Copying n r b org msg (k + 1)) (Copying n r b org msg k) := by
  rintro s ⟨done, rest, af, rfl, hrest, hs⟩
  obtain ⟨data, rest, rfl⟩ := List.exists_cons_of_length_eq_add_one hrest
  simp only [List.length_append, List.length_cons] at hrest hlen
  have hbefore : ∀ {k : ℕ}, k < done.length → k < (done ++ data :: rest).length := by
    intro k hk
    rw [List.length_append]
    omega
  let b₁ := fill b r.de done
  have hcode₁ : Kept n r.sp b₁ org copyLoop :=
    hcode.fill fun j hj k hk => hapart j hj k (hbefore hk)
  have hmsg₁ : Kept n r.sp b₁ r.hl (done ++ data :: rest) :=
    hmsg.fill fun j hj k hk => hapartMsg j hj k (hbefore hk)
  let q : Regs := { r with
    af := af
    bc := word (BitVec.ofNat 8 (k + 1)) (lo r.bc)
    de := pcAt r.de done.length
    hl := pcAt r.hl done.length }
  let q₁ : Regs := { q with af := word data (lo af) }
  let q₂ : Regs := { q₁ with de := q₁.hl, hl := q₁.de }
  have hload : Leads Board.loop (Near n (atCode q org 0) b₁) (Near n (atCode q₁ org 1) b₁) := by
    refine leads_still rfl ?_
    intro b' hb'
    have hbyte : b'.byte q.hl = data := by
      apply (hmsg₁.same hb').holds
      rw [List.getElem?_append_right (Nat.le_refl _), Nat.sub_self]
      rfl
    have hone := leads_one (r := q) (b := b') (k := 0) (i := .copyRegisterHlIndirect .A)
      (hcode₁.same hb').holds rfl rfl rfl rfl
    have hregs : ((atCode q org 1).cpu.exec (⟨some b'⟩ : OnBoard H K)
        (.copyRegisterHlIndirect .A)).cpu.regs =
          { atCode q org 1 with af := word (b'.byte q.hl) (lo af) } := rfl
    rw [hregs, hbyte] at hone
    exact hone
  have hswap : Leads Board.loop (Near n (atCode q₁ org 1) b₁) (Near n (atCode q₂ org 2) b₁) := by
    refine leads_still rfl ?_
    intro b' hb'
    exact leads_one (r := q₁) (k := 1) (i := .exchange .DE .HL) (hcode₁.same hb').holds rfl rfl
      rfl rfl
  let b₂ := fill b r.de (done ++ [data])
  have hboard : b₁.write (pcAt r.de done.length) data = b₂ := (fill_snoc b r.de done data).symm
  have hstore : Leads Board.loop (Near n (atCode q₂ org 2) b₁) (Near n (atCode q₂ org 3) b₂) := by
    apply leads_near
    intro b' hb'
    have hst := leads_store (r := q₂) (b := b') (k := 2) (hcode₁.same hb').holds rfl rfl
      rfl (hi_word _ _)
    refine hst.conseq (fun s hs => hs) ?_
    intro s hs
    refine ⟨_, hs, ?_⟩
    rw [← hboard]
    exact hb'.write _ _
  have hcode₂ : Kept n r.sp b₂ org copyLoop := by
    refine hcode.fill fun j hj k hk => hapart j hj k ?_
    rw [List.length_append, List.length_singleton] at hk
    rw [List.length_append, List.length_cons]
    omega
  have hswap' : Leads Board.loop (Near n (atCode q₂ org 3) b₂) (Near n (atCode q₁ org 4) b₂) := by
    refine leads_still rfl ?_
    intro b' hb'
    exact leads_one (r := q₂) (k := 3) (i := .exchange .DE .HL) (hcode₂.same hb').holds rfl rfl
      rfl rfl
  let q₃ : Regs := { q₁ with hl := q₁.hl + 1 }
  let q₄ : Regs := { q₃ with de := q₃.de + 1 }
  have hnext : Leads Board.loop (Near n (atCode q₁ org 4) b₂) (Near n (atCode q₃ org 5) b₂) := by
    refine leads_still rfl ?_
    intro b' hb'
    exact leads_one (r := q₁) (k := 4) (i := .incWide .HL) (hcode₂.same hb').holds rfl rfl rfl rfl
  have hnext' : Leads Board.loop (Near n (atCode q₃ org 5) b₂) (Near n (atCode q₄ org 6) b₂) := by
    refine leads_still rfl ?_
    intro b' hb'
    exact leads_one (r := q₃) (k := 5) (i := .incWide .DE) (hcode₂.same hb').holds rfl rfl rfl rfl
  have hloop : Leads Board.loop (Near n (atCode q₄ org 6) b₂) (Near n { q₄ with
      pc := pcAt org (if hi q₄.bc - 1 = 0 then 8 else 0)
      bc := word (hi q₄.bc - 1) (lo q₄.bc) } b₂) := by
    refine leads_still rfl ?_
    intro b' hb'
    exact leads_djnz (r := q₄) (k := 6) (j := 0) (hcode₂.same hb').holds rfl rfl (by decide)
  obtain ⟨s', harrives, hs'⟩ := ((hload.trans hswap).trans (hstore.trans hswap')).trans
    ((hnext.trans hnext').trans hloop) s hs
  refine ⟨s', harrives, done ++ [data], rest, word data (lo af), ?_, by omega, ?_⟩
  · rw [List.append_assoc, List.singleton_append]
  · have hb : (BitVec.ofNat 8 (k + 1) : U8) - 1 = BitVec.ofNat 8 k := by bv_omega
    have hzero : (BitVec.ofNat 8 k : U8) = 0 ↔ k = 0 := by bv_omega
    have hsucc : ∀ w : U16, pcAt w done.length + 1 = pcAt w (done ++ [data]).length := by
      intro w
      rw [List.length_append, List.length_singleton]
      exact pcAt_succ w done.length
    simp only [q₄, q₃, q₁, q, hi_word, lo_word, hb, hzero, hsucc] at hs'
    exact hs'

/-- **`.cpy`** copies the B bytes from HL on to DE. -/
theorem leads_copy (hcode : Kept n r.sp b org copyLoop) (hmsg : Kept n r.sp b r.hl msg)
    (hpos : 0 < msg.length) (hlen : msg.length ≤ 256) (hb : hi r.bc = BitVec.ofNat 8 msg.length)
    (hapart : ∀ j < copyLoop.length, ∀ k < msg.length, pcAt org j ≠ pcAt r.de k)
    (hapartMsg : ∀ j < msg.length, ∀ k < msg.length, pcAt r.hl j ≠ pcAt r.de k) :
    Leads Board.loop (Near n (atCode r org 0) b) (fun s => ∃ af, Near n { r with
      pc := pcAt org 8
      af := af
      bc := word 0 (lo r.bc)
      de := pcAt r.de msg.length
      hl := pcAt r.hl msg.length } (fill b r.de msg) s) := by
  have hstart : Leads Board.loop (Near n (atCode r org 0) b)
      (Copying n r b org msg msg.length) := by
    apply Leads.of_imp
    intro s hs
    have hzero : ∀ w : U16, pcAt w ([] : List U8).length = w := BitVec.add_zero
    refine ⟨[], msg, r.af, rfl, rfl, ?_⟩
    rw [if_neg (Nat.ne_of_gt hpos), ← hb, word_hi_lo, hzero, hzero]
    exact hs
  have hcopy := Leads.countdown (copying_step hcode hmsg hlen hapart hapartMsg) msg.length
  refine (hstart.trans hcopy).conseq (fun s hs => hs) ?_
  rintro s ⟨done, rest, af, rfl, hrest, hs⟩
  obtain rfl := List.eq_nil_of_length_eq_zero hrest
  rw [List.append_nil]
  rw [if_pos rfl] at hs
  exact ⟨af, hs⟩

end

section

variable {M K : Type} [MemoryMap M] [Device K] {cards : CardBus M} {c : Card M} {kb kb' : K}
  {buf : List U8} {b : Board (CardBus M) K} {r : Regs} {a : U16} {v : U8}

omit [MemoryMap M] [Device K] in
/-- A buffer with other bytes at its start. -/
theorem code_overwritten {H : Type} {b : Board H K} {msg : List U8} (hbuf : Code b a buf)
    (hle : msg.length ≤ buf.length) (hlen : buf.length ≤ 0x10000) :
    Code (fill b a msg) a (msg ++ buf.drop msg.length) := by
  intro k w hk
  by_cases hlt : k < msg.length
  · rw [List.getElem?_append_left hlt] at hk
    exact code_fill b a (by omega) k w hk
  · rw [List.getElem?_append_right (Nat.le_of_not_lt hlt), List.getElem?_drop,
      Nat.add_sub_cancel' (Nat.le_of_not_lt hlt)] at hk
    obtain ⟨hin, -⟩ := List.getElem?_eq_some_iff.1 hk
    have hout : (fill b a msg).byte (pcAt a k) = b.byte (pcAt a k) := by
      apply byte_fill_of_out
      intro j hj
      rw [pcAt, pcAt]
      bv_omega
    exact hout.trans (hbuf k w hk)

theorem length_helloMsg : helloMsg.length = 38 := by decide

/-- The copy of the message. -/
theorem reached_copy (hlen : buf.length = SECTOR_SIZE) :
    Leads Board.loop (Reached 0x6A cards c kb buf)
      (Reached 0x7A cards c kb (helloMsg ++ buf.drop helloMsg.length)) := by
  apply leads_reached
  intro r b hload
  have hkept : Kept 6 0xFFFF b 0x6A copyHello := hload.code layout.copy
  have hloop : Kept 6 0xFFFF b 0x72 copyLoop := hload.code layout.copyLoop
  have hmsg : Kept 6 0xFFFF b helloMsgAt helloMsg := hload.code layout.helloMsg
  let q : Regs := { r with sp := 0xFFFF }
  let q₁ : Regs := { q with hl := helloMsgAt }
  let q₂ : Regs := { q₁ with de := sectorBuf }
  let q₃ : Regs := { q₂ with bc := word 0x26 (lo r.bc) }
  have hsource : Leads Board.loop (Near 6 (atCode q 0x6A 0) b) (Near 6 (atCode q₁ 0x6A 3) b) := by
    refine leads_still rfl ?_
    intro b' hb'
    exact leads_ldWide (k := 0) (hkept.same hb').holds rfl rfl rfl rfl rfl
  have htarget : Leads Board.loop (Near 6 (atCode q₁ 0x6A 3) b) (Near 6 (atCode q₂ 0x6A 6) b) := by
    refine leads_still rfl ?_
    intro b' hb'
    exact leads_ldWide (r := q₁) (k := 3) (hkept.same hb').holds rfl rfl rfl rfl rfl
  have hcount : Leads Board.loop (Near 6 (atCode q₂ 0x6A 6) b) (Near 6 (atCode q₃ 0x6A 8) b) := by
    refine leads_still rfl ?_
    intro b' hb'
    exact leads_ld (r := q₂) (k := 6) (hkept.same hb').holds rfl rfl rfl rfl
  have hle : helloMsg.length ≤ SECTOR_SIZE := by
    rw [length_helloMsg, SECTOR_SIZE_eq]
    decide
  have hapart : ∀ {org : U16} {code : List U8}, org.toNat + code.length ≤ 0x1B0 →
      ∀ j < code.length, ∀ k < helloMsg.length, pcAt org j ≠ pcAt sectorBuf k :=
    fun h j hj k hk => apart_sectorBuf h j hj k (Nat.lt_of_lt_of_le hk hle)
  have hcopy := leads_copy (r := q₃) (b := b) hloop hmsg (by decide) (by decide)
    (hi_word _ _) (hapart (show (0x72 : U16).toNat + copyLoop.length ≤ 0x1B0 by decide))
    (hapart (show helloMsgAt.toNat + helloMsg.length ≤ 0x1B0 by decide))
  refine (((hsource.trans htarget).trans hcount).trans hcopy).conseq (fun s hs => hs) ?_
  rintro s ⟨af, hs⟩
  have hload' := hload.fill hle
  refine reached_of_near rfl rfl ⟨hload'.rom, hload'.hd, hload'.kb, ?_, ?_⟩ hs
  · refine code_overwritten hload.buf.holds (hlen.symm ▸ hle) ?_
    rw [hlen, SECTOR_SIZE_eq]
    decide
  · intro k hk
    apply hload.buf.clear k
    rw [List.length_append, List.length_drop, hlen] at hk
    omega

/-- The program goes to `Err` with `v` in A. -/
def Failing (v : U8) (cards : CardBus M) (c : Card M) (kb : K) (buf : List U8)
    (s : Cpu × Board (CardBus M) K) : Prop :=
  ∃ (r : Regs) (b : Board (CardBus M) K), Loaded cards c kb buf b ∧ hi r.af = v ∧
    Near 6 (atCode { r with sp := 0xFFFF } errAt 0) b s

/-- `call HdLba`, `call HdWrite`, `jr c, Err` -/
theorem reached_hdWrite (hready : c.Ready) (hin : InRange (MemoryMap.len c.mmap) 0)
    (hlen : buf.length = SECTOR_SIZE) :
    Leads Board.loop (Reached 0x7A cards c kb buf) (fun s => ∃ c',
      (c'.interrupt = false ∧ c'.mmap = (MemoryMap.flush (storeBytes c.mmap 0 buf)).1 ∧
        MemoryMap.len c'.mmap = MemoryMap.len c.mmap ∧
        MemoryMap.byte c'.mmap = overlay (MemoryMap.byte c.mmap) 0 buf) ∧
      if (MemoryMap.flush (storeBytes c.mmap 0 buf)).2 then
        Reached 0x88 (cards.setRegisters (address cards.registers 0 0)) c' kb buf s
      else Failing (Error.AMNF ||| Error.BBK)
        (cards.setRegisters (address cards.registers 0 0)) c' kb buf s) := by
  apply leads_reached
  intro r b hload
  let cards' := cards.setRegisters (address cards.registers 0 0)
  obtain ⟨hsel, hmode, hlba⟩ : cards'.registers.drive = .zero ∧ cards'.registers.lbaMode ∧
      cards'.registers.lba.toNat = 0 := address_zero cards.registers
  have hkept : Kept 6 0xFFFF b 0x7A (sectorZero hdWriteAt 0x0A) := hload.code layout.writeZero
  have hcode : CommandCode 6 0xFFFF b 0x30 hdWriteAt hdWaitAt hdErrAt hdBufOutAt
      (hdBufOut hdWaitAt hdErrAt sectorBuf hdBufOutAt) :=
    hload.command layout.hdWrite layout.hdBufOut
  refine (leads_sectorZero hload hkept).trans (Leads.exists_elim ?_)
  intro af₀
  let q : Regs := { r with sp := 0xFFFF, af := af₀, de := 0, hl := 0 }
  have hsub := leads_hdWrite (n := 0) (r := { q with sp := q.sp - 2 }) (by decide)
    (hcode.nested (pcAt 0x7A 12)) (hload.buf.nested _) hlen hsel hready hmode hlba hin
  refine (leads_callNear (r := q) (k := 9) (b := withCard b cards' .zero c) (kept_withHd hkept _)
    rfl rfl rfl hsub).trans ?_
  rw [Nat.zero_mul]
  rintro s ⟨c', af, ⟨-, hmmap, hsize, hbyte, hcarry, herror⟩, hs⟩
  let q' : Regs := { q with
    af := af
    bc := word 0x80 (lo r.bc)
    de := 0
    hl := sectorBuf + 0x200 }
  have hload' : Loaded cards' (quiet c') kb buf _ := hload.withCard cards' (quiet c')
  have hback : Near 6 (atCode q' 0x7A 12) _ s :=
    Near.back (r := q') hs ((same_pushed 4 q.sp _ b).withHd _)
  have hjr := leads_jrErr hdWriteAt 0x0A 24 (r := q') (a := 0x7A)
    (hload'.code layout.writeZero) (by decide)
  rw [show carry q'.af = !(MemoryMap.flush (storeBytes c.mmap 0 buf)).2 from hcarry] at hjr
  obtain ⟨s', harrives, hs'⟩ := hjr s hback
  refine ⟨s', harrives, quiet c', ⟨rfl, hmmap, hsize, hbyte⟩, ?_⟩
  cases hok : (MemoryMap.flush (storeBytes c.mmap 0 buf)).2 with
  | true =>
    rw [hok] at hs'
    exact reached_of_near rfl rfl hload' hs'
  | false =>
    rw [hok] at hs'
    exact ⟨q', _, hload', herror hok, hs'⟩

end

/-! ### `Err` and `Exit` -/

section

variable {M K : Type} [MemoryMap M] [Device K] {cards : CardBus M} {c : Card M} {kb kb' : K}
  {buf : List U8} {b : Board (CardBus M) K} {q : Regs} {v : U8}

/-- **`Err`** prints the error in A. -/
theorem reached_err (htypes : types kb (errMsg ++ hexByte v) = some kb') :
    Leads Board.loop (Failing v cards c kb buf) (Reached exitAt cards c kb' buf) := by
  rintro s ⟨r, b, hload, hv, hs⟩
  rw [types_append] at htypes
  obtain ⟨kb₁, htext, hdigits⟩ := Option.bind_eq_some_iff.1 htypes
  have hkept : Kept 6 0xFFFF b errAt helloHdErr := hload.code layout.err
  have hsay : Kept 6 0xFFFF b 0x93 (say errMsgAt 12 kbWriteAt) := hload.code layout.sayErr
  have hwrite : Kept 6 0xFFFF b kbWriteAt kbWrite := hload.code layout.kbWrite
  have hwriteX : Kept 6 0xFFFF b kbWriteXAt (kbWriteX kbWriteXAt) := hload.code layout.kbWriteX
  have hmsg : Kept 6 0xFFFF b errMsgAt errMsg := hload.code layout.errMsg
  let q : Regs := { r with sp := 0xFFFF }
  let q₁ : Regs := { r with sp := 0xFFFF - 2 }
  let b₁ := pushed b (0xFFFF - 2) r.af
  have hpush : Leads Board.loop (Near 6 (atCode q errAt 0) b) (Near 4 (atCode q₁ errAt 1) b₁) :=
    leads_pushNear (n := 4) (r := q) (k := 0) hkept rfl
  let q₂ : Regs := { q₁ with hl := errMsgAt, bc := word 12 (lo r.bc) }
  have hargs : Leads Board.loop (Near 4 (atCode q₁ errAt 1) b₁) (Near 4 (atCode q₂ 0x93 5) b₁) :=
    leads_sayArgs (r := q₁) (hsay.nested r.af)
  have htext' := leads_callPrint (n := 2) (r := q₂) (k := 5) (hsay.nested r.af) rfl rfl rfl
    (leads_kbWriteBack (r := { q₂ with sp := q₂.sp - 2 }) (by decide)
      ((hwrite.nested r.af).nested _) ((hmsg.nested r.af).nested _) (by decide) (by decide)
      (hi_word _ _) (hload.kb.symm ▸ htext))
  refine ((hpush.trans hargs).trans (htext'.trans (leads_back ?_))) s hs
  intro af bc hl
  let q₃ : Regs := { q₁ with af := af, bc := bc, hl := hl }
  have hkept₁ := kept_withKb (hkept.nested r.af) kb₁
  have hdollar : Leads Board.loop (Near 4 (atCode q₃ errAt 9) { b₁ with kb := kb₁ })
      (Near 4 (atCode { q₃ with af := word 0x24 (lo af) } errAt 11) { b₁ with kb := kb₁ }) :=
    leads_loadA (k := 9) hkept₁ rfl rfl
  have hpop := leads_popNear (n := 4) (r := { q₃ with af := word 0x24 (lo af) }) (k := 11)
    (by decide) hkept₁ rfl
  rw [show top { b₁ with kb := kb₁ } q₁.sp = r.af from top_pushed b _ r.af] at hpop
  refine (hdollar.trans hpop).trans ?_
  intro s hs
  let q₄ : Regs := { q₃ with sp := 0xFFFF, af := r.af }
  have hback : Near 6 (atCode q₄ errAt 12) { b with kb := kb₁ } s :=
    hs.of_same ((same_pushed 4 0xFFFF r.af b).withKb kb₁) (Nat.le_refl _)
  have hcall := leads_callPrint (n := 4) (r := q₄) (k := 12) (kept_withKb hkept kb₁) rfl rfl rfl
    (leads_kbWriteXBack (n := 2) (r := { q₄ with sp := q₄.sp - 2 }) (by decide)
      ((kept_withKb hwriteX kb₁).nested _) (by
        rw [show hi q₄.af = v from hv]
        exact hdigits))
  obtain ⟨s', harrives, q', hpc, hsp, -, hs'⟩ := hcall s hback
  exact ⟨s', harrives, reached_of_near hpc hsp (hload.withKb kb') hs'⟩

omit [MemoryMap M] in
/-- A keyboard where somebody types a `q` in the end. -/
inductive Quits : K → K → Prop
  | quit {kb kb' : K} {v : U8} (read : Device.read kb IOAddr.KB = some (v, kb'))
      (h : v ||| 0x20 = 0x71) : Quits kb kb'
  | other {kb kb₁ kb' : K} {v : U8} (read : Device.read kb IOAddr.KB = some (v, kb₁))
      (h : v ||| 0x20 ≠ 0x71) (rest : Quits kb₁ kb') : Quits kb kb'

theorem compare_q : ∀ w : U8, subFlags w 0x71 false 0x71 .Z = decide (w = 0x71) := by
  decide +kernel

/-- **One key.** -/
theorem leads_exitKey {kb₁ : K} (hcode : Kept 6 q.sp b exitAt helloHdExit)
    (hread : Device.read b.kb IOAddr.KB = some (v, kb₁)) :
    Leads Board.loop (Near 6 (atCode q exitAt 0) b) (fun s => ∃ af,
      Near 6 (atCode { q with af := af } exitAt (if v ||| 0x20 = 0x71 then 8 else 0))
        { b with kb := kb₁ } s) := by
  let q₁ : Regs := { q with af := word v (lo q.af) }
  let q₂ : Regs := { q with af := word (v ||| 0x20) (lo q.af) }
  let q₃ : Regs := { q with af := Arith.af .compare (v ||| 0x20) 0x71 (q₂.cpu.flag .C) }
  let b₁ : Board (CardBus M) K := { b with kb := kb₁ }
  have hkept : Kept 6 q.sp b₁ exitAt helloHdExit := kept_withKb hcode kb₁
  have hin : Leads Board.loop (Near 6 (atCode q exitAt 0) b) (Near 6 (atCode q₁ exitAt 2) b₁) :=
    leads_inKb (k := 0) hcode rfl rfl hread
  have hset : Leads Board.loop (Near 6 (atCode q₁ exitAt 2) b₁)
      (Near 6 (atCode q₂ exitAt 4) b₁) := by
    refine leads_still rfl ?_
    intro b' hb'
    have hbits := leads_bits (r := q₁) (b := b') (k := 2) (hkept.same hb').holds rfl rfl
      rfl rfl
    have hregs : ((atCode q₁ exitAt 4).cpu.exec (⟨some b'⟩ : OnBoard (CardBus M) K)
        (cbPrefixTable 0xEF)).cpu.regs =
          { atCode q₁ exitAt 4 with af := word (hi q₁.af ||| 0x20) (lo q₁.af) } := rfl
    rw [hregs, hi_word, lo_word] at hbits
    exact hbits
  have hcompare : Leads Board.loop (Near 6 (atCode q₂ exitAt 4) b₁)
      (Near 6 (atCode q₃ exitAt 6) b₁) := by
    refine leads_still rfl ?_
    intro b' hb'
    have hbase := leads_baseImmediate (r := q₂) (k := 4) .compare (hkept.same hb').holds rfl rfl rfl
      rfl fun c bus => ⟨rfl, rfl⟩
    rw [show hi q₂.af = v ||| 0x20 from hi_word _ _] at hbase
    exact hbase
  have hcond : q₃.cpu.condition .NZ = !decide (v ||| 0x20 = 0x71) := by
    show (!Cpu.flag _ .Z) = _
    rw [flag_base]
    exact congrArg not (compare_q (v ||| 0x20))
  have hjump : Leads Board.loop (Near 6 (atCode q₃ exitAt 6) b₁)
      (Near 6 (atCode q₃ exitAt (if v ||| 0x20 = 0x71 then 8 else 0)) b₁) := by
    refine leads_still rfl ?_
    intro b' hb'
    have hjr := leads_jr (r := q₃) (b := b') (k := 6) (j := 0) (hkept.same hb').holds rfl rfl rfl
      (by decide)
    rw [hcond] at hjr
    by_cases hq : v ||| 0x20 = 0x71
    · simpa [hq] using hjr
    · simpa [hq] using hjr
  refine (((hin.trans hset).trans hcompare).trans hjump).conseq (fun s hs => hs) ?_
  intro s hs
  exact ⟨q₃.af, hs⟩

/-- **`Exit`** waits for a `q`, and halts. -/
theorem leads_exit (hline : CardBus.interrupting (cards.setCard c .zero) = false)
    (h : Quits kb kb') : Leads Board.loop (Reached exitAt cards c kb buf) (fun s =>
      s.1.halted = true ∧ s.2.hd = some (cards.setCard c .zero) ∧ s.2.kb = kb') := by
  induction h with
  | quit hread hq =>
    apply leads_reached
    intro r b hload
    have hkept : Kept 6 0xFFFF b exitAt helloHdExit := hload.code layout.exit
    refine (leads_exitKey (q := { r with sp := 0xFFFF }) hkept (hload.kb.symm ▸ hread)).trans
      (Leads.exists_elim ?_)
    intro af
    rw [if_pos hq]
    apply leads_near
    intro b' hb'
    have hhd : b'.hd = some (cards.setCard c .zero) := hb'.hd.trans hload.hd
    have hreleased : b'.interrupted = false := by
      rw [Board.interrupted, hhd]
      exact hline
    have hhalt := leads_halt (r := { r with sp := 0xFFFF, af := af }) (k := 8)
      ((kept_withKb hkept _).same hb').holds rfl hreleased
    refine hhalt.conseq (fun s hs => hs) ?_
    rintro s ⟨rfl, hhalted⟩
    exact ⟨hhalted, hhd, hb'.kb⟩
  | other hread hne _ ih =>
    refine Leads.trans ?_ ih
    apply leads_reached
    intro r b hload
    have hkept : Kept 6 0xFFFF b exitAt helloHdExit := hload.code layout.exit
    refine (leads_exitKey (q := { r with sp := 0xFFFF }) hkept (hload.kb.symm ▸ hread)).conseq
      (fun s hs => hs) ?_
    rintro s ⟨af, hs⟩
    rw [if_neg hne] at hs
    exact ⟨{ r with af := af }, _, hload.withKb _, hs⟩

end

/-! ### What the disk tells of itself -/

theorem take_drop_putBytes_of_le {info : List U8} {i a n : ℕ} {p : List U8} (h : a + n ≤ i) :
    ((putBytes info i p).drop a).take n = (info.drop a).take n := by
  apply List.ext_getElem?
  intro j
  simp only [List.getElem?_take, List.getElem?_drop]
  split
  case isTrue hlt => exact getElem?_putBytes_of_lt _ _ _ (by omega)
  case isFalse => rfl

theorem take_drop_set_of_le {info : List U8} {i a n : ℕ} {v : U8} (h : a + n ≤ i) :
    ((info.set i v).drop a).take n = (info.drop a).take n :=
  take_drop_putBytes_of_le (p := [v]) h

/-- The size, the serial number and the model of a card, where the program looks for them. -/
theorem deviceInfo_parts (size : ℕ) :
    ((deviceInfo size).drop 14).take 4 = toLeBytes (BitVec.ofNat 32 (size / SECTOR_SIZE)) ∧
      ((deviceInfo size).drop 0x14).take serialNumber.length = serialNumber ∧
      ((deviceInfo size).drop 0x36).take modelNumber.length = modelNumber := by
  have hserial : serialNumber.length = 20 := by decide
  have hmodel : modelNumber.length = 40 := by decide
  have hfits : ∀ (bs : List U8) {info : List U8} {start : ℕ}, info.length = SECTOR_SIZE →
      start + bs.length ≤ 512 → ((putBytes info start bs).drop start).take bs.length = bs := by
    intro bs info start hlen hle
    exact take_drop_putBytes info start bs (by rw [hlen, SECTOR_SIZE_eq]; exact hle)
  refine ⟨?_, ?_, ?_⟩
  · simp (disch := decide) only [deviceInfo, take_drop_putBytes_of_le, take_drop_set_of_le]
    exact hfits (toLeBytes _) (by simp) (by simp [toLeBytes])
  · rw [hserial]
    simp (disch := decide) only [deviceInfo, take_drop_putBytes_of_le, take_drop_set_of_le]
    exact hfits serialNumber (by simp) (by decide)
  · rw [hmodel]
    simp (disch := decide) only [deviceInfo, take_drop_putBytes_of_le, take_drop_set_of_le]
    exact hfits modelNumber (by simp) (by decide)

/-! ### The whole program -/

/-- What the program prints before it uses sector 0. -/
def greeting (sectors : U32) : List (List U8) :=
  [modelMsg, modelNumber ++ [0x0D, 0x0A], serialMsg, serialNumber ++ [0x0D, 0x0A], sizeMsg, [0x24],
    (toLeBytes sectors).reverse.flatMap hexByte, [0x0D], [0x0A]]

/-- What it prints in the end. -/
def farewell (ok : Bool) : List U8 :=
  if ok then helloMsg ++ [0x0D, 0x0A] else errMsg ++ hexByte (Error.AMNF ||| Error.BBK)

section

variable {M K : Type} [MemoryMap M] [Device K] {cards : CardBus M} {c : Card M} {kb kb' : K}
  {buf : List U8}

omit [MemoryMap M] in
theorem types_flatten {p : List U8} {ps : List (List U8)} :
    types kb (p :: ps).flatten = (types kb p).bind fun kb => types kb ps.flatten := by
  rw [List.flatten_cons, types_append]

/-- **The greeting.** -/
theorem reached_greeting {size : ℕ}
    (htypes : types kb (greeting (BitVec.ofNat 32 (size / SECTOR_SIZE))).flatten = some kb') :
    Leads Board.loop (Reached 0x0F cards c kb (deviceInfo size))
      (Reached 0x5C cards c kb' (deviceInfo size)) := by
  obtain ⟨hsize, hserial, hmodel⟩ := deviceInfo_parts size
  simp only [greeting, types_flatten, Option.bind_eq_some_iff] at htypes
  obtain ⟨kb₁, h₁, kb₂, h₂, kb₃, h₃, kb₄, h₄, kb₅, h₅, kb₆, h₆, kb₇, h₇, kb₈, h₈, kb₉, h₉, hend⟩ :=
    htypes
  cases hend
  have hname : Leads Board.loop (Reached 0x0F cards c kb (deviceInfo size))
      (Reached 0x17 cards c kb₁ (deviceInfo size)) :=
    reached_say layout.sayModel (fun b h => h.code layout.modelMsg)
      (by decide) (by decide) h₁
  have hname' : Leads Board.loop (Reached 0x17 cards c kb₁ (deviceInfo size))
      (Reached 0x1F cards c kb₂ (deviceInfo size)) :=
    reached_sayLn layout.sayModelName (fun b h => h.buf.slice hmodel)
      (by decide) (by decide) h₂
  have hnumber : Leads Board.loop (Reached 0x1F cards c kb₂ (deviceInfo size))
      (Reached 0x27 cards c kb₃ (deviceInfo size)) :=
    reached_say layout.saySerial (fun b h => h.code layout.serialMsg)
      (by decide) (by decide) h₃
  have hnumber' : Leads Board.loop (Reached 0x27 cards c kb₃ (deviceInfo size))
      (Reached 0x2F cards c kb₄ (deviceInfo size)) :=
    reached_sayLn layout.saySerialNumber (fun b h => h.buf.slice hserial)
      (by decide) (by decide) h₄
  have hcount : Leads Board.loop (Reached 0x2F cards c kb₄ (deviceInfo size))
      (Reached 0x37 cards c kb₅ (deviceInfo size)) :=
    reached_say layout.sayDiskSize (fun b h => h.code layout.sizeMsg)
      (by decide) (by decide) h₅
  have hdollar : Leads Board.loop (Reached 0x37 cards c kb₅ (deviceInfo size))
      (Reached 0x3C cards c kb₆ (deviceInfo size)) := reached_sayChar layout.sayDollar h₆
  have hcount' : Leads Board.loop (Reached 0x3C cards c kb₆ (deviceInfo size))
      (Reached 0x52 cards c kb₇ (deviceInfo size)) := reached_saySize layout.saySectors hsize h₇
  have hreturn : Leads Board.loop (Reached 0x52 cards c kb₇ (deviceInfo size))
      (Reached 0x57 cards c kb₈ (deviceInfo size)) := reached_sayChar layout.sayReturn h₈
  have hfeed : Leads Board.loop (Reached 0x57 cards c kb₈ (deviceInfo size))
      (Reached 0x5C cards c kb' (deviceInfo size)) := reached_sayChar layout.sayFeed h₉
  exact ((hname.trans hname').trans (hnumber.trans hnumber')).trans
    ((hcount.trans (hdollar.trans hcount')).trans (hreturn.trans hfeed))

/-- The last line. -/
theorem reached_done (htypes : types kb (helloMsg ++ [0x0D, 0x0A]) = some kb') :
    Leads Board.loop (Reached 0x88 cards c kb buf) (Reached exitAt cards c kb' buf) := by
  have hline : Leads Board.loop (Reached 0x88 cards c kb buf) (Reached 0x90 cards c kb' buf) :=
    reached_sayLn layout.sayHello (fun b h => h.code layout.helloMsg)
      (by decide) (by decide) htypes
  refine hline.trans (leads_reached ?_)
  intro r b hload
  have hkept : Kept 6 0xFFFF b 0x90 [0x18, 0x0F] := hload.code layout.skipErr
  have hjump : Leads Board.loop (Near 6 (atCode { r with sp := 0xFFFF } 0x90 0) b)
      (Near 6 (atCode { r with sp := 0xFFFF } 0x90 17) b) := by
    refine leads_still rfl ?_
    intro b' hb'
    exact leads_jrAlways (k := 0) (j := 17) (hkept.same hb').holds rfl rfl (by decide)
  refine hjump.conseq (fun s hs => hs) ?_
  intro s hs
  exact ⟨r, b, hload, hs⟩

end

section

variable {M K : Type} [MemoryMap M] [Device K] {kb : K} {mmap0 : M} {mmap1 : Option M}

omit [Device K] in
theorem loaded_boot (kb : K) (mmap0 : M) (mmap1 : Option M) :
    Loaded (CardBus.new mmap0 mmap1) (Card.new mmap0) kb []
      (Board.boot helloHdRom kb (some (CardBus.new mmap0 mmap1))) := by
  have hcode : Code (Board.boot helloHdRom kb (some (CardBus.new mmap0 mmap1))) 0 helloHdRom := by
    refine code_boot (p := []) (q := []) ?_ ?_ kb _
    · rw [List.nil_append, List.append_nil]
    · rw [List.nil_append, length_helloHdRom]
      decide
  refine ⟨⟨hcode, ?_⟩, rfl, rfl, ⟨?_, ?_⟩⟩
  · intro k hk
    rw [length_helloHdRom] at hk
    have haddr : (pcAt 0 k).toNat = 0 + k := toNat_pcAt (show 0 + k < 0x10000 by omega)
    exact clear_low (by omega)
  · intro k v hk
    cases hk
  · intro k hk
    cases hk

/-- `ld sp, $FFFF` -/
theorem leads_start {cards : CardBus M} {c : Card M} {buf : List U8} {b : Board (CardBus M) K}
    (hload : Loaded cards c kb buf b) :
    Leads Board.loop (At (atCode {} 0 0) b) (Reached 0x03 cards c kb buf) := by
  have hkept : Kept 6 0xFFFF b 0 [0x31, 0xFF, 0xFF] := hload.code layout.start
  have hld := leads_ldWide (r := {}) (k := 0) hkept.holds rfl rfl rfl rfl rfl
  refine hld.conseq (fun s hs => hs) ?_
  intro s hs
  exact ⟨{}, b, hload, b, hs, Same.refl _ _ _⟩

omit [MemoryMap M] [Device K] in
/-- Cards without a pending interrupt. -/
theorem interrupting_of_quiet {cards : CardBus M} (h : cards.card0.interrupt = false)
    (h₁ : ∀ card1, cards.card1 = some card1 → card1.interrupt = false) :
    cards.interrupting = false := by
  rw [CardBus.interrupting, h, Bool.and_false, if_neg Bool.false_ne_true]
  cases hcard : cards.card1 with
  | none => rfl
  | some card1 =>
    show (card1.interruptEnabled && card1.interrupt) = false
    rw [h₁ card1 hcard, Bool.and_false]

/-- Sector 0 of the image, with the message at its start. -/
def helloSector (mmap : M) : List U8 := helloMsg ++ (sector mmap 0).drop helloMsg.length

/-- The image that the program flushes. -/
def helloWritten (mmap : M) : M := storeBytes mmap 0 (helloSector mmap)

/-- What the program prints on a machine with the image in drive 0. -/
def helloPrinted (mmap : M) : List U8 :=
  (greeting (BitVec.ofNat 32 (MemoryMap.len mmap / SECTOR_SIZE))).flatten ++
    farewell (MemoryMap.flush (helloWritten mmap)).2

omit [Device K] in
theorem length_helloSector (mmap : M) : (helloSector mmap).length = SECTOR_SIZE := by
  rw [helloSector, List.length_append, List.length_drop, length_sector, length_helloMsg,
    SECTOR_SIZE_eq]

omit [Device K] in
/-- The rest of the sector is written as it was read. -/
theorem overlay_helloSector (mmap : M) :
    overlay (MemoryMap.byte mmap) 0 (helloSector mmap) =
      overlay (MemoryMap.byte mmap) 0 helloMsg := by
  rw [helloSector, overlay_append]
  apply overlay_eq_self
  intro j hj
  rw [overlay_of_out _ _ _ (by omega), List.getElem_drop, Nat.zero_add]
  simp only [sector, List.getElem_map, List.getElem_range, Nat.zero_mul, Nat.zero_add]

/-- **The program on the board.** -/
theorem leads_helloHd {k k' : K} (hin : InRange (MemoryMap.len mmap0) 0)
    (htypes : types kb (helloPrinted mmap0) = some k) (hquits : Quits k k') :
    ∃ s, Arrives Board.loop ({}, Board.boot helloHdRom kb (some (CardBus.new mmap0 mmap1))) s ∧
      s.1.halted = true ∧ ∃ cards, s.2.hd = some cards ∧ s.2.kb = k' ∧
        cards.card0.mmap = (MemoryMap.flush (helloWritten mmap0)).1 ∧
        MemoryMap.len cards.card0.mmap = MemoryMap.len mmap0 ∧
        MemoryMap.byte cards.card0.mmap = overlay (MemoryMap.byte mmap0) 0 helloMsg ∧
        cards.card1 = mmap1.map Card.new := by
  let cards := CardBus.new mmap0 mmap1
  let cards₁ := cards.setRegisters (cards.registers.put 1 0x01)
  let cards₂ := cards₁.setRegisters (address cards₁.registers 0 0)
  have hsel : cards.registers.drive = .zero := if_pos (show (0 : U8) &&& 0x10 = 0 from rfl)
  rw [helloPrinted, types_append] at htypes
  obtain ⟨kb₁, hgreeting, hfarewell⟩ := Option.bind_eq_some_iff.1 htypes
  -- What the disk tells of itself.
  obtain ⟨s₁, harrives₁, c₁, ⟨hwf₁, hmmap₁⟩, hs₁⟩ :=
    ((leads_start (loaded_boot kb mmap0 mmap1)).trans
      (reached_hd8Bit hsel (Card.wellFormed_new mmap0))) ({}, _) ⟨rfl, rfl, rfl, rfl, rfl⟩
  obtain ⟨s₂, harrives₂, c₂, ⟨hwf₂, hmmap₂⟩, hs₂⟩ :=
    reached_hdIdent (show cards₁.registers.drive = .zero from hsel) hwf₁ s₁ hs₁
  replace hmmap₁ : c₁.mmap = mmap0 := hmmap₁
  rw [hmmap₁] at hmmap₂ hs₂
  obtain ⟨s₃, harrives₃, hs₃⟩ := reached_greeting hgreeting s₂ hs₂
  -- Sector 0, in and out.
  obtain ⟨s₄, harrives₄, c₃, ⟨hready₃, hmmap₃⟩, hs₄⟩ :=
    reached_hdRead hwf₂.ready (show InRange (MemoryMap.len c₂.mmap) 0 from hmmap₂.symm ▸ hin) s₃ hs₃
  rw [hmmap₂] at hmmap₃ hs₄
  obtain ⟨s₅, harrives₅, hs₅⟩ := reached_copy (length_sector _ _) s₄ hs₄
  obtain ⟨s₆, harrives₆, c₄, ⟨hirq, hmmap₄, hsize, hbyte⟩, hs₆⟩ :=
    reached_hdWrite hready₃ (show InRange (MemoryMap.len c₃.mmap) 0 from hmmap₃.symm ▸ hin)
      (length_helloSector mmap0) s₅ hs₅
  rw [hmmap₃] at hmmap₄ hsize hbyte hs₆
  -- The last words, and the `q`.
  have hend : Leads Board.loop (fun s => if (MemoryMap.flush (helloWritten mmap0)).2 then
      Reached 0x88 cards₂ c₄ kb₁ (helloSector mmap0) s
      else Failing (Error.AMNF ||| Error.BBK) cards₂ c₄ kb₁ (helloSector mmap0) s)
      (Reached exitAt cards₂ c₄ k (helloSector mmap0)) := by
    cases hok : (MemoryMap.flush (helloWritten mmap0)).2 with
    | true =>
      rw [hok] at hfarewell
      exact reached_done hfarewell
    | false =>
      rw [hok] at hfarewell
      exact reached_err hfarewell
  have hline : CardBus.interrupting (cards₂.setCard c₄ .zero) = false := by
    refine interrupting_of_quiet hirq ?_
    intro card1 hcard
    obtain ⟨m, -, rfl⟩ := Option.map_eq_some_iff.1 (show mmap1.map Card.new = some card1 from hcard)
    rfl
  obtain ⟨s, harrives, hhalted, hhd, hkb⟩ := (hend.trans (leads_exit hline hquits)) s₆ hs₆
  exact ⟨s, ((harrives₁.trans harrives₂).trans (harrives₃.trans harrives₄)).trans
    ((harrives₅.trans harrives₆).trans harrives), hhalted, _, hhd, hkb, hmmap₄, hsize,
    hbyte.trans (overlay_helloSector mmap0), rfl⟩

/-- **`hello_hd.az8`, from the ROM to the end of the loop**: in every build and with every image of
a sector or more the emulator prints the greeting and stops.  The image is flushed as it was but for
the message at its start, and the last line tells whether that flush succeeded. -/
theorem main_hello_hd (m : Overflow) {k k' : K} (hin : InRange (MemoryMap.len mmap0) 0)
    (htypes : types kb (helloPrinted mmap0) = some k) (hquits : Quits k k') :
    ∃ n t t' cards,
      (System.new kb (some (CardBus.new mmap0 mmap1))).writeRam helloHdRom 0 = some t ∧
        System.main m n t = some t' ∧ t'.view.hd = some cards ∧ t'.view.kb = k' ∧
        cards.card0.mmap = (MemoryMap.flush (helloWritten mmap0)).1 ∧
        MemoryMap.len cards.card0.mmap = MemoryMap.len mmap0 ∧
        MemoryMap.byte cards.card0.mmap = overlay (MemoryMap.byte mmap0) 0 helloMsg ∧
        cards.card1 = mmap1.map Card.new := by
  obtain ⟨s, harrives, hhalted, cards, hhd, hkb, hdisk⟩ := leads_helloHd hin htypes hquits
  have hfits : helloHdRom.length ≤ RAM_SIZE := by
    rw [length_helloHdRom, RAM_SIZE_eq]
    decide
  obtain ⟨n, t, t', hboot, hmain, hruns⟩ := main_of_board m hfits harrives hhalted
  exact ⟨n, t, t', cards, hboot, hmain, hruns.shows.hd.trans hhd, hruns.shows.kb.trans hkb, hdisk⟩

end

/-- Writing bytes leaves the outcomes of the next flushes. -/
theorem flushes_storeBytes (mmap : Image) (i : ℕ) (bytes : List U8) :
    (storeBytes mmap i bytes).flushes = mmap.flushes := by
  induction bytes generalizing mmap i with
  | nil => rfl
  | cons v bytes ih =>
    rw [storeBytes, ih]
    rfl

/-- Two sectors whose flush fails, and a keyboard where somebody types a `q`. -/
theorem main_hello_hd_two :
    let mmap : Image := { twoSectors with flushes := [false] }
    let kb := AsciiKeyboard.new ⟨fun _ => 0, fun _ => some [0x71], fun _ => true⟩ 0
    let typed := { kb with
      stdout := (greeting (BitVec.ofNat 32 (MemoryMap.len mmap / SECTOR_SIZE))).flatten ++
        (errMsg ++ [0x38, 0x31]) }
    ∃ n t t' cards,
      (System.new kb (some (CardBus.new mmap none))).writeRam helloHdRom 0 = some t ∧
        System.main .wraps n t = some t' ∧ t'.view.hd = some cards ∧ t'.view.kb = typed.read.2 ∧
        cards.card0.mmap = (MemoryMap.flush (helloWritten mmap)).1 ∧
        MemoryMap.len cards.card0.mmap = MemoryMap.len mmap ∧
        MemoryMap.byte cards.card0.mmap = overlay (MemoryMap.byte mmap) 0 helloMsg ∧
        cards.card1 = none := by
  intro mmap kb typed
  have hbad : (MemoryMap.flush (helloWritten mmap)).2 = false := by
    show (helloWritten mmap).flushes.headD true = false
    rw [helloWritten, flushes_storeBytes]
    rfl
  have hcode : hexByte (Error.AMNF ||| Error.BBK) = [0x38, 0x31] := by decide
  have hprinted : helloPrinted mmap = typed.stdout := by
    rw [helloPrinted, hbad, farewell, if_neg Bool.false_ne_true, hcode]
  have htypes : types kb (helloPrinted mmap) = some typed := by
    rw [hprinted]
    exact types_of_accepts (k := kb) (fun _ => rfl) _
  have hquits : Quits typed typed.read.2 := .quit (v := 0x71) rfl rfl
  exact main_hello_hd .wraps inRange_twoSectors htypes hquits

end Possum.Software
