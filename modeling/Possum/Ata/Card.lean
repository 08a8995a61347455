import Possum.Words

/-!
# The Compact Flash card

`ata/mod.rs`, the card itself: one disk image behind a command state machine.  A card
answers `readData` and `writeData` (the data port) and `writeCommand` (the command port).
Each returns `none` where the source panics: an image index out of range, the identify
buffer overrun, and the `todo!()` of REQUEST SENSE.

The image is any `MemoryMap`.  The trait says no more than that it can be indexed, written
and flushed and has a length; the laws added here are what a memory-mapped file gives: a
byte array of fixed length, which a flush (successful or not) leaves as it is.
-/

set_option autoImplicit false

namespace Possum.Ata

/-- `trait MemoryMap`, with the laws of a byte array of fixed length. -/
class MemoryMap (M : Type) where
  len : M → ℕ
  byte : M → ℕ → U8
  setByte : M → ℕ → U8 → M
  /-- The map after the flush, and whether the flush returned `Ok`. -/
  flush : M → M × Bool
  len_setByte : ∀ m i b, len (setByte m i b) = len m
  byte_setByte : ∀ m i b j, i < len m → byte (setByte m i b) j = if j = i then b else byte m j
  len_flush : ∀ m, len (flush m).1 = len m
  byte_flush : ∀ m j, byte (flush m).1 j = byte m j

attribute [simp] MemoryMap.len_setByte MemoryMap.len_flush MemoryMap.byte_flush

/-- An image held in memory, with the outcomes of its next flushes. -/
structure Image where
  bytes : List U8
  flushes : List Bool := []
  deriving DecidableEq, Repr

instance : MemoryMap Image where
  len m := m.bytes.length
  byte m i := m.bytes.getD i 0
  setByte m i b := { m with bytes := m.bytes.set i b }
  flush m := ({ m with flushes := m.flushes.tail }, m.flushes.headD true)
  len_setByte := by simp
  byte_setByte := by
    intro m i b j hi
    rcases eq_or_ne j i with rfl | hne
    · simp [List.getD_eq_getElem?_getD, hi]
    · simp [List.getD_eq_getElem?_getD, List.getElem?_set_ne hne.symm, hne]
  len_flush := by simp
  byte_flush := by simp

section Indexing

variable {M : Type} [MemoryMap M]

/-- `mmap[i]`, which panics out of range. -/
def index (m : M) (i : ℕ) : Option U8 :=
  if i < MemoryMap.len m then some (MemoryMap.byte m i) else none

/-- `mmap[i] = b`, which panics out of range. -/
def indexMut (m : M) (i : ℕ) (b : U8) : Option M :=
  if i < MemoryMap.len m then some (MemoryMap.setByte m i b) else none

end Indexing

/-! ### Registers -/

namespace Status

/-- Last operation was an error. -/
def ERR : U8 := 0x01
/-- Requesting data from host. -/
def DRQ : U8 := 0x08
/-- Compact flash ready. -/
def DSC : U8 := 0x10
/-- Ready to accept first command. -/
def RDY : U8 := 0x40
/-- Busy executing command. -/
def BUSY : U8 := 0x80

end Status

namespace Error

/-- Address mark not found (generic r/w bit). -/
def AMNF : U8 := 0x01
/-- Aborted (unsupported operation). -/
def ABRT : U8 := 0x04
/-- ID not found (bad lba). -/
def IDNF : U8 := 0x10
/-- Bad block (bad sector). -/
def BBK : U8 := 0x80

end Error

inductive CommandState
  | none
  | identifyDevice
  | readSectors
  | writeSectors
  deriving DecidableEq, Repr

/-- The task-file registers, shared by the two cards of a bus. -/
structure SharedRegisters where
  feature : U8 := 0
  sectorCount : U8 := 0
  sectorNumber : U8 := 0
  cylinderLow : U8 := 0
  cylinderHigh : U8 := 0
  driveHead : U8 := 0
  deriving DecidableEq, Repr

structure Card (M : Type) where
  mmap : M
  deviceInfo : List U8
  interrupt : Bool
  interruptEnabled : Bool
  is8Bit : Bool
  state : CommandState
  error : U8
  status : U8
  lba : U32
  sectorOffset : ℕ

/-- Irreducible, as `deviceInfo` is, so that no unification counts to 512. -/
@[irreducible] def SECTOR_SIZE : ℕ := 512

theorem SECTOR_SIZE_eq : SECTOR_SIZE = 512 := by unfold SECTOR_SIZE; rfl

theorem SECTOR_SIZE_pos : 0 < SECTOR_SIZE := by
  rw [SECTOR_SIZE_eq]
  omega

/-! ### The identify buffer -/

/-- `for (i, b) in bs.iter().enumerate() { info[start + i] = *b; }` -/
def putBytes (info : List U8) (start : ℕ) : List U8 → List U8
  | [] => info
  | b :: bs => putBytes (info.set start b) (start + 1) bs

/-- The bytes of an ASCII string. -/
def ascii (s : List Char) : List U8 := s.map fun c => BitVec.ofNat 8 c.toNat

/-- `u32::to_le_bytes` -/
def toLeBytes (x : U32) : List U8 :=
  [x.setWidth 8, (x >>> 8).setWidth 8, (x >>> 16).setWidth 8, (x >>> 24).setWidth 8]

/-- `b"0-12345-67890-123456"` -/
def serialNumber : List U8 :=
  ascii ['0', '-', '1', '2', '3', '4', '5', '-', '6', '7', '8', '9', '0', '-', '1', '2', '3', '4',
    '5', '6']

/-- `b"POSSUM01"` -/
def firmwareRevision : List U8 := ascii ['P', 'O', 'S', 'S', 'U', 'M', '0', '1']

/-- `b"POSSUM-CF-CARD-EMULATOR-01              "` -/
def modelNumber : List U8 :=
  ascii (['P', 'O', 'S', 'S', 'U', 'M', '-', 'C', 'F', '-', 'C', 'A', 'R', 'D', '-', 'E', 'M', 'U',
    'L', 'A', 'T', 'O', 'R', '-', '0', '1'] ++ List.replicate 14 ' ')

@[irreducible] def deviceInfo (diskSize : ℕ) : List U8 :=
  let info := List.replicate SECTOR_SIZE 0
  let info := putBytes info 0 [0x8A, 0x84] -- the CF card signature 0x848A
  let sectorCount : U32 := BitVec.ofNat 32 (diskSize / SECTOR_SIZE)
  let info := putBytes info 14 (toLeBytes sectorCount)
  let info := putBytes info 20 serialNumber
  let info := info.set 44 0x04
  let info := putBytes info 46 firmwareRevision
  let info := putBytes info 54 modelNumber
  let info := putBytes info 94 [0x01, 0x00] -- max multiple sectors
  let info := info.set 99 0x02 -- LBA supported
  let info := info.set 118 0x01
  let info := info.set 119 0x00
  putBytes info 120 (toLeBytes sectorCount)

namespace Card

variable {M : Type} [MemoryMap M]

def new (mmap : M) : Card M where
  mmap := mmap
  deviceInfo := Ata.deviceInfo (MemoryMap.len mmap)
  interrupt := false
  interruptEnabled := false
  is8Bit := false
  state := .none
  error := 0
  status := Status.RDY ||| Status.DSC
  lba := 0
  sectorOffset := 0

/-! ### The data port -/

def readData (c : Card M) : Option (U8 × Card M) :=
  if c.status &&& Status.BUSY ≠ 0 then some (0, c)
  else match c.state with
  | .none => some (0, c)
  | .identifyDevice => do
      let data ← c.deviceInfo[c.sectorOffset]?
      let c := { c with sectorOffset := c.sectorOffset + 1 }
      if c.sectorOffset = SECTOR_SIZE then
        some (data, { c with error := 0, status := c.status &&& ~~~Status.DRQ, state := .none })
      else
        some (data, c)
  | .readSectors => do
      let offset := c.lba.toNat * SECTOR_SIZE + c.sectorOffset
      let data ← index c.mmap offset
      let c := { c with sectorOffset := c.sectorOffset + 1 }
      if c.sectorOffset = SECTOR_SIZE then
        some (data, { c with status := c.status &&& ~~~Status.DRQ, state := .none })
      else
        some (data, c)
  | .writeSectors => some (0, c)

def writeData (c : Card M) (data : U8) : Option (Card M) :=
  if c.status &&& Status.BUSY ≠ 0 then some c
  else match c.state with
  | .none => some c
  | .identifyDevice => some c
  | .readSectors => some c
  | .writeSectors => do
      let offset := c.lba.toNat * SECTOR_SIZE + c.sectorOffset
      let mmap ← indexMut c.mmap offset data
      let c := { c with mmap := mmap, sectorOffset := c.sectorOffset + 1 }
      if c.sectorOffset = SECTOR_SIZE then
        let (mmap, ok) := MemoryMap.flush c.mmap
        let c := { c with mmap := mmap }
        -- the state stays `writeSectors` here, and after a good flush so does DRQ
        if ok then some c
        else
          some { c with
            error := c.error ||| (Error.AMNF ||| Error.BBK)
            status := c.status &&& ~~~(Status.BUSY ||| Status.DRQ) ||| Status.ERR }
      else
        some c

/-! ### The command port -/

/-- The LBA register after the four masked assignments that latch it. -/
def latchLba (lba : U32) (registers : SharedRegisters) : U32 :=
  let lba := (lba &&& 0xFFFFFF00) ||| (registers.sectorNumber.setWidth 32 <<< 0)
  let lba := (lba &&& 0xFFFF00FF) ||| (registers.cylinderLow.setWidth 32 <<< 8)
  let lba := (lba &&& 0xFF00FFFF) ||| (registers.cylinderHigh.setWidth 32 <<< 16)
  (lba &&& 0x00FFFFFF) ||| ((registers.driveHead &&& 0x0F).setWidth 32 <<< 24)

/-- `self.status |= Status::ERR; self.error |= error;` -/
def fail (c : Card M) (error : U8) : Card M :=
  { c with status := c.status ||| Status.ERR, error := c.error ||| error }

/-- The error of a sector command issued outside LBA mode. -/
def notLba (c : Card M) : Card M := c.fail (Error.AMNF ||| Error.IDNF ||| Error.ABRT)

/-- `for i in 0..SECTOR_SIZE { mmap[offset + i] = 0xFF; }` -/
def fillSector (m : M) (offset : ℕ) : Option M :=
  (List.range SECTOR_SIZE).foldlM (fun m i => indexMut m (offset + i) 0xFF) m

/-- The commands, under the names the arms of `write_command` carry. -/
inductive Command
  | executeDriveDiagnostic
  | eraseSectors
  | identifyDevice
  | nop
  | readSectors
  | readVerifySectors
  | requestSense
  | setFeatures
  | writeSectors
  | invalid
  deriving DecidableEq, Repr

/-- The command a byte on the command port stands for. -/
def command (data : U8) : Command :=
  match data.toNat with
  | 0x90 => .executeDriveDiagnostic
  | 0xC0 => .eraseSectors
  | 0xEC => .identifyDevice
  | 0x00 => .nop
  | 0x20 | 0x21 => .readSectors
  | 0x40 | 0x41 => .readVerifySectors
  | 0x03 => .requestSense
  | 0xEF => .setFeatures
  | 0x30 | 0x31 | 0x38 | 0x3C => .writeSectors
  | _ => .invalid

/-- `match data { .. }`, the body of `write_command` after the LBA is latched and the errors
are cleared. -/
def dispatch (c : Card M) (registers : SharedRegisters) : Command → Option (Card M)
  | .executeDriveDiagnostic =>
      some { c with error := 0x01 } -- 1 means no error detected
  | .eraseSectors =>
      if registers.driveHead &&& 0x40 = 0 then some c.notLba
      else do
        let mmap ← fillSector c.mmap (c.lba.toNat * SECTOR_SIZE)
        let (mmap, ok) := MemoryMap.flush mmap
        let c := { c with mmap := mmap }
        if ok then some c else some (c.fail (Error.AMNF ||| Error.BBK))
  | .identifyDevice =>
      some { c with
        interrupt := true, sectorOffset := 0, status := c.status ||| Status.DRQ,
        state := .identifyDevice }
  | .nop => -- always aborts
      some (c.fail (Error.AMNF ||| Error.ABRT))
  | .readSectors =>
      if registers.driveHead &&& 0x40 = 0 then some c.notLba
      else
        let c := { c with interrupt := true, sectorOffset := 0 }
        let offset := c.lba.toNat * SECTOR_SIZE + c.sectorOffset
        if MemoryMap.len c.mmap < offset then some (c.fail (Error.AMNF ||| Error.IDNF))
        else some { c with status := c.status ||| Status.DRQ, state := .readSectors }
  | .readVerifySectors =>
      if registers.driveHead &&& 0x40 = 0 then some c.notLba
      else some { c with interrupt := true }
  | .requestSense => none -- todo!()
  | .setFeatures =>
      match registers.feature.toNat with
      | 0x01 => some { c with is8Bit := true }
      | 0x02 => some { c with is8Bit := false }
      | _ => some (c.fail (Error.AMNF ||| Error.ABRT))
  | .writeSectors =>
      if registers.driveHead &&& 0x40 = 0 then some c.notLba
      else some { c with
        sectorOffset := 0, status := c.status ||| Status.DRQ, state := .writeSectors }
  | .invalid =>
      some (c.fail (Error.AMNF ||| Error.ABRT))

def writeCommand (c : Card M) (registers : SharedRegisters) (data : U8) : Option (Card M) :=
  if c.status &&& Status.BUSY ≠ 0 then some c
  else
    -- the LBA is latched before the command is looked at
    let c := { c with lba := latchLba c.lba registers }
    let c := { c with error := 0, status := c.status &&& ~~~Status.ERR }
    c.dispatch registers (command data)

end Card

end Possum.Ata
