import Possum.Ata.Transfer
import Possum.Lib.Store

/-!
# The card bus is an array of sectors

The abstract component is a store of 512-byte sectors for each drive (`Lib.StoreOp` at
sectors).  The guest works it with whole operations: READ or WRITE and 512 data bytes, or
ERASE (`SectorOp`).  `Performs jobs xs` says that the accesses `xs` of one drive carry out
the operations `jobs`, one after the other, with status polls wherever the guest likes.

* `Completes` is what operations leave of a card: it is ready, its image follows the store and
  its data port has answered what the store answers.  `run_sector_read`, `run_sector_write` and
  `run_sector_erase` establish it for one operation, and `run_performs`, the simulation for one
  card, for a list of them by induction.
* `bus_refines_sectors` lifts it to the bus.  The port accesses of the two drives may be
  interleaved in any way: what counts is that the accesses *each drive sees* perform its
  operations, and `Drives` has reduced the bus to its drives.
* `accesses_setUp` is the usual way to begin: write ports 3 to 6, then the command port.
-/

set_option autoImplicit false

namespace Possum.Ata

open Lib Lib.Machine

/-! ### Sectors and operations on them -/

abbrev Sector := Vector U8 SECTOR_SIZE

/-- A complete operation on sector `L`. -/
inductive SectorOp
  | read (L : ℕ)
  | write (L : ℕ) (bytes : Sector)
  | erase (L : ℕ)

namespace SectorOp

def sector : SectorOp → ℕ
  | .read L => L
  | .write L _ => L
  | .erase L => L

/-- The operation on the abstract store; ERASE stores `0xFF`. -/
def storeOp : SectorOp → StoreOp ℕ Sector
  | .read L => .read L
  | .write L bytes => .write L bytes
  | .erase L => .write L (Vector.replicate SECTOR_SIZE 0xFF)

end SectorOp

/-- The registers address sector `L`: LBA mode, and `L` in the LBA registers. -/
structure SharedRegisters.Addresses (r : SharedRegisters) (L : ℕ) : Prop where
  mode : r.lbaMode
  lba_eq : r.lba.toNat = L

/-- The accesses carry out the operations. -/
inductive Performs : List SectorOp → List (SharedRegisters × CardAccess) → Prop
  | nil : Performs [] []
  | poll {jobs xs} (r : SharedRegisters) (rest : Performs jobs xs) :
      Performs jobs ((r, .readStatus) :: xs)
  | read {jobs xs L r code} (data : List (SharedRegisters × CardAccess))
      (hr : r.Addresses L) (hcode : Card.command code = .readSectors)
      (hdata : ∀ x ∈ data, x.2 = .readData ∨ x.2 = .readStatus)
      (hcount : dataReads data = SECTOR_SIZE) (rest : Performs jobs xs) :
      Performs (.read L :: jobs) ((r, .command code) :: data ++ xs)
  | write {jobs xs L r code} (bytes : Sector) (data : List (SharedRegisters × CardAccess))
      (hr : r.Addresses L) (hcode : Card.command code = .writeSectors)
      (hdata : ∀ x ∈ data, (∃ b, x.2 = .writeData b) ∨ x.2 = .readStatus)
      (hbytes : dataWritten data = bytes.toList) (rest : Performs jobs xs) :
      Performs (.write L bytes :: jobs) ((r, .command code) :: data ++ xs)
  | erase {jobs xs L r code} (hr : r.Addresses L) (hcode : Card.command code = .eraseSectors)
      (rest : Performs jobs xs) :
      Performs (.erase L :: jobs) ((r, .command code) :: xs)

section

variable {M : Type} [MemoryMap M]

/-- The sectors of an image; the last one runs past its end. -/
def sectors (m : M) : ℕ → Sector := block SECTOR_SIZE (MemoryMap.byte m)

theorem sectors_write {m m' : M} {L : ℕ} (bytes : Sector)
    (h : MemoryMap.byte m' = overlay (MemoryMap.byte m) (L * SECTOR_SIZE) bytes.toList) :
    sectors m' = Function.update (sectors m) L bytes := by
  rw [sectors, h, block_overlay]
  rfl

theorem toList_sectors (m : M) (L : ℕ) :
    (sectors m L).toList
      = (List.range' 0 SECTOR_SIZE).map fun j => MemoryMap.byte m (L * SECTOR_SIZE + j) := by
  apply List.ext_getElem
  · simp
  · intro j h₁ h₂
    simp [sectors, block]

/-! ### One card -/

namespace Card

/-- A card has carried out the operations: it is ready, its image follows the store, and its
data port has answered, byte for byte, the sectors the store answers. -/
structure Completes (jobs : List SectorOp) (xs : List (SharedRegisters × CardAccess))
    (os : List (Option U8)) (c c' : Card M) : Prop where
  ready : c'.Ready
  len_eq : MemoryMap.len c'.mmap = MemoryMap.len c.mmap
  sectors_eq : sectors c'.mmap = StoreOp.stored (sectors c.mmap) (jobs.map SectorOp.storeOp)
  data_eq : dataRead xs os =
    (StoreOp.answers (sectors c.mmap) (jobs.map SectorOp.storeOp)).flatMap Vector.toList

theorem Completes.append {jobs jobs' : List SectorOp}
    {xs xs' : List (SharedRegisters × CardAccess)} {os os' : List (Option U8)}
    {c c₁ c₂ : Card M} (h : Completes jobs xs os c c₁) (h' : Completes jobs' xs' os' c₁ c₂)
    (hlen : os.length = xs.length) :
    Completes (jobs ++ jobs') (xs ++ xs') (os ++ os') c c₂ where
  ready := h'.ready
  len_eq := h'.len_eq.trans h.len_eq
  sectors_eq := by
    rw [h'.sectors_eq, h.sectors_eq, List.map_append, StoreOp.stored_append]
  data_eq := by
    rw [dataRead_append hlen, h.data_eq, h'.data_eq, h.sectors_eq, List.map_append,
      StoreOp.answers_append, List.flatMap_append]

/-- A READ and 512 bytes answered. -/
theorem run_sector_read {c : Card M} {r : SharedRegisters} {code : U8} {L : ℕ}
    {data : List (SharedRegisters × CardAccess)} (hready : c.Ready) (hr : r.Addresses L)
    (hcode : command code = .readSectors)
    (hdata : ∀ x ∈ data, x.2 = .readData ∨ x.2 = .readStatus)
    (hcount : dataReads data = SECTOR_SIZE) (hin : InRange (MemoryMap.len c.mmap) L) :
    ∃ os c', run Card.step c ((r, .command code) :: data) = some (os, c') ∧
      Completes [.read L] ((r, .command code) :: data) os c c' := by
  obtain ⟨hmode, rfl⟩ := hr
  obtain ⟨c₁, hcmd, hm₁, htr₁, -⟩ := writeCommand_read hready hcode hmode hin.le
  have hno : ∀ x ∈ data, ∀ code, x.2 ≠ .command code := by
    intro x hx code
    rcases hdata x hx with hx' | hx' <;> rw [hx'] <;> nofun
  rw [← readState_zero] at htr₁
  obtain ⟨os, c', hrun, hm', htr', hread⟩ := run_read htr₁ (hm₁.symm ▸ hin)
    (quiet_of_no_command hno _) (addressed_of_no_command hno _) (by omega)
  have hm : c'.mmap = c.mmap := hm'.trans hm₁
  refine ⟨none :: os, c', run_command hcmd hrun, htr'.ready, by rw [hm], by rw [hm]; rfl, ?_⟩
  rw [dataRead_cons_command, hread, hcount, hm₁, ← toList_sectors]
  exact (List.append_nil _).symm

/-- A WRITE and 512 bytes stored. -/
theorem run_sector_write {c : Card M} {r : SharedRegisters} {code : U8} {L : ℕ}
    {bytes : Sector} {data : List (SharedRegisters × CardAccess)} (hready : c.Ready)
    (hr : r.Addresses L) (hcode : command code = .writeSectors)
    (hdata : ∀ x ∈ data, (∃ b, x.2 = .writeData b) ∨ x.2 = .readStatus)
    (hbytes : dataWritten data = bytes.toList) (hin : InRange (MemoryMap.len c.mmap) L) :
    ∃ os c', run Card.step c ((r, .command code) :: data) = some (os, c') ∧
      Completes [.write L bytes] ((r, .command code) :: data) os c c' := by
  obtain ⟨hmode, rfl⟩ := hr
  obtain ⟨c₁, hcmd, hm₁, htr₁, -⟩ := writeCommand_write hready hcode hmode
  have hin₁ : InRange (MemoryMap.len c₁.mmap) r.lba.toNat := hm₁.symm ▸ hin
  have hcount : (dataWritten data).length = SECTOR_SIZE := by rw [hbytes, Vector.length_toList]
  have hno : ∀ x ∈ data, ∀ code, x.2 ≠ .command code := by
    intro x hx code
    rcases hdata x hx with ⟨b, hx'⟩ | hx' <;> rw [hx'] <;> nofun
  have hnoread : ∀ x ∈ data, x.2 ≠ .readData := by
    intro x hx
    rcases hdata x hx with ⟨b, hx'⟩ | hx' <;> rw [hx'] <;> nofun
  obtain ⟨os, c', hrun, hlen', hbyte', htr', -⟩ := run_write htr₁ hin₁
    (quiet_of_no_command hno _) (addressed_of_no_command hno _) (by rw [hcount]; exact hin₁)
  refine ⟨none :: os, c', run_command hcmd hrun, htr'.ready, by rw [hlen', hm₁], ?_, ?_⟩
  · rw [← hm₁]
    exact sectors_write bytes (by rw [hbyte', hbytes]; rfl)
  · rw [dataRead_cons_command, dataRead_eq_nil os hnoread]
    rfl

/-- An ERASE. -/
theorem run_sector_erase {c : Card M} {r : SharedRegisters} {code : U8} {L : ℕ}
    (hready : c.Ready) (hr : r.Addresses L) (hcode : command code = .eraseSectors)
    (hin : InRange (MemoryMap.len c.mmap) L) :
    ∃ os c', run Card.step c [(r, .command code)] = some (os, c') ∧
      Completes [.erase L] [(r, .command code)] os c c' := by
  obtain ⟨hmode, rfl⟩ := hr
  obtain ⟨c', hcmd, hready', hlen', hbyte'⟩ := writeCommand_erase hready hcode hmode hin
  refine ⟨[none], c', run_command hcmd (run_nil c'), hready', hlen', ?_, rfl⟩
  exact sectors_write _ (by rw [hbyte', Vector.toList_replicate])

/-- One operation, then the rest of them. -/
theorem run_then {op : SectorOp} {jobs : List SectorOp}
    {xs xs' : List (SharedRegisters × CardAccess)} {c : Card M}
    (hfirst : ∃ os c₁, run Card.step c xs = some (os, c₁) ∧ Completes [op] xs os c c₁)
    (hin : ∀ op' ∈ op :: jobs, InRange (MemoryMap.len c.mmap) op'.sector)
    (hrest : ∀ {c₁ : Card M}, c₁.Ready →
      (∀ op' ∈ jobs, InRange (MemoryMap.len c₁.mmap) op'.sector) →
      ∃ os c', run Card.step c₁ xs' = some (os, c') ∧ Completes jobs xs' os c₁ c') :
    ∃ os c', run Card.step c (xs ++ xs') = some (os, c') ∧
      Completes (op :: jobs) (xs ++ xs') os c c' := by
  obtain ⟨os₁, c₁, hrun₁, hdone₁⟩ := hfirst
  have hin₁ : ∀ op' ∈ jobs, InRange (MemoryMap.len c₁.mmap) op'.sector := by
    intro op' hop
    rw [hdone₁.len_eq]
    exact hin op' (List.mem_cons_of_mem _ hop)
  obtain ⟨os₂, c₂, hrun₂, hdone₂⟩ := hrest hdone₁.ready hin₁
  exact ⟨os₁ ++ os₂, c₂, run_append_of_some hrun₁ hrun₂,
    hdone₁.append hdone₂ (length_of_run hrun₁)⟩

/-- **The simulation for one card.**  A ready card carries out the operations that are
performed on it. -/
theorem run_performs {jobs : List SectorOp} {xs : List (SharedRegisters × CardAccess)}
    (hp : Performs jobs xs) {c : Card M} (hready : c.Ready)
    (hin : ∀ op ∈ jobs, InRange (MemoryMap.len c.mmap) op.sector) :
    ∃ os c', run Card.step c xs = some (os, c') ∧ Completes jobs xs os c c' := by
  induction hp generalizing c with
  | nil => exact ⟨[], c, rfl, hready, rfl, rfl, rfl⟩
  | poll r rest ih =>
    have hacc : Card.step c (r, .readStatus) = some (some c.status, { c with interrupt := false }) :=
      rfl
    obtain ⟨os, c', hrun, hdone⟩ := ih (c := { c with interrupt := false }) hready hin
    refine ⟨some c.status :: os, c', by rw [run_cons hacc, hrun]; rfl, ?_⟩
    exact ⟨hdone.ready, hdone.len_eq, hdone.sectors_eq, hdone.data_eq⟩
  | read data hr hcode hdata hcount rest ih =>
    have hL := hin _ (List.mem_cons_self ..)
    exact run_then (run_sector_read hready hr hcode hdata hcount hL) hin ih
  | write bytes data hr hcode hdata hbytes rest ih =>
    have hL := hin _ (List.mem_cons_self ..)
    exact run_then (run_sector_write hready hr hcode hdata hbytes hL) hin ih
  | erase hr hcode rest ih =>
    have hL := hin _ (List.mem_cons_self ..)
    exact run_then (run_sector_erase hready hr hcode hL) hin ih

end Card

/-! ### Setting up an operation -/

/-- Write the LBA and the drive into ports 3 to 6, then the command port. -/
def setUp (sectorNumber cylinderLow cylinderHigh driveHead code : U8) : List PortOp :=
  [.write 3 sectorNumber, .write 4 cylinderLow, .write 5 cylinderHigh, .write 6 driveHead,
    .write 7 code]

/-- The registers after a set-up. -/
def SharedRegisters.address (r : SharedRegisters)
    (sectorNumber cylinderLow cylinderHigh driveHead : U8) : SharedRegisters :=
  { r with
    sectorNumber := sectorNumber, cylinderLow := cylinderLow, cylinderHigh := cylinderHigh,
    driveHead := driveHead }

/-- The drive selected by a set-up sees its command, with the registers of the set-up. -/
theorem accesses_setUp (d : Drive) (r : SharedRegisters) (s cl ch dh code : U8)
    (ops : List PortOp) :
    accesses d r (setUp s cl ch dh code ++ ops) =
      if (r.address s cl ch dh).drive = d then
        (r.address s cl ch dh, .command code) :: accesses d (r.address s cl ch dh) ops
      else accesses d (r.address s cl ch dh) ops := by
  simp only [setUp, List.cons_append, List.nil_append]
  rw [accesses_writeRegister (show (PortOp.write 3 s).access = .writeRegister 3 s from rfl),
    accesses_writeRegister (show (PortOp.write 4 cl).access = .writeRegister 4 cl from rfl),
    accesses_writeRegister (show (PortOp.write 5 ch).access = .writeRegister 5 ch from rfl),
    accesses_writeRegister (show (PortOp.write 6 dh).access = .writeRegister 6 dh from rfl),
    accesses_card (show (PortOp.write 7 code).access = .card (.command code) from rfl)]
  rfl

/-- Repeated accesses to a card reach the selected drive. -/
theorem accesses_replicate {op : PortOp} {a : CardAccess} (h : op.access = .card a) (d : Drive)
    (r : SharedRegisters) (n : ℕ) :
    accesses d r (List.replicate n op) = if r.drive = d then List.replicate n (r, a) else [] := by
  induction n with
  | zero => simp [accesses]
  | succ n ih =>
    rw [List.replicate_succ, accesses_card h, ih]
    by_cases hd : r.drive = d <;> simp [hd, List.replicate_succ]

/-! ### The bus -/

/-- The image in a drive of a freshly built bus. -/
def image (mmap0 : M) (mmap1 : Option M) : Drive → Option M
  | .zero => some mmap0
  | .one => mmap1

theorem card_new (mmap0 : M) (mmap1 : Option M) (d : Drive) :
    (CardBus.new mmap0 mmap1).card d = (image mmap0 mmap1 d).map Card.new := by
  cases d <;> rfl

/-- **The card bus refines a store of sectors on each drive.**  Let the port accesses `ops`,
as each drive sees them, perform in-range operations, however the two drives are
interleaved.  Then the bus does not panic; the bytes read from a drive are those of the
sectors the store answers, each the one last stored; the image ends as the store does; and
a byte whose sector was neither written nor erased is as it was.  The flushes may fail. -/
theorem bus_refines_sectors (mmap0 : M) (mmap1 : Option M) (jobs : Drive → List SectorOp)
    (ops : List PortOp) (hperf : ∀ d, Performs (jobs d) (accesses d {} ops))
    (hin : ∀ d m, image mmap0 mmap1 d = some m →
      ∀ op ∈ jobs d, InRange (MemoryMap.len m) op.sector) :
    ∃ os bus, run step (CardBus.new mmap0 mmap1) ops = some (os, bus) ∧
      ∀ d m, image mmap0 mmap1 d = some m → ∃ c, bus.card d = some c ∧
        dataRead (accesses d {} ops) (answersOf d {} ops os)
          = (StoreOp.answers (sectors m) ((jobs d).map SectorOp.storeOp)).flatMap Vector.toList ∧
        sectors c.mmap = StoreOp.stored (sectors m) ((jobs d).map SectorOp.storeOp) ∧
        MemoryMap.len c.mmap = MemoryMap.len m ∧
        ∀ i, (∀ op ∈ jobs d, op.sector = i / SECTOR_SIZE → op = .read op.sector) →
          MemoryMap.byte c.mmap i = MemoryMap.byte m i := by
  have hcard : ∀ d m, image mmap0 mmap1 d = some m →
      (CardBus.new mmap0 mmap1).card d = some (Card.new m) := by
    intro d m hm
    rw [card_new, hm, Option.map_some]
  have hsim : ∀ d m, image mmap0 mmap1 d = some m → _ := fun d m hm =>
    Card.run_performs (hperf d) (Card.ready_new m) (hin d m hm)
  -- the bus runs because each of its cards does
  obtain ⟨os, bus, hrun⟩ : ∃ os bus, run step (CardBus.new mmap0 mmap1) ops = some (os, bus) := by
    apply run_of_cards
    intro d c hc
    rw [card_new] at hc
    obtain ⟨m, hm, rfl⟩ := Option.map_eq_some_iff.1 hc
    obtain ⟨os, c', hrun, -⟩ := hsim d m hm
    exact Option.isSome_iff_exists.2 ⟨_, hrun⟩
  refine ⟨os, bus, hrun, ?_⟩
  intro d m hm
  obtain ⟨c, hproj, hc⟩ := run_card hrun (hcard d m hm)
  obtain ⟨os', c', hrun', -, hlen, hsec, hdata⟩ := hsim d m hm
  obtain ⟨rfl, rfl⟩ := Prod.mk.inj (Option.some.inj (hproj.symm.trans hrun'))
  refine ⟨c, hc, hdata, hsec, hlen, ?_⟩
  intro i hi
  have hblock : sectors c.mmap (i / SECTOR_SIZE) = sectors m (i / SECTOR_SIZE) := by
    rw [hsec]
    apply StoreOp.stored_of_not_written
    intro op hop v
    obtain ⟨job, hjob, rfl⟩ := List.mem_map.1 hop
    intro hwrite
    cases job with
    | read L => cases hwrite
    | write L bytes => cases hwrite; cases hi _ hjob rfl
    | erase L => cases hwrite; cases hi _ hjob rfl
  rw [eq_block SECTOR_SIZE_pos (MemoryMap.byte c.mmap) i,
    eq_block SECTOR_SIZE_pos (MemoryMap.byte m) i]
  exact congrArg (fun v : Sector => v.get _) hblock

/-- Erase sector 0 and read it back. -/
def eraseThenRead : List PortOp :=
  setUp 0 0 0 0x40 0xC0 ++ (setUp 0 0 0 0x40 0x20 ++ List.replicate SECTOR_SIZE (.read 0))

/-- On a disk of two zeroed sectors, with no second drive. -/
theorem bus_refines_sectors_erase_read :
    ∃ os bus, run step (CardBus.new (⟨List.replicate 1024 0, []⟩ : Image) none) eraseThenRead
        = some (os, bus) ∧
      dataRead (accesses .zero {} eraseThenRead) (answersOf .zero {} eraseThenRead os)
        = List.replicate SECTOR_SIZE 0xFF := by
  have hzero : accesses .zero {} eraseThenRead
      = ({ driveHead := 0x40 }, .command 0xC0) :: (({ driveHead := 0x40 }, .command 0x20) ::
          List.replicate SECTOR_SIZE ({ driveHead := 0x40 }, .readData) ++ []) := by
    rw [eraseThenRead, accesses_setUp, if_pos (by decide), accesses_setUp, if_pos (by decide),
      accesses_replicate (a := .readData) rfl, if_pos (by decide), List.append_nil]
    rfl
  have hone : accesses .one {} eraseThenRead = [] := by
    rw [eraseThenRead, accesses_setUp, if_neg (by decide), accesses_setUp, if_neg (by decide),
      accesses_replicate (a := .readData) rfl, if_neg (by decide)]
  have haddr : SharedRegisters.Addresses { driveHead := 0x40 } 0 := ⟨by decide, by decide⟩
  have hread : Performs [.read 0] (({ driveHead := 0x40 }, .command 0x20) ::
      List.replicate SECTOR_SIZE ({ driveHead := 0x40 }, .readData) ++ []) :=
    .read _ haddr (by decide) (fun x hx => .inl (by rw [List.eq_of_mem_replicate hx]))
      (by simp [dataReads, List.countP_replicate]) .nil
  obtain ⟨os, bus, hrun, h⟩ := bus_refines_sectors (⟨List.replicate 1024 0, []⟩ : Image) none
    (fun d => if d = .zero then [.erase 0, .read 0] else []) eraseThenRead
    (fun d => by
      cases d with
      | zero =>
        rw [hzero]
        exact .erase haddr (by decide) hread
      | one =>
        rw [hone]
        exact .nil)
    (fun d m hm op hop => by
      cases d with
      | zero =>
        cases hm
        have hop' : op = .erase 0 ∨ op = .read 0 := by simpa using hop
        have hlen : MemoryMap.len (⟨List.replicate 1024 0, []⟩ : Image) = 1024 :=
          List.length_replicate
        rw [hlen]
        rcases hop' with rfl | rfl <;> decide +kernel
      | one => cases hm)
  refine ⟨os, bus, hrun, ?_⟩
  obtain ⟨c, -, hdata, -⟩ := h .zero _ rfl
  rw [hdata]
  generalize sectors (⟨List.replicate 1024 0, []⟩ : Image) = s
  simp [StoreOp.answers, SectorOp.storeOp]

end

end Possum.Ata
