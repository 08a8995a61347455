import Possum.Sys.View
import Possum.Cpu.BlockPort
import Possum.Ata.Invariant

/-!
# A sector between the disk and the memory

One sector takes two INIR or two OTIR from the data port of the disk.  What goes on during the
512 steps is a copy, of the sector to the memory or of the memory to the sector, and both are
the loop rule of `BlockPort` with `Copied` as the invariant (`load_sector`, `store_sector`,
together `block_io`).

Between two steps the video chip and the keyboard may become anything: `world` says what.  So
`System.step`, which ticks the video chip, is covered (`System.load_sector`,
`System.store_sector`).
-/

set_option autoImplicit false

namespace Possum.Sys

open Lib Ata Ata.CardBus

/-! ### The data port of the disk -/

section

variable {M : Type}

/-- What a card puts on the interrupt line. -/
def line (c : Card M) : Bool := c.interruptEnabled && c.interrupt

theorem interrupting_setCard {cards : CardBus M} {c c' : Card M} {d : Drive}
    (hc : cards.card d = some c) (h : line c' = line c) :
    (cards.setCard c' d).interrupting = cards.interrupting := by
  unfold line at h
  cases d with
  | zero =>
    cases hc
    simp only [CardBus.interrupting, CardBus.setCard, h]
  | one =>
    have hone : cards.card1 = some c := hc
    simp only [CardBus.interrupting, CardBus.setCard, hone, h]

theorem setCard_setCard (cards : CardBus M) (c c' : Card M) (d : Drive) :
    (cards.setCard c d).setCard c' d = cards.setCard c' d := by
  cases d <;> rfl

variable [MemoryMap M]

theorem line_readData {c c' : Card M} {b : U8} (h : c.Ready) (hr : c.readData = some (b, c')) :
    line c' = line c := by
  cases Card.readData_cases h hr with
  | idle | moved | last => rfl

theorem line_writeData {c c' : Card M} {b : U8} (h : c.Ready) (hw : c.writeData b = some c') :
    line c' = line c := by
  cases Card.writeData_cases h hw with
  | idle | moved | last => rfl

/-- One byte of a READ. -/
theorem readData_sector {c : Card M} {L k : ℕ} (h : c.Transfer (Card.readState k) L k)
    (hin : InRange (MemoryMap.len c.mmap) L) (hk : k < SECTOR_SIZE) :
    ∃ c', c.readData = some (MemoryMap.byte c.mmap (L * SECTOR_SIZE + k), c') ∧
      c'.Transfer (Card.readState (k + 1)) L (k + 1) ∧ c'.mmap = c.mmap := by
  obtain ⟨c', hacc, htr, hm⟩ := Card.access_readData (r := {}) h hin hk
  obtain ⟨⟨b, c''⟩, hread, heq⟩ := Option.map_eq_some_iff.1 hacc
  simp only [Prod.mk.injEq, Option.some.injEq] at heq
  obtain ⟨rfl, rfl⟩ := heq
  exact ⟨c'', hread, htr, hm⟩

variable {cards : CardBus M} {c : Card M} {d : Drive}

theorem read_data (hd : cards.registers.drive = d) (hc : cards.card d = some c) :
    cards.read 0x20 = c.readData.map fun r => (r.1, cards.setCard r.2 d) := by
  have hstep := step_card cards (show (PortOp.read 0x20).access = .card .readData from rfl)
  rw [hd] at hstep
  simp only [hc, step, Card.access, Option.map_map] at hstep
  refine Option.map_inj_right (f := fun r : U8 × CardBus M => (some r.1, r.2)) ?_ |>.1 ?_
  · rintro ⟨b, x⟩ ⟨b', x'⟩ h
    cases h
    rfl
  · rw [hstep, Option.map_map]
    rfl

theorem write_data (hd : cards.registers.drive = d) (hc : cards.card d = some c) (data : U8) :
    cards.write 0x20 data = (c.writeData data).map fun c => cards.setCard c d := by
  have hstep := step_card cards
    (show (PortOp.write 0x20 data).access = .card (.writeData data) from rfl)
  rw [hd] at hstep
  simp only [hc, step, Card.access, Option.map_map] at hstep
  refine Option.map_inj_right (f := fun x : CardBus M => ((none : Option U8), x)) ?_ |>.1 ?_
  · intro x x' h
    cases h
    rfl
  · rw [hstep, Option.map_map]
    rfl

end

/-! ### The view -/

/-- The video chip and the keyboard between two steps. -/
def around {m : Overflow} {H K : Type} (world : ℕ → Vdc × K) (n : ℕ) (g : Guest m H K) :
    Guest m H K :=
  ⟨g.view.map fun v => { v with vdc := (world n).1, kb := (world n).2 }⟩

section

variable {M K : Type} {v v' : View (CardBus M) K} {cards : CardBus M} {c c' : Card M} {d : Drive}

/-- `v'` has the bank of `v` and its cards, but for the selected card, which is `c'` instead of
`c` and puts the same on the interrupt line. -/
structure Held (cards : CardBus M) (d : Drive) (c : Card M) (v v' : View (CardBus M) K)
    (c' : Card M) : Prop where
  selected : cards.registers.drive = d
  card : cards.card d = some c
  bank : v'.bank = v.bank
  hd : v'.hd = some (cards.setCard c' d)
  line : line c' = line c

theorem Held.start (hsel : cards.registers.drive = d) (hc : cards.card d = some c)
    (hv : v.hd = some cards) : Held cards d c v v c where
  selected := hsel
  card := hc
  bank := rfl
  hd := by
    rw [hv]
    cases d with
    | zero =>
      cases hc
      rfl
    | one =>
      have hone : cards.card1 = some c := hc
      rw [CardBus.setCard, ← hone]
  line := rfl

/-- A byte of the memory. -/
def byteAt (v : View (CardBus M) K) (a : U16) : U8 := (v.read a).getD 0

theorem read_byteAt (v : View (CardBus M) K) (a : U16) : v.read a = some (byteAt v a) := by
  obtain ⟨b, hb⟩ := Option.isSome_iff_exists.1 (read_isSome v.bank v.ram a)
  rw [byteAt, View.read, hb, Option.getD_some]

/-- Two instructions of two bytes at `pc`, both 0xED and `second`. -/
def Twice (second : U8) (v : View (CardBus M) K) (pc : U16) : Prop :=
  ∀ i < 2, v.read (pc + BitVec.ofNat 16 (2 * i)) = some 0xED ∧
    v.read (pc + BitVec.ofNat 16 (2 * i) + 1) = some second

variable {m : Overflow} [MemoryMap M]

theorem Held.interrupted (h : Held cards d c v v' c') :
    v'.interrupted = cards.interrupting := by
  rw [← interrupting_setCard h.card h.line, View.interrupted, View.hdInterrupting, h.hd]
  exact Bool.or_false _

variable [Device K]

/-- Both instructions are there while their four bytes are. -/
theorem Twice.at {p : BlockPort (Guest m (CardBus M) K)} {pc : U16} (h : Twice p.second v pc)
    (hkeep : ∀ i < 4, byteAt v' (pc + BitVec.ofNat 16 i) = byteAt v (pc + BitVec.ofNat 16 i))
    {i : ℕ} (hi : i < 2) : p.At ⟨some v'⟩ (pc + BitVec.ofNat 16 (2 * i)) := by
  obtain ⟨hfirst, hsecond⟩ := h i hi
  have hnext : pc + BitVec.ofNat 16 (2 * i) + 1 = pc + BitVec.ofNat 16 (2 * i + 1) := by bv_omega
  constructor
  · show byteAt v' _ = _
    rw [hkeep _ (by omega), byteAt, hfirst, Option.getD_some]
  · show byteAt v' _ = _
    rw [hnext, hkeep _ (by omega), ← hnext, byteAt, hsecond, Option.getD_some]

/-- The upper byte of the port does not count. -/
theorem port_disk (high : U8) : word high 0x20 &&& 0xFF = 0x20 := by
  revert high
  decide +kernel

theorem Held.input (h : Held cards d c v v' c') (high : U8) {b : U8} {c'' : Card M}
    (hread : c'.readData = some (b, c'')) :
    v'.input m (word high 0x20) = some (b, { v' with hd := some (cards.setCard c'' d) }) := by
  have hcards : Device.read (cards.setCard c' d) 0x20 = some (b, cards.setCard c'' d) := by
    show (cards.setCard c' d).read 0x20 = _
    rw [read_data ((registers_setCard ..).symm ▸ h.selected) (card_setCard_self ..), hread,
      Option.map_some, setCard_setCard]
  simp only [View.input, port_disk, h.hd]
  show (Device.read (cards.setCard c' d) 0x20).map _ = _
  rw [hcards, Option.map_some]

theorem Held.output (h : Held cards d c v v' c') (high : U8) {b : U8} {c'' : Card M}
    (hwrite : c'.writeData b = some c'') :
    v'.output m (word high 0x20) b = some { v' with hd := some (cards.setCard c'' d) } := by
  have hcards : Device.write (cards.setCard c' d) 0x20 b = some (cards.setCard c'' d) := by
    show (cards.setCard c' d).write 0x20 b = _
    rw [write_data ((registers_setCard ..).symm ▸ h.selected) (card_setCard_self ..), hwrite,
      Option.map_some, setCard_setCard]
  simp only [View.output, port_disk, h.hd]
  show (Device.write (cards.setCard c' d) 0x20 b).map _ = _
  rw [hcards, Option.map_some]

end

/-! ### The loop -/

section

variable {M K : Type} [MemoryMap M] [Device K] {m : Overflow} {v : View (CardBus M) K}
  {cards : CardBus M} {c : Card M} {d : Drive}

/-- Two instructions move 512 bytes.  `S k` is what holds of the view and the selected card after
`k` bytes. -/
theorem move_sector (p : BlockPort (Guest m (CardBus M) K)) (world : ℕ → Vdc × K) {cpu : Cpu}
    {S : ℕ → View (CardBus M) K → Card M → Prop} (hstart : S 0 v c)
    (hheld : ∀ k v' c', S k v' c' → Held cards d c v v' c')
    (hbc : cpu.bc = word 0 0x20) (htwice : Twice p.second v cpu.pc)
    (hirq : cards.interrupting = true → cpu.core.iff1 = false)
    (hkeep : ∀ k < 512, ∀ v' c', S k v' c' → ∀ i < 4,
      byteAt v' (cpu.pc + BitVec.ofNat 16 i) = byteAt v (cpu.pc + BitVec.ofNat 16 i))
    (hstep : ∀ k < 512, ∀ v' c', S k v' c' → ∃ v'' c'',
      p.transfer (Core.portAfter 0x20 k) (cpu.hl + BitVec.ofNat 16 k) ⟨some v'⟩ = ⟨some v''⟩ ∧
      ∀ vdc kb, S (k + 1) { v'' with vdc := vdc, kb := kb } c'') :
    ∃ cpu' v' c', cpu.steps (around world) 512 (⟨some v⟩ : Guest m (CardBus M) K) =
        .ok (cpu', ⟨some v'⟩) ∧ cpu'.core = cpu.core.after 0x20 512 ∧ S 512 v' c' := by
  have hrun := p.run (around world)
    (R := fun k (g : Guest m (CardBus M) K) => ∃ v' c', g = ⟨some v'⟩ ∧ S k v' c')
    hbc ⟨v, c, rfl, hstart⟩ 512 ?move
  case move =>
    rintro k hk g ⟨v', c', rfl, hS⟩
    obtain ⟨v'', c'', hmove, hS'⟩ := hstep k hk v' c' hS
    refine ⟨htwice.at (hkeep k hk v' c' hS) (by omega), ?_, ?_⟩
    · rw [hmove]
      intro hline
      exact hirq ((hheld _ _ _ (hS' v''.vdc v''.kb)).interrupted ▸ hline)
    · rw [hmove]
      exact ⟨_, c'', rfl, hS' (world k).1 (world k).2⟩
  obtain ⟨cpu', g, hsteps, hcore, v', c', rfl, hS⟩ := hrun
  exact ⟨cpu', v', c', hsteps, hcore, hS⟩

end

/-! ### Disk to memory -/

section

variable {M K : Type} [MemoryMap M] {v v' : View (CardBus M) K} {cards : CardBus M}
  {c c' : Card M} {d : Drive} {L k : ℕ} {hl : U16}

/-- After `k` bytes of sector `L` to the memory at `hl`. -/
structure Loading (cards : CardBus M) (d : Drive) (c : Card M) (v : View (CardBus M) K) (L : ℕ)
    (hl : U16) (k : ℕ) (v' : View (CardBus M) K) (c' : Card M) : Prop
    extends Held cards d c v v' c' where
  transfer : c'.Transfer (Card.readState k) L k
  mmap_eq : c'.mmap = c.mmap
  copied : Copied (fun j => some (MemoryMap.byte c.mmap (L * SECTOR_SIZE + j)))
    (fun j => location v.bank.number (hl + BitVec.ofNat 16 j)) (index v.ram) (index v'.ram) k

theorem Loading.start (hheld : Held cards d c v v c) (htr : c.Transfer .readSectors L 0) :
    Loading cards d c v L hl 0 v c where
  toHeld := hheld
  transfer := by
    rw [Card.readState_zero]
    exact htr
  mmap_eq := rfl
  copied := Copied.zero ..

/-- The video chip and the keyboard have no part in it. -/
theorem Loading.around (h : Loading cards d c v L hl k v' c') (vdc : Vdc) (kb : K) :
    Loading cards d c v L hl k { v' with vdc := vdc, kb := kb } c' := { h with }

/-- Addresses that are not written keep their byte. -/
theorem Loading.byteAt_of_ne (h : Loading cards d c v L hl k v' c') {a : U16}
    (ha : ∀ j < k, hl + BitVec.ofNat 16 j ≠ a) : byteAt v' a = byteAt v a := by
  have hframe : index v'.ram (location v.bank.number a) = index v.ram (location v.bank.number a) :=
    h.copied.frame _ fun j hj heq => ha j hj (location_injective _ heq).symm
  rw [byteAt, byteAt, View.read, View.read, read_eq, read_eq, h.bank, hframe]

/-- The addresses of a sector are different. -/
theorem location_ne (bank : U8) (hl : U16) {j k : ℕ} (hj : j < k) (hk : k < 0x10000) :
    location bank (hl + BitVec.ofNat 16 j) ≠ location bank (hl + BitVec.ofNat 16 k) := by
  intro heq
  have haddr := location_injective bank heq
  bv_omega

variable [Device K] {m : Overflow}

/-- **One byte of an INIR.** -/
theorem Loading.step (h : Loading cards d c v L hl k v' c')
    (hin : InRange (MemoryMap.len c.mmap) L) (hk : k < SECTOR_SIZE) (high : U8) :
    ∃ v'' c'', BlockPort.inir.transfer (word high 0x20) (hl + BitVec.ofNat 16 k)
        (⟨some v'⟩ : Guest m (CardBus M) K) = ⟨some v''⟩ ∧
      Loading cards d c v L hl (k + 1) v'' c'' := by
  obtain ⟨c'', hread, htr, hm⟩ :=
    readData_sector h.transfer (h.mmap_eq.symm ▸ hin) hk
  rw [h.mmap_eq] at hread hm
  have hinput := Guest.input_some (h.toHeld.input (m := m) high hread)
  obtain ⟨ram, hram⟩ := Option.isSome_iff_exists.1 (write_isSome v'.bank v'.ram
    (hl + BitVec.ofNat 16 k) (MemoryMap.byte c.mmap (L * SECTOR_SIZE + k)))
  have hupdate : index ram = Function.update (index v'.ram)
      (location v.bank.number (hl + BitVec.ofNat 16 k))
      (some (MemoryMap.byte c.mmap (L * SECTOR_SIZE + k))) := by
    funext i
    rw [index_of_write v'.bank hram, Function.update_apply, h.bank]
  refine ⟨{ v' with hd := some (cards.setCard c'' d), ram := ram }, c'', ?_, ?_⟩
  · show Bus.write (Bus.input _ _).2 _ (Bus.input _ _).1 = _
    rw [hinput]
    apply Guest.write_some
    rw [View.write, hram, Option.map_some]
  · exact { h with
      hd := rfl
      line := (line_readData h.transfer.ready hread).trans h.line
      transfer := htr
      mmap_eq := hm
      copied := by
        show Copied _ _ _ (index ram) _
        rw [hupdate]
        apply h.copied.succ
        intro j hj
        rw [SECTOR_SIZE_eq] at hk
        exact location_ne _ _ hj (by omega) }

/-- **Two INIR load a sector**, if it is not written over them and no interrupt is accepted. -/
theorem load_sector (world : ℕ → Vdc × K) {cpu : Cpu} (hheld : Held cards d c v v c)
    (htr : c.Transfer .readSectors L 0) (hin : InRange (MemoryMap.len c.mmap) L)
    (hbc : cpu.bc = word 0 0x20) (htwice : Twice 0xB2 v cpu.pc)
    (hirq : cards.interrupting = true → cpu.core.iff1 = false)
    (hapart : ∀ k < 512, ∀ i < 4, cpu.hl + BitVec.ofNat 16 k ≠ cpu.pc + BitVec.ofNat 16 i) :
    ∃ cpu' v' c', cpu.steps (around world) 512 (⟨some v⟩ : Guest m (CardBus M) K) =
        .ok (cpu', ⟨some v'⟩) ∧ cpu'.core = cpu.core.after 0x20 512 ∧
      Loading cards d c v L cpu.hl 512 v' c' := by
  refine move_sector BlockPort.inir world (Loading.start hheld htr)
    (fun _ _ _ h => h.toHeld) hbc htwice hirq ?_ ?_
  · intro k hk v' c' h i hi
    exact h.byteAt_of_ne fun j hj => hapart j (by omega) i hi
  · intro k hk v' c' h
    obtain ⟨v'', c'', hmove, h'⟩ := h.step (m := m) hin (by rw [SECTOR_SIZE_eq]; exact hk)
      (0 - BitVec.ofNat 8 k)
    exact ⟨v'', c'', hmove, h'.around⟩

end

/-! ### Memory to disk -/

section

variable {M K : Type} [MemoryMap M] {v v' : View (CardBus M) K} {cards : CardBus M}
  {c c' : Card M} {d : Drive} {L k : ℕ} {hl : U16}

/-- After `k` bytes of the memory at `hl` to sector `L`. -/
structure Storing (cards : CardBus M) (d : Drive) (c : Card M) (v : View (CardBus M) K) (L : ℕ)
    (hl : U16) (k : ℕ) (v' : View (CardBus M) K) (c' : Card M) : Prop
    extends Held cards d c v v' c' where
  ram : v'.ram = v.ram
  transfer : c'.Transfer .writeSectors L k
  len_eq : MemoryMap.len c'.mmap = MemoryMap.len c.mmap
  copied : Copied (fun j => byteAt v (hl + BitVec.ofNat 16 j)) (fun j => L * SECTOR_SIZE + j)
    (MemoryMap.byte c.mmap) (MemoryMap.byte c'.mmap) k

theorem Storing.start (hheld : Held cards d c v v c) (htr : c.Transfer .writeSectors L 0) :
    Storing cards d c v L hl 0 v c where
  toHeld := hheld
  ram := rfl
  transfer := htr
  len_eq := rfl
  copied := Copied.zero ..

theorem Storing.around (h : Storing cards d c v L hl k v' c') (vdc : Vdc) (kb : K) :
    Storing cards d c v L hl k { v' with vdc := vdc, kb := kb } c' := { h with }

theorem Storing.byteAt (h : Storing cards d c v L hl k v' c') (a : U16) :
    byteAt v' a = byteAt v a := by
  rw [Sys.byteAt, Sys.byteAt, View.read, View.read, h.ram, h.bank]

variable [Device K] {m : Overflow}

/-- **One byte of an OTIR.** -/
theorem Storing.step (h : Storing cards d c v L hl k v' c')
    (hin : InRange (MemoryMap.len c.mmap) L) (hk : k < SECTOR_SIZE) (high : U8) :
    ∃ v'' c'', BlockPort.otir.transfer (word high 0x20) (hl + BitVec.ofNat 16 k)
        (⟨some v'⟩ : Guest m (CardBus M) K) = ⟨some v''⟩ ∧
      Storing cards d c v L hl (k + 1) v'' c'' := by
  obtain ⟨b, hb⟩ : ∃ b, b = Sys.byteAt v (hl + BitVec.ofNat 16 k) := ⟨_, rfl⟩
  obtain ⟨c'', hwrite, hlen, hbyte, htr⟩ :=
    Card.writeData_transfer h.transfer (h.len_eq.symm ▸ hin.lt hk) b
  have houtput := Guest.output_some (h.toHeld.output (m := m) (high - 1) hwrite)
  have hread : Bus.read (⟨some v'⟩ : Guest m (CardBus M) K) (hl + BitVec.ofNat 16 k) = b :=
    (h.byteAt _).trans hb.symm
  refine ⟨{ v' with hd := some (cards.setCard c'' d) }, c'', ?_, ?_⟩
  · show Bus.output _ (word (hi (word high 0x20) - 1) (lo (word high 0x20))) (Bus.read _ _) = _
    rw [hread, hi_word, lo_word, houtput]
  · exact { h with
      hd := rfl
      line := (line_writeData h.transfer.ready hwrite).trans h.line
      transfer := htr
      len_eq := hlen.trans h.len_eq
      copied := by
        rw [hbyte, hb]
        apply h.copied.succ
        intro j hj
        show L * SECTOR_SIZE + j ≠ L * SECTOR_SIZE + k
        omega }

/-- **Two OTIR store a sector**, if no interrupt is accepted. -/
theorem store_sector (world : ℕ → Vdc × K) {cpu : Cpu} (hheld : Held cards d c v v c)
    (htr : c.Transfer .writeSectors L 0) (hin : InRange (MemoryMap.len c.mmap) L)
    (hbc : cpu.bc = word 0 0x20) (htwice : Twice 0xB3 v cpu.pc)
    (hirq : cards.interrupting = true → cpu.core.iff1 = false) :
    ∃ cpu' v' c', cpu.steps (around world) 512 (⟨some v⟩ : Guest m (CardBus M) K) =
        .ok (cpu', ⟨some v'⟩) ∧ cpu'.core = cpu.core.after 0x20 512 ∧
      Storing cards d c v L cpu.hl 512 v' c' := by
  refine move_sector BlockPort.otir world (Storing.start hheld htr)
    (fun _ _ _ h => h.toHeld) hbc htwice hirq (fun _ _ _ _ h _ _ => h.byteAt _) ?_
  intro k hk v' c' h
  obtain ⟨v'', c'', hmove, h'⟩ := h.step (m := m) hin (by rw [SECTOR_SIZE_eq]; exact hk)
    (0 - BitVec.ofNat 8 k)
  exact ⟨v'', c'', hmove, h'.around⟩

end

/-! ### Steps of the system -/

section

variable {H K : Type} [Device H] [Device K] {m : Overflow}

/-- `n` steps of the system. -/
def System.steps (m : Overflow) : ℕ → System H K → Option (System H K)
  | 0, s => some s
  | n + 1, s => (steps m n s).bind (System.step m)

/-- The video chip and the keyboard behind each step of the system. -/
def System.world (m : Overflow) (s : System H K) (n : ℕ) : Vdc × K :=
  match System.steps m (n + 1) s with
  | some s' => (s'.view.vdc, s'.view.kb)
  | none => (s.view.vdc, s.view.kb)

/-- The steps of the system are steps of its processor. -/
theorem System.steps_cpu {s s' : System H K} {n : ℕ} (h : System.steps m n s = some s') :
    s.cpu.steps (around (s.world m)) n (⟨some s.view⟩ : Guest m H K) =
      .ok (s'.cpu, ⟨some s'.view⟩) := by
  induction n generalizing s' with
  | zero =>
    cases h
    rfl
  | succ n ih =>
    have hworld : s.world m n = (s'.view.vdc, s'.view.kb) := by rw [System.world, h]
    obtain ⟨s₁, hs₁, hstep⟩ := Option.bind_eq_some_iff.1 h
    rw [Cpu.steps, ih hs₁]
    show (s₁.cpu.step (⟨some s₁.view⟩ : Guest m H K)).map _ = _
    rw [System.step] at hstep
    split at hstep
    · next o ho =>
      rw [ho]
      split at hstep
      · next view hview =>
        obtain ⟨vdc, -, rfl⟩ := Option.map_eq_some_iff.1 hstep
        show Except.ok (o.cpu, around (s.world m) n o.bus) = _
        rw [around, hview, hworld]
        rfl
      · cases hstep
    · cases hstep

variable {M : Type} [MemoryMap M] {s s' : System (CardBus M) K} {cards : CardBus M} {c : Card M}
  {d : Drive} {L : ℕ}

/-- **Steps of the system that load a sector**, as far as the video chip does not panic. -/
theorem System.load_sector (hrun : System.steps m 512 s = some s')
    (hheld : Held cards d c s.view s.view c) (htr : c.Transfer .readSectors L 0)
    (hin : InRange (MemoryMap.len c.mmap) L) (hbc : s.cpu.bc = word 0 0x20)
    (htwice : Twice 0xB2 s.view s.cpu.pc)
    (hirq : cards.interrupting = true → s.cpu.core.iff1 = false)
    (hapart : ∀ k < 512, ∀ i < 4,
      s.cpu.hl + BitVec.ofNat 16 k ≠ s.cpu.pc + BitVec.ofNat 16 i) :
    s'.cpu.core = s.cpu.core.after 0x20 512 ∧
      ∃ c', Loading cards d c s.view L s.cpu.hl 512 s'.view c' := by
  obtain ⟨cpu', v', c', hsteps, hcore, hload⟩ :=
    Sys.load_sector (s.world m) hheld htr hin hbc htwice hirq hapart
  cases (System.steps_cpu hrun).symm.trans hsteps
  exact ⟨hcore, c', hload⟩

/-- **Steps of the system that store a sector.** -/
theorem System.store_sector (hrun : System.steps m 512 s = some s')
    (hheld : Held cards d c s.view s.view c) (htr : c.Transfer .writeSectors L 0)
    (hin : InRange (MemoryMap.len c.mmap) L) (hbc : s.cpu.bc = word 0 0x20)
    (htwice : Twice 0xB3 s.view s.cpu.pc)
    (hirq : cards.interrupting = true → s.cpu.core.iff1 = false) :
    s'.cpu.core = s.cpu.core.after 0x20 512 ∧
      ∃ c', Storing cards d c s.view L s.cpu.hl 512 s'.view c' := by
  obtain ⟨cpu', v', c', hsteps, hcore, hstore⟩ :=
    Sys.store_sector (s.world m) hheld htr hin hbc htwice hirq
  cases (System.steps_cpu hrun).symm.trans hsteps
  exact ⟨hcore, c', hstore⟩

end

/-! ### Both -/

section

variable {M K : Type} [MemoryMap M] [Device K]

/-- What 512 bytes leave of the processor. -/
theorem core_after_512 {cpu cpu' : Cpu} (hbc : cpu.bc = word 0 0x20)
    (h : cpu'.core = cpu.core.after 0x20 512) :
    cpu'.pc = cpu.pc + 4 ∧ cpu'.hl = cpu.hl + 512 ∧ cpu'.bc = cpu.bc := by
  have hport : Core.portAfter 0x20 512 = word 0 0x20 := by decide
  refine ⟨congrArg Core.pc h, congrArg Core.hl h, ?_⟩
  rw [hbc, ← hport]
  exact congrArg Core.bc h

/-- **A sector of block input and output is exact.**  With a transfer of sector `L` begun on the
selected card, two INIR copy the sector to the 512 addresses from HL on and change nothing else in
the memory, and two OTIR copy the 512 bytes to the sector and change nothing else on the disk. -/
theorem block_io (m : Overflow) (world : ℕ → Vdc × K) {cpu : Cpu} {v : View (CardBus M) K}
    {cards : CardBus M} {c : Card M} {L : ℕ} (hv : v.hd = some cards)
    (hc : cards.card cards.registers.drive = some c) (hin : InRange (MemoryMap.len c.mmap) L)
    (hbc : cpu.bc = word 0 0x20)
    (hirq : cards.interrupting = true → cpu.takeEnable.iff1 = false) :
    (c.Transfer .readSectors L 0 → Twice 0xB2 v cpu.pc →
      (∀ k < 512, ∀ i < 4, cpu.hl + BitVec.ofNat 16 k ≠ cpu.pc + BitVec.ofNat 16 i) →
      ∃ cpu' v' c', cpu.steps (around world) 512 (⟨some v⟩ : Guest m (CardBus M) K) =
          .ok (cpu', ⟨some v'⟩) ∧
        (cpu'.pc = cpu.pc + 4 ∧ cpu'.hl = cpu.hl + 512 ∧ cpu'.bc = cpu.bc) ∧
        v'.bank = v.bank ∧ v'.hd = some (cards.setCard c' cards.registers.drive) ∧
        c'.mmap = c.mmap ∧
        (∀ k < 512, v'.read (cpu.hl + BitVec.ofNat 16 k) =
          some (MemoryMap.byte c.mmap (L * 512 + k))) ∧
        ∀ i, (∀ k < 512, i ≠ location v.bank.number (cpu.hl + BitVec.ofNat 16 k)) →
          index v'.ram i = index v.ram i) ∧
    (c.Transfer .writeSectors L 0 → Twice 0xB3 v cpu.pc →
      ∃ cpu' v' c', cpu.steps (around world) 512 (⟨some v⟩ : Guest m (CardBus M) K) =
          .ok (cpu', ⟨some v'⟩) ∧
        (cpu'.pc = cpu.pc + 4 ∧ cpu'.hl = cpu.hl + 512 ∧ cpu'.bc = cpu.bc) ∧
        v'.bank = v.bank ∧ v'.ram = v.ram ∧
        v'.hd = some (cards.setCard c' cards.registers.drive) ∧
        MemoryMap.len c'.mmap = MemoryMap.len c.mmap ∧
        (∀ k < 512, v.read (cpu.hl + BitVec.ofNat 16 k) =
          some (MemoryMap.byte c'.mmap (L * 512 + k))) ∧
        ∀ i, i / 512 ≠ L → MemoryMap.byte c'.mmap i = MemoryMap.byte c.mmap i) := by
  have hheld : Held cards cards.registers.drive c v v c := Held.start rfl hc hv
  rw [← Cpu.core_iff1] at hirq
  constructor
  · intro htr htwice hapart
    obtain ⟨cpu', v', c', hsteps, hcore, hload⟩ :=
      load_sector (m := m) world hheld htr hin hbc htwice hirq hapart
    refine ⟨cpu', v', c', hsteps, core_after_512 hbc hcore, hload.bank, hload.hd, hload.mmap_eq,
      ?_, hload.copied.frame⟩
    intro k hk
    rw [View.read, read_eq, hload.bank, hload.copied.moved k hk, SECTOR_SIZE_eq]
  · intro htr htwice
    obtain ⟨cpu', v', c', hsteps, hcore, hstore⟩ :=
      store_sector (m := m) world hheld htr hin hbc htwice hirq
    refine ⟨cpu', v', c', hsteps, core_after_512 hbc hcore, hstore.bank, hstore.ram, hstore.hd,
      hstore.len_eq, ?_, ?_⟩
    · intro k hk
      rw [read_byteAt, ← SECTOR_SIZE_eq, hstore.copied.moved k hk]
    · intro i hi
      apply hstore.copied.frame i
      intro j hj
      rw [SECTOR_SIZE_eq]
      omega

end

/-- A card of one sector in the given state. -/
def oneSector (state : CommandState) : Card Image :=
  { Card.new ⟨List.replicate 512 0x5A, []⟩ with state := state }

theorem transfer_oneSector (state : CommandState) : (oneSector state).Transfer state 0 0 where
  ready := show (Status.RDY ||| Status.DSC) &&& Status.BUSY = 0 by decide
  state_eq := rfl
  lba_eq := rfl
  offset_eq := rfl

theorem byte_oneSector (state : CommandState) {i : ℕ} (h : i < 512) :
    MemoryMap.byte (oneSector state).mmap i = 0x5A := by
  show (List.replicate 512 (0x5A : U8)).getD i 0 = 0x5A
  rw [List.getD_eq_getElem _ _ (by rw [List.length_replicate]; exact h), List.getElem_replicate]

theorem inRange_oneSector (state : CommandState) :
    InRange (MemoryMap.len (oneSector state).mmap) 0 := by
  show 0 * SECTOR_SIZE + SECTOR_SIZE ≤ (List.replicate 512 (0x5A : U8)).length
  rw [SECTOR_SIZE_eq, List.length_replicate]

/-- That card and a memory with two instructions. -/
def loader (state : CommandState) (second : U8) : View (CardBus Image) (CardBus Image) :=
  { View.new (CardBus.single ⟨[], []⟩) (some ⟨oneSector state, none, {}⟩) with
    ram := Vector.ofFn fun i => [0xED, second, 0xED, second].getD i 0 }

/-- The processor before the first of them. -/
def looper : Cpu := { bc := 0x0020, hl := 0x8000 }

theorem read_loader (state : CommandState) (second : U8) (a : U16) :
    (loader state second).read a = some ([0xED, second, 0xED, second].getD a.toNat 0) :=
  read_ofFn (fun i => [0xED, second, 0xED, second].getD i 0) a

theorem twice_loader (state : CommandState) (second : U8) :
    Twice second (loader state second) 0 := by
  intro i hi
  rw [read_loader, read_loader]
  match i, hi with
  | 0, _ => exact ⟨rfl, rfl⟩
  | 1, _ => exact ⟨rfl, rfl⟩

/-- The last byte of the sector, and the byte that becomes the last of the sector. -/
theorem block_io_last :
    (∃ cpu' v', looper.steps (around fun _ => (Vdc.new, CardBus.single ⟨[], []⟩)) 512
        (⟨some (loader .readSectors 0xB2)⟩ : Guest .wraps _ _) = .ok (cpu', ⟨some v'⟩) ∧
      v'.read 0x81FF = some 0x5A) ∧
    ∃ cpu' v' c', looper.steps (around fun _ => (Vdc.new, CardBus.single ⟨[], []⟩)) 512
        (⟨some (loader .writeSectors 0xB3)⟩ : Guest .wraps _ _) = .ok (cpu', ⟨some v'⟩) ∧
      v'.hd = some ⟨c', none, {}⟩ ∧ MemoryMap.byte c'.mmap 511 = 0 := by
  have hbc : looper.bc = word 0 0x20 := by decide
  constructor
  · obtain ⟨cpu', v', -, hsteps, -, -, -, -, hread, -⟩ :=
      (block_io .wraps (fun _ => (Vdc.new, CardBus.single ⟨[], []⟩))
        (v := loader .readSectors 0xB2) (L := 0) rfl rfl (inRange_oneSector _) hbc nofun).1
        (transfer_oneSector _) (twice_loader _ _)
        (by intro k hk i hi; show (0x8000 : U16) + _ ≠ 0 + _; bv_omega)
    refine ⟨cpu', v', hsteps, (hread 511 (by omega)).trans (congrArg some ?_)⟩
    exact byte_oneSector .readSectors (by omega)
  · obtain ⟨cpu', v', c', hsteps, -, -, -, hhd, -, hread, -⟩ :=
      (block_io .wraps (fun _ => (Vdc.new, CardBus.single ⟨[], []⟩))
        (v := loader .writeSectors 0xB3) (L := 0) rfl rfl (inRange_oneSector _) hbc nofun).2
        (transfer_oneSector _) (twice_loader _ _)
    refine ⟨cpu', v', c', hsteps, hhd, ?_⟩
    have hbyte := hread 511 (by omega)
    rw [read_loader] at hbyte
    exact (Option.some.inj hbyte).symm

end Possum.Sys
