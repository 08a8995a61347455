import Possum.Lib.Cursor
import Possum.Vdc.RegisterFile
import Possum.Vdc.Text

/-!
# Streaming through the data register

The data register 0x1F and the update address are a cursor on the VRAM: while nothing writes the
address, every access to the register reads or writes the next cell, from the last cell to the
first (`cursor_run`), whatever else happens in between.

**`streaming_roundTrip`**: bytes streamed from an address on set the cells from there and no
others, and from the same address on they are read back.
-/

set_option autoImplicit false

namespace Possum.Vdc

open Lib

/-! ### Accesses to a register -/

/-- The selected register after an operation. -/
def selected (s : U8) : Op → U8
  | .write port data => if port &&& 0x01 = 0 then data &&& 0x3F else s
  | _ => s

/-- The access of an operation to register `r` while `s` is selected: `some` of what it writes,
`none` for a read. -/
def accessOf (r s : U8) : Op → List (Option U8)
  | .tick => []
  | .read port => if port &&& 0x01 ≠ 0 ∧ s = r then [none] else []
  | .write port data => if port &&& 0x01 ≠ 0 ∧ s = r then [some data] else []

/-- The accesses of a run to register `r`, in order. -/
def accesses (r : U8) : U8 → List Op → List (Option U8)
  | _, [] => []
  | s, op :: ops => accessOf r s op ++ accesses r (selected s op) ops

/-- A run writes nothing to register `r`. -/
def Unwritten (r s : U8) (ops : List Op) : Prop := ∀ data, some data ∉ accesses r s ops

/-- What a read of the data register returns. -/
def fetched (v : Vdc) : Op → Option U8 → List U8
  | .read port, some b => if port &&& 0x01 ≠ 0 ∧ v.registerSelect = 0x1F then [b] else []
  | _, _ => []

/-- The data register as a cursor on the VRAM. -/
def cursor (v : Vdc) : Cursor VRAM_SIZE U8 where
  cells := v.vram.get
  pos := vramIndex v.registers.updateAddr.toNat

variable {m : Overflow} {v v' : Vdc} {op : Op} {o : Option U8} {port addr : U16} {b data : U8}

theorem Unwritten.first {r s : U8} {ops : List Op} (h : Unwritten r s (op :: ops)) (data : U8) :
    some data ∉ accessOf r s op := fun hmem => h data (List.mem_append_left _ hmem)

theorem Unwritten.rest {r s : U8} {ops : List Op} (h : Unwritten r s (op :: ops)) :
    Unwritten r (selected s op) ops := fun data hmem => h data (List.mem_append_right _ hmem)

/-- What is not written through the data port is not selected. -/
theorem ne_of_unwritten {r s : U8} (hport : port &&& 0x01 ≠ 0)
    (h : ∀ d, some d ∉ accessOf r s (.write port data)) : s ≠ r := by
  intro hs
  apply h data
  rw [accessOf, if_pos ⟨hport, hs⟩]
  exact List.mem_singleton_self _

theorem registerSelect_step (h : step m v op = some (o, v')) :
    v'.registerSelect = selected v.registerSelect op := by
  obtain ⟨rfl, htick⟩ | ⟨port, b, rfl, hread⟩ | ⟨port, data, rfl, hwrite⟩ := step_cases h
  · exact (tick_frame htick).registerSelect
  · obtain rfl | ⟨a, rfl⟩ := read_cases hread
    · rfl
    · rfl
  · by_cases hport : port &&& 0x01 = 0
    · rw [write_select v hport] at hwrite
      cases hwrite
      rw [selected, if_pos hport]
    · obtain ⟨regs, -, rfl⟩ := write_register hport hwrite
      rw [selected, if_neg hport]

/-! ### The cursor moves on -/

theorem vramIndex_val (addr : ℕ) : (vramIndex addr).val = addr % VRAM_SIZE :=
  Nat.and_two_pow_sub_one_eq_mod addr 14

theorem nextAddr_eq_some {a : U16} (h : nextAddr m addr = some a) :
    a.toNat = (addr.toNat + 1) % VRAM_SIZE := by
  obtain ⟨z, hz, rfl⟩ := Option.map_eq_some_iff.1 h
  have hmod : z % 2 ^ 16 = (addr.toNat + 1) % 2 ^ 16 := Overflow.add_mod hz
  rw [BitVec.toNat_and, BitVec.toNat_ofNat, hmod]
  have hmask : (addr.toNat + 1) % 2 ^ 16 &&& (2 ^ 14 - 1) = (addr.toNat + 1) % 2 ^ 16 % 2 ^ 14 :=
    Nat.and_two_pow_sub_one_eq_mod _ 14
  exact hmask.trans (Nat.mod_mod_of_dvd _ (by decide))

/-- The cells ahead of an address wrap at the end of the VRAM. -/
theorem cursor_ahead (v : Vdc) (i : ℕ) : (v.cursor.ahead i).val =
    (v.registers.updateAddr.toNat + i) % VRAM_SIZE := by
  show ((vramIndex v.registers.updateAddr.toNat).val + i) % VRAM_SIZE = _
  rw [vramIndex_val, Nat.mod_add_mod]

/-- The cells that a cursor comes to, in the VRAM of any state. -/
theorem memory_ahead (w : Vdc) {a : U16} (h : v.registers.updateAddr = a) (i : ℕ) :
    w.memory (a.toNat + i) = w.cursor.cells (v.cursor.ahead i) := by
  have hcell : (a.toNat + i) % VRAM_SIZE = v.cursor.ahead i := by
    rw [cursor_ahead, h]
  exact congrArg w.vram.get (Fin.ext hcell)

theorem memory_of_lt (w : Vdc) {p : ℕ} (hp : p < VRAM_SIZE) :
    w.memory p = w.cursor.cells ⟨p, hp⟩ := by
  have hcell : p % VRAM_SIZE = p := Nat.mod_eq_of_lt hp
  exact congrArg w.vram.get (Fin.ext hcell)

theorem vramIndex_next {a : U16} (h : nextAddr m v.registers.updateAddr = some a) :
    vramIndex a.toNat = v.cursor.ahead 1 := by
  apply Fin.ext
  rw [vramIndex_val, nextAddr_eq_some h, Nat.mod_mod, cursor_ahead]

theorem get_set (vram : Vector U8 VRAM_SIZE) (i : Fin VRAM_SIZE) (data : U8) :
    (vram.set i data).get = Function.update vram.get i data := by
  funext j
  show (vram.set i data)[j.val] = _
  rw [Vector.getElem_set]
  by_cases h : i = j
  · subst h
    rw [if_pos rfl, Function.update_self]
  · have hval : i.val ≠ j.val := fun hij => h (Fin.ext hij)
    rw [if_neg hval, Function.update_of_ne (Ne.symm h)]
    rfl

/-- The update address is written through its two halves and moves with the data register. -/
theorem updateAddr_unwritten {select : U8} {regs regs' : Registers} (hhigh : select ≠ 0x12)
    (hlow : select ≠ 0x13) (hdata : select ≠ 0x1F)
    (h : writeRegister m select data regs = some regs') : regs'.updateAddr = regs.updateAddr := by
  let vram : Vector U8 VRAM_SIZE := new.vram
  have hread (r : U8) (hr : r ∈ pairedRegisters) (hne : select ≠ r) :
      readRegister vram r regs' = readRegister vram r regs :=
    readRegister_unwritten hr hne (fun h => absurd h hdata) h
  have hhi : hi regs'.updateAddr = hi regs.updateAddr := hread 0x12 (by decide) hhigh
  have hlo : lo regs'.updateAddr = lo regs.updateAddr := hread 0x13 (by decide) hlow
  rw [← word_hi_lo regs'.updateAddr, hhi, hlo, word_hi_lo]

/-- The VRAM is written through the data register alone. -/
theorem writeVram_other {select : U8} (h : select ≠ 0x1F) (data : U8) (regs : Registers)
    (vram : Vector U8 VRAM_SIZE) : writeVram select data regs vram = vram := by
  unfold writeVram
  split
  case h_1 hselect => exact absurd (BitVec.eq_of_toNat_eq hselect) h
  case h_2 => rfl

theorem feed_read (hport : port &&& 0x01 ≠ 0) (h : v.read m port = some (b, v')) :
    (fetched v (.read port) (some b), v'.cursor) =
      v.cursor.feed (accessOf 0x1F v.registerSelect (.read port)) := by
  by_cases hselect : v.registerSelect = 0x1F
  · obtain ⟨rfl, regs, heffect, rfl⟩ := read_register hport h
    rw [hselect] at heffect
    obtain ⟨a, ha, rfl⟩ := Option.map_eq_some_iff.1 heffect
    rw [fetched, accessOf, if_pos ⟨hport, hselect⟩, if_pos ⟨hport, hselect⟩, Cursor.feed,
      Cursor.feed, Cursor.next, ← vramIndex_next ha, hselect]
    rfl
  · rw [fetched, accessOf, if_neg fun h => hselect h.2, if_neg fun h => hselect h.2]
    rw [read_data v hport hselect] at h
    cases h
    rfl

theorem feed_write (hport : port &&& 0x01 ≠ 0) (hhigh : v.registerSelect ≠ 0x12)
    (hlow : v.registerSelect ≠ 0x13) (h : v.write m port data = some v') :
    (fetched v (.write port data) none, v'.cursor) =
      v.cursor.feed (accessOf 0x1F v.registerSelect (.write port data)) := by
  obtain ⟨regs, hregs, rfl⟩ := write_register hport h
  by_cases hselect : v.registerSelect = 0x1F
  · rw [accessOf, if_pos ⟨hport, hselect⟩, Cursor.feed, Cursor.feed, Cursor.write]
    rw [hselect] at hregs
    obtain ⟨a, ha, rfl⟩ := Option.map_eq_some_iff.1 hregs
    rw [← vramIndex_next ha, cursor, hselect]
    exact congrArg (fun cells => (([] : List U8), Cursor.mk cells _)) (get_set _ _ _)
  · rw [accessOf, if_neg fun h => hselect h.2, Cursor.feed, cursor,
      updateAddr_unwritten hhigh hlow hselect hregs, writeVram_other hselect]
    rfl

/-- **One step moves the cursor** as its access to the data register says, if it leaves the
update address alone. -/
theorem cursor_step (h : step m v op = some (o, v'))
    (hhigh : ∀ d, some d ∉ accessOf 0x12 v.registerSelect op)
    (hlow : ∀ d, some d ∉ accessOf 0x13 v.registerSelect op) :
    (fetched v op o, v'.cursor) = v.cursor.feed (accessOf 0x1F v.registerSelect op) := by
  cases op with
  | tick =>
    obtain ⟨w, htick, heq⟩ := Option.map_eq_some_iff.1 h
    cases heq
    have hframe := tick_frame htick
    rw [cursor, hframe.vram, hframe.registers]
    rfl
  | read port =>
    obtain ⟨⟨b, w⟩, hread, heq⟩ := Option.map_eq_some_iff.1 h
    cases heq
    by_cases hport : port &&& 0x01 = 0
    · rw [read_status v hport] at hread
      cases hread
      rw [fetched, accessOf, if_neg fun h => h.1 hport, if_neg fun h => h.1 hport]
      rfl
    · exact feed_read hport hread
  | write port data =>
    obtain ⟨w, hwrite, heq⟩ := Option.map_eq_some_iff.1 h
    cases heq
    by_cases hport : port &&& 0x01 = 0
    · rw [write_select v hport] at hwrite
      cases hwrite
      rw [accessOf, if_neg fun h => h.1 hport]
      rfl
    · exact feed_write hport (ne_of_unwritten hport hhigh) (ne_of_unwritten hport hlow) hwrite

/-- A run accesses the data register as `as` says and leaves the update address alone. -/
structure Streams (as : List (Option U8)) (s : U8) (ops : List Op) : Prop where
  data : accesses 0x1F s ops = as
  high : Unwritten 0x12 s ops
  low : Unwritten 0x13 s ops

/-- **A run moves the cursor** as its accesses to the data register say, whatever else it does. -/
theorem cursor_run {as : List (Option U8)} {ops : List Op} {os : List (Option U8)}
    (hstreams : Streams as v.registerSelect ops)
    (h : Machine.run (step m) v ops = some (os, v')) :
    (Machine.collect (step m) fetched v ops, v'.cursor) = v.cursor.feed as := by
  obtain ⟨rfl, hhigh, hlow⟩ := hstreams
  induction ops generalizing v os with
  | nil =>
    cases h
    rfl
  | cons op ops ih =>
    obtain ⟨o, v₁, os', hstep, hrest, -⟩ := Machine.run_cons_eq_some h
    have hselect := registerSelect_step hstep
    have hfirst := cursor_step hstep hhigh.first hlow.first
    have hlater := ih hrest (hselect ▸ hhigh.rest) (hselect ▸ hlow.rest)
    rw [hselect] at hlater
    rw [accesses, Cursor.feed_append, ← hfirst, ← hlater, Machine.collect_cons hstep]

/-! ### What keeps the VRAM -/

theorem vram_step (h : step m v op = some (o, v'))
    (hdata : ∀ d, some d ∉ accessOf 0x1F v.registerSelect op) : v'.vram = v.vram := by
  obtain ⟨rfl, htick⟩ | ⟨port, b, rfl, hread⟩ | ⟨port, data, rfl, hwrite⟩ := step_cases h
  · exact (tick_frame htick).vram
  · obtain rfl | ⟨a, rfl⟩ := read_cases hread
    · rfl
    · rfl
  · by_cases hport : port &&& 0x01 = 0
    · rw [write_select v hport] at hwrite
      cases hwrite
      rfl
    · obtain ⟨regs, -, rfl⟩ := write_register hport hwrite
      exact writeVram_other (ne_of_unwritten hport hdata) _ _ _

theorem vram_run {ops : List Op} {os : List (Option U8)}
    (h : Machine.run (step m) v ops = some (os, v'))
    (hdata : Unwritten 0x1F v.registerSelect ops) : v'.vram = v.vram := by
  induction ops generalizing v os with
  | nil =>
    cases h
    rfl
  | cons op ops ih =>
    obtain ⟨o, v₁, os', hstep, hrest, -⟩ := Machine.run_cons_eq_some h
    have hfirst := vram_step hstep hdata.first
    have hlater := ih hrest (registerSelect_step hstep ▸ hdata.rest)
    exact hlater.trans hfirst

theorem registerSelect_run {ops : List Op} {os : List (Option U8)}
    (h : Machine.run (step m) v ops = some (os, v')) :
    v'.registerSelect = ops.foldl selected v.registerSelect := by
  induction ops generalizing v os with
  | nil =>
    cases h
    rfl
  | cons op ops ih =>
    obtain ⟨o, v₁, os', hstep, hrest, -⟩ := Machine.run_cons_eq_some h
    rw [ih hrest, registerSelect_step hstep, List.foldl_cons]

/-! ### Setting the address -/

/-- A run sets the update address to `a`: the last bytes of its halves are those of `a`, and the
data register was not accessed since. -/
structure Sets (a : U16) (s : U8) (ops : List Op) : Prop where
  high : (Seen.run 0x12 { select := s } ops).last = some (hi a)
  high_kept : (Seen.run 0x12 { select := s } ops).accessed = false
  low : (Seen.run 0x13 { select := s } ops).last = some (lo a)
  low_kept : (Seen.run 0x13 { select := s } ops).accessed = false

theorem Sets.updateAddr {a : U16} {ops : List Op} {os : List (Option U8)}
    (hsets : Sets a v.registerSelect ops) (h : Machine.run (step m) v ops = some (os, v')) :
    v'.registers.updateAddr = a := by
  have hhi : hi v'.registers.updateAddr &&& 0xFF = hi a &&& 0xFF :=
    ((Knows.first 0x12 v).after_run (by decide) h).last _ hsets.high fun _ => hsets.high_kept
  have hlo : lo v'.registers.updateAddr &&& 0xFF = lo a &&& 0xFF :=
    ((Knows.first 0x13 v).after_run (by decide) h).last _ hsets.low fun _ => hsets.low_kept
  have hmask (b : U8) : b &&& 0xFF = b := BitVec.and_allOnes
  rw [hmask, hmask] at hhi hlo
  rw [← word_hi_lo v'.registers.updateAddr, hhi, hlo, word_hi_lo]

/-! ### Runs of a build that wraps -/

theorem nextAddr_wraps_isSome (addr : U16) : (nextAddr .wraps addr).isSome := by
  rw [nextAddr, Option.isSome_map]
  exact Overflow.add_wraps_isSome ..

theorem read_wraps_isSome (v : Vdc) (port : U16) : (v.read .wraps port).isSome := by
  unfold read
  split
  · rfl
  · rw [Option.isSome_map]
    unfold readEffect
    split
    · rw [Option.isSome_map]
      exact nextAddr_wraps_isSome _
    · rfl

theorem write_wraps_isSome (v : Vdc) (port : U16) (data : U8) :
    (v.write .wraps port data).isSome := by
  unfold write
  split
  · rfl
  · rw [Option.isSome_map]
    unfold writeRegister
    split
    all_goals first
      | rfl
      | (rw [Option.isSome_map]; exact nextAddr_wraps_isSome _)

/-- A tick does not panic. -/
def TickSafe (v : Vdc) (op : Op) : Prop := op = .tick → (v.tick .wraps).isSome

theorem step_wraps_isSome (v : Vdc) (op : Op) : (step .wraps v op).isSome ↔ TickSafe v op := by
  cases op with
  | tick =>
    rw [step, Option.isSome_map]
    exact (imp_iff_right rfl).symm
  | read port =>
    rw [step, Option.isSome_map]
    refine iff_of_true (read_wraps_isSome v port) ?_
    intro htick
    cases htick
  | write port data =>
    rw [step, Option.isSome_map]
    refine iff_of_true (write_wraps_isSome v port data) ?_
    intro htick
    cases htick

/-- Only ticks panic. -/
theorem run_wraps_isSome (v : Vdc) (ops : List Op) :
    (Machine.run (step .wraps) v ops).isSome ↔ Machine.Along (step .wraps) TickSafe v ops :=
  Machine.run_isSome_iff_along (fun _ _ _ _ (_ : True) _ => trivial)
    (fun v op _ => step_wraps_isSome v op) trivial ops

/-- **Streaming round-trips.**  An address is set, bytes are written to the data register, the
address is set again and as many bytes are read from the data register, with ticks, status reads
and accesses to other registers anywhere in between.  If no tick panics, the bytes are read back,
and the writes changed the cells from the address on, around the end of the VRAM, and no others. -/
theorem streaming_roundTrip (a : U16) {bs : List U8} (hlen : bs.length ≤ VRAM_SIZE) {v : Vdc}
    {set store reset fetch : List Op}
    (hticks : Machine.Along (step .wraps) TickSafe v (set ++ store ++ reset ++ fetch))
    (hset : Sets a v.registerSelect set)
    (hstore : Streams (bs.map some) (set.foldl selected v.registerSelect) store)
    (hreset : Sets a ((set ++ store).foldl selected v.registerSelect) reset)
    (hkeep : Unwritten 0x1F ((set ++ store).foldl selected v.registerSelect) reset)
    (hfetch : Streams (List.replicate bs.length none)
      ((set ++ store ++ reset).foldl selected v.registerSelect) fetch) :
    ∃ os₁ v₁ os₂ v₂ os₃ v₃ os₄ v₄,
      Machine.run (step .wraps) v set = some (os₁, v₁) ∧
      Machine.run (step .wraps) v₁ store = some (os₂, v₂) ∧
      Machine.run (step .wraps) v₂ reset = some (os₃, v₃) ∧
      Machine.run (step .wraps) v₃ fetch = some (os₄, v₄) ∧
      Machine.collect (step .wraps) fetched v₃ fetch = bs ∧
      (∀ (i : ℕ) (hi : i < bs.length), v₂.memory (a.toNat + i) = bs[i]) ∧
      ∀ p < VRAM_SIZE, (∀ i < bs.length, p ≠ (a.toNat + i) % VRAM_SIZE) →
        v₂.memory p = v₁.memory p := by
  obtain ⟨⟨os, v₄⟩, hrun⟩ := Option.isSome_iff_exists.1 ((run_wraps_isSome v _).2 hticks)
  obtain ⟨_, v₃, os₄, hrun, hfetching, -⟩ := Machine.run_append_eq_some hrun
  obtain ⟨_, v₂, os₃, hrun, hresetting, -⟩ := Machine.run_append_eq_some hrun
  obtain ⟨os₁, v₁, os₂, hsetting, hstoring, -⟩ := Machine.run_append_eq_some hrun
  refine ⟨os₁, v₁, os₂, v₂, os₃, v₃, os₄, v₄, hsetting, hstoring, hresetting, hfetching, ?_⟩
  have haddr₁ : v₁.registers.updateAddr = a := hset.updateAddr hsetting
  rw [← registerSelect_run hsetting] at hstore
  have hstored := congrArg Prod.snd (cursor_run hstore hstoring)
  have hselect₂ := registerSelect_run (Machine.run_append_of_some hsetting hstoring)
  rw [← hselect₂] at hreset hkeep
  have haddr₃ : v₃.registers.updateAddr = a := hreset.updateAddr hresetting
  have hvram : v₃.vram = v₂.vram := vram_run hresetting hkeep
  rw [List.foldl_append, ← hselect₂, ← registerSelect_run hresetting] at hfetch
  have hfetched := congrArg Prod.fst (cursor_run hfetch hfetching)
  obtain ⟨hset, hframe⟩ := v₁.cursor.cells_stream hlen
  rw [← hstored] at hset hframe
  refine ⟨?_, ?_, ?_⟩
  · refine hfetched.trans (Cursor.fetch_streamed (c := v₁.cursor) hlen ?_ ?_)
    · rw [← hstored, cursor, hvram]
      rfl
    · rw [cursor, haddr₃, cursor, haddr₁]
  · intro i hi
    rw [memory_ahead v₂ haddr₁, hset i hi]
  · intro p hp hne
    rw [memory_of_lt v₂ hp, memory_of_lt v₁ hp]
    apply hframe
    intro i hi heq
    apply hne i hi
    rw [← haddr₁, ← cursor_ahead, ← heq]

/-- The guest sets the update address. -/
def setAddr (a : U16) : List Op :=
  [.write 0 0x12, .write 1 (hi a), .write 0 0x13, .write 1 (lo a)]

def storeTwo : List Op :=
  [.write 0 0x1F, .write 1 0x55, .tick, .read 0, .write 0 0x00, .write 1 0x7F, .write 0 0x1F,
    .write 1 0x66]

def fetchTwo : List Op := [.write 0 0x1F, .read 1, .tick, .read 0, .write 0 0x1F, .read 1]

/-- Two bytes around the end of the VRAM. -/
theorem streaming_roundTrip_end : ∃ os v,
    Machine.run (step .wraps) new (setAddr 0xFFFF ++ storeTwo ++ setAddr 0xFFFF) = some (os, v) ∧
      Machine.collect (step .wraps) fetched v fetchTwo = [0x55, 0x66] := by
  have hlen : ([0x55, 0x66] : List U8).length ≤ VRAM_SIZE := by decide
  have hticks : Machine.Along (step .wraps) TickSafe new
      (setAddr 0xFFFF ++ storeTwo ++ setAddr 0xFFFF ++ fetchTwo) :=
    (run_wraps_isSome _ _).1 rfl
  have hunwritten {r s : U8} {ops : List Op} (h : accesses r s ops = []) : Unwritten r s ops := by
    intro data hmem
    rw [h] at hmem
    exact List.not_mem_nil hmem
  obtain ⟨os₁, v₁, os₂, v₂, os₃, v₃, -, -, hset, hstore, hreset, -, hfetched, -⟩ :=
    streaming_roundTrip 0xFFFF hlen hticks ⟨rfl, rfl, rfl, rfl⟩
      ⟨rfl, hunwritten rfl, hunwritten rfl⟩ ⟨rfl, rfl, rfl, rfl⟩ (hunwritten rfl)
      ⟨rfl, hunwritten rfl, hunwritten rfl⟩
  exact ⟨_, v₃, Machine.run_append_of_some (Machine.run_append_of_some hset hstore) hreset,
    hfetched⟩

end Possum.Vdc
