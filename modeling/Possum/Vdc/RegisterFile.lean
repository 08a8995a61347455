import Possum.Vdc.Frame

/-!
# The register file

Selecting a register and reading the data port returns what was last written to the register,
in the bits it keeps (`registerFile_roundTrip`).  The two halves of the update address count up
with every access to the data register 0x1F, so for them the accesses since the write matter.

`Seen` is what an observer of the ports knows of one register: its last byte, and whether the
data register was accessed since.
-/

set_option autoImplicit false

namespace Possum.Vdc

open Lib

/-- What an observer of the ports knows of a register. -/
structure Seen where
  select : U8
  last : Option U8 := none
  /-- The data register was accessed after the last write. -/
  accessed : Bool := false

namespace Seen

/-- The observer of register `r` after an operation. -/
def after (r : U8) (s : Seen) : Op → Seen
  | .tick => s
  | .read port =>
    if port &&& 0x01 = 0 then s
    else if s.select = 0x1F then { s with accessed := true }
    else s
  | .write port data =>
    if port &&& 0x01 = 0 then { s with select := data &&& 0x3F }
    else if s.select = r then { s with last := some data, accessed := false }
    else if s.select = 0x1F then { s with accessed := true }
    else s

/-- The observer of register `r` after a run. -/
def run (r : U8) (s : Seen) (ops : List Op) : Seen := ops.foldl (after r) s

end Seen

/-- The registers, other than the data register 0x1F, whose read returns the field that their
write sets. -/
def pairedRegisters : List U8 :=
  [0x00, 0x01, 0x02, 0x03, 0x04, 0x05, 0x06, 0x07, 0x08, 0x09, 0x0A, 0x0B, 0x0C, 0x0D, 0x0E, 0x0F,
    0x12, 0x13, 0x14, 0x15, 0x16, 0x17, 0x18, 0x19, 0x1A, 0x1B, 0x1C, 0x1D, 0x1E, 0x20, 0x21]

/-- The bits of a register that a write stores. -/
def storedBits (r : U8) : U8 :=
  match r.toNat with
  | 0x05 | 0x09 | 0x0B | 0x17 | 0x1D => 0x1F
  | 0x08 => 0x03
  | 0x0A => 0x7F
  | 0x1C => 0xE0
  | _ => 0xFF

/-- The stored bits that a read shows: all of them, but bit 4 alone of register 0x1D. -/
def shownBits (r : U8) : U8 := if r = 0x1D then 0x10 else storedBits r

/-- The halves of the update address. -/
def isUpdateAddr (r : U8) : Prop := r = 0x12 ∨ r = 0x13

instance (r : U8) : Decidable (isUpdateAddr r) := inferInstanceAs (Decidable (_ ∨ _))

/-! ### Halves of a word -/

theorem withHigh_eq_word (old : U16) (data : U8) : withHigh old data = word data (lo old) :=
  replace_high old data

theorem withLow_eq_word (old : U16) (data : U8) : withLow old data = word (hi old) data :=
  replace_low old data

@[simp] theorem hi_withHigh (old : U16) (data : U8) : hi (withHigh old data) = data := by
  rw [withHigh_eq_word, hi_word]

@[simp] theorem lo_withHigh (old : U16) (data : U8) : lo (withHigh old data) = lo old := by
  rw [withHigh_eq_word, lo_word]

@[simp] theorem hi_withLow (old : U16) (data : U8) : hi (withLow old data) = hi old := by
  rw [withLow_eq_word, hi_word]

@[simp] theorem lo_withLow (old : U16) (data : U8) : lo (withLow old data) = data := by
  rw [withLow_eq_word, lo_word]

/-! ### The file as a list of bytes -/

/-- What the data port shows of the paired registers, in their order. -/
def byteFile (r : Registers) : List U8 :=
  [r.horizTotal, r.horizDisplayed, r.horizSync, r.syncWidths, r.vertTotal, r.vertAdjust ||| 0xE0,
    r.vertDisplayed, r.vertSync, r.interlaceMode ||| 0xFC, r.charTotalVert ||| 0xE0,
    r.cursorModeStartScan ||| 0x80, r.cursorEndScanLine ||| 0xE0, hi r.dispStartAddr,
    lo r.dispStartAddr, hi r.cursorPos, lo r.cursorPos, hi r.updateAddr, lo r.updateAddr,
    hi r.attrAddr, lo r.attrAddr, r.charTotalDispHoriz, r.charDispVert ||| 0xE0, r.vertScrollCtrl,
    r.horizScrollCtrl, r.fgBgColor, r.addrInc, hi r.charBaseAddr, r.underlineCtrl ||| 0xEF,
    r.wordCount, hi r.blockStartAddr, lo r.blockStartAddr]

variable {m : Overflow} {r select data : U8} {regs regs' : Registers}
  {vram vram' : Vector U8 VRAM_SIZE}

theorem map_readRegister (vram : Vector U8 VRAM_SIZE) (regs : Registers) :
    pairedRegisters.map (fun r => readRegister vram r regs) = byteFile regs := rfl

/-- What a byte written to register `r` shows. -/
def shown (r data : U8) : U8 :=
  match r.toNat with
  | 0x05 | 0x09 | 0x0B | 0x17 => data &&& 0x1F ||| 0xE0
  | 0x08 => data &&& 0x03 ||| 0xFC
  | 0x0A => data &&& 0x7F ||| 0x80
  | 0x1C => data &&& 0xE0
  | 0x1D => data &&& 0x1F ||| 0xEF
  | _ => data

theorem shown_and_shownBits (r data : U8) :
    shown r data &&& shownBits r = data &&& shownBits r := by
  have hreg {k : ℕ} (hk : r.toNat = k) : r = BitVec.ofNat 8 k := by
    rw [← hk, BitVec.ofNat_toNat, BitVec.setWidth_eq]
  unfold shown
  split
  all_goals first
    | rfl
    | (rw [hreg (by assumption)]; revert data; decide +kernel)

theorem readRegister_eq (hr : r ∈ pairedRegisters) :
    (byteFile regs)[pairedRegisters.idxOf r]? = some (readRegister vram r regs) := by
  rw [← map_readRegister vram, List.getElem?_map, List.getElem?_idxOf hr]
  rfl

theorem hi_shift (b : U8) : hi (b.setWidth 16 <<< 8) = b := by
  have h := hi_word b 0
  rwa [word, show BitVec.setWidth 16 (0 : U8) = 0#16 from rfl, BitVec.or_zero] at h

section

-- the halves of a word are read through their lemmas alone
attribute [local irreducible] hi lo withHigh withLow

/-- A write to a paired register sets one byte of the file. -/
theorem byteFile_written (hr : r ∈ pairedRegisters)
    (h : writeRegister m r data regs = some regs') :
    byteFile regs' = (byteFile regs).set (pairedRegisters.idxOf r) (shown r data) := by
  simp only [pairedRegisters, List.mem_cons, List.not_mem_nil, or_false] at hr
  rcases hr with rfl | rfl | rfl | rfl | rfl | rfl | rfl | rfl | rfl | rfl | rfl | rfl | rfl | rfl |
    rfl | rfl | rfl | rfl | rfl | rfl | rfl | rfl | rfl | rfl | rfl | rfl | rfl | rfl | rfl | rfl |
    rfl
  all_goals cases h
  all_goals first
    | rfl
    | (simp only [byteFile, hi_withHigh, lo_withHigh, hi_withLow, lo_withLow, hi_shift]; rfl)

/-- An access to the data register sets the two halves of the update address. -/
theorem byteFile_updateAddr (regs : Registers) (a : U16) :
    byteFile { regs with updateAddr := a } =
      ((byteFile regs).set (pairedRegisters.idxOf 0x12) (hi a)).set (pairedRegisters.idxOf 0x13)
        (lo a) := rfl

/-- The rest of the file has no byte of its own. -/
theorem byteFile_unpaired (hselect : select ∉ pairedRegisters) (hdata : select ≠ 0x1F)
    (h : writeRegister m select data regs = some regs') : byteFile regs' = byteFile regs := by
  have hmem {k : ℕ} (hk : select.toNat = k) : BitVec.ofNat 8 k ∉ pairedRegisters := by
    rwa [← hk, BitVec.ofNat_toNat, BitVec.setWidth_eq]
  unfold writeRegister at h
  split at h
  all_goals first
    | exact (hmem (by assumption) (by decide)).elim
    | exact absurd (BitVec.eq_of_toNat_eq (by assumption)) hdata
    | (cases h; rfl)

end

/-! ### Reading back -/

theorem readRegister_written (hr : r ∈ pairedRegisters)
    (h : writeRegister m r data regs = some regs') :
    readRegister vram r regs' &&& shownBits r = data &&& shownBits r := by
  have hlen : pairedRegisters.idxOf r < (byteFile regs).length :=
    List.idxOf_lt_length_of_mem hr
  have hread : some (readRegister vram r regs') = some (shown r data) := by
    rw [← readRegister_eq hr, byteFile_written hr h, List.getElem?_set_self hlen]
  rw [Option.some.inj hread, shown_and_shownBits]

/-- Registers whose bytes of the file agree read the same. -/
theorem readRegister_congr (hr : r ∈ pairedRegisters)
    (h : (byteFile regs')[pairedRegisters.idxOf r]? = (byteFile regs)[pairedRegisters.idxOf r]?) :
    readRegister vram' r regs' = readRegister vram r regs := by
  rw [readRegister_eq hr, readRegister_eq hr] at h
  exact Option.some.inj h

theorem readRegister_updateAddr (hr : r ∈ pairedRegisters) (hupdate : ¬ isUpdateAddr r)
    (a : U16) : readRegister vram' r { regs with updateAddr := a } = readRegister vram r regs := by
  have hhigh : pairedRegisters.idxOf 0x12 ≠ pairedRegisters.idxOf r := by
    intro hidx
    exact hupdate (.inl ((List.idxOf_inj (by decide)).1 hidx).symm)
  have hlow : pairedRegisters.idxOf 0x13 ≠ pairedRegisters.idxOf r := by
    intro hidx
    exact hupdate (.inr ((List.idxOf_inj (by decide)).1 hidx).symm)
  apply readRegister_congr hr
  rw [byteFile_updateAddr, List.getElem?_set_ne hlow, List.getElem?_set_ne hhigh]

theorem readRegister_unwritten (hr : r ∈ pairedRegisters) (hne : select ≠ r)
    (hupdate : select = 0x1F → ¬ isUpdateAddr r)
    (h : writeRegister m select data regs = some regs') :
    readRegister vram' r regs' = readRegister vram r regs := by
  by_cases hdata : select = 0x1F
  · subst hdata
    obtain ⟨a, -, rfl⟩ := Option.map_eq_some_iff.1 h
    exact readRegister_updateAddr hr (hupdate rfl) a
  apply readRegister_congr hr
  by_cases hselect : select ∈ pairedRegisters
  · have hidx : pairedRegisters.idxOf select ≠ pairedRegisters.idxOf r := by
      intro hidx
      exact hne ((List.idxOf_inj hselect).1 hidx)
    rw [byteFile_written hselect h, List.getElem?_set_ne hidx]
  · rw [byteFile_unpaired hselect hdata h]

/-! ### Runs -/

/-- What the observer of register `r` knows is true of the chip. -/
structure Knows (r : U8) (s : Seen) (v : Vdc) : Prop where
  select : s.select = v.registerSelect
  last : ∀ d, s.last = some d → (isUpdateAddr r → s.accessed = false) →
    readRegister v.vram r v.registers &&& shownBits r = d &&& shownBits r

theorem Knows.first (r : U8) (v : Vdc) : Knows r { select := v.registerSelect } v :=
  ⟨rfl, fun _ h => nomatch h⟩

variable {v v' : Vdc} {s : Seen} {port : U16} {b : U8}

theorem Knows.after_tick (hs : Knows r s v) (h : v.tick m = some v') : Knows r s v' := by
  have hframe := tick_frame h
  refine ⟨hs.select.trans hframe.registerSelect.symm, ?_⟩
  rw [hframe.registers, hframe.vram]
  exact hs.last

theorem Knows.after_read (hr : r ∈ pairedRegisters) (hs : Knows r s v)
    (h : v.read m port = some (b, v')) : Knows r (s.after r (.read port)) v' := by
  by_cases hport : port &&& 0x01 = 0
  · rw [read_status v hport] at h
    cases h
    rwa [Seen.after, if_pos hport]
  · obtain ⟨-, regs', heffect, rfl⟩ := read_register hport h
    rw [Seen.after, if_neg hport, hs.select]
    obtain ⟨hdata, rfl⟩ | ⟨hdata, a, rfl⟩ := readEffect_cases heffect
    · rwa [if_neg hdata]
    · rw [if_pos hdata]
      refine ⟨rfl, ?_⟩
      intro d hd haccessed
      have hupdate : ¬ isUpdateAddr r := fun hr => Bool.noConfusion (haccessed hr)
      show readRegister v.vram r { v.registers with updateAddr := a } &&& shownBits r = _
      rw [readRegister_updateAddr hr hupdate a]
      exact hs.last d hd fun hr => absurd hr hupdate

theorem Knows.after_write (hr : r ∈ pairedRegisters) (hs : Knows r s v) {data : U8}
    (h : v.write m port data = some v') : Knows r (s.after r (.write port data)) v' := by
  by_cases hport : port &&& 0x01 = 0
  · rw [write_select v hport] at h
    cases h
    rw [Seen.after, if_pos hport]
    exact ⟨rfl, hs.last⟩
  · obtain ⟨regs', hwrite, rfl⟩ := write_register hport h
    rw [Seen.after, if_neg hport, hs.select]
    by_cases hsame : v.registerSelect = r
    · rw [if_pos hsame]
      refine ⟨rfl, ?_⟩
      intro d hd _
      obtain rfl : data = d := Option.some.inj hd
      exact readRegister_written hr (hsame ▸ hwrite)
    · rw [if_neg hsame]
      have hother (haccessed : isUpdateAddr r → v.registerSelect ≠ 0x1F) (vram) :
          readRegister vram r regs' = readRegister v.vram r v.registers :=
        readRegister_unwritten hr hsame (fun hdata hupdate => haccessed hupdate hdata) hwrite
      by_cases hdata : v.registerSelect = 0x1F
      · rw [if_pos hdata]
        refine ⟨rfl, ?_⟩
        intro d hd haccessed
        have hupdate : ¬ isUpdateAddr r := fun hr => Bool.noConfusion (haccessed hr)
        exact (congrArg (· &&& shownBits r) (hother (fun hr => absurd hr hupdate) _)).trans
          (hs.last d hd fun hr => absurd hr hupdate)
      · rw [if_neg hdata]
        refine ⟨hs.select, ?_⟩
        intro d hd haccessed
        exact (congrArg (· &&& shownBits r) (hother (fun _ => hdata) _)).trans
          (hs.last d hd haccessed)

/-- **What the observer knows stays true**, step by step. -/
theorem Knows.after_step (hr : r ∈ pairedRegisters) (hs : Knows r s v) {op : Op} {o : Option U8}
    (h : step m v op = some (o, v')) : Knows r (s.after r op) v' := by
  obtain ⟨rfl, htick⟩ | ⟨port, b, rfl, hread⟩ | ⟨port, data, rfl, hwrite⟩ := step_cases h
  · exact hs.after_tick htick
  · exact hs.after_read hr hread
  · exact hs.after_write hr hwrite

theorem Knows.after_run (hr : r ∈ pairedRegisters) (hs : Knows r s v) {ops : List Op}
    {os : List (Option U8)} (h : Machine.run (step m) v ops = some (os, v')) :
    Knows r (s.run r ops) v' := by
  induction ops generalizing v s os with
  | nil =>
    cases h
    exact hs
  | cons op ops ih =>
    obtain ⟨o, v₁, os', hstep, hrest, -⟩ := Machine.run_cons_eq_some h
    exact ih (hs.after_step hr hstep) hrest

theorem read_data (v : Vdc) {port : U16} (hport : port &&& 0x01 ≠ 0)
    (hselect : v.registerSelect ≠ 0x1F) :
    v.read m port = some (readRegister v.vram v.registerSelect v.registers, v) := by
  have heffect : readEffect m v.registerSelect v.registers = some v.registers := by
    unfold readEffect
    split
    case h_1 h => exact absurd (BitVec.eq_of_toNat_eq h) hselect
    case h_2 => rfl
  unfold read
  split
  case h_1 h => exact absurd (BitVec.eq_of_toNat_eq h) hport
  case h_2 =>
    rw [heffect]
    rfl

/-- Selecting a paired register and reading the data port. -/
theorem select_then_read (hr : r ∈ pairedRegisters) (v : Vdc) {select data : U16}
    (hselect : select &&& 0x01 = 0) (hdata : data &&& 0x01 ≠ 0) :
    ∃ w, Machine.run (step m) v [.write select r, .read data] =
      some ([none, some (readRegister v.vram r v.registers)], w) := by
  have hnumbers : (pairedRegisters.all fun r => r &&& 0x3F = r ∧ r ≠ 0x1F) = true := by decide
  obtain ⟨hmask, hne⟩ := of_decide_eq_true (List.all_eq_true.1 hnumbers r hr)
  let w : Vdc := { v with parametersDirty := true, registerSelect := r }
  have hwrite : step m v (.write select r) = some (none, w) := by
    rw [step, write_select v hselect, hmask]
    rfl
  have hread : step m w (.read data) =
      some (some (readRegister v.vram r v.registers), w) := by
    rw [step, read_data w hdata hne]
    rfl
  refine ⟨w, ?_⟩
  rw [Machine.run_cons hwrite, Machine.run_cons hread]
  rfl

/-- **The register file round-trips.**  Whatever a run of ticks, reads and writes did, selecting
a register and reading the data port returns the byte last written to it in the bits it shows;
for a half of the update address, unless the data register was accessed since. -/
theorem registerFile_roundTrip (m : Overflow) {r : U8} (hr : r ∈ pairedRegisters) {v v' : Vdc}
    {ops : List Op} {os : List (Option U8)} (hrun : Machine.run (step m) v ops = some (os, v'))
    {d : U8} (hlast : (Seen.run r { select := v.registerSelect } ops).last = some d)
    (haccessed : isUpdateAddr r →
      (Seen.run r { select := v.registerSelect } ops).accessed = false)
    {select data : U16} (hselect : select &&& 0x01 = 0) (hdata : data &&& 0x01 ≠ 0) :
    ∃ b w, Machine.run (step m) v' [.write select r, .read data] = some ([none, some b], w) ∧
      b &&& shownBits r = d &&& shownBits r := by
  obtain ⟨w, hread⟩ := select_then_read (m := m) hr v' hselect hdata
  exact ⟨_, w, hread, ((Knows.first r v).after_run hr hrun).last d hlast haccessed⟩

/-- The low half of the update address, written after an access to the data register and before
a tick and a write of the high half. -/
theorem registerFile_roundTrip_low : ∃ v',
    Machine.run (step .panics) new [.write 0 0x1F, .write 1 0x55, .write 0 0x13, .write 1 0x42,
      .tick, .write 0 0x12, .write 1 0x07] =
        some ([none, none, none, none, none, none, none], v') ∧
    ∃ b w, Machine.run (step .panics) v' [.write 0 0x13, .read 1] = some ([none, some b], w) ∧
      b &&& 0xFF = 0x42 &&& 0xFF := by
  obtain ⟨v', hrun⟩ : ∃ v', Machine.run (step .panics) new [.write 0 0x1F, .write 1 0x55,
      .write 0 0x13, .write 1 0x42, .tick, .write 0 0x12, .write 1 0x07] =
        some ([none, none, none, none, none, none, none], v') := ⟨_, rfl⟩
  exact ⟨v', hrun, registerFile_roundTrip .panics (by decide) hrun rfl (fun _ => rfl) rfl
    (by decide)⟩

/-- An access to the data register changes the low half of the update address. -/
theorem updateAddr_not_roundTrip :
    (Machine.run (step .panics) new [.write 0 0x13, .write 1 0x00, .write 0 0x1F, .write 1 0x55,
      .write 0 0x13, .read 1]).map Prod.fst =
        some [none, none, none, none, none, some 0x01] ∧
    0x01 &&& storedBits 0x13 ≠ 0x00 &&& storedBits 0x13 :=
  ⟨rfl, by decide⟩

end Possum.Vdc
