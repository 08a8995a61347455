import Possum.Dma.Program

/-!
# The 16-bit parameters of the DMA controller

WR0 announces any of the two bytes of port A's address and of the block length, WR4 any of the two
of port B's address.  `replaceHalves` is what the announced bytes should make of the register,
`storeHalves` what the device makes of it: it masks the old value with 0xF0 and 0x0F, where the
other byte would be 0xFF00 and 0x00FF.  The two agree exactly when the bits lost to the masks are
zero (`KeepsHalves`, **`words_programmed_iff`**).
-/

set_option autoImplicit false

namespace Possum

open Lib

namespace Dma

/-! ### Halves of a register -/

/-- The register with the bytes that are given. -/
def replaceHalves (old : U16) (low high : Option U8) : U16 :=
  word (high.getD (hi old)) (low.getD (lo old))

/-- The register after the device has stored the bytes that are given, the low one first. -/
def storeHalves (old : U16) (low high : Option U8) : U16 :=
  let stored := low.elim old (storeLow old)
  high.elim stored (storeHigh stored)

/-- The bits that the device loses are zero, or are set again. -/
def KeepsHalves (old : U16) (low high : Option U8) : Prop :=
  match low, high with
  | none, none => True
  | some low, none => hi old = 0 ∧ lo old &&& 0xF0 &&& ~~~low = 0
  | none, some _ => lo old &&& 0xF0 = 0
  | some low, some _ => low &&& 0xF0 = 0

theorem storeLow_eq_word (old : U16) (data : U8) :
    storeLow old data = word 0 (lo old &&& 0xF0 ||| data) := by
  rw [storeLow, ← setWidth_eq_word, BitVec.setWidth_or, BitVec.setWidth_and]
  congr 1
  apply BitVec.eq_of_getLsbD_eq
  intro i hlt
  interval_cases i <;> simp [lo]

theorem storeHigh_eq_word (old : U16) (data : U8) :
    storeHigh old data = word data (lo old &&& 0x0F) := by
  unfold storeHigh word lo
  apply BitVec.eq_of_getLsbD_eq
  intro i hlt
  interval_cases i <;> simp

theorem word_inj {h h' l l' : U8} : word h l = word h' l' ↔ h = h' ∧ l = l' := by
  constructor
  · intro heq
    have hhigh := congrArg hi heq
    have hlow := congrArg lo heq
    rw [hi_word, hi_word] at hhigh
    rw [lo_word, lo_word] at hlow
    exact ⟨hhigh, hlow⟩
  · rintro ⟨rfl, rfl⟩
    rfl

theorem or_eq_right_iff (k c : U8) : k ||| c = c ↔ k &&& ~~~c = 0 := by
  have hbool : ∀ x y : Bool, (x || y) = y ↔ (x && !y) = false := by decide
  rw [BitVec.eq_of_getLsbD_eq_iff, BitVec.eq_of_getLsbD_eq_iff]
  refine forall₂_congr fun i hlt => ?_
  have hzero : (0 : U8).getLsbD i = false := BitVec.getLsbD_zero
  rw [BitVec.getLsbD_or, hbool, BitVec.getLsbD_and, BitVec.getLsbD_not, decide_eq_true hlt,
    Bool.true_and, hzero]

/-- **When a register is programmed as announced.** -/
theorem storeHalves_eq_iff (old : U16) (low high : Option U8) :
    storeHalves old low high = replaceHalves old low high ↔ KeepsHalves old low high := by
  cases low with
  | none =>
    cases high with
    | none => exact iff_of_true (word_hi_lo old).symm trivial
    | some high =>
      have hbits : ∀ b : U8, b &&& 0x0F = b ↔ b &&& 0xF0 = 0 := by decide
      show storeHigh old high = word high (lo old) ↔ lo old &&& 0xF0 = 0
      rw [storeHigh_eq_word, word_inj, hbits]
      exact and_iff_right rfl
  | some low =>
    cases high with
    | none =>
      show storeLow old low = word (hi old) low ↔ hi old = 0 ∧ lo old &&& 0xF0 &&& ~~~low = 0
      rw [storeLow_eq_word, word_inj, or_eq_right_iff, eq_comm]
    | some high =>
      have hbits : ∀ b : U8, b &&& 0x0F = b ↔ b &&& 0xF0 = 0 := by decide
      have hlost : ∀ b c : U8, (b &&& 0xF0 ||| c) &&& 0x0F = c &&& 0x0F := by
        intro b c
        apply BitVec.eq_of_getLsbD_eq
        intro i hlt
        interval_cases i <;> simp
      show storeHigh (storeLow old low) high = word high low ↔ low &&& 0xF0 = 0
      rw [storeHigh_eq_word, storeLow_eq_word, lo_word, hlost, word_inj, hbits]
      exact and_iff_right rfl

/-! ### Announced bytes -/

/-- The parameter that a bit of the base register announces. -/
def optional (data bit : U8) (r : WriteRegister) : List WriteRegister :=
  if data &&& bit ≠ 0 then [r] else []

/-- The byte written for it. -/
def given (data bit byte : U8) : Option U8 := if data &&& bit ≠ 0 then some byte else none

/-- The announced parameters of WR0. -/
def announcedWR0 (data : U8) : List WriteRegister :=
  optional data 0x08 .portAAddressLow ++ (optional data 0x10 .portAAddressHigh ++
    (optional data 0x20 .blockLengthLow ++ optional data 0x40 .blockLengthHigh))

/-- The announced address bytes of WR4. -/
def announcedWR4 (data : U8) : List WriteRegister :=
  optional data 0x04 .portBAddressLow ++ optional data 0x08 .portBAddressHigh

theorem announce_eq (d : Dma) (data bit : U8) (r : WriteRegister) :
    d.announce data bit r = d.await (optional data bit r ++ d.writeOrder) := by
  unfold announce optional
  split <;> rfl

variable {m : Overflow} {d : Dma}

/-- The device after the base byte of WR0, with nothing awaited. -/
def baseWR0 (d : Dma) (data : U8) : Dma := { d with
  transfer := d.transfer || data &&& 0x01 != 0
  search := d.search || data &&& 0x02 != 0
  direction := if data &&& 0x04 = 0 then .portBToA else .portAToB
  writeOrder := [] }

/-- The device after the base byte of WR4. -/
def baseWR4 (d : Dma) : Dma := { d with accessMode := .byte, writeOrder := [] }

theorem write_wr0 (h : d.Idle) {data : U8} (hbase : data &&& 0x80 = 0)
    (hmode : data &&& 0x03 ≠ 0) :
    d.write m data = some ((d.baseWR0 data).await (announcedWR0 data)) := by
  rw [write_base h, writeBase_wr0 d hbase hmode, writeWR0, setMode_of d hmode, Option.map_some]
  simp only [announce_eq, setDirection, await, h.writeOrder, List.append_nil]
  rfl

theorem write_wr4 (h : d.Idle) {data : U8} (hbase : data &&& 0x83 = 0x81) :
    d.write m data =
      some (d.baseWR4.await (announcedWR4 data ++ optional data 0x10 .interruptControl)) := by
  rw [write_base h, writeBase_wr4 d hbase, writeWR4, accessModeOf_eq, Option.map_some]
  simp only [announce_eq, await, h.writeOrder, List.append_nil, announcedWR4, List.append_assoc,
    baseWR4]

/-! ### Storing what was announced -/

theorem storeAll_append {d d' : Dma} {ps qs : List (WriteRegister × U8)}
    (h : d.storeAll ps = some d') : d.storeAll (ps ++ qs) = d'.storeAll qs := by
  induction ps generalizing d with
  | nil =>
    cases h
    rfl
  | cons p ps ih =>
    obtain ⟨d₁, hfirst, hrest⟩ := Option.bind_eq_some_iff.1 h
    show (d.writeParameter p.1 p.2).bind (fun d' => storeAll d' (ps ++ qs)) = _
    rw [hfirst, Option.bind_some, ih hrest]

/-- A parameter that may be announced, stored in a register of the device. -/
theorem storeAll_optional {α : Type} {d : Dma} (data bit : U8) (r : WriteRegister)
    (bytes : WriteRegister → U8) (set : α → Dma) {old : α} {store : U8 → α} (hold : set old = d)
    (h : ∀ b, d.writeParameter r b = some (set (store b))) :
    d.storeAll ((optional data bit r).map fun r => (r, bytes r)) =
      some (set ((given data bit (bytes r)).elim old store)) := by
  unfold optional given
  by_cases hbit : data &&& bit ≠ 0
  · rw [if_pos hbit, if_pos hbit]
    show (d.writeParameter r (bytes r)).bind _ = _
    rw [h]
    rfl
  · rw [if_neg hbit, if_neg hbit]
    exact congrArg some hold.symm

/-- The device after the announced bytes of WR0. -/
def storeWR0 (d : Dma) (data : U8) (bytes : WriteRegister → U8) : Dma := { d with
  portAStartAddress := storeHalves d.portAStartAddress
    (given data 0x08 (bytes .portAAddressLow)) (given data 0x10 (bytes .portAAddressHigh))
  blockLength := storeHalves d.blockLength
    (given data 0x20 (bytes .blockLengthLow)) (given data 0x40 (bytes .blockLengthHigh)) }

/-- The device after the announced address bytes of WR4. -/
def storeWR4 (d : Dma) (data : U8) (bytes : WriteRegister → U8) : Dma := { d with
  portBStartAddress := storeHalves d.portBStartAddress
    (given data 0x04 (bytes .portBAddressLow)) (given data 0x08 (bytes .portBAddressHigh)) }

/-- The two bytes of a word, each of which may be announced. -/
theorem storeAll_halves {d : Dma} (data lowBit highBit : U8) (low high : WriteRegister)
    (bytes : WriteRegister → U8) (set : U16 → Dma) {old : U16} (hold : set old = d)
    (hlow : ∀ b, d.writeParameter low b = some (set (storeLow old b)))
    (hhigh : ∀ w b, (set w).writeParameter high b = some (set (storeHigh w b))) :
    d.storeAll ((optional data lowBit low ++ optional data highBit high).map fun r => (r, bytes r)) =
      some (set (storeHalves old (given data lowBit (bytes low))
        (given data highBit (bytes high)))) := by
  rw [List.map_append, storeAll_append (storeAll_optional data lowBit low bytes set hold hlow)]
  exact storeAll_optional data highBit high bytes set rfl (hhigh _)

theorem storeAll_wr0 (d : Dma) (data : U8) (bytes : WriteRegister → U8) :
    d.storeAll ((announcedWR0 data).map fun r => (r, bytes r)) = some (d.storeWR0 data bytes) := by
  have haddress := storeAll_halves data 0x08 0x10 .portAAddressLow .portAAddressHigh bytes
    (fun w => { d with portAStartAddress := w }) rfl (fun _ => rfl) fun _ _ => rfl
  unfold announcedWR0
  rw [← List.append_assoc, List.map_append, storeAll_append haddress]
  exact storeAll_halves data 0x20 0x40 .blockLengthLow .blockLengthHigh bytes
    (fun w => { d with
      portAStartAddress := storeHalves d.portAStartAddress
        (given data 0x08 (bytes .portAAddressLow)) (given data 0x10 (bytes .portAAddressHigh))
      blockLength := w }) rfl (fun _ => rfl) fun _ _ => rfl

theorem storeAll_wr4 (d : Dma) (data : U8) (bytes : WriteRegister → U8) :
    d.storeAll ((announcedWR4 data).map fun r => (r, bytes r)) = some (d.storeWR4 data bytes) :=
  storeAll_halves data 0x04 0x08 .portBAddressLow .portBAddressHigh bytes
    (fun w => { d with portBStartAddress := w }) rfl (fun _ => rfl) fun _ _ => rfl

/-- The bytes written to announced parameters, none of them the interrupt control. -/
theorem feed_announced {d d' : Dma} {rs : List WriteRegister} {bytes : WriteRegister → U8}
    (henabled : d.enabled = false)
    (hstore : d.storeAll (rs.map fun r => (r, bytes r)) = some d') (rest : List WriteRegister)
    (more : List U8) (hplain : .interruptControl ∉ rs) (hlength : rs.length + rest.length ≤ 8) :
    feed m (d.await (rs ++ rest)) (rs.map bytes ++ more) = feed m (d'.await rest) more := by
  have hpairs : ∀ p ∈ rs.map fun r => (r, bytes r), p.1 ≠ .interruptControl := by
    intro p hp
    obtain ⟨r, hr, rfl⟩ := List.mem_map.1 hp
    rintro rfl
    exact hplain hr
  have hfeed := feed_storeAll (m := m) henabled hstore rest more hpairs (by simpa using hlength)
  simpa only [List.map_map, Function.comp_def, List.map_id'] using hfeed

theorem length_optional (data bit : U8) (r : WriteRegister) : (optional data bit r).length ≤ 1 := by
  unfold optional
  split <;> simp

theorem length_announcedWR0 (data : U8) : (announcedWR0 data).length ≤ 4 := by
  have h08 := length_optional data 0x08 .portAAddressLow
  have h10 := length_optional data 0x10 .portAAddressHigh
  have h20 := length_optional data 0x20 .blockLengthLow
  have h40 := length_optional data 0x40 .blockLengthHigh
  simp only [announcedWR0, List.length_append]
  omega

theorem length_announcedWR4 (data : U8) : (announcedWR4 data).length ≤ 2 := by
  have h04 := length_optional data 0x04 .portBAddressLow
  have h08 := length_optional data 0x08 .portBAddressHigh
  simp only [announcedWR4, List.length_append]
  omega

/-- **WR0 with any of its parameters.** -/
theorem feed_wr0 (h : d.Idle) {data : U8} (hbase : data &&& 0x80 = 0) (hmode : data &&& 0x03 ≠ 0)
    (bytes : WriteRegister → U8) (more : List U8) :
    feed m d (data :: ((announcedWR0 data).map bytes ++ more)) =
      feed m ((d.baseWR0 data).storeWR0 data bytes) more := by
  have hlength := length_announcedWR0 data
  have hplain : .interruptControl ∉ announcedWR0 data := by simp [announcedWR0, optional]
  have hfeed := feed_announced (m := m) (d := d.baseWR0 data) h.enabled
    (storeAll_wr0 _ data bytes) [] more hplain (Nat.le_trans hlength (by decide))
  rw [List.append_nil] at hfeed
  rw [feed_cons (write_wr0 h hbase hmode), hfeed]
  rfl

/-- **WR4 with any of the two address bytes**; the interrupt control may be awaited behind them. -/
theorem feed_wr4 (h : d.Idle) {data : U8} (hbase : data &&& 0x83 = 0x81)
    (bytes : WriteRegister → U8) (more : List U8) :
    feed m d (data :: ((announcedWR4 data).map bytes ++ more)) =
      feed m ((d.baseWR4.storeWR4 data bytes).await (optional data 0x10 .interruptControl))
        more := by
  have hlength := length_announcedWR4 data
  have hcontrol := length_optional data 0x10 .interruptControl
  have hplain : .interruptControl ∉ announcedWR4 data := by simp [announcedWR4, optional]
  rw [feed_cons (write_wr4 h hbase)]
  exact feed_announced (d := d.baseWR4) h.enabled (storeAll_wr4 _ data bytes) _ more hplain
    (by omega)

/-! ### Words -/

/-- The bytes of three words for the parameters that hold them. -/
def wordBytes (a n b : U16) : WriteRegister → U8
  | .portAAddressLow => lo a
  | .portAAddressHigh => hi a
  | .blockLengthLow => lo n
  | .blockLengthHigh => hi n
  | .portBAddressLow => lo b
  | .portBAddressHigh => hi b
  | _ => 0

theorem replaceHalves_word (old w : U16) : replaceHalves old (some (lo w)) (some (hi w)) = w :=
  word_hi_lo w

/-- **When words are programmed.**  With all bytes announced the registers hold the words exactly
if bits 4 to 7 of each are zero.  With any subset of the bytes announced, the announced ones and no
others are replaced exactly if the device loses no bits to its masks. -/
theorem words_programmed_iff (m : Overflow) {d : Dma} (h : d.Idle) :
    (∀ (w0 w4 : U8) (a n b : U16), w0 &&& 0x80 = 0 → w0 &&& 0x03 ≠ 0 → w0 &&& 0x78 = 0x78 →
      w4 &&& 0x83 = 0x81 → w4 &&& 0x0C = 0x0C →
        ∃ d', feed m d [w0, lo a, hi a, lo n, hi n, w4, lo b, hi b] = some d' ∧
          (d'.portAStartAddress = a ∧ d'.blockLength = n ∧ d'.portBStartAddress = b ↔
            lo a &&& 0xF0 = 0 ∧ lo n &&& 0xF0 = 0 ∧ lo b &&& 0xF0 = 0)) ∧
    (∀ (w0 : U8) (bytes : WriteRegister → U8), w0 &&& 0x80 = 0 → w0 &&& 0x03 ≠ 0 →
      ∃ d', feed m d (w0 :: (announcedWR0 w0).map bytes) = some d' ∧
        (d'.portAStartAddress = replaceHalves d.portAStartAddress
            (given w0 0x08 (bytes .portAAddressLow)) (given w0 0x10 (bytes .portAAddressHigh)) ∧
          d'.blockLength = replaceHalves d.blockLength
            (given w0 0x20 (bytes .blockLengthLow)) (given w0 0x40 (bytes .blockLengthHigh)) ↔
          KeepsHalves d.portAStartAddress
            (given w0 0x08 (bytes .portAAddressLow)) (given w0 0x10 (bytes .portAAddressHigh)) ∧
          KeepsHalves d.blockLength
            (given w0 0x20 (bytes .blockLengthLow)) (given w0 0x40 (bytes .blockLengthHigh)))) ∧
    ∀ (w4 : U8) (bytes : WriteRegister → U8), w4 &&& 0x83 = 0x81 →
      ∃ d', feed m d (w4 :: (announcedWR4 w4).map bytes) = some d' ∧
        (d'.portBStartAddress = replaceHalves d.portBStartAddress
            (given w4 0x04 (bytes .portBAddressLow)) (given w4 0x08 (bytes .portBAddressHigh)) ↔
          KeepsHalves d.portBStartAddress
            (given w4 0x04 (bytes .portBAddressLow)) (given w4 0x08 (bytes .portBAddressHigh))) := by
  refine ⟨?_, ?_, ?_⟩
  · intro w0 w4 a n b hbase hmode hall hbase4 hall4
    have hbits : ∀ b : U8, b &&& 0x78 = 0x78 →
        b &&& 0x08 ≠ 0 ∧ b &&& 0x10 ≠ 0 ∧ b &&& 0x20 ≠ 0 ∧ b &&& 0x40 ≠ 0 := by decide
    have hbits4 : ∀ b : U8, b &&& 0x0C = 0x0C → b &&& 0x04 ≠ 0 ∧ b &&& 0x08 ≠ 0 := by decide
    obtain ⟨h08, h10, h20, h40⟩ := hbits w0 hall
    obtain ⟨h04', h08'⟩ := hbits4 w4 hall4
    have hwr0 := feed_wr0 (m := m) h hbase hmode (wordBytes a n b) (w4 :: [lo b, hi b])
    have hidle : ((d.baseWR0 w0).storeWR0 w0 (wordBytes a n b)).Idle := ⟨h.enabled, rfl⟩
    have hwr4 := feed_wr4 (m := m) hidle hbase4 (wordBytes a n b) []
    simp only [announcedWR0, announcedWR4, optional, if_pos h08, if_pos h10, if_pos h20, if_pos h40,
      if_pos h04', if_pos h08'] at hwr0 hwr4
    refine ⟨_, hwr0.trans hwr4, ?_⟩
    show storeHalves _ (given w0 0x08 (lo a)) (given w0 0x10 (hi a)) = a ∧
      storeHalves _ (given w0 0x20 (lo n)) (given w0 0x40 (hi n)) = n ∧
      storeHalves _ (given w4 0x04 (lo b)) (given w4 0x08 (hi b)) = b ↔ _
    simp only [given, if_pos h08, if_pos h10, if_pos h20, if_pos h40, if_pos h04', if_pos h08']
    have hword (old w : U16) :
        storeHalves old (some (lo w)) (some (hi w)) = w ↔ lo w &&& 0xF0 = 0 := by
      have hkeeps := storeHalves_eq_iff old (some (lo w)) (some (hi w))
      rwa [replaceHalves_word] at hkeeps
    rw [hword, hword, hword]
  · intro w0 bytes hbase hmode
    have hfeed := feed_wr0 (m := m) h hbase hmode bytes []
    rw [List.append_nil] at hfeed
    refine ⟨_, hfeed, ?_⟩
    exact and_congr (storeHalves_eq_iff _ _ _) (storeHalves_eq_iff _ _ _)
  · intro w4 bytes hbase
    have hfeed := feed_wr4 (m := m) h hbase bytes []
    rw [List.append_nil] at hfeed
    exact ⟨_, hfeed, storeHalves_eq_iff _ _ _⟩

/-- A fresh device takes the words 0x1201, 0x0005 and 0x8000. -/
theorem words_programmed_iff_plain :
    ∃ d', feed .panics default [0x7D, 0x01, 0x12, 0x05, 0x00, 0x8D, 0x00, 0x80] = some d' ∧
      d'.portAStartAddress = 0x1201 ∧ d'.blockLength = 0x0005 ∧ d'.portBStartAddress = 0x8000 := by
  obtain ⟨d', hfeed, hiff⟩ := (words_programmed_iff .panics (d := default) ⟨rfl, rfl⟩).1
    0x7D 0x8D 0x1201 0x0005 0x8000 (by decide) (by decide) (by decide) (by decide) (by decide)
  exact ⟨d', hfeed, hiff.2 (by decide)⟩

/-- The address 0x0010 becomes 0, and a low byte alone takes the high byte away. -/
theorem words_not_programmed :
    (feed .panics default [0x7D, 0x10, 0x00, 0x05, 0x00]).map portAStartAddress = some 0x0000 ∧
      (feed .panics { (default : Dma) with portAStartAddress := 0x1234 } [0x0D, 0x01]).map
        portAStartAddress = some 0x0031 ∧
      replaceHalves 0x1234 (some 0x01) none = 0x1201 := by
  decide

end Dma

end Possum
