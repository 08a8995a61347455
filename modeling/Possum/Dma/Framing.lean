import Possum.Dma.Parameters

/-!
# Frames of the write protocol

A base byte and the parameters it announces are a frame.  The write stack should be empty after
it, every parameter stored in its own register and no other register changed (`InFrame`), so that
the next byte written is a base byte again (`AtBase`).

It is so for every base byte, up to the bits that the device loses of its 16-bit registers, except
for the two that enable the device.  From then on it drops what is written: WR3 never gets the mask
and the match byte it announces, and still awaits them when the device stops
(**`framing_iff`**).
-/

set_option autoImplicit false

namespace Possum

open Lib

namespace Dma

/-! ### Frames -/

/-- The parameters of a base byte, in the order of the data sheet.  The interrupt control
announces two more. -/
def announced (data : U8) (bytes : WriteRegister → U8) : List WriteRegister :=
  if data &&& 0x87 = 0x04 then optional data 0x40 .portATiming
  else if data &&& 0x87 = 0x00 then optional data 0x40 .portBTiming
  else if data &&& 0x80 = 0x00 then announcedWR0 data
  else if data &&& 0x83 = 0x80 then optional data 0x08 .maskByte ++ optional data 0x10 .matchByte
  else if data &&& 0x83 = 0x81 then
    announcedWR4 data ++
      if data &&& 0x10 ≠ 0 then
        .interruptControl :: (optional (bytes .interruptControl) 0x08 .pulseControl ++
          optional (bytes .interruptControl) 0x10 .interruptVector)
      else []
  else if data = 0xBB then [.readMask]
  else []

/-- The base byte and the bytes of its parameters. -/
def frame (data : U8) (bytes : WriteRegister → U8) : List U8 :=
  data :: (announced data bytes).map bytes

/-- The control bytes that are no `todo!()` and no unknown command. -/
def commands : List U8 := [0xC3, 0xCF, 0xD3, 0xAB, 0xBF, 0x8B, 0xBB, 0xA7, 0x87, 0x83]

/-- Neither the base byte nor a parameter ends in a `todo!()`: no timing byte, no pulse, no
`CHIP_ENABLE_ONLY_WAIT`, no unsupported control byte. -/
def Supported (data : U8) (bytes : WriteRegister → U8) : Prop :=
  (data &&& 0x83 = 0x00 → data &&& 0x40 = 0) ∧
    (data &&& 0x83 = 0x81 → data &&& 0x10 ≠ 0 → bytes .interruptControl &&& 0x0C = 0) ∧
    (data &&& 0xC7 = 0x82 → data &&& 0x10 = 0) ∧
    (data &&& 0x83 = 0x83 → data ∈ commands)

/-- The register of a parameter holds a byte.  The timing and the pulse have none. -/
def Holds (d : Dma) (r : WriteRegister) (b : U8) : Prop :=
  match r with
  | .portAAddressLow => lo d.portAStartAddress = b
  | .portAAddressHigh => hi d.portAStartAddress = b
  | .blockLengthLow => lo d.blockLength = b
  | .blockLengthHigh => hi d.blockLength = b
  | .portBAddressLow => lo d.portBStartAddress = b
  | .portBAddressHigh => hi d.portBStartAddress = b
  | .maskByte => d.maskByte = b
  | .matchByte => d.matchByte = b
  | .readMask => d.readMask = b
  | .interruptVector => d.interruptVector = b
  | .interruptControl =>
    d.interruptOnMatch = (b &&& 0x01 != 0) ∧ d.interruptAtEndOfBlock = (b &&& 0x02 != 0) ∧
      d.statusAffectsVector = (b &&& 0x20 != 0) ∧ d.interruptOnReady = (b &&& 0x40 != 0)
  | .portATiming | .portBTiming | .pulseControl => False

/-- A register has the byte announced for it, or what it had. -/
def Framed (d : Dma) (rs : List WriteRegister) (bytes : WriteRegister → U8) (d' : Dma)
    (r : WriteRegister) : Prop :=
  (r ∈ rs → d'.Holds r (bytes r)) ∧ (r ∉ rs → ∀ b, d.Holds r b → d'.Holds r b)

/-- What a frame should leave. -/
structure InFrame (d : Dma) (rs : List WriteRegister) (bytes : WriteRegister → U8)
    (d' : Dma) : Prop where
  writeOrder : d'.writeOrder = []
  framed : ∀ r, d.Framed rs bytes d' r

/-- The next byte is decoded as a base byte. -/
def AtBase (m : Overflow) (d : Dma) : Prop := ∀ next, d.write m next = d.writeBase next

/-- The base byte enables the device. -/
def Enables (data : U8) : Prop := data = 0x87 ∨ (data &&& 0x83 = 0x80 ∧ data &&& 0x40 ≠ 0)

/-- The device loses no bits of the words that the frame has bytes of. -/
def KeepsWords (d : Dma) (data : U8) (bytes : WriteRegister → U8) : Prop :=
  (data &&& 0x80 = 0 → data &&& 0x03 ≠ 0 →
    KeepsHalves d.portAStartAddress
      (given data 0x08 (bytes .portAAddressLow)) (given data 0x10 (bytes .portAAddressHigh)) ∧
    KeepsHalves d.blockLength
      (given data 0x20 (bytes .blockLengthLow)) (given data 0x40 (bytes .blockLengthHigh))) ∧
  (data &&& 0x83 = 0x81 →
    KeepsHalves d.portBStartAddress
      (given data 0x04 (bytes .portBAddressLow)) (given data 0x08 (bytes .portBAddressHigh)))

/-! ### One register -/

section

variable {m : Overflow} {d d' : Dma} {data : U8} {rs : List WriteRegister}
  {bytes : WriteRegister → U8} {r : WriteRegister}

theorem mem_optional {data bit : U8} {r r' : WriteRegister} :
    r ∈ optional data bit r' ↔ data &&& bit ≠ 0 ∧ r = r' := by
  unfold optional
  split <;> simp_all

/-- A register that is not announced and does not change. -/
theorem framed_kept (hr : r ∉ rs) (h : ∀ b, d.Holds r b → d'.Holds r b) :
    d.Framed rs bytes d' r :=
  ⟨fun hmem => absurd hmem hr, fun _ => h⟩

theorem framed_stored (hr : r ∈ rs) (h : d'.Holds r (bytes r)) : d.Framed rs bytes d' r :=
  ⟨fun _ => h, fun hmem => absurd hr hmem⟩

/-- A register that is a part of the device. -/
theorem framed_part (part : Dma → U8) (hpart : ∀ (e : Dma) (b : U8), e.Holds r b ↔ part e = b) :
    d.Framed rs bytes d' r ↔ part d' = if r ∈ rs then bytes r else part d := by
  unfold Framed
  simp only [hpart]
  by_cases hr : r ∈ rs
  · rw [if_pos hr]
    exact ⟨fun h => h.1 hr, fun h => ⟨fun _ => h, fun hmem => absurd hr hmem⟩⟩
  · rw [if_neg hr]
    refine ⟨fun h => h.2 hr _ rfl, fun h => ⟨fun hmem => absurd hmem hr, ?_⟩⟩
    rintro - b rfl
    exact h

/-- The two halves of a word, each of which may be announced. -/
theorem framed_halves (d d' : Dma) (data : U8) (rs : List WriteRegister)
    (bytes : WriteRegister → U8) (w : Dma → U16) (low high : WriteRegister) {lowBit highBit : U8}
    (hlow : ∀ (e : Dma) (b : U8), e.Holds low b ↔ lo (w e) = b)
    (hhigh : ∀ (e : Dma) (b : U8), e.Holds high b ↔ hi (w e) = b)
    (hmemLow : low ∈ rs ↔ data &&& lowBit ≠ 0) (hmemHigh : high ∈ rs ↔ data &&& highBit ≠ 0) :
    d.Framed rs bytes d' low ∧ d.Framed rs bytes d' high ↔
      w d' = replaceHalves (w d) (given data lowBit (bytes low))
        (given data highBit (bytes high)) := by
  have hgetD (bit b old : U8) :
      (given data bit b).getD old = if data &&& bit ≠ 0 then b else old := by
    unfold given
    split <;> rfl
  rw [framed_part (fun e => lo (w e)) hlow, framed_part (fun e => hi (w e)) hhigh]
  unfold replaceHalves
  rw [← word_hi_lo (w d'), word_inj, hgetD, hgetD, hi_word, lo_word]
  simp only [hmemLow, hmemHigh]
  exact and_comm

/-- The registers after a frame without parameters. -/
theorem inFrame_nil (hstack : d'.writeOrder = []) (h : ∀ r b, d.Holds r b → d'.Holds r b) :
    d.InFrame [] bytes d' :=
  ⟨hstack, fun r => framed_kept List.not_mem_nil (h r)⟩

/-! ### One frame -/

/-- What `framing_iff` says of a frame. -/
def FrameLaw (m : Overflow) (d : Dma) (data : U8) (bytes : WriteRegister → U8) : Prop :=
  ((feed m d (frame data bytes)).isSome ↔ Supported data bytes) ∧
    ∀ d', feed m d (frame data bytes) = some d' →
      (d.InFrame (announced data bytes) bytes d' ∧ AtBase m d' ↔
        ¬ Enables data ∧ d.KeepsWords data bytes) ∧
      (d.InFrame (announced data bytes) bytes d' ↔
        (Enables data → announced data bytes = []) ∧ d.KeepsWords data bytes)

theorem not_enables (h87 : data ≠ 0x87) (h3 : data &&& 0x83 ≠ 0x80) : ¬ Enables data :=
  fun h => h.elim h87 fun h => h3 h.1

/-- A device that is off, after a byte that does not enable it. -/
theorem enabled_iff_of_off (hoff : d.enabled = false) (hnot : ¬ Enables data) :
    d.enabled = true ↔ Enables data :=
  iff_of_false (Bool.eq_false_iff.1 hoff) hnot

theorem law_of_none (hfeed : feed m d (frame data bytes) = none)
    (hnot : ¬ Supported data bytes) : FrameLaw m d data bytes := by
  unfold FrameLaw
  rw [hfeed]
  refine ⟨iff_of_false Bool.false_ne_true hnot, fun d' h => ?_⟩
  cases h

/-- Bytes written to an enabled device are dropped, those for no register too. -/
theorem not_atBase (h : d.enabled = true) (hlength : d.writeOrder.length ≤ 8) :
    ¬ AtBase m d := by
  intro hbase
  have hwrite : d.write m 0x83 = some d := by
    unfold write
    rw [debugAssert_of m (decide_eq_true hlength), Option.bind_some, if_pos h]
  have hstopped : d.writeBase 0x83 = some { d with enabled := false } := rfl
  rw [hbase, hstopped] at hwrite
  have henabled := congrArg enabled (Option.some.inj hwrite)
  rw [h] at henabled
  cases henabled

theorem law_of_some {e : Dma} (hfeed : feed m d (frame data bytes) = some e)
    (hsupported : Supported data bytes) (henabled : e.enabled = true ↔ Enables data)
    (hlength : e.writeOrder.length ≤ 8)
    (hframe : d.InFrame (announced data bytes) bytes e ↔
      (Enables data → announced data bytes = []) ∧ d.KeepsWords data bytes) :
    FrameLaw m d data bytes := by
  unfold FrameLaw
  rw [hfeed]
  refine ⟨iff_of_true rfl hsupported, ?_⟩
  rintro d' h
  obtain rfl := Option.some.inj h
  refine ⟨?_, hframe⟩
  by_cases hon : Enables data
  · exact iff_of_false (fun h => not_atBase (henabled.2 hon) hlength h.2) fun h => h.1 hon
  · have hoff : e.enabled = false := Bool.eq_false_iff.2 fun htrue => hon (henabled.1 htrue)
    constructor
    · rintro ⟨hin, -⟩
      exact ⟨hon, (hframe.1 hin).2⟩
    · rintro ⟨-, hkeeps⟩
      have hin := hframe.2 ⟨fun henables => absurd henables hon, hkeeps⟩
      exact ⟨hin, fun next => write_base ⟨hoff, hin.writeOrder⟩⟩

/-- The frame of a base byte without parameters. -/
theorem law_of_plain {e : Dma} (hplain : announced data bytes = [])
    (hwrite : d.write m data = some e) (hsupported : Supported data bytes)
    (hkeeps : d.KeepsWords data bytes) (henabled : e.enabled = true ↔ Enables data)
    (hstack : e.writeOrder = []) (h : ∀ r b, d.Holds r b → e.Holds r b) :
    FrameLaw m d data bytes := by
  have hfeed : feed m d (frame data bytes) = some e := by
    unfold frame
    rw [hplain]
    exact feed_cons hwrite
  refine law_of_some hfeed hsupported henabled (by rw [hstack]; exact Nat.zero_le 8) ?_
  rw [hplain]
  exact iff_of_true (inFrame_nil hstack h) ⟨fun _ => rfl, hkeeps⟩

/-- The frame of a base byte that the device does not support. -/
theorem law_of_unsupported (hwrite : d.write m data = none) (hnot : ¬ Supported data bytes) :
    FrameLaw m d data bytes := by
  refine law_of_none ?_ hnot
  show (d.write m data).bind _ = none
  rw [hwrite, Option.bind_none]

/-! ### The base registers -/

theorem keepsWords_of (h0 : data &&& 0x80 = 0 → data &&& 0x03 = 0) (h4 : data &&& 0x83 ≠ 0x81) :
    d.KeepsWords data bytes :=
  ⟨fun hbase hmode => absurd (h0 hbase) hmode, fun hbase => absurd hbase h4⟩

/-- WR1 and WR2: a timing byte is a `todo!()`. -/
theorem law_timing {e : Dma} (hbase : data &&& 0x83 = 0x00)
    (hannounced : announced data bytes = optional data 0x40 r)
    (hwrite : d.write m data = some (e.announce data 0x40 r)) (hidle : e.Idle)
    (hkept : ∀ r b, d.Holds r b → e.Holds r b)
    (hnone : ∀ f : Dma, f.writeParameter r (bytes r) = none) : FrameLaw m d data bytes := by
  have hbits : ∀ b : U8, b &&& 0x83 = 0x00 →
      b ≠ 0x87 ∧ b &&& 0x83 ≠ 0x80 ∧ b &&& 0x83 ≠ 0x81 ∧ b &&& 0xC7 ≠ 0x82 ∧
        b &&& 0x83 ≠ 0x83 ∧ b &&& 0x03 = 0 := by decide
  obtain ⟨h87, h3, h4, h5, h6, h03⟩ := hbits data hbase
  have hnot : ¬ Enables data := not_enables h87 h3
  by_cases h40 : data &&& 0x40 = 0
  · rw [announce_of_not h40] at hwrite
    rw [optional, if_neg (not_not_intro h40)] at hannounced
    exact law_of_plain hannounced hwrite
      ⟨fun _ => h40, fun h => absurd h h4, fun h => absurd h h5, fun h => absurd h h6⟩
      (keepsWords_of (fun _ => h03) h4) (enabled_iff_of_off hidle.enabled hnot)
      hidle.writeOrder hkept
  · refine law_of_none ?_ fun hsupported => h40 (hsupported.1 hbase)
    rw [announce_of h40, hidle.writeOrder] at hwrite
    unfold frame
    rw [hannounced, optional, if_pos h40]
    refine (feed_cons hwrite).trans ?_
    have hparameter : (e.await [r]).write m (bytes r) = (e.await []).writeParameter r (bytes r) :=
      write_await hidle.enabled (Nat.zero_le 7)
    show ((e.await [r]).write m (bytes r)).bind _ = none
    rw [hparameter, hnone, Option.bind_none]

theorem law_wr1 (h : d.Idle) (hbase : data &&& 0x87 = 0x04) : FrameLaw m d data bytes := by
  have hbits : ∀ b : U8, b &&& 0x87 = 0x04 → b &&& 0x83 = 0x00 := by decide
  have hsome : ∀ b : U8, (incrementMode b).isSome := by decide
  obtain ⟨mode, hmode⟩ := Option.isSome_iff_exists.1 (hsome data)
  refine law_timing (hbits data hbase) (if_pos hbase) ?_ (e := { d with
    portAIsMemory := data &&& 0x08 == 0, portAIncrementMode := mode }) ?_ ?_ fun _ => rfl
  · rw [write_base h, writeBase, if_pos hbase, writeWR1, hmode, Option.map_some]
  · exact ⟨h.enabled, h.writeOrder⟩
  · intro r b hholds
    cases r <;> exact hholds

theorem law_wr2 (h : d.Idle) (hbase : data &&& 0x87 = 0x00) : FrameLaw m d data bytes := by
  have hbits : ∀ b : U8, b &&& 0x87 = 0x00 → b &&& 0x83 = 0x00 ∧ b &&& 0x87 ≠ 0x04 := by decide
  have hsome : ∀ b : U8, (incrementMode b).isSome := by decide
  obtain ⟨mode, hmode⟩ := Option.isSome_iff_exists.1 (hsome data)
  obtain ⟨hmasked, h1⟩ := hbits data hbase
  refine law_timing hmasked ((if_neg h1).trans (if_pos hbase)) ?_ (e := { d with
    portBIsMemory := data &&& 0x08 == 0, portBIncrementMode := mode }) ?_ ?_ fun _ => rfl
  · rw [write_base h, writeBase, if_neg h1, if_pos hbase, writeWR2, hmode, Option.map_some]
  · exact ⟨h.enabled, h.writeOrder⟩
  · intro r b hholds
    cases r <;> exact hholds

/-- The registers of WR0. -/
theorem inFrame_wr0 (d : Dma) (data : U8) (bytes : WriteRegister → U8) :
    d.InFrame (announcedWR0 data) bytes ((d.baseWR0 data).storeWR0 data bytes) ↔
      KeepsHalves d.portAStartAddress
        (given data 0x08 (bytes .portAAddressLow)) (given data 0x10 (bytes .portAAddressHigh)) ∧
      KeepsHalves d.blockLength
        (given data 0x20 (bytes .blockLengthLow)) (given data 0x40 (bytes .blockLengthHigh)) := by
  let e := (d.baseWR0 data).storeWR0 data bytes
  have haddress := framed_halves d e data (announcedWR0 data) bytes portAStartAddress
    .portAAddressLow .portAAddressHigh
    (fun _ _ => Iff.rfl) (fun _ _ => Iff.rfl)
    (show _ ↔ data &&& 0x08 ≠ 0 by simp [announcedWR0, mem_optional])
    (show _ ↔ data &&& 0x10 ≠ 0 by simp [announcedWR0, mem_optional])
  have hlength := framed_halves d e data (announcedWR0 data) bytes blockLength
    .blockLengthLow .blockLengthHigh
    (fun _ _ => Iff.rfl) (fun _ _ => Iff.rfl)
    (show _ ↔ data &&& 0x20 ≠ 0 by simp [announcedWR0, mem_optional])
    (show _ ↔ data &&& 0x40 ≠ 0 by simp [announcedWR0, mem_optional])
  rw [← storeHalves_eq_iff, ← storeHalves_eq_iff]
  refine Iff.trans ?_ (and_congr haddress hlength)
  constructor
  · intro h
    exact ⟨⟨h.framed _, h.framed _⟩, h.framed _, h.framed _⟩
  · rintro ⟨⟨hlowA, hhighA⟩, hlowN, hhighN⟩
    refine ⟨rfl, fun r => ?_⟩
    cases r with
    | portAAddressLow => exact hlowA
    | portAAddressHigh => exact hhighA
    | blockLengthLow => exact hlowN
    | blockLengthHigh => exact hhighN
    | _ => exact framed_kept (by simp [announcedWR0, mem_optional]) fun _ hholds => hholds

theorem law_wr0 (h : d.Idle) (hbase : data &&& 0x80 = 0x00) (hmode : data &&& 0x03 ≠ 0) :
    FrameLaw m d data bytes := by
  have hbits : ∀ b : U8, b &&& 0x80 = 0x00 → b &&& 0x03 ≠ 0 →
      b &&& 0x87 ≠ 0x04 ∧ b &&& 0x87 ≠ 0x00 ∧ b ≠ 0x87 ∧ b &&& 0x83 ≠ 0x00 ∧ b &&& 0x83 ≠ 0x80 ∧
        b &&& 0x83 ≠ 0x81 ∧ b &&& 0xC7 ≠ 0x82 ∧ b &&& 0x83 ≠ 0x83 := by decide
  obtain ⟨h1, h2, h87, h12, h3, h4, h5, h6⟩ := hbits data hbase hmode
  have hannounced : announced data bytes = announcedWR0 data := by
    rw [announced, if_neg h1, if_neg h2, if_pos hbase]
  have hnot : ¬ Enables data := not_enables h87 h3
  have hfeed := feed_wr0 (m := m) h hbase hmode bytes []
  rw [List.append_nil, ← hannounced] at hfeed
  refine law_of_some hfeed
    ⟨fun h => absurd h h12, fun h => absurd h h4, fun h => absurd h h5, fun h => absurd h h6⟩
    (enabled_iff_of_off h.enabled hnot) (Nat.zero_le 8) ?_
  have hkeeps : d.KeepsWords data bytes ↔ _ :=
    ⟨fun h => h.1 hbase hmode, fun h => ⟨fun _ _ => h, fun h' => absurd h' h4⟩⟩
  rw [hannounced, inFrame_wr0, hkeeps]
  exact (and_iff_right fun h => absurd h hnot).symm

/-! ### WR3 -/

/-- The flags of WR3, in a device that awaits nothing. -/
def baseWR3 (d : Dma) (data : U8) : Dma := { d with
  stopOnMatch := data &&& 0x04 != 0
  interruptsEnabled := data &&& 0x20 != 0 || d.interruptsEnabled
  enabled := data &&& 0x40 != 0
  writeOrder := [] }

theorem write_wr3 (h : d.Idle) (hbase : data &&& 0x83 = 0x80) :
    d.write m data =
      some ((d.baseWR3 data).await (optional data 0x08 .maskByte ++ optional data 0x10 .matchByte))
    := by
  rw [write_base h, writeBase_wr3 d hbase, writeWR3]
  simp only [announce_eq, await, h.writeOrder, h.enabled, Bool.or_false, List.append_nil, baseWR3]

/-- The device after the mask and the match byte. -/
def storeWR3 (d : Dma) (data : U8) (bytes : WriteRegister → U8) : Dma := { d with
  maskByte := (given data 0x08 (bytes .maskByte)).elim d.maskByte id
  matchByte := (given data 0x10 (bytes .matchByte)).elim d.matchByte id }

theorem storeAll_wr3 (d : Dma) (data : U8) (bytes : WriteRegister → U8) :
    d.storeAll ((optional data 0x08 .maskByte ++ optional data 0x10 .matchByte).map
      fun r => (r, bytes r)) = some (d.storeWR3 data bytes) := by
  have hmask : d.storeAll ((optional data 0x08 .maskByte).map fun r => (r, bytes r)) =
      some { d with maskByte := (given data 0x08 (bytes .maskByte)).elim d.maskByte id } :=
    storeAll_optional data 0x08 .maskByte bytes (fun b => { d with maskByte := b }) rfl
      fun _ => rfl
  rw [List.map_append, storeAll_append hmask]
  exact storeAll_optional data 0x10 .matchByte bytes
    (fun b => { d with
      maskByte := (given data 0x08 (bytes .maskByte)).elim d.maskByte id, matchByte := b }) rfl
    fun _ => rfl

theorem inFrame_wr3 (d : Dma) (data : U8) (bytes : WriteRegister → U8) :
    d.InFrame (optional data 0x08 .maskByte ++ optional data 0x10 .matchByte) bytes
      ((d.baseWR3 data).storeWR3 data bytes) := by
  have helim (bit b old : U8) :
      (given data bit b).elim old id = if data &&& bit ≠ 0 then b else old := by
    unfold given
    split <;> rfl
  refine ⟨rfl, fun r => ?_⟩
  cases r with
  | maskByte =>
    rw [framed_part maskByte fun _ _ => Iff.rfl]
    simp only [List.mem_append, mem_optional, and_true, reduceCtorEq, and_false, or_false]
    exact helim 0x08 _ _
  | matchByte =>
    rw [framed_part matchByte fun _ _ => Iff.rfl]
    simp only [List.mem_append, mem_optional, and_true, reduceCtorEq, and_false, false_or]
    exact helim 0x10 _ _
  | _ => exact framed_kept (by simp [mem_optional]) fun _ hholds => hholds

theorem law_wr3 (h : d.Idle) (hbase : data &&& 0x83 = 0x80) : FrameLaw m d data bytes := by
  have hbits : ∀ b : U8, b &&& 0x83 = 0x80 →
      b &&& 0x87 ≠ 0x04 ∧ b &&& 0x87 ≠ 0x00 ∧ b &&& 0x80 ≠ 0 ∧ b ≠ 0x87 ∧ b &&& 0x83 ≠ 0x00 ∧
        b &&& 0x83 ≠ 0x81 ∧ b &&& 0xC7 ≠ 0x82 ∧ b &&& 0x83 ≠ 0x83 := by decide
  obtain ⟨h1, h2, h0, h87, h12, h4, h5, h6⟩ := hbits data hbase
  have hannounced : announced data bytes =
      optional data 0x08 .maskByte ++ optional data 0x10 .matchByte := by
    rw [announced, if_neg h1, if_neg h2, if_neg h0, if_pos hbase]
  have hsupported : Supported data bytes :=
    ⟨fun h => absurd h h12, fun h => absurd h h4, fun h => absurd h h5, fun h => absurd h h6⟩
  have hkeeps : d.KeepsWords data bytes := keepsWords_of (fun h => absurd h h0) h4
  have hlength : (announced data bytes).length ≤ 2 := by
    have h08 := length_optional data 0x08 .maskByte
    have h10 := length_optional data 0x10 .matchByte
    rw [hannounced, List.length_append]
    omega
  have henables : Enables data ↔ data &&& 0x40 ≠ 0 :=
    ⟨fun h => h.elim (fun h => absurd h h87) And.right, fun h => Or.inr ⟨hbase, h⟩⟩
  have hwrite := write_wr3 (m := m) h hbase
  rw [← hannounced] at hwrite
  by_cases h40 : data &&& 0x40 = 0
  · -- the device stays off and gets its parameters
    have hoff : (d.baseWR3 data).enabled = false := by
      show (data &&& 0x40 != 0) = false
      rw [h40]
      rfl
    have hplain : .interruptControl ∉ announced data bytes := by
      rw [hannounced]
      simp [mem_optional]
    have hstore := storeAll_wr3 (d.baseWR3 data) data bytes
    rw [← hannounced] at hstore
    have hparameters := feed_announced (m := m) hoff hstore [] [] hplain (by
      rw [List.length_nil]
      omega)
    rw [List.append_nil, List.append_nil] at hparameters
    have hnot : ¬ Enables data := fun h => henables.1 h h40
    refine law_of_some ((feed_cons hwrite).trans hparameters) hsupported
      (enabled_iff_of_off hoff hnot) (Nat.zero_le 8) ?_
    rw [hannounced]
    exact iff_of_true (inFrame_wr3 d data bytes) ⟨fun h => absurd h hnot, hkeeps⟩
  · -- the device is on and drops them
    have hon : (d.baseWR3 data).enabled = true := bne_iff_ne.2 h40
    have hdropped := feed_enabled (m := m) (d := (d.baseWR3 data).await (announced data bytes)) hon
      (Nat.le_trans hlength (by decide)) ((announced data bytes).map bytes)
    refine law_of_some ((feed_cons hwrite).trans hdropped) hsupported
      (iff_of_true hon (henables.2 h40)) (Nat.le_trans hlength (by decide)) ?_
    constructor
    · intro hframe
      exact ⟨fun _ => hframe.writeOrder, hkeeps⟩
    · rintro ⟨hempty, -⟩
      have hnil := hempty (henables.2 h40)
      rw [hnil]
      refine inFrame_nil rfl fun r b hholds => ?_
      cases r <;> exact hholds

/-! ### WR4 -/

/-- The interrupt control and the parameters it announces. -/
def announcedControl (control : U8) : List WriteRegister :=
  .interruptControl :: (optional control 0x08 .pulseControl ++
    optional control 0x10 .interruptVector)

/-- The device after the interrupt control and the vector. -/
def storeControl (d : Dma) (control vector : U8) : Dma := { d with
  interruptOnMatch := control &&& 0x01 != 0
  interruptAtEndOfBlock := control &&& 0x02 != 0
  statusAffectsVector := control &&& 0x20 != 0
  interruptOnReady := control &&& 0x40 != 0
  interruptVector := if control &&& 0x10 = 0 then d.interruptVector else vector
  writeOrder := [] }

theorem feed_announcedControl (henabled : d.enabled = false)
    (hpulse : bytes .interruptControl &&& 0x0C = 0) :
    feed m (d.await [.interruptControl]) ((announcedControl (bytes .interruptControl)).map bytes) =
      some (d.storeControl (bytes .interruptControl) (bytes .interruptVector)) := by
  have hbits : ∀ b : U8, b &&& 0x0C = 0 → b &&& 0x08 = 0 := by decide
  have hfeed := feed_interruptControl (m := m) henabled hpulse (bytes .interruptVector)
  unfold announcedControl optional
  rw [if_neg (not_not_intro (hbits _ hpulse)), List.nil_append, List.map_cons]
  by_cases h10 : bytes .interruptControl &&& 0x10 = 0
  · rw [if_neg (not_not_intro h10)]
    rw [if_pos h10] at hfeed
    exact hfeed
  · rw [if_pos h10]
    rw [if_neg h10] at hfeed
    exact hfeed

/-- A pulse is a `todo!()`, in the interrupt control or behind it. -/
theorem feed_pulse (henabled : d.enabled = false)
    (hpulse : bytes .interruptControl &&& 0x0C ≠ 0) :
    feed m (d.await [.interruptControl]) ((announcedControl (bytes .interruptControl)).map bytes) =
      none := by
  have hcontrol : (d.await [.interruptControl]).write m (bytes .interruptControl) =
      (d.await []).writeInterruptControl (bytes .interruptControl) :=
    write_await henabled (Nat.zero_le 7)
  unfold announcedControl
  show ((d.await [.interruptControl]).write m (bytes .interruptControl)).bind _ = none
  rw [hcontrol, writeInterruptControl]
  by_cases h04 : bytes .interruptControl &&& 0x04 = 0
  · have hbits : ∀ b : U8, b &&& 0x0C ≠ 0 → b &&& 0x04 = 0 → b &&& 0x08 ≠ 0 := by decide
    have h08 := hbits _ hpulse h04
    have hlength := length_optional (bytes .interruptControl) 0x10 .interruptVector
    rw [if_neg (not_not_intro h04), Option.bind_some, announce_of h08, announce_eq]
    unfold optional
    rw [if_pos h08]
    -- the byte behind the interrupt control
    have hbyte (e : Dma) (rest : List WriteRegister) (more : List U8) (he : e.enabled = false)
        (hrest : rest.length ≤ 7) :
        feed m (e.await (.pulseControl :: rest)) (bytes .pulseControl :: more) = none := by
      show ((e.await (.pulseControl :: rest)).write m (bytes .pulseControl)).bind _ = none
      rw [write_await he hrest]
      rfl
    refine hbyte _ _ _ ?_ ?_
    · exact henabled
    · show (optional (bytes .interruptControl) 0x10 .interruptVector ++ []).length ≤ 7
      rw [List.append_nil]
      omega
  · rw [if_pos h04, Option.bind_none]

theorem inFrame_wr4 (d : Dma) (data : U8) (bytes : WriteRegister → U8) :
    d.InFrame (announcedWR4 data) bytes (d.baseWR4.storeWR4 data bytes) ↔
      KeepsHalves d.portBStartAddress
        (given data 0x04 (bytes .portBAddressLow)) (given data 0x08 (bytes .portBAddressHigh)) := by
  have haddress := framed_halves d (d.baseWR4.storeWR4 data bytes) data (announcedWR4 data) bytes
    portBStartAddress .portBAddressLow .portBAddressHigh
    (fun _ _ => Iff.rfl) (fun _ _ => Iff.rfl)
    (show _ ↔ data &&& 0x04 ≠ 0 by simp [announcedWR4, mem_optional])
    (show _ ↔ data &&& 0x08 ≠ 0 by simp [announcedWR4, mem_optional])
  rw [← storeHalves_eq_iff]
  refine Iff.trans ?_ haddress
  constructor
  · intro h
    exact ⟨h.framed _, h.framed _⟩
  · rintro ⟨hlow, hhigh⟩
    refine ⟨rfl, fun r => ?_⟩
    cases r with
    | portBAddressLow => exact hlow
    | portBAddressHigh => exact hhigh
    | _ => exact framed_kept (by simp [announcedWR4, mem_optional]) fun _ hholds => hholds

/-- The interrupt control is stored beside the address, whatever has become of that. -/
theorem inFrame_control (hstack : d'.writeOrder = [])
    (hpulse : bytes .interruptControl &&& 0x0C = 0)
    (hcontrol : d.Framed rs bytes d' .interruptControl)
    (hvector : .interruptVector ∉ rs ∧ d'.interruptVector = d.interruptVector) :
    d.InFrame (rs ++ announcedControl (bytes .interruptControl)) bytes
        (d'.storeControl (bytes .interruptControl) (bytes .interruptVector)) ↔
      d.InFrame rs bytes d' := by
  have hbits : ∀ b : U8, b &&& 0x0C = 0 → b &&& 0x08 = 0 := by decide
  have hmem (r : WriteRegister) : r ∈ rs ++ announcedControl (bytes .interruptControl) ↔
      r ∈ rs ∨ r = .interruptControl ∨
        (bytes .interruptControl &&& 0x10 ≠ 0 ∧ r = .interruptVector) := by
    rw [List.mem_append, announcedControl, optional, if_neg (not_not_intro (hbits _ hpulse)),
      List.nil_append, List.mem_cons, mem_optional]
  have hframed (r : WriteRegister) (hr : r ≠ .interruptControl) (hr' : r ≠ .interruptVector) :
      d.Framed (rs ++ announcedControl (bytes .interruptControl)) bytes
          (d'.storeControl (bytes .interruptControl) (bytes .interruptVector)) r ↔
        d.Framed rs bytes d' r := by
    simp only [Framed, hmem, hr, hr', or_false, and_false]
    cases r <;> first | exact Iff.rfl | contradiction
  constructor
  · intro h
    refine ⟨hstack, fun r => ?_⟩
    by_cases hr : r = .interruptControl
    · rw [hr]
      exact hcontrol
    · by_cases hr' : r = .interruptVector
      · rw [hr']
        exact framed_kept hvector.1 fun b hholds => hvector.2.trans hholds
      · exact (hframed r hr hr').1 (h.framed r)
  · intro h
    refine ⟨rfl, fun r => ?_⟩
    by_cases hr : r = .interruptControl
    · rw [hr]
      exact framed_stored ((hmem _).2 (Or.inr (Or.inl rfl))) ⟨rfl, rfl, rfl, rfl⟩
    · by_cases hr' : r = .interruptVector
      · rw [hr', framed_part interruptVector fun _ _ => Iff.rfl]
        simp only [hmem, hvector.1, and_true, false_or, reduceCtorEq]
        show (if bytes .interruptControl &&& 0x10 = 0 then d'.interruptVector
          else bytes .interruptVector) = _
        rw [hvector.2, ite_not]
      · exact (hframed r hr hr').2 (h.framed r)

theorem law_wr4 (h : d.Idle) (hbase : data &&& 0x83 = 0x81) : FrameLaw m d data bytes := by
  have hbits : ∀ b : U8, b &&& 0x83 = 0x81 →
      b &&& 0x87 ≠ 0x04 ∧ b &&& 0x87 ≠ 0x00 ∧ b &&& 0x80 ≠ 0 ∧ b ≠ 0x87 ∧ b &&& 0x83 ≠ 0x00 ∧
        b &&& 0x83 ≠ 0x80 ∧ b &&& 0xC7 ≠ 0x82 ∧ b &&& 0x83 ≠ 0x83 := by decide
  obtain ⟨h1, h2, h0, h87, h12, h3, h5, h6⟩ := hbits data hbase
  have hannounced : announced data bytes = announcedWR4 data ++
      if data &&& 0x10 ≠ 0 then announcedControl (bytes .interruptControl) else [] := by
    rw [announced, if_neg h1, if_neg h2, if_neg h0, if_neg h3, if_pos hbase, announcedControl]
  have hnot : ¬ Enables data := not_enables h87 h3
  have hkeeps : d.KeepsWords data bytes ↔ _ :=
    ⟨fun h => h.2 hbase, fun h => ⟨fun h' => absurd h' h0, fun _ => h⟩⟩
  have hsupported (hpulse : data &&& 0x10 ≠ 0 → bytes .interruptControl &&& 0x0C = 0) :
      Supported data bytes :=
    ⟨fun h => absurd h h12, fun _ => hpulse, fun h => absurd h h5, fun h => absurd h h6⟩
  have hoff (e : Dma) (he : e.enabled = d.enabled) : e.enabled = true ↔ Enables data :=
    enabled_iff_of_off (he.trans h.enabled) hnot
  by_cases h10 : data &&& 0x10 = 0
  · rw [if_neg (not_not_intro h10), List.append_nil] at hannounced
    have hfeed := feed_wr4 (m := m) h hbase bytes []
    rw [optional, if_neg (not_not_intro h10), List.append_nil, ← hannounced] at hfeed
    refine law_of_some hfeed (hsupported fun h => absurd h10 h) (hoff _ rfl) (Nat.zero_le 8) ?_
    rw [hkeeps, hannounced, ← inFrame_wr4]
    exact (and_iff_right fun h => absurd h hnot).symm
  · rw [if_pos h10] at hannounced
    have hfeed := feed_wr4 (m := m) h hbase bytes
      ((announcedControl (bytes .interruptControl)).map bytes)
    rw [optional, if_pos h10, ← List.map_append, ← hannounced] at hfeed
    have henabled : (d.baseWR4.storeWR4 data bytes).enabled = false := h.enabled
    by_cases hpulse : bytes .interruptControl &&& 0x0C = 0
    · rw [feed_announcedControl henabled hpulse] at hfeed
      refine law_of_some hfeed (hsupported fun _ => hpulse) (hoff _ rfl) (Nat.zero_le 8) ?_
      rw [hkeeps, hannounced, inFrame_control rfl hpulse, inFrame_wr4]
      · exact (and_iff_right fun h => absurd h hnot).symm
      · exact framed_kept (by simp [announcedWR4, mem_optional]) fun _ hholds => hholds
      · exact ⟨by simp [announcedWR4, mem_optional], rfl⟩
    · rw [feed_pulse henabled hpulse] at hfeed
      exact law_of_none hfeed fun h => hpulse (h.2.1 hbase h10)

/-! ### WR5 and WR6 -/

/-- A byte that selects WR5 or no register announces nothing and does not enable the device. -/
theorem law_of_wr5_or_none {e : Dma} (hbase : data &&& 0x83 = 0x82)
    (hwrite : d.write m data = some e) (h10 : data &&& 0xC7 = 0x82 → data &&& 0x10 = 0)
    (hoff : e.enabled = false) (hstack : e.writeOrder = [])
    (hkept : ∀ r b, d.Holds r b → e.Holds r b) : FrameLaw m d data bytes := by
  have hbits : ∀ b : U8, b &&& 0x83 = 0x82 →
      b &&& 0x87 ≠ 0x04 ∧ b &&& 0x87 ≠ 0x00 ∧ b &&& 0x80 ≠ 0 ∧ b ≠ 0x87 ∧ b ≠ 0xBB ∧
        b &&& 0x83 ≠ 0x00 ∧ b &&& 0x83 ≠ 0x80 ∧ b &&& 0x83 ≠ 0x81 ∧ b &&& 0x83 ≠ 0x83 := by decide
  obtain ⟨h1, h2, h0, h87, hbb, h12, h3, h4, h6⟩ := hbits data hbase
  have hannounced : announced data bytes = [] := by
    rw [announced, if_neg h1, if_neg h2, if_neg h0, if_neg h3, if_neg h4, if_neg hbb]
  exact law_of_plain hannounced hwrite
    ⟨fun h => absurd h h12, fun h => absurd h h4, h10, fun h => absurd h h6⟩
    (keepsWords_of (fun h => absurd h h0) h4) (enabled_iff_of_off hoff (not_enables h87 h3))
    hstack hkept

theorem law_wr5 (h : d.Idle) (hbase : data &&& 0xC7 = 0x82) : FrameLaw m d data bytes := by
  have hmasked : ∀ b : U8, b &&& 0xC7 = 0x82 → b &&& 0x83 = 0x82 := by decide
  by_cases h10 : data &&& 0x10 = 0
  · have hwrite : d.write m data = some { d with restartAtEndOfBlock := data &&& 0x20 != 0 } := by
      rw [write_base h, writeBase_wr5 d hbase, writeWR5, if_neg (not_not_intro h10)]
    refine law_of_wr5_or_none (hmasked data hbase) hwrite (fun _ => h10) h.enabled h.writeOrder
      fun r b hholds => ?_
    cases r <;> exact hholds
  · refine law_of_unsupported ?_ fun hsupported => h10 (hsupported.2.2.1 hbase)
    rw [write_base h, writeBase_wr5 d hbase, writeWR5, if_pos h10]

theorem queue_enabled (d : Dma) (bit : U8) (r : ReadRegister) :
    (d.queue bit r).enabled = d.enabled := by
  unfold queue
  split <;> rfl

theorem queue_writeOrder (d : Dma) (bit : U8) (r : ReadRegister) :
    (d.queue bit r).writeOrder = d.writeOrder := by
  unfold queue
  split <;> rfl

theorem queue_holds (d : Dma) (bit : U8) (r : ReadRegister) (p : WriteRegister) (b : U8) :
    (d.queue bit r).Holds p b ↔ d.Holds p b := by
  unfold queue
  split
  · cases p <;> exact Iff.rfl
  · exact Iff.rfl

theorem command_isSome_iff (d : Dma) (data : U8) :
    (d.command data).isSome ↔ data ∈ commands := by
  unfold command
  split
  -- the `todo!()`s and what is no command
  case h_11 hC3 hCF hD3 hAB hBF h8B hBB hA7 h87 h83 =>
    refine iff_of_false Bool.false_ne_true fun hmem => ?_
    simp only [commands, List.mem_cons, List.not_mem_nil, or_false] at hmem
    obtain rfl | rfl | rfl | rfl | rfl | rfl | rfl | rfl | rfl | rfl := hmem <;> contradiction
  all_goals
    rename_i hdata
    have hvalue := congrArg (BitVec.ofNat 8) hdata
    rw [BitVec.ofNat_toNat, BitVec.setWidth_eq] at hvalue
    rw [hvalue]
    exact iff_of_true rfl (by decide)

/-- **What a control byte can do.** -/
theorem command_cases {e : Dma} (h : d.command data = some e) :
    (data = 0xC3 ∧ e = d.reset) ∨ (data = 0xCF ∧ e = d.load) ∨
      (data = 0xD3 ∧ e = { d with byteCounter := 0 }) ∨
      (data = 0xAB ∧ e = { d with interruptsEnabled := true }) ∨
      (data = 0xBF ∧ e = { d with readOrder := .status :: d.readOrder }) ∨
      (data = 0x8B ∧ e = d.reinitializeStatus) ∨
      (data = 0xBB ∧ e = d.await (.readMask :: d.writeOrder)) ∨
      (data = 0xA7 ∧ e = d.initiateRead) ∨
      (data = 0x87 ∧ e = { d with enabled := true }) ∨
      (data = 0x83 ∧ e = { d with enabled := false }) := by
  have hmem := (command_isSome_iff d data).1 (by rw [h]; rfl)
  simp only [commands, List.mem_cons, List.not_mem_nil, or_false] at hmem
  obtain rfl | rfl | rfl | rfl | rfl | rfl | rfl | rfl | rfl | rfl := hmem
  all_goals obtain rfl := Option.some.inj h
  all_goals simp only [true_and, true_or, or_true]

/-- A control byte other than the one before the read mask keeps the registers and the stack, and
only one of them leaves the device enabled. -/
theorem command_keeps {e : Dma} (hcommand : d.command data = some e) (hbb : data ≠ 0xBB)
    (hoff : d.enabled = false) :
    e.writeOrder = d.writeOrder ∧ (e.enabled = true ↔ data = 0x87) ∧
      ∀ r b, d.Holds r b → e.Holds r b := by
  have hkept (f : Dma) (hf : f.enabled = d.enabled) {c : U8} (hc : c ≠ 0x87) :
      f.enabled = true ↔ c = 0x87 := by
    rw [hf, hoff]
    exact iff_of_false Bool.false_ne_true hc
  have hsame (f : Dma) (hf : f = { d with
      status := f.status, byteCounter := f.byteCounter, portACounter := f.portACounter
      portBCounter := f.portBCounter, readOrder := f.readOrder, enabled := f.enabled
      interruptsEnabled := f.interruptsEnabled, restartAtEndOfBlock := f.restartAtEndOfBlock })
      (r : WriteRegister) (b : U8) (h : d.Holds r b) : f.Holds r b := by
    rw [hf]
    cases r <;> exact h
  obtain ⟨rfl, rfl⟩ | ⟨rfl, rfl⟩ | ⟨rfl, rfl⟩ | ⟨rfl, rfl⟩ | ⟨rfl, rfl⟩ | ⟨rfl, rfl⟩ | ⟨rfl, rfl⟩ |
    ⟨rfl, rfl⟩ | ⟨rfl, rfl⟩ | ⟨rfl, rfl⟩ := command_cases hcommand
  -- reset, load, continue, enable interrupts, read status, reinitialise
  · exact ⟨rfl, hkept _ rfl (by decide), hsame _ rfl⟩
  · cases hdir : d.direction with
    | portAToB =>
      have hload : d.load = { d with portACounter := d.portAStartAddress, byteCounter := 0 } := by
        unfold load
        rw [hdir]
      rw [hload]
      exact ⟨rfl, hkept _ rfl (by decide), hsame _ rfl⟩
    | portBToA =>
      have hload : d.load = { d with portBCounter := d.portBStartAddress, byteCounter := 0 } := by
        unfold load
        rw [hdir]
      rw [hload]
      exact ⟨rfl, hkept _ rfl (by decide), hsame _ rfl⟩
  · exact ⟨rfl, hkept _ rfl (by decide), hsame _ rfl⟩
  · exact ⟨rfl, hkept _ rfl (by decide), hsame _ rfl⟩
  · exact ⟨rfl, hkept _ rfl (by decide), hsame _ rfl⟩
  · exact ⟨rfl, hkept _ rfl (by decide), hsame _ rfl⟩
  · exact absurd rfl hbb
  -- initiate read
  · unfold initiateRead
    refine ⟨by simp only [queue_writeOrder], hkept _ (by simp only [queue_enabled]) (by decide), ?_⟩
    intro r b h
    simpa only [queue_holds] using h
  -- enable, disable
  · exact ⟨rfl, iff_of_true rfl rfl, hsame _ rfl⟩
  · exact ⟨rfl, iff_of_false Bool.false_ne_true (by decide), hsame _ rfl⟩

theorem law_wr6 (h : d.Idle) (hbase : data &&& 0x83 = 0x83) : FrameLaw m d data bytes := by
  have hbits : ∀ b : U8, b &&& 0x83 = 0x83 →
      b &&& 0x87 ≠ 0x04 ∧ b &&& 0x87 ≠ 0x00 ∧ b &&& 0x80 ≠ 0 ∧ b &&& 0x83 ≠ 0x00 ∧
        b &&& 0x83 ≠ 0x80 ∧ b &&& 0x83 ≠ 0x81 ∧ b &&& 0xC7 ≠ 0x82 := by decide
  obtain ⟨h1, h2, h0, h12, h3, h4, h5⟩ := hbits data hbase
  have hannounced : announced data bytes = if data = 0xBB then [.readMask] else [] := by
    rw [announced, if_neg h1, if_neg h2, if_neg h0, if_neg h3, if_neg h4]
  have hkeeps : d.KeepsWords data bytes := keepsWords_of (fun h => absurd h h0) h4
  have hwrite : d.write m data = d.command data := Program.write_wr6 h hbase
  have hsupported (hmem : data ∈ commands) : Supported data bytes :=
    ⟨fun h => absurd h h12, fun h => absurd h h4, fun h => absurd h h5, fun _ => hmem⟩
  by_cases hbb : data = 0xBB
  · have hnot : ¬ Enables data := by
      rw [hbb]
      exact fun h => h.elim (by decide) fun h => absurd h.1 (by decide)
    rw [if_pos hbb] at hannounced
    have hfeed : feed m d (frame data bytes) = some { d with readMask := bytes .readMask } := by
      have hmask : (d.await [.readMask]).write m (bytes .readMask) =
          (d.await []).writeParameter .readMask (bytes .readMask) :=
        write_await h.enabled (Nat.zero_le 7)
      have hcommand : d.command data = some (d.await [.readMask]) := by
        rw [hbb]
        show some (d.await (.readMask :: d.writeOrder)) = _
        rw [h.writeOrder]
      unfold frame
      rw [hannounced, feed_cons (hwrite.trans hcommand)]
      refine (feed_cons hmask).trans ?_
      rw [h.await_nil]
      rfl
    refine law_of_some hfeed (hsupported (by rw [hbb]; decide))
      (enabled_iff_of_off h.enabled hnot) ?_ ?_
    · show d.writeOrder.length ≤ 8
      rw [h.writeOrder]
      exact Nat.zero_le 8
    · rw [hannounced]
      refine iff_of_true ⟨h.writeOrder, fun r => ?_⟩ ⟨fun h => absurd h hnot, hkeeps⟩
      cases r with
      | readMask => exact framed_stored (List.mem_singleton_self _) rfl
      | _ => exact framed_kept (by simp) fun _ hholds => hholds
  · rw [if_neg hbb] at hannounced
    cases hcommand : d.command data with
    | none =>
      rw [hcommand] at hwrite
      refine law_of_unsupported hwrite fun hsupported => ?_
      have hsome := (command_isSome_iff d data).2 (hsupported.2.2.2 hbase)
      rw [hcommand] at hsome
      cases hsome
    | some e =>
      rw [hcommand] at hwrite
      obtain ⟨hstack, henabled, hholds⟩ := command_keeps hcommand hbb h.enabled
      refine law_of_plain hannounced hwrite (hsupported ?_) hkeeps ?_ (hstack.trans h.writeOrder)
        hholds
      · exact (command_isSome_iff d data).1 (by rw [hcommand]; rfl)
      · rw [henabled]
        exact ⟨Or.inl, fun h => h.elim id fun h => absurd h.1 h3⟩

/-- A byte that selects no register is ignored. -/
theorem law_noBase (h : d.Idle) (hbase : data &&& 0x83 = 0x82) (h5 : data &&& 0xC7 ≠ 0x82) :
    FrameLaw m d data bytes := by
  have hbits : ∀ b : U8, b &&& 0x83 = 0x82 →
      b &&& 0x87 ≠ 0x04 ∧ b &&& 0x87 ≠ 0x00 ∧ b &&& 0x80 ≠ 0 ∧ b &&& 0x83 ≠ 0x80 ∧
        b &&& 0x83 ≠ 0x81 ∧ b &&& 0x83 ≠ 0x83 := by decide
  obtain ⟨h1, h2, h0, h3, h4, h6⟩ := hbits data hbase
  have hwrite : d.write m data = some d := by
    rw [write_base h, writeBase, if_neg h1, if_neg h2, if_neg h0, if_neg h3, if_neg h4, if_neg h5,
      if_neg h6]
  exact law_of_wr5_or_none hbase hwrite (fun h => absurd h h5) h.enabled h.writeOrder
    fun _ _ hholds => hholds

end

/-- **When a frame stays in frame.**  A frame is written without a panic exactly if it is
supported.  Every parameter is then in its register, no other register is changed, and the next
byte is a base byte, exactly if the base byte does not enable the device and no bits of a word are
lost.  A base byte that enables the device leaves the rest as it should be exactly if it announces
nothing. -/
theorem framing_iff (m : Overflow) {d : Dma} (h : d.Idle) (data : U8)
    (bytes : WriteRegister → U8) :
    ((feed m d (frame data bytes)).isSome ↔ Supported data bytes) ∧
      ∀ d', feed m d (frame data bytes) = some d' →
        (d.InFrame (announced data bytes) bytes d' ∧ AtBase m d' ↔
          ¬ Enables data ∧ d.KeepsWords data bytes) ∧
        (d.InFrame (announced data bytes) bytes d' ↔
          (Enables data → announced data bytes = []) ∧ d.KeepsWords data bytes) := by
  have hbases : ∀ b : U8, b &&& 0x87 = 0x04 ∨ b &&& 0x87 = 0x00 ∨
      (b &&& 0x80 = 0x00 ∧ b &&& 0x03 ≠ 0) ∨ b &&& 0x83 = 0x80 ∨ b &&& 0x83 = 0x81 ∨
      b &&& 0xC7 = 0x82 ∨
      b &&& 0x83 = 0x83 ∨ (b &&& 0x83 = 0x82 ∧ b &&& 0xC7 ≠ 0x82) := by decide
  obtain h1 | h2 | ⟨h0, hmode⟩ | h3 | h4 | h5 | h6 | ⟨hnone, h5⟩ := hbases data
  · exact law_wr1 h h1
  · exact law_wr2 h h2
  · exact law_wr0 h h0 hmode
  · exact law_wr3 h h3
  · exact law_wr4 h h4
  · exact law_wr5 h h5
  · exact law_wr6 h h6
  · exact law_noBase h hnone h5

/-- On a fresh device WR3 with both bytes and no enable stays in frame. -/
theorem framing_iff_wr3 :
    ∃ d', feed .panics default (frame 0x9C fun _ => 0x41) = some d' ∧
      InFrame default (announced 0x9C fun _ => 0x41) (fun _ => 0x41) d' ∧ AtBase .panics d' := by
  obtain ⟨hsome, hlaw⟩ := framing_iff .panics (d := default) ⟨rfl, rfl⟩ 0x9C fun _ => 0x41
  obtain ⟨d', hfeed⟩ := Option.isSome_iff_exists.1
    (hsome.2 ⟨fun h => absurd h (by decide), fun h => absurd h (by decide),
      fun h => absurd h (by decide), fun h => absurd h (by decide)⟩)
  refine ⟨d', hfeed, (hlaw d' hfeed).1.2 ⟨by unfold Enables; decide, ?_⟩⟩
  exact ⟨fun h => absurd h (by decide), fun h => absurd h (by decide)⟩

/-- WR3 with both bytes and the enable: once the block of one byte is over, the load command
becomes the mask. -/
theorem framing_not :
    ((((feed .panics default [0x25, 0x01, 0xDC, 0xF0, 0x41]).bind
        fun d => (d.tick (ConstantBus.mk 0)).1).bind (·.write .panics 0xCF)).map
          fun d => (d.enabled, d.maskByte, d.writeOrder)) = some (false, 0xCF, [.matchByte]) ∧
    ¬ ∀ (d : Dma) (data : U8) (bytes : WriteRegister → U8), d.Idle → Supported data bytes →
      ∃ d', feed .panics d (frame data bytes) = some d' ∧
        d.InFrame (announced data bytes) bytes d' ∧ AtBase .panics d' := by
  refine ⟨by decide, ?_⟩
  intro h
  obtain ⟨d', hfeed, hin, -⟩ := h default 0xDC (fun _ => 0x41) ⟨rfl, rfl⟩
    ⟨fun h => absurd h (by decide), fun h => absurd h (by decide),
      fun h => absurd h (by decide), fun h => absurd h (by decide)⟩
  have hdropped : feed .panics default (frame 0xDC fun _ => 0x41) =
      some ((baseWR3 default 0xDC).await [.maskByte, .matchByte]) := by decide
  rw [hdropped] at hfeed
  obtain rfl := Option.some.inj hfeed
  exact absurd hin.writeOrder (by decide)

end Dma

end Possum
