import Possum.Dma.ReadBack

/-!
# The two queues

The assertions at the head of `read` and `write` say that neither queue ever holds more than eight
registers.

For the parameters it is so in every run.  A base register announces at most five bytes, those
that the interrupt control announces in its turn included, and every byte written to a parameter
pays one of them off (`owed`).

For the registers to read it is not: 0xBF and 0xA7 queue more of them, and nothing but a read takes
them off.  The bound holds throughout a run exactly if every such request finds room
(**`queues_bounded_iff`**).
-/

set_option autoImplicit false

namespace Possum

open Lib

/-- The bytes that a parameter may take, with those it announces. -/
def WriteRegister.bytes : WriteRegister → ℕ
  | .interruptControl => 3
  | _ => 1

theorem WriteRegister.bytes_pos (r : WriteRegister) : 1 ≤ r.bytes := by
  cases r <;> decide

namespace Dma

/-! ### What is owed -/

/-- The bytes that the awaited parameters may take. -/
def owed : List WriteRegister → ℕ
  | [] => 0
  | r :: rest => r.bytes + owed rest

theorem length_le_owed (order : List WriteRegister) : order.length ≤ owed order := by
  induction order with
  | nil => exact Nat.le_refl 0
  | cons r rest ih =>
    have hpos := r.bytes_pos
    rw [List.length_cons, owed]
    omega

/-- The queues differ in parameters of at most `n` bytes that have been announced, and in nothing
else. -/
structure Announced (n : ℕ) (d d' : Dma) : Prop where
  readOrder : d'.readOrder = d.readOrder
  writeOrder : owed d'.writeOrder ≤ n + owed d.writeOrder

section

variable {m : Overflow} {d d' e : Dma} {data : U8} {n : ℕ}

theorem Announced.announce (h : Announced n d e) (data bit : U8) (r : WriteRegister) :
    Announced (r.bytes + n) d (e.announce data bit r) := by
  have howed := h.writeOrder
  by_cases hbit : data &&& bit = 0
  · rw [announce_of_not hbit]
    refine ⟨h.readOrder, ?_⟩
    omega
  · rw [announce_of hbit]
    refine ⟨h.readOrder, ?_⟩
    show owed (r :: e.writeOrder) ≤ _
    rw [owed]
    omega

theorem Announced.mono {k : ℕ} (h : Announced n d e) (hle : n ≤ k) : Announced k d e := by
  refine ⟨h.readOrder, ?_⟩
  have howed := h.writeOrder
  omega

/-- A device that differs in no queue. -/
theorem announced_zero (hread : e.readOrder = d.readOrder) (hwrite : e.writeOrder = d.writeOrder) :
    Announced 0 d e := by
  refine ⟨hread, ?_⟩
  rw [hwrite, Nat.zero_add]

/-! ### Base registers -/

theorem announced_writeWR0 (h : d.writeWR0 data = some d') : Announced 4 d d' := by
  obtain ⟨e, hmode, rfl⟩ := Option.map_eq_some_iff.1 h
  have hset : Announced 0 d (e.setDirection data) := by
    unfold setMode at hmode
    split at hmode <;> cases hmode <;> exact announced_zero rfl rfl
  exact (((hset.announce data 0x40 .blockLengthHigh).announce data 0x20 .blockLengthLow).announce
    data 0x10 .portAAddressHigh).announce data 0x08 .portAAddressLow

theorem announced_writeWR1 (h : d.writeWR1 data = some d') : Announced 1 d d' := by
  obtain ⟨mode, -, rfl⟩ := Option.map_eq_some_iff.1 h
  have hset : Announced 0 d { d with
      portAIsMemory := data &&& 0x08 == 0, portAIncrementMode := mode } := announced_zero rfl rfl
  exact hset.announce data 0x40 .portATiming

theorem announced_writeWR2 (h : d.writeWR2 data = some d') : Announced 1 d d' := by
  obtain ⟨mode, -, rfl⟩ := Option.map_eq_some_iff.1 h
  have hset : Announced 0 d { d with
      portBIsMemory := data &&& 0x08 == 0, portBIncrementMode := mode } := announced_zero rfl rfl
  exact hset.announce data 0x40 .portBTiming

theorem announced_writeWR3 (d : Dma) (data : U8) : Announced 2 d (d.writeWR3 data) := by
  have hset : Announced 0 d { d with
      stopOnMatch := data &&& 0x04 != 0
      interruptsEnabled := data &&& 0x20 != 0 || d.interruptsEnabled
      enabled := data &&& 0x40 != 0 || d.enabled } := announced_zero rfl rfl
  exact (hset.announce data 0x10 .matchByte).announce data 0x08 .maskByte

theorem announced_writeWR4 (h : d.writeWR4 data = some d') : Announced 5 d d' := by
  obtain ⟨mode, -, rfl⟩ := Option.map_eq_some_iff.1 h
  have hset : Announced 0 d { d with accessMode := mode } := announced_zero rfl rfl
  exact ((hset.announce data 0x10 .interruptControl).announce data 0x08 .portBAddressHigh).announce
    data 0x04 .portBAddressLow

theorem announced_writeWR5 (h : d.writeWR5 data = some d') : Announced 0 d d' := by
  unfold writeWR5 at h
  split at h
  · cases h
  · obtain rfl := Option.some.inj h
    exact announced_zero rfl rfl

/-- The registers that a control byte asks for. -/
def requested (d : Dma) (data : U8) : List ReadRegister :=
  if data = 0xBF then [.status] else if data = 0xA7 then stacked d.readMask else []

theorem requested_of_not (h : data &&& 0x83 ≠ 0x83) : d.requested data = [] := by
  have hbf : data ≠ 0xBF := by
    rintro rfl
    exact h rfl
  have ha7 : data ≠ 0xA7 := by
    rintro rfl
    exact h rfl
  rw [requested, if_neg hbf, if_neg ha7]

/-- The queues after a control byte: only the mask is awaited. -/
theorem command_queues (h : d.command data = some d') :
    d'.readOrder = d.requested data ++ d.readOrder ∧
      owed d'.writeOrder ≤ 1 + owed d.writeOrder := by
  have hkept : owed d.writeOrder ≤ 1 + owed d.writeOrder := Nat.le_add_left _ 1
  obtain ⟨rfl, rfl⟩ | ⟨rfl, rfl⟩ | ⟨rfl, rfl⟩ | ⟨rfl, rfl⟩ | ⟨rfl, rfl⟩ | ⟨rfl, rfl⟩ | ⟨rfl, rfl⟩ |
    ⟨rfl, rfl⟩ | ⟨rfl, rfl⟩ | ⟨rfl, rfl⟩ := command_cases h
  -- reset, load, continue, enable interrupts, read status, reinitialise
  · exact ⟨rfl, hkept⟩
  · unfold load
    split <;> exact ⟨rfl, hkept⟩
  · exact ⟨rfl, hkept⟩
  · exact ⟨rfl, hkept⟩
  · exact ⟨rfl, hkept⟩
  · exact ⟨rfl, hkept⟩
  -- read mask
  · refine ⟨rfl, ?_⟩
    show owed (.readMask :: d.writeOrder) ≤ _
    rw [owed]
    exact Nat.le_refl _
  -- initiate read, enable, disable
  · rw [initiateRead_eq]
    exact ⟨rfl, hkept⟩
  · exact ⟨rfl, hkept⟩
  · exact ⟨rfl, hkept⟩

/-- **The queues after a base byte**: at most five bytes are announced. -/
theorem writeBase_queues (h : d.writeBase data = some d') :
    d'.readOrder = d.requested data ++ d.readOrder ∧
      owed d'.writeOrder ≤ 5 + owed d.writeOrder := by
  have hlow : ∀ b : U8, b &&& 0x87 = 0x04 ∨ b &&& 0x87 = 0x00 ∨ b &&& 0x80 = 0x00 →
      b &&& 0x83 ≠ 0x83 := by decide
  have hhigh : ∀ b : U8, b &&& 0x83 = 0x80 ∨ b &&& 0x83 = 0x81 ∨ b &&& 0xC7 = 0x82 →
      b &&& 0x83 ≠ 0x83 := by decide
  have hplain (n : ℕ) (hn : n ≤ 5) (hnot : data &&& 0x83 ≠ 0x83) (hannounced : Announced n d d') :
      d'.readOrder = d.requested data ++ d.readOrder ∧
        owed d'.writeOrder ≤ 5 + owed d.writeOrder := by
    rw [requested_of_not hnot, List.nil_append]
    exact ⟨hannounced.readOrder, (hannounced.mono hn).writeOrder⟩
  obtain ⟨h1, hw⟩ | ⟨h2, hw⟩ | ⟨h0, hw⟩ | ⟨h3, rfl⟩ | ⟨h4, hw⟩ | ⟨h5, hw⟩ | ⟨-, hw⟩ |
    ⟨-, h6, rfl⟩ := writeBase_cases h
  · exact hplain 1 (by decide) (hlow data (.inl h1)) (announced_writeWR1 hw)
  · exact hplain 1 (by decide) (hlow data (.inr (.inl h2))) (announced_writeWR2 hw)
  · exact hplain 4 (by decide) (hlow data (.inr (.inr h0))) (announced_writeWR0 hw)
  · exact hplain 2 (by decide) (hhigh data (.inl h3)) (announced_writeWR3 d data)
  · exact hplain 5 (by decide) (hhigh data (.inr (.inl h4))) (announced_writeWR4 hw)
  · exact hplain 0 (by decide) (hhigh data (.inr (.inr h5))) (announced_writeWR5 hw)
  · obtain ⟨hread, howed⟩ := command_queues hw
    refine ⟨hread, Nat.le_trans howed ?_⟩
    exact Nat.add_le_add_right (by decide) _
  · exact hplain 0 (by decide) h6 (announced_zero rfl rfl)

/-! ### Parameters -/

/-- **The queues after a parameter**: at least one byte less is owed. -/
theorem writeParameter_queues {r : WriteRegister} (h : d.writeParameter r data = some d') :
    d'.readOrder = d.readOrder ∧ owed d'.writeOrder < r.bytes + owed d.writeOrder := by
  cases r with
  | interruptControl =>
    have hset : Announced 0 d { d with
        interruptOnMatch := data &&& 0x01 != 0
        interruptAtEndOfBlock := data &&& 0x02 != 0
        statusAffectsVector := data &&& 0x20 != 0
        interruptOnReady := data &&& 0x40 != 0 } := announced_zero rfl rfl
    have hboth := (hset.announce data 0x10 .interruptVector).announce data 0x08 .pulseControl
    rw [writeInterruptControl_eq h]
    refine ⟨hboth.readOrder, Nat.lt_of_le_of_lt hboth.writeOrder ?_⟩
    -- the interrupt control has been counted with both of them
    exact Nat.add_lt_add_right (by decide) (owed d.writeOrder)
  | portATiming => cases h
  | portBTiming => cases h
  | pulseControl => cases h
  | _ =>
    cases h
    exact ⟨rfl, Nat.lt_add_of_pos_left (WriteRegister.bytes_pos _)⟩

/-- **The queues after a write.** -/
theorem write_queues (h : d.write m data = some d') :
    d'.readOrder = (if d.Idle then d.requested data else []) ++ d.readOrder ∧
      owed d'.writeOrder ≤ max 5 (owed d.writeOrder) := by
  obtain ⟨hon, rfl⟩ | ⟨hidle, hbase⟩ | ⟨r, rest, -, horder, hparameter⟩ := write_cases h
  · have hnot : ¬ d'.Idle := by
      intro hidle
      rw [hidle.enabled] at hon
      cases hon
    rw [if_neg hnot]
    exact ⟨rfl, Nat.le_max_right _ _⟩
  · obtain ⟨hread, howed⟩ := writeBase_queues hbase
    rw [if_pos hidle]
    rw [hidle.writeOrder] at howed
    exact ⟨hread, Nat.le_trans howed (Nat.le_max_left _ _)⟩
  · have hnot : ¬ d.Idle := by
      intro hidle
      rw [hidle.writeOrder] at horder
      cases horder
    obtain ⟨hread, howed⟩ := writeParameter_queues hparameter
    rw [if_neg hnot, horder, owed]
    exact ⟨hread, Nat.le_trans (Nat.le_of_lt howed) (Nat.le_max_right _ _)⟩

/-! ### Runs -/

/-- The two assertions. -/
structure Bounded (d : Dma) : Prop where
  writeOrder : d.writeOrder.length ≤ 8
  readOrder : d.readOrder.length ≤ 8

/-- A request for registers finds room for them. -/
def HasRoom (d : Dma) : Operation → Prop
  | .write data => d.Idle →
    (data = 0xBF → d.readOrder.length < 8) ∧
      (data = 0xA7 → (selected d.readMask).length + d.readOrder.length ≤ 8)
  | _ => True

/-- Every operation keeps what is owed bounded. -/
theorem operate_owed {op : Operation} {answer : Option U8} (howed : owed d.writeOrder ≤ 5)
    (h : operate m d op = some (answer, d')) : owed d'.writeOrder ≤ 5 := by
  cases op with
  | write data =>
    have hwrite := (write_queues (operate_write h)).2
    rwa [max_eq_left howed] at hwrite
  | read =>
    obtain ⟨order, rfl⟩ := operate_read h
    exact howed
  | tick bus =>
    obtain ⟨s, b, c, portA, portB, rfl⟩ := tick_eq (operate_tick.1 h).2
    exact howed

theorem length_requested (d : Dma) (data : U8) :
    (d.requested data).length + d.readOrder.length ≤ 8 ↔ d.readOrder.length ≤ 8 ∧
      (data = 0xBF → d.readOrder.length < 8) ∧
      (data = 0xA7 → (selected d.readMask).length + d.readOrder.length ≤ 8) := by
  unfold requested
  by_cases hbf : data = 0xBF
  · have hother : data ≠ 0xA7 := by
      rw [hbf]
      decide
    rw [if_pos hbf, List.length_singleton]
    constructor
    · intro h
      exact ⟨by omega, fun _ => by omega, fun ha7 => absurd ha7 hother⟩
    · rintro ⟨-, hlt, -⟩
      have hlength := hlt hbf
      omega
  · rw [if_neg hbf]
    by_cases ha7 : data = 0xA7
    · rw [if_pos ha7, length_stacked]
      constructor
      · intro h
        exact ⟨by omega, fun heq => absurd heq hbf, fun _ => h⟩
      · rintro ⟨-, -, hle⟩
        exact hle ha7
    · rw [if_neg ha7, List.length_nil, Nat.zero_add]
      constructor
      · intro h
        exact ⟨h, fun heq => absurd heq hbf, fun heq => absurd heq ha7⟩
      · rintro ⟨hle, -, -⟩
        exact hle

/-- A device that is idle takes every request. -/
theorem write_request (hidle : d.Idle) (hdata : data = 0xBF ∨ data = 0xA7) :
    ∃ e, d.write m data = some e := by
  rcases hdata with rfl | rfl
  · exact ⟨_, Program.write_wr6 hidle rfl⟩
  · exact ⟨_, Program.write_wr6 hidle rfl⟩

/-- From a state within the bounds, an operation that has room, and no other, stays within. -/
theorem hasRoom_iff {op : Operation} (howed : owed d.writeOrder ≤ 5) (hbounded : d.Bounded) :
    d.HasRoom op ↔ ∀ answer d', operate m d op = some (answer, d') → d'.Bounded := by
  have hstack {answer : Option U8} {e : Dma} (h : operate m d op = some (answer, e)) :
      e.writeOrder.length ≤ 8 :=
    Nat.le_trans (length_le_owed _) (Nat.le_trans (operate_owed howed h) (by decide))
  cases op with
  | write data =>
    constructor
    · intro hroom answer e h
      refine ⟨hstack h, ?_⟩
      rw [(write_queues (operate_write h)).1, List.length_append]
      by_cases hidle : d.Idle
      · rw [if_pos hidle]
        exact (length_requested d data).2 ⟨hbounded.readOrder, hroom hidle⟩
      · rw [if_neg hidle, List.length_nil, Nat.zero_add]
        exact hbounded.readOrder
    · intro hnext hidle
      -- a request succeeds, so the bound of the next state speaks of it
      have hfits (hdata : data = 0xBF ∨ data = 0xA7) :
          (d.requested data).length + d.readOrder.length ≤ 8 := by
        obtain ⟨e, hwrite⟩ := write_request (m := m) hidle hdata
        have hop : operate m d (.write data) = some (none, e) := by
          show (d.write m data).map _ = _
          rw [hwrite, Option.map_some]
        have hlength := (hnext none e hop).readOrder
        rwa [(write_queues hwrite).1, if_pos hidle, List.length_append] at hlength
      constructor
      · intro hbf
        exact ((length_requested d data).1 (hfits (.inl hbf))).2.1 hbf
      · intro ha7
        exact ((length_requested d data).1 (hfits (.inr ha7))).2.2 ha7
  | read =>
    refine iff_of_true trivial fun answer e h => ⟨hstack h, ?_⟩
    have hreadable : d.Readable m := fun _ => hbounded.readOrder
    rcases horder : d.readOrder with _ | ⟨r, rest⟩
    · rw [operate_read_nil horder] at h
      cases h
      exact hbounded.readOrder
    · rw [operate_read_cons hreadable horder] at h
      cases h
      have hlength := hbounded.readOrder
      rw [horder] at hlength
      exact Nat.le_of_succ_le hlength
  | tick bus =>
    refine iff_of_true trivial fun answer e h => ⟨hstack h, ?_⟩
    obtain ⟨s, b, c, portA, portB, rfl⟩ := tick_eq (operate_tick.1 h).2
    exact hbounded.readOrder

/-- **When the assertions hold.**  In every run the parameters stay within their bound; the
registers to read do exactly if every request for some of them finds room. -/
theorem queues_bounded_iff (m : Overflow) (ops : List Operation) :
    (operate m).Throughout (fun d => d.writeOrder.length ≤ 8) default ops ∧
      ((operate m).Throughout Bounded default ops ↔ (operate m).Along HasRoom default ops) := by
  have hstart : owed (default : Dma).writeOrder ≤ 5 := by decide
  refine ⟨?_, ?_⟩
  · have hstep : ∀ (d : Dma) (op : Operation) (answer : Option U8) (d' : Dma),
        owed d.writeOrder ≤ 5 → True → operate m d op = some (answer, d') →
        owed d'.writeOrder ≤ 5 := by
      intro d op answer d' howed _ h
      exact operate_owed howed h
    have hlength : ∀ d : Dma, owed d.writeOrder ≤ 5 → d.writeOrder.length ≤ 8 := by
      intro d howed
      exact Nat.le_trans (length_le_owed _) (Nat.le_trans howed (by decide))
    exact Machine.throughout_of_along hstep hlength hstart
      (Machine.along_of_forall (fun _ _ => trivial) _ ops)
  · refine Machine.throughout_iff_along (fun d op answer d' howed h => operate_owed howed h) ?_
      hstart ⟨Nat.zero_le 8, Nat.zero_le 8⟩ ops
    intro d op howed hbounded
    exact hasRoom_iff howed hbounded

/-- Nine status requests before a read: the assertion of the read fails. -/
theorem queues_not_bounded :
    (feed .panics default (List.replicate 9 0xBF)).map (fun d => d.readOrder.length) = some 9 ∧
      ((feed .panics default (List.replicate 9 0xBF)).bind fun d => d.read .panics) = none ∧
      ¬ ∀ ops, (operate .panics).Throughout Bounded default ops := by
  refine ⟨by decide, by decide, ?_⟩
  intro h
  have hrun : (operate .panics).run default (List.replicate 9 (.write 0xBF)) =
      some (List.replicate 9 none, (default : Dma).queued (List.replicate 9 .status)) := by decide
  have hlength := ((h _).last hrun).readOrder
  exact absurd hlength (by decide)

end

end Dma

end Possum
