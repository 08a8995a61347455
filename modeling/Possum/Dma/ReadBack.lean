import Mathlib.Data.List.ReduceOption
import Possum.Dma.Control

/-!
# Reading back

`0xA7` queues the registers that the read mask selects.  The reads that follow should answer them
in ascending order of their bits, and then 0 (`ReadsBack`).

The seven tests of `initiateRead` are in descending order, as the queue is a stack, except for the
two halves of the byte counter.  And the queue is never cleared: the registers of an earlier
request are read after the selected ones, and nine of both fail the assertion of the read.  The
reads are as they should be exactly if none of this shows (**`readsBack_iff`**).
-/

set_option autoImplicit false

namespace Possum

open Lib

/-- `WR6Mask`: the bit of the read mask that selects the register. -/
def ReadRegister.bit : ReadRegister → U8
  | .status => 0x01
  | .byteCounterLow => 0x02
  | .byteCounterHigh => 0x04
  | .portAAddressLow => 0x08
  | .portAAddressHigh => 0x10
  | .portBAddressLow => 0x20
  | .portBAddressHigh => 0x40

namespace Dma

/-! ### What a mask selects -/

/-- The registers among these that a read mask selects. -/
def among (mask : U8) (rs : List ReadRegister) : List ReadRegister :=
  rs.filter fun r => mask &&& r.bit != 0

/-- The registers that a read mask selects, in ascending order of their bits. -/
def selected (mask : U8) : List ReadRegister :=
  among mask [.status, .byteCounterLow, .byteCounterHigh, .portAAddressLow, .portAAddressHigh,
    .portBAddressLow, .portBAddressHigh]

/-- The same registers in the order in which they are read. -/
def stacked (mask : U8) : List ReadRegister :=
  among mask [.status, .byteCounterHigh, .byteCounterLow, .portAAddressLow, .portAAddressHigh,
    .portBAddressLow, .portBAddressHigh]

section

variable {mask : U8} {r : ReadRegister}

theorem among_cons_of (h : mask &&& r.bit ≠ 0) (rs : List ReadRegister) :
    among mask (r :: rs) = r :: among mask rs :=
  List.filter_cons_of_pos (bne_iff_ne.2 h)

theorem among_cons_of_not (h : mask &&& r.bit = 0) (rs : List ReadRegister) :
    among mask (r :: rs) = among mask rs :=
  List.filter_cons_of_neg fun hbit => bne_iff_ne.1 hbit h

end

theorem length_stacked (mask : U8) : (stacked mask).length = (selected mask).length := by
  have hperm : (stacked mask).Perm (selected mask) := by
    unfold stacked selected among
    exact ((List.Perm.swap _ _ _).cons _).filter _
  exact hperm.length_eq

/-- Two registers in either order. -/
theorem map_among_swap (mask : U8) (f : ReadRegister → U8) (r s : ReadRegister) :
    (among mask [s, r]).map f = (among mask [r, s]).map f ↔
      (mask &&& r.bit ≠ 0 ∧ mask &&& s.bit ≠ 0 → f r = f s) := by
  by_cases hr : mask &&& r.bit = 0
  · rw [among_cons_of_not hr]
    refine iff_of_true ?_ fun h => absurd hr h.1
    by_cases hs : mask &&& s.bit = 0
    · rw [among_cons_of_not hs, among_cons_of_not hs, among_cons_of_not hr]
    · rw [among_cons_of hs, among_cons_of hs, among_cons_of_not hr]
  · by_cases hs : mask &&& s.bit = 0
    · rw [among_cons_of_not hs, among_cons_of hr, among_cons_of hr, among_cons_of_not hs]
      exact iff_of_true rfl fun h => absurd hs h.2
    · rw [among_cons_of hs, among_cons_of hr, among_cons_of hr, among_cons_of hs]
      constructor
      · intro h _
        exact (List.cons.inj h).1.symm
      · intro h
        show [f s, f r] = [f r, f s]
        rw [h ⟨hr, hs⟩]

/-- Only the halves of the byte counter are read in the wrong order. -/
theorem map_stacked (mask : U8) (f : ReadRegister → U8) :
    (stacked mask).map f = (selected mask).map f ↔
      (mask &&& 0x06 = 0x06 → f .byteCounterLow = f .byteCounterHigh) := by
  have hboth : ∀ b : U8, b &&& 0x06 = 0x06 ↔ b &&& 0x02 ≠ 0 ∧ b &&& 0x04 ≠ 0 := by decide
  have hcut (r s : ReadRegister) (rs : List ReadRegister) : among mask (.status :: r :: s :: rs) =
      among mask [.status] ++ (among mask [r, s] ++ among mask rs) := by
    simp only [among, ← List.filter_append, List.cons_append, List.nil_append]
  unfold stacked selected
  rw [hcut, hcut, hboth, List.map_append, List.map_append, List.map_append, List.map_append,
    List.append_right_inj, List.append_left_inj]
  exact map_among_swap mask f .byteCounterLow .byteCounterHigh

variable {m : Overflow} {d d' : Dma} {mask : U8}

/-- Queueing registers one after the other. -/
theorem foldl_queue (rs : List ReadRegister) : ∀ d : Dma,
    rs.foldl (fun e r => e.queue r.bit r) d =
      { d with readOrder := (among d.readMask rs).reverse ++ d.readOrder } := by
  induction rs with
  | nil =>
    intro d
    rfl
  | cons r rs ih =>
    intro d
    rw [List.foldl_cons, ih]
    by_cases hbit : d.readMask &&& r.bit = 0
    · have hqueue : d.queue r.bit r = d := if_neg (not_not_intro hbit)
      rw [hqueue, among_cons_of_not hbit]
    · have hqueue : d.queue r.bit r = { d with readOrder := r :: d.readOrder } := if_pos hbit
      rw [hqueue, among_cons_of hbit, List.reverse_cons, List.append_assoc]
      rfl

/-- **What `0xA7` queues.** -/
theorem initiateRead_eq (d : Dma) :
    d.initiateRead = { d with readOrder := stacked d.readMask ++ d.readOrder } := by
  have hfold := foldl_queue [.portBAddressHigh, .portBAddressLow, .portAAddressHigh,
    .portAAddressLow, .byteCounterLow, .byteCounterHigh, .status] d
  rw [among, ← List.filter_reverse] at hfold
  exact hfold

/-! ### Asking for registers -/

/-- The device with the given registers left to read. -/
def queued (d : Dma) (order : List ReadRegister) : Dma := { d with readOrder := order }

/-- The device once it has been asked for the registers of a mask. -/
def asked (d : Dma) (mask : U8) : Dma :=
  { d with readMask := mask, readOrder := stacked mask ++ d.readOrder }

/-- The mask, and the request for its registers. -/
theorem feed_readMask (h : d.Idle) (mask : U8) :
    feed m d [0xBB, mask, 0xA7] = some (d.asked mask) := by
  have hcommand : d.write m 0xBB = some (d.await [.readMask]) := by
    rw [Program.write_wr6 h rfl]
    show some (d.await (.readMask :: d.writeOrder)) = _
    rw [h.writeOrder]
  have hlength : ([] : List WriteRegister).length ≤ 7 := Nat.zero_le 7
  have hmask : (d.await [.readMask]).write m mask = some { d with readMask := mask } := by
    rw [write_await h.enabled hlength, h.await_nil]
    rfl
  have hidle : ({ d with readMask := mask } : Dma).Idle := ⟨h.enabled, h.writeOrder⟩
  have hrequest : ({ d with readMask := mask } : Dma).write m 0xA7 = some (d.asked mask) := by
    rw [Program.write_wr6 hidle rfl]
    exact congrArg some (initiateRead_eq _)
  rw [feed_cons hcommand, feed_cons hmask]
  exact feed_cons hrequest

theorem register_asked (d : Dma) (mask : U8) (r : ReadRegister) :
    (d.asked mask).register r = d.register r := by
  cases r <;> rfl

/-! ### Reads -/

/-- The operation is a read or a tick. -/
def Operation.Observes : Operation → Prop
  | .write _ => False
  | _ => True

/-- The assertion of a read holds where it is checked. -/
def Readable (m : Overflow) (d : Dma) : Prop := m = .panics → d.readOrder.length ≤ 8

/-- The reads after a mask and `0xA7` answer the registers that the mask selects, as they are, and
then 0.  The device may tick between them. -/
def ReadsBack (m : Overflow) (d : Dma) (mask : U8) : Prop :=
  ∃ d', feed m d [0xBB, mask, 0xA7] = some d' ∧
    ∀ ops : List Operation, (∀ op ∈ ops, op.Observes) →
      ∃ answers d'' zeros, (operate m).run d' ops = some (answers, d'') ∧
        answers.reduceOption <+: (selected mask).map d'.register ++ List.replicate zeros 0

theorem readable_iff : d.Readable m ↔
    debugAssert m (d.readOrder.length ≤ 8) = some () := by
  unfold Readable debugAssert
  cases m with
  | panics =>
    by_cases hlength : d.readOrder.length ≤ 8
    · simp [hlength]
    · simp [hlength]
  | wraps => simp

theorem operate_read_cons {r : ReadRegister} {rest : List ReadRegister} (h : d.Readable m)
    (horder : d.readOrder = r :: rest) :
    operate m d .read = some (some (d.register r), d.queued rest) := by
  show (d.read m).map _ = _
  rw [read, readable_iff.1 h, horder]
  rfl

theorem operate_read_nil (horder : d.readOrder = []) :
    operate m d .read = some (some 0, d) := by
  have h : d.Readable m := by
    intro _
    rw [horder]
    exact Nat.zero_le 8
  show (d.read m).map _ = _
  rw [read, readable_iff.1 h, horder]
  rfl

theorem Readable.tail {r : ReadRegister} {rest : List ReadRegister} (h : d.Readable m)
    (horder : d.readOrder = r :: rest) : (d.queued rest).Readable m := by
  intro hm
  have hlength := h hm
  rw [horder] at hlength
  exact Nat.le_of_succ_le hlength

/-- Reads and ticks take what is queued, and then 0. -/
theorem observe_prefix (ops : List Operation) : ∀ d : Dma, d.enabled = false → d.Readable m →
    (∀ op ∈ ops, op.Observes) →
    ∃ answers d' zeros, (operate m).run d ops = some (answers, d') ∧
      answers.reduceOption <+: d.readOrder.map d.register ++ List.replicate zeros 0 := by
  induction ops with
  | nil =>
    intro d _ _ _
    exact ⟨[], d, 0, rfl, List.nil_prefix⟩
  | cons op ops ih =>
    intro d hoff hreadable hops
    have hobserves := hops op List.mem_cons_self
    have hrest : ∀ op ∈ ops, op.Observes := fun op hop => hops op (List.mem_cons_of_mem _ hop)
    cases op with
    | write data => exact hobserves.elim
    | tick bus =>
      have htick : operate m d (.tick bus) = some (none, d) :=
        operate_tick.2 ⟨rfl, congrArg Prod.fst (tick_of_disabled hoff)⟩
      obtain ⟨answers, d', zeros, hrun, hprefix⟩ := ih d hoff hreadable hrest
      refine ⟨none :: answers, d', zeros, ?_, ?_⟩
      · rw [Machine.run_cons htick, hrun, Option.map_some]
      · rw [List.reduceOption_cons_of_none]
        exact hprefix
    | read =>
      rcases horder : d.readOrder with _ | ⟨r, rest⟩
      · obtain ⟨answers, d', zeros, hrun, hprefix⟩ := ih d hoff hreadable hrest
        refine ⟨some 0 :: answers, d', zeros + 1, ?_, ?_⟩
        · rw [Machine.run_cons (operate_read_nil horder), hrun, Option.map_some]
        · rw [horder] at hprefix
          rw [List.reduceOption_cons_of_some, List.replicate_succ]
          exact List.cons_prefix_cons.2 ⟨rfl, hprefix⟩
      · obtain ⟨answers, d', zeros, hrun, hprefix⟩ :=
          ih (d.queued rest) hoff (hreadable.tail horder) hrest
        refine ⟨some (d.register r) :: answers, d', zeros, ?_, ?_⟩
        · rw [Machine.run_cons (operate_read_cons hreadable horder), hrun, Option.map_some]
        · rw [List.reduceOption_cons_of_some]
          exact List.cons_prefix_cons.2 ⟨rfl, hprefix⟩

/-- Reads until nothing is queued. -/
theorem run_reads (order : List ReadRegister) : ∀ d : Dma, d.readOrder = order → d.Readable m →
    (operate m).run d (List.replicate order.length .read) =
      some (order.map fun r => some (d.register r), d.queued []) := by
  induction order with
  | nil =>
    intro d horder _
    have hempty : d.queued [] = d := by
      rw [← horder]
      rfl
    rw [hempty]
    rfl
  | cons r rest ih =>
    intro d horder hreadable
    rw [List.length_cons, List.replicate_succ,
      Machine.run_cons (operate_read_cons hreadable horder),
      ih (d.queued rest) rfl (hreadable.tail horder)]
    rfl

/-- Bytes that begin like the expected ones and zeros. -/
theorem zeros_of_prefix {values expected left : List U8} {zeros : ℕ}
    (hlength : values.length = expected.length)
    (h : values ++ left <+: expected ++ List.replicate zeros 0) :
    values = expected ∧ ∀ b ∈ left, b = 0 := by
  obtain ⟨more, happend⟩ := h
  rw [List.append_assoc] at happend
  obtain ⟨hvalues, hzeros⟩ := List.append_inj happend hlength
  refine ⟨hvalues, ?_⟩
  intro b hb
  have hmem : b ∈ List.replicate zeros (0 : U8) := by
    rw [← hzeros]
    exact List.mem_append_left more hb
  exact List.eq_of_mem_replicate hmem

theorem reduceOption_map_some {α : Type} (rs : List α) (f : α → U8) :
    (rs.map fun r => some (f r)).reduceOption = rs.map f := by
  rw [List.reduceOption, List.filterMap_map]
  exact congrFun List.filterMap_eq_map rs

theorem readable_of_operate {answer : Option U8} (h : operate m d .read = some (answer, d')) :
    d.Readable m := by
  obtain ⟨r, hread, -⟩ := Option.map_eq_some_iff.1 h
  obtain ⟨u, hassert, -⟩ := Option.map_eq_some_iff.1 hread
  exact readable_iff.2 hassert

theorem readable_asked : (d.asked mask).Readable m ↔
    (m = .panics → (selected mask).length + d.readOrder.length ≤ 8) := by
  have hlength : (d.asked mask).readOrder.length =
      (selected mask).length + d.readOrder.length := by
    rw [← length_stacked]
    exact List.length_append
  unfold Readable
  rw [hlength]

/-- **When registers are read back.**  The reads after a mask and `0xA7` are as they should be
exactly if the mask does not select both halves of a byte counter in which they differ, every
register still queued from before is 0, and no more than eight are queued where that is checked. -/
theorem readsBack_iff (m : Overflow) {d : Dma} (h : d.Idle) (mask : U8) :
    ReadsBack m d mask ↔
      (mask &&& 0x06 = 0x06 → lo d.byteCounter = hi d.byteCounter) ∧
        (∀ r ∈ d.readOrder, d.register r = 0) ∧
        (m = .panics → (selected mask).length + d.readOrder.length ≤ 8) := by
  have hregister : (d.asked mask).register = d.register := funext (register_asked d mask)
  have horder : (d.asked mask).readOrder.map d.register =
      (stacked mask).map d.register ++ d.readOrder.map d.register := List.map_append
  have hlength : ((stacked mask).map d.register).length =
      ((selected mask).map d.register).length := by
    rw [List.length_map, List.length_map, length_stacked]
  have hleft : (∀ b ∈ d.readOrder.map d.register, b = 0) ↔
      ∀ r ∈ d.readOrder, d.register r = 0 := List.forall_mem_map
  have hswap := map_stacked mask d.register
  rw [← readable_asked, ← hleft]
  constructor
  · rintro ⟨d', hfeed, hreads⟩
    rw [feed_readMask h] at hfeed
    obtain rfl := Option.some.inj hfeed
    have hreplicate (n : ℕ) : ∀ op ∈ List.replicate n Operation.read, op.Observes := by
      intro op hop
      rw [List.eq_of_mem_replicate hop]
      trivial
    have hreadable : (d.asked mask).Readable m := by
      obtain ⟨answers, d'', zeros, hrun, -⟩ := hreads _ (hreplicate 1)
      obtain ⟨answer, e, rest, hread, -⟩ := Machine.run_cons_eq_some hrun
      exact readable_of_operate hread
    -- as many reads as there are registers queued
    obtain ⟨answers, d'', zeros, hrun, hprefix⟩ :=
      hreads _ (hreplicate (d.asked mask).readOrder.length)
    rw [run_reads _ _ rfl hreadable] at hrun
    obtain ⟨rfl, -⟩ := Prod.mk.inj (Option.some.inj hrun)
    rw [hregister, reduceOption_map_some, horder] at hprefix
    obtain ⟨hvalues, hzero⟩ := zeros_of_prefix hlength hprefix
    exact ⟨hswap.1 hvalues, hzero, hreadable⟩
  · rintro ⟨hsame, hzero, hreadable⟩
    refine ⟨d.asked mask, feed_readMask h mask, ?_⟩
    intro ops hops
    obtain ⟨answers, d'', zeros, hrun, hprefix⟩ :=
      observe_prefix ops (d.asked mask) h.enabled hreadable hops
    refine ⟨answers, d'', (d.readOrder.map d.register).length + zeros, hrun, ?_⟩
    have hzeros := List.eq_replicate_length.2 hzero
    rw [hregister, horder, hswap.2 hsame, hzeros, List.append_assoc,
      List.replicate_append_replicate] at hprefix
    rw [hregister]
    exact hprefix

/-- After its transfer the device of the test reads back its status and the address of port A. -/
theorem readsBack_iff_finished : ReadsBack .panics finished 0x19 :=
  (readsBack_iff .panics ⟨by decide, by decide⟩ 0x19).2 (by decide)

/-- Five bytes have been counted, and are read back as 0x0500.  Behind a status request come its
bits, not 0. -/
theorem reads_swapped :
    finished.Idle ∧ finished.byteCounter = 0x0005 ∧ finished.readOrder = [] ∧
      ((feed .panics finished [0xBB, 0x06, 0xA7]).bind fun d =>
        ((operate .panics).run d [.read, .read]).map Prod.fst) = some [some 0x00, some 0x05] ∧
      ((feed .panics default [0x8B, 0xBF, 0xBB, 0x00, 0xA7]).bind fun d =>
        ((operate .panics).run d [.read]).map Prod.fst) = some [some 0x30] ∧
      ¬ ∀ (d : Dma) (mask : U8), d.Idle → ReadsBack .panics d mask := by
  refine ⟨⟨by decide, by decide⟩, by decide, by decide, by decide, by decide, ?_⟩
  intro h
  obtain ⟨d', hfeed, hreads⟩ := h finished 0x06 ⟨by decide, by decide⟩
  obtain ⟨answers, d'', zeros, hrun, hprefix⟩ :=
    hreads [.read, .read] (by simp [Operation.Observes])
  have hasked : feed .panics finished [0xBB, 0x06, 0xA7] = some (finished.asked 0x06) := by decide
  rw [hasked] at hfeed
  obtain rfl := Option.some.inj hfeed
  have hanswers : ((operate .panics).run (finished.asked 0x06) [.read, .read]).map Prod.fst =
      some [some 0x00, some 0x05] := by decide
  rw [hrun] at hanswers
  obtain rfl := Option.some.inj hanswers
  have hfirst : (0x00 : U8) = 0x05 := (List.cons_prefix_cons.1 hprefix).1
  exact absurd hfirst (by decide)

end Dma

end Possum
