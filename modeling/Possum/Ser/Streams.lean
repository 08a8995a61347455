import Possum.Ser.Uart

/-!
# The streams through a UART

Guest, ticks and host meet in the two queues of the chip.  `Logged` is a handle that also keeps
what was read from it and what was sent to it; `run_plain` says that a chip on such a handle
behaves as on the handle alone.  `written` and `popped` are the guest's side: what a step
contributes to the bytes given to port 0 and taken from it while DLAB is clear.

**`streams_lossless`**: on a handle whose reads fit the buffer and whose writes succeed, no run
panics, and at its end the bytes sent and those still queued are the bytes written, the bytes
popped and those still queued are the bytes read, and at most 16 are queued for the guest.
-/

set_option autoImplicit false

namespace Possum

open Lib Machine

/-- A stream of bytes: reads stay within the buffer of 16 bytes and writes succeed. -/
structure Handle.Streaming (τ : Type) [Handle τ] : Prop where
  read_le : ∀ (h : τ) (buf : Vector U8 16) (n : ℕ), (Handle.read h buf).1 = some n → n ≤ 16
  writeAll_ok : ∀ (h : τ) (data : List U8), (Handle.writeAll h data).1 = some ()

/-- A handle with the bytes that were read from it and sent to it so far. -/
structure Logged (τ : Type) where
  handle : τ
  received : List U8
  sent : List U8

namespace Logged

variable {τ : Type}

def start (handle : τ) : Logged τ := ⟨handle, [], []⟩

instance [Handle τ] : Handle (Logged τ) where
  read h buf :=
    let r := Handle.read h.handle buf
    (r.1, r.2.1,
      { h with handle := r.2.2, received := h.received ++ r.2.1.toList.take (r.1.getD 0) })
  writeAll h data :=
    let r := Handle.writeAll h.handle data
    (r.1, { h with handle := r.2, sent := if r.1.isSome then h.sent ++ data else h.sent })

theorem streaming [Handle τ] (h : Handle.Streaming τ) : Handle.Streaming (Logged τ) where
  read_le l buf n hn := h.read_le l.handle buf n hn
  writeAll_ok l data := h.writeAll_ok l.handle data

end Logged

namespace Uart

variable {τ : Type}

/-- The chip on the handle alone. -/
def plain (u : Uart (Logged τ)) : Uart τ where
  handle := u.handle.handle
  txFifo := u.txFifo
  rxFifo := u.rxFifo
  interruptEnable := u.interruptEnable
  interruptStatus := u.interruptStatus
  fifoControl := u.fifoControl
  lineControl := u.lineControl
  modemControl := u.modemControl
  lineStatus := u.lineStatus
  modemStatus := u.modemStatus
  divisorLatch := u.divisorLatch

/-! ### The guest's side -/

/-- The byte a step gives to the transmit queue: a write to port 0 with DLAB clear. -/
def written (u : Uart τ) : Event → Option U8 → List U8
  | .write port data, _ =>
    if port &&& 7 = 0 ∧ u.lineControl.getLsbD 7 = false then [data] else []
  | _, _ => []

/-- The byte a step takes from the receive queue: the answer of a read of port 0 with DLAB clear
while bytes are queued. -/
def popped (u : Uart τ) : Event → Option U8 → List U8
  | .read port, some byte =>
    if port &&& 7 = 0 ∧ u.lineControl.getLsbD 7 = false ∧ u.rxFifo ≠ [] then [byte] else []
  | _, _ => []

/-! ### The log is only a log -/

theorem read_plain (u : Uart (Logged τ)) (port : U16) :
    u.plain.read port = ((u.read port).1, (u.read port).2.plain) := by
  unfold read
  have hplain : u.plain.dataPort = u.dataPort := rfl
  rw [hplain]
  split
  · cases u.dataPort <;> rfl
  · cases u.dataPort <;> rfl
  all_goals rfl

theorem write_plain (m : Overflow) (u : Uart (Logged τ)) (port : U16) (data : U8) :
    u.plain.write m port data = (u.write m port data).map plain := by
  unfold write
  have hplain : u.plain.dataPort = u.dataPort := rfl
  have hline : u.plain.lineControl = u.lineControl := rfl
  rw [hplain, hline]
  split
  · cases u.dataPort <;> rfl
  · rw [Option.map_map]
    refine congrArg (Option.map · _) (funext fun product => ?_)
    by_cases hzero : product = 0
    · simp only [Function.comp_apply, hzero, if_true]
      rfl
    · simp only [Function.comp_apply, hzero, if_false]
      rfl
  all_goals rfl

section

variable [Handle τ]

theorem refill_plain (u : Uart (Logged τ)) : u.plain.refill = u.refill.map plain := by
  unfold refill
  cases hempty : u.rxFifo.isEmpty with
  | false =>
    have hplain : u.plain.rxFifo.isEmpty = false := hempty
    simp only [hplain, Bool.false_eq_true, if_false, Option.map_some]
  | true =>
    have hplain : u.plain.rxFifo.isEmpty = true := hempty
    simp only [hplain, if_true]
    have hcount : (Handle.read u.plain.handle (Vector.replicate 16 0)).1 =
        (Handle.read u.handle (Vector.replicate 16 0)).1 := rfl
    rw [hcount]
    by_cases hle : (Handle.read u.handle (Vector.replicate 16 0)).1.getD 0 ≤ 16
    · rw [if_pos hle, if_pos hle]
      rfl
    · rw [if_neg hle, if_neg hle]
      rfl

theorem drain_plain (u : Uart (Logged τ)) : u.plain.drain = u.drain.plain := by
  unfold drain
  have hplain : u.plain.txFifo = u.txFifo := rfl
  rw [hplain]
  cases u.txFifo <;> rfl

/-- **A log changes nothing.**  The chip on a logged handle answers as on the handle. -/
theorem step_plain (m : Overflow) (u : Uart (Logged τ)) (e : Event) :
    step m u.plain e = (step m u e).map fun r => (r.1, r.2.plain) := by
  cases e with
  | tick =>
    show (u.plain.refill.map drain).map _ = ((u.refill.map drain).map _).map _
    rw [refill_plain]
    simp only [Option.map_map]
    refine congrArg (Option.map · _) (funext fun u₁ => ?_)
    simp only [Function.comp_apply, drain_plain]
  | read port =>
    show some _ = some _
    rw [read_plain]
  | write port data =>
    show (u.plain.write m port data).map _ = ((u.write m port data).map _).map _
    rw [write_plain]
    simp only [Option.map_map]
    rfl

/-- A run on a logged handle is a run on the handle. -/
theorem run_plain {m : Overflow} {u u' : Uart (Logged τ)} {events : List Event}
    {answers : List (Option U8)} (h : run (step m) u events = some (answers, u')) :
    run (step m) u.plain events = some (answers, u'.plain) := by
  induction events generalizing u answers with
  | nil =>
    cases h
    rfl
  | cons e es ih =>
    obtain ⟨o, u₁, rest, hstep, hrun, rfl⟩ := run_cons_eq_some h
    have hplain : step m u.plain e = some (o, u₁.plain) := by
      rw [step_plain, hstep, Option.map_some]
    rw [run_cons hplain, ih hrun, Option.map_some]

end

/-! ### What a step does -/

theorem port_toNat (port : U16) : (port &&& 0x07).toNat = 0 ↔ port &&& 7 = 0 := by
  constructor
  · intro h
    exact BitVec.eq_of_toNat_eq h
  · intro h
    rw [h]
    rfl

/-- A read pops the receive queue, or leaves the chip as it is and takes nothing. -/
theorem read_cases (u : Uart τ) (port : U16) :
    (port &&& 7 = 0 ∧ u.lineControl.getLsbD 7 = false ∧
        u.read port = (u.rxFifo.head?.getD 0, { u with rxFifo := u.rxFifo.tail })) ∨
      (¬ (port &&& 7 = 0 ∧ u.lineControl.getLsbD 7 = false) ∧ (u.read port).2 = u) := by
  by_cases hport : port &&& 7 = 0
  · have hzero : (port &&& 0x07).toNat = 0 := (port_toNat port).2 hport
    cases hline : u.lineControl.getLsbD 7 with
    | false =>
      refine .inl ⟨hport, rfl, ?_⟩
      unfold read
      rw [hzero]
      simp only [dataPort_eq, hline]
      rfl
    | true =>
      refine .inr ⟨fun h => absurd h.2 (by decide), ?_⟩
      unfold read
      rw [hzero]
      simp only [dataPort_eq, hline]
      rfl
  · have hpos : (port &&& 0x07).toNat ≠ 0 := fun h => hport ((port_toNat port).1 h)
    refine .inr ⟨fun h => hport h.1, ?_⟩
    unfold read
    split
    · next h => exact absurd h hpos
    · split <;> rfl
    all_goals rfl

/-- A write either queues its byte for transmission or leaves the handle and the queues. -/
theorem write_cases {m : Overflow} {u u' : Uart τ} {port : U16} {data : U8}
    (h : u.write m port data = some u') :
    (port &&& 7 = 0 ∧ u.lineControl.getLsbD 7 = false ∧
        u' = { u with txFifo := u.txFifo ++ [data] }) ∨
      (¬ (port &&& 7 = 0 ∧ u.lineControl.getLsbD 7 = false) ∧
        u'.handle = u.handle ∧ u'.txFifo = u.txFifo ∧ u'.rxFifo = u.rxFifo) := by
  by_cases hport : port &&& 7 = 0
  · have hzero : (port &&& 0x07).toNat = 0 := (port_toNat port).2 hport
    unfold write at h
    rw [hzero] at h
    cases hline : u.lineControl.getLsbD 7 with
    | false =>
      simp only [dataPort_eq, hline] at h
      cases h
      exact .inl ⟨hport, rfl, rfl⟩
    | true =>
      simp only [dataPort_eq, hline] at h
      cases h
      exact .inr ⟨fun h => absurd h.2 (by decide), rfl, rfl, rfl⟩
  · have hpos : (port &&& 0x07).toNat ≠ 0 := fun h => hport ((port_toNat port).1 h)
    refine .inr ⟨fun h => hport h.1, ?_⟩
    unfold write at h
    split at h
    · next hz => exact absurd hz hpos
    · obtain ⟨product, -, rfl⟩ := Option.map_eq_some_iff.1 h
      split <;> exact ⟨rfl, rfl, rfl⟩
    all_goals cases h; exact ⟨rfl, rfl, rfl⟩

/-- In a release build no write panics. -/
theorem write_isSome (u : Uart τ) (port : U16) (data : U8) :
    (u.write .wraps port data).isSome := by
  unfold write
  split
  · split <;> rfl
  · rw [Option.isSome_map]
    unfold Overflow.mul
    split <;> rfl
  all_goals rfl

section

variable [Handle τ]

/-- What a tick can do: refill the empty receive queue from the handle, then send at most one
byte of the transmit queue. -/
theorem refill_cases (hs : Handle.Streaming τ) {u : Uart (Logged τ)} :
    ∃ u' new, u.refill = some u' ∧ u'.handle.received = u.handle.received ++ new ∧
      u'.rxFifo = u.rxFifo ++ new ∧ (u.rxFifo.length ≤ 16 → u'.rxFifo.length ≤ 16) ∧
      u'.handle.sent = u.handle.sent ∧ u'.txFifo = u.txFifo := by
  cases hempty : u.rxFifo.isEmpty with
  | false =>
    refine ⟨u, [], ?_, by simp, by simp, id, rfl, rfl⟩
    simp [refill, hempty]
  | true =>
    have hnil : u.rxFifo = [] := List.isEmpty_iff.1 hempty
    let r := Handle.read u.handle.handle (Vector.replicate 16 0)
    have hcount : r.1.getD 0 ≤ 16 := by
      cases hr : r.1 with
      | none => simp
      | some n => exact hs.read_le _ _ n hr
    refine ⟨{ u with handle := (Handle.read u.handle (Vector.replicate 16 0)).2.2
                     rxFifo := u.rxFifo ++ r.2.1.toList.take (r.1.getD 0) },
      r.2.1.toList.take (r.1.getD 0), ?_, rfl, rfl, ?_, rfl, rfl⟩
    · unfold refill
      rw [if_pos hempty]
      exact if_pos hcount
    · intro _
      simp only [hnil, List.nil_append, List.length_take]
      omega

theorem drain_cases (hs : Handle.Streaming τ) (u : Uart (Logged τ)) :
    u.drain.handle.sent ++ u.drain.txFifo = u.handle.sent ++ u.txFifo ∧
      u.drain.handle.received = u.handle.received ∧ u.drain.rxFifo = u.rxFifo := by
  cases htx : u.txFifo with
  | nil => simp [drain, htx]
  | cons data rest =>
    have hok := hs.writeAll_ok u.handle.handle [data]
    refine ⟨?_, ?_, ?_⟩
    · simp [drain, htx, Handle.writeAll, hok]
    · simp [drain, htx, Handle.writeAll]
    · simp [drain, htx]

theorem tick_cases (hs : Handle.Streaming τ) (u : Uart (Logged τ)) :
    ∃ u' new, u.tick = some u' ∧ u'.handle.received = u.handle.received ++ new ∧
      u'.rxFifo = u.rxFifo ++ new ∧ (u.rxFifo.length ≤ 16 → u'.rxFifo.length ≤ 16) ∧
      u'.handle.sent ++ u'.txFifo = u.handle.sent ++ u.txFifo := by
  obtain ⟨u₁, new, hrefill, hreceived, hrx, hlen, hsent, htx⟩ := refill_cases hs (u := u)
  obtain ⟨htotal, hreceived', hrx'⟩ := drain_cases hs u₁
  refine ⟨u₁.drain, new, ?_, ?_, ?_, ?_, ?_⟩
  · rw [tick, hrefill, Option.map_some]
  · rw [hreceived', hreceived]
  · rw [hrx', hrx]
  · rw [hrx']
    exact hlen
  · rw [htotal, hsent, htx]

/-- What the queues hold, for the guest at most 16 bytes. -/
def Bounded (u : Uart τ) : Prop := u.rxFifo.length ≤ 16

theorem step_bounded (hs : Handle.Streaming τ) (m : Overflow) (u : Uart (Logged τ)) (e : Event)
    (o : Option U8) (u' : Uart (Logged τ)) (hu : u.Bounded) (h : step m u e = some (o, u')) :
    u'.Bounded := by
  cases e with
  | tick =>
    obtain ⟨u₁, new, htick, -, -, hlen, -⟩ := tick_cases hs u
    rw [step, htick] at h
    cases h
    exact hlen hu
  | read port =>
    cases h
    obtain ⟨-, -, hread⟩ | ⟨-, hread⟩ := read_cases u port
    · rw [hread]
      show u.rxFifo.tail.length ≤ 16
      rw [List.length_tail]
      exact (Nat.sub_le _ _).trans hu
    · rw [hread]
      exact hu
  | write port data =>
    obtain ⟨u₁, hwrite, hout⟩ := Option.map_eq_some_iff.1 h
    cases hout
    obtain ⟨-, -, rfl⟩ | ⟨-, -, -, hrx⟩ := write_cases hwrite
    · exact hu
    · rw [Bounded, hrx]
      exact hu

/-- What was sent and what is still queued grow by what the guest writes. -/
theorem step_written (hs : Handle.Streaming τ) (m : Overflow) (u : Uart (Logged τ)) (e : Event)
    (o : Option U8) (u' : Uart (Logged τ)) (h : step m u e = some (o, u')) :
    u'.handle.sent ++ u'.txFifo = (u.handle.sent ++ u.txFifo) ++ written u e o := by
  cases e with
  | tick =>
    obtain ⟨u₁, new, htick, -, -, -, htotal⟩ := tick_cases hs u
    rw [step, htick] at h
    cases h
    rw [htotal]
    exact (List.append_nil _).symm
  | read port =>
    cases h
    obtain ⟨-, -, hread⟩ | ⟨-, hread⟩ := read_cases u port
    · rw [hread]
      exact (List.append_nil _).symm
    · rw [hread]
      exact (List.append_nil _).symm
  | write port data =>
    obtain ⟨u₁, hwrite, hout⟩ := Option.map_eq_some_iff.1 h
    cases hout
    obtain ⟨hport, hline, rfl⟩ | ⟨hnot, hhandle, htx, -⟩ := write_cases hwrite
    · rw [written, if_pos ⟨hport, hline⟩, List.append_assoc]
    · rw [written, if_neg hnot, hhandle, htx, List.append_nil]

/-- What is read from the handle enters the receive queue, and what leaves it is popped. -/
theorem step_popped (hs : Handle.Streaming τ) (m : Overflow) (u : Uart (Logged τ)) (e : Event)
    (o : Option U8) (u' : Uart (Logged τ)) (h : step m u e = some (o, u')) :
    ∃ new, u'.handle.received = u.handle.received ++ new ∧
      u.rxFifo ++ new = popped u e o ++ u'.rxFifo := by
  cases e with
  | tick =>
    obtain ⟨u₁, new, htick, hreceived, hrx, -, -⟩ := tick_cases hs u
    rw [step, htick] at h
    cases h
    exact ⟨new, hreceived, hrx.symm⟩
  | read port =>
    cases h
    obtain ⟨hport, hline, hread⟩ | ⟨hnot, hread⟩ := read_cases u port
    · refine ⟨[], by rw [hread]; simp, ?_⟩
      rw [hread]
      cases hrx : u.rxFifo with
      | nil => simp [popped, hrx]
      | cons byte rest =>
        have hne : u.rxFifo ≠ [] := by
          rw [hrx]
          exact List.cons_ne_nil byte rest
        rw [popped, if_pos ⟨hport, hline, hne⟩]
        exact List.append_nil (byte :: rest)
    · refine ⟨[], by rw [hread]; simp, ?_⟩
      have hnone : ¬ (port &&& 7 = 0 ∧ u.lineControl.getLsbD 7 = false ∧ u.rxFifo ≠ []) :=
        fun hc => hnot ⟨hc.1, hc.2.1⟩
      rw [hread, popped, if_neg hnone, List.append_nil, List.nil_append]
  | write port data =>
    obtain ⟨u₁, hwrite, hout⟩ := Option.map_eq_some_iff.1 h
    cases hout
    obtain ⟨-, -, rfl⟩ | ⟨-, hhandle, -, hrx⟩ := write_cases hwrite
    · exact ⟨[], (List.append_nil _).symm, List.append_nil _⟩
    · refine ⟨[], ?_, ?_⟩
      · rw [hhandle, List.append_nil]
      · rw [hrx]
        exact List.append_nil _

theorem step_isSome (hs : Handle.Streaming τ) (u : Uart (Logged τ)) (e : Event) :
    (step .wraps u e).isSome := by
  cases e with
  | tick =>
    obtain ⟨u', new, htick, -⟩ := tick_cases hs u
    rw [step, htick]
    rfl
  | read port => rfl
  | write port data =>
    rw [step, Option.isSome_map]
    exact write_isSome u port data

/-! ### Runs -/

/-- **The streams of a UART are lossless and ordered.** -/
theorem streams_lossless (hs : Handle.Streaming τ) (handle : τ) (events : List Event) :
    ∃ answers u,
      run (step .wraps) (new (Logged.start handle)) events = some (answers, u) ∧
      u.handle.sent ++ u.txFifo =
        collect (step .wraps) written (new (Logged.start handle)) events ∧
      collect (step .wraps) popped (new (Logged.start handle)) events ++ u.rxFifo =
        u.handle.received ∧
      u.rxFifo.length ≤ 16 := by
  have hbounded : (new (Logged.start handle)).Bounded := Nat.zero_le _
  have hinv := step_bounded hs Overflow.wraps
  have hsome := run_isSome hinv (fun u e _ => step_isSome hs u e) hbounded events
  obtain ⟨⟨answers, u⟩, hrun⟩ := Option.isSome_iff_exists.1 hsome
  have hsent := collect_of_append (fun u : Uart (Logged τ) => u.handle.sent ++ u.txFifo) hinv
    (fun u e o u' _ => step_written hs .wraps u e o u') hbounded hrun
  obtain ⟨got, hreceived, hpopped⟩ := collect_of_queue
    (fun u : Uart (Logged τ) => u.handle.received) (fun u => u.rxFifo) hinv
    (fun u e o u' _ => step_popped hs .wraps u e o u') hbounded hrun
  refine ⟨answers, u, hrun, ?_, ?_, run_invariant hinv hbounded hrun⟩
  · rw [hsent]
    exact List.nil_append _
  · rw [hreceived, ← hpopped]
    rfl

end

end Uart

/-! ### A pipe -/

/-- A stream with `input` still to be read and `output` written to it. -/
structure Pipe where
  input : List U8
  output : List U8

instance : Handle Pipe where
  read h buf :=
    (some (min h.input.length 16), buf.mapFinIdx fun i b _ => h.input.getD i b,
      { h with input := h.input.drop 16 })
  writeAll h data := (some (), { h with output := h.output ++ data })

theorem Pipe.streaming : Handle.Streaming Pipe where
  read_le h buf n hn := by
    cases hn
    exact Nat.min_le_right _ _
  writeAll_ok h data := rfl

/-- A guest that reads a byte and writes two, the second one with DLAB set, between ticks. -/
theorem Uart.streams_lossless_pipe :
    ∃ answers u,
      run (step .wraps) (new (Logged.start ⟨[1, 2, 3], []⟩ : Logged Pipe))
          [.tick, .read 0, .write 0 7, .write 3 0x80, .write 0 8, .tick] = some (answers, u) ∧
      u.handle.sent ++ u.txFifo = [7] ∧ 1 :: u.rxFifo = u.handle.received ∧
      u.rxFifo.length ≤ 16 :=
  streams_lossless Pipe.streaming ⟨[1, 2, 3], []⟩
    [.tick, .read 0, .write 0 7, .write 3 0x80, .write 0 8, .tick]

end Possum
