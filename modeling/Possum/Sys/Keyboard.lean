import Possum.Sys.Devices

/-!
# The keyboard

`bin/possum-emu/kb.rs`: a read takes one byte of the typed text from a buffer, which it fills from
the event pump when the last poll is 16 ms ago; a write goes to the standard output.

`Host` is what the keyboard meets: the clock, the event pump and the standard output.  Over every
run nothing typed is lost, doubled or reordered, and the times of the polls are 16 ms apart
(**`keyboard_fifo`**).
-/

set_option autoImplicit false

namespace Possum

open Lib

/-- What a keyboard meets, in the order in which it asks. -/
structure Host where
  /-- `Instant::now()` of the reads, in milliseconds. -/
  now : ℕ → ℕ
  /-- `poll_event()` of the polls: the bytes of a text input, or nothing to use. -/
  poll : ℕ → Option (List U8)
  /-- The writes to the standard output that succeed. -/
  accepts : ℕ → Bool

structure AsciiKeyboard where
  host : Host
  reads : ℕ := 0
  polls : ℕ := 0
  nextPollTime : ℕ
  buffer : List U8 := []
  stdout : List U8 := []

namespace AsciiKeyboard

def new (host : Host) (now : ℕ) : AsciiKeyboard where
  host := host
  nextPollTime := now

/-- The poll of a read, if it is time. -/
def pollEvent (k : AsciiKeyboard) : AsciiKeyboard :=
  let now := k.host.now k.reads
  let k := { k with reads := k.reads + 1 }
  -- limit event polling to only about once per frame
  if k.nextPollTime ≤ now then
    { k with
      nextPollTime := now + 16
      polls := k.polls + 1
      buffer := k.buffer ++ (k.host.poll k.polls).getD [] }
  else k

def read (k : AsciiKeyboard) : U8 × AsciiKeyboard :=
  let k := k.pollEvent
  (k.buffer.headD 0, { k with buffer := k.buffer.tail })

/-- A write that does not succeed panics. -/
def write (k : AsciiKeyboard) (data : U8) : Option AsciiKeyboard :=
  if k.host.accepts k.stdout.length then some { k with stdout := k.stdout ++ [data] } else none

instance : Device AsciiKeyboard where
  read k _ := some k.read
  write k _ data := k.write data
  interrupting _ := false

/-! ### What is typed and what is read -/

/-- The text that was typed so far. -/
def typed (k : AsciiKeyboard) : List U8 :=
  (List.range k.polls).flatMap fun n => (k.host.poll n).getD []

/-- The byte of an answer; a read of an empty buffer answers 0, and a write nothing. -/
def taken : Option U8 → List U8
  | some b => if b = 0 then [] else [b]
  | none => []

/-- The bytes that are written. -/
def written (ops : List Ata.PortOp) : List U8 :=
  ops.filterMap fun op =>
    match op with
    | .read _ => none
    | .write _ data => some data

/-- When an access polls the event pump: a read does if there is a poll more after it. -/
def polledAt (k : AsciiKeyboard) : Ata.PortOp → Option U8 → List ℕ
  | .read _, _ => if k.pollEvent.polls = k.polls then [] else [k.host.now k.reads]
  | .write _ _, _ => []

/-- The times of the polls over a list of accesses. -/
def pollTimes (k : AsciiKeyboard) (ops : List Ata.PortOp) : List ℕ :=
  Machine.collect Sys.Device.step polledAt k ops

/-- Text has no zero bytes. -/
structure Plain (k : AsciiKeyboard) : Prop where
  buffer : 0 ∉ k.buffer
  poll : ∀ n text, k.host.poll n = some text → 0 ∉ text

variable {k k' : AsciiKeyboard} {op : Ata.PortOp} {o : Option U8}

/-- What a poll appends to the text and to the buffer. -/
theorem pollEvent_appends (hk : k.Plain) :
    ∃ new, k.pollEvent.typed = k.typed ++ new ∧ k.pollEvent.buffer = k.buffer ++ new ∧
      k.pollEvent.host = k.host ∧ 0 ∉ new := by
  rw [pollEvent]
  split
  · refine ⟨(k.host.poll k.polls).getD [], ?_, rfl, rfl, ?_⟩
    · show (List.range (k.polls + 1)).flatMap _ = _
      rw [List.range_succ, List.flatMap_append, List.flatMap_singleton]
      rfl
    · cases htext : k.host.poll k.polls with
      | none => exact List.not_mem_nil
      | some text => exact hk.poll _ _ htext
  · exact ⟨[], (List.append_nil _).symm, (List.append_nil _).symm, rfl, List.not_mem_nil⟩

/-- A read polls if it is time, and then not before 16 ms have passed. -/
theorem pollEvent_cases (k : AsciiKeyboard) :
    (k.pollEvent.polls = k.polls ∧ k.pollEvent.nextPollTime = k.nextPollTime) ∨
    (k.pollEvent.polls = k.polls + 1 ∧ k.nextPollTime ≤ k.host.now k.reads ∧
      k.pollEvent.nextPollTime = k.host.now k.reads + 16) := by
  rw [pollEvent]
  split
  case isTrue hdue => exact .inr ⟨rfl, hdue, rfl⟩
  case isFalse => exact .inl ⟨rfl, rfl⟩

/-- A write, where the standard output accepts it. -/
theorem step_write {port : U16} {data : U8}
    (h : Sys.Device.step k (.write port data) = some (o, k')) :
    o = none ∧ k' = { k with stdout := k.stdout ++ [data] } := by
  obtain ⟨k₁, hwrite, heq⟩ := Option.map_eq_some_iff.1 h
  cases heq
  replace hwrite : k.write data = some k' := hwrite
  rw [AsciiKeyboard.write] at hwrite
  split at hwrite
  · cases hwrite
    exact ⟨rfl, rfl⟩
  · cases hwrite

/-- **One access.**  What is typed enters the buffer, and what leaves it is answered. -/
theorem step_queue (hk : k.Plain) (h : Sys.Device.step k op = some (o, k')) :
    k'.Plain ∧ ∃ new, k'.typed = k.typed ++ new ∧ k.buffer ++ new = taken o ++ k'.buffer := by
  cases op with
  | write port data =>
    obtain ⟨rfl, rfl⟩ := step_write h
    exact ⟨⟨hk.buffer, hk.poll⟩, [], (List.append_nil _).symm, List.append_nil _⟩
  | read port =>
    cases h
    obtain ⟨new, htyped, hbuffer, hhost, hnew⟩ := pollEvent_appends hk
    have hzero : 0 ∉ k.pollEvent.buffer := by
      rw [hbuffer, List.mem_append]
      rintro (hmem | hmem)
      · exact hk.buffer hmem
      · exact hnew hmem
    refine ⟨⟨fun hmem => hzero (List.mem_of_mem_tail hmem), ?_⟩, new, htyped, ?_⟩
    · show ∀ n text, k.pollEvent.host.poll n = some text → 0 ∉ text
      rw [hhost]
      exact hk.poll
    · rw [← hbuffer]
      show k.pollEvent.buffer = taken (some (k.pollEvent.buffer.headD 0)) ++ k.pollEvent.buffer.tail
      cases hb : k.pollEvent.buffer with
      | nil => rfl
      | cons b rest =>
        rw [hb] at hzero
        have hne : b ≠ 0 := by
          rintro rfl
          exact hzero List.mem_cons_self
        rw [List.headD_cons, taken, if_neg hne]
        rfl

/-- **One access to the event pump.**  It polls once, at a time that is due, or not at all. -/
theorem step_polls (h : Sys.Device.step k op = some (o, k')) :
    (k.polledAt op o = [] ∧ k'.polls = k.polls ∧ k'.nextPollTime = k.nextPollTime) ∨
    ∃ t, k.polledAt op o = [t] ∧ k'.polls = k.polls + 1 ∧ k.nextPollTime ≤ t ∧
      k'.nextPollTime = t + 16 := by
  cases op with
  | write port data =>
    obtain ⟨rfl, rfl⟩ := step_write h
    exact .inl ⟨rfl, rfl, rfl⟩
  | read port =>
    cases h
    obtain ⟨hsame, htime⟩ | ⟨hmore, hdue, htime⟩ := pollEvent_cases k
    · exact .inl ⟨if_pos hsame, hsame, htime⟩
    · refine .inr ⟨k.host.now k.reads, if_neg ?_, hmore, hdue, htime⟩
      rw [hmore]
      exact Nat.succ_ne_self k.polls

/-- The polls of a run: none before it is time, and each 16 ms after the one before. -/
theorem run_polls {ops : List Ata.PortOp} {os : List (Option U8)}
    (h : Machine.run Sys.Device.step k ops = some (os, k')) :
    k'.polls = k.polls + (k.pollTimes ops).length ∧
      (∀ t ∈ k.pollTimes ops, k.nextPollTime ≤ t) ∧ (k.pollTimes ops).Pairwise (· + 16 ≤ ·) := by
  induction ops generalizing k os with
  | nil =>
    cases h
    exact ⟨rfl, fun t ht => absurd ht List.not_mem_nil, List.Pairwise.nil⟩
  | cons op ops ih =>
    obtain ⟨o, k₁, os', hstep, hrest, -⟩ := Machine.run_cons_eq_some h
    obtain ⟨hpolls, hdue, hapart⟩ := ih hrest
    have htimes : k.pollTimes (op :: ops) = k.polledAt op o ++ k₁.pollTimes ops :=
      Machine.collect_cons hstep ops
    rw [htimes]
    obtain ⟨hnone, hsame, htime⟩ | ⟨t, hone, hmore, hnow, htime⟩ := step_polls hstep
    · rw [hsame] at hpolls
      rw [htime] at hdue
      rw [hnone, List.nil_append]
      exact ⟨hpolls, hdue, hapart⟩
    · rw [hone, List.singleton_append]
      refine ⟨?_, ?_, List.pairwise_cons.2 ⟨fun t' ht' => htime ▸ hdue t' ht', hapart⟩⟩
      · rw [hpolls, hmore, List.length_cons, Nat.add_assoc, Nat.add_comm 1]
      · intro t' ht'
        obtain rfl | hlater := List.mem_cons.1 ht'
        · exact hnow
        · have hle := hdue t' hlater
          omega

/-- What is written goes to the standard output. -/
theorem step_stdout (h : Sys.Device.step k op = some (o, k')) :
    k'.stdout = k.stdout ++ written [op] := by
  cases op with
  | write port data =>
    obtain ⟨rfl, rfl⟩ := step_write h
    rfl
  | read port =>
    cases h
    show k.pollEvent.stdout = k.stdout ++ []
    rw [List.append_nil, pollEvent]
    split <;> rfl

theorem run_stdout {ops : List Ata.PortOp} {os : List (Option U8)}
    (h : Machine.run Sys.Device.step k ops = some (os, k')) :
    k'.stdout = k.stdout ++ written ops := by
  induction ops generalizing k os with
  | nil =>
    cases h
    exact (List.append_nil _).symm
  | cons op ops ih =>
    obtain ⟨o, k₁, os', hstep, hrest, -⟩ := Machine.run_cons_eq_some h
    rw [ih hrest, step_stdout hstep, List.append_assoc, written, written, ← List.filterMap_append,
      List.singleton_append]
    rfl

/-- **The keyboard is a queue**: over every run the bytes that are read, and those that are left in
the buffer, are what was typed, in order; what is written goes to the standard output; and the times
of the polls, none of them before the time of the next poll, are 16 ms apart. -/
theorem keyboard_fifo (hk : k.Plain) {ops : List Ata.PortOp} {os : List (Option U8)}
    (h : Machine.run Sys.Device.step k ops = some (os, k')) :
    (∃ new, k'.typed = k.typed ++ new ∧ k.buffer ++ new = os.flatMap taken ++ k'.buffer) ∧
      k'.stdout = k.stdout ++ written ops ∧
      k'.polls = k.polls + (k.pollTimes ops).length ∧
      (∀ t ∈ k.pollTimes ops, k.nextPollTime ≤ t) ∧ (k.pollTimes ops).Pairwise (· + 16 ≤ ·) := by
  refine ⟨?_, run_stdout h, run_polls h⟩
  rw [← Machine.collect_of_answer taken h]
  exact Machine.collect_of_queue typed (fun k => k.buffer)
    (fun _ _ _ _ hk hstep => (step_queue hk hstep).1)
    (fun _ _ _ _ hk hstep => (step_queue hk hstep).2) hk h

/-- A host with a read every 10 ms, on which `hi` is typed, and later `q`. -/
def hostHiQ : Host where
  now n := 10 * n
  poll n := if n = 0 then some [0x68, 0x69] else if n = 2 then some [0x71] else none
  accepts _ := true

theorem plain_hiQ : (new hostHiQ 0).Plain where
  buffer := List.not_mem_nil
  poll := by
    intro n text h
    replace h : (if n = 0 then some [0x68, 0x69] else if n = 2 then some [0x71] else none) =
      some text := h
    split at h
    · cases h
      decide
    · split at h
      · cases h
        decide
      · cases h

/-- Five reads and a write. -/
theorem keyboard_fifo_hiQ :
    (∃ text, typed { host := hostHiQ, reads := 5, polls := 3, nextPollTime := 56, stdout := [0x21] }
        = [] ++ text ∧
      [] ++ text = [some 0x68, some 0x69, none, some 0, some 0, some 0x71].flatMap taken ++ []) ∧
      [0x21] = [] ++ written [.read 2, .read 2, .write 2 0x21, .read 2, .read 2, .read 2] ∧
      3 = 0 + [0, 20, 40].length ∧ (∀ t ∈ [0, 20, 40], 0 ≤ t) ∧
      [0, 20, 40].Pairwise (· + 16 ≤ ·) :=
  keyboard_fifo plain_hiQ
    (show Machine.run Sys.Device.step (new hostHiQ 0)
        [.read 2, .read 2, .write 2 0x21, .read 2, .read 2, .read 2] =
      some ([some 0x68, some 0x69, none, some 0, some 0, some 0x71],
        { host := hostHiQ, reads := 5, polls := 3, nextPollTime := 56, stdout := [0x21] }) from rfl)

end AsciiKeyboard

end Possum
