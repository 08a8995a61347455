import Possum.Cpu.Step
import Mathlib.Tactic.Ring

/-!
# Decoding

What `do_opcode` does falls into two parts: `decode` reads opcode bytes until a table lists
one, and the `Instr` found is executed (`doOpcode_eq`).  Decoding reads memory and moves PC
and R; only the instruction touches the bus.

A chain of prefixes that the tables do not list together is read byte by byte, so the calls
of `do_opcode` never end exactly if every byte of the memory continues the chain.  After
`callLimit` calls the chain has gone round the memory (`doOpcode_callLimit`).
-/

set_option autoImplicit false

namespace Possum

/-- An instruction, the processor past its opcode bytes, and the cycles of its prefixes. -/
structure Decoded where
  instr : Instr
  cpu : Cpu
  cycles : ℕ

namespace Decoded

variable {β : Type} [Bus β]

def run (d : Decoded) (bus : β) : Outcome β := (d.cpu.exec bus d.instr).addCycles d.cycles

def addCycles (d : Decoded) (cycles : ℕ) : Decoded := { d with cycles := cycles + d.cycles }

theorem run_addCycles (d : Decoded) (n : ℕ) (bus : β) :
    (d.addCycles n).run bus = (d.run bus).addCycles n := by
  simp only [run, addCycles, Outcome.addCycles, Nat.add_assoc]

end Decoded

namespace Cpu

variable {β : Type} [Bus β]

/-! ### The two parts of an instruction -/

/-- `index` is the table behind the prefix, `bits` the one behind the prefix and 0xCB. -/
def decodeIndex (index : U8 → IndexArm) (bits : U16 → U8 → Instr)
    (again : U8 → Cpu → Option Decoded) (c : Cpu) (bus : β) : Option Decoded :=
  let (opcode, c) := c.fetch bus
  match index opcode with
  | .run i => some ⟨i, c, 4⟩
  | .bits =>
    let (offset, c) := c.immediate bus
    let (opcode, c) := c.fetch bus
    some ⟨bits (signExtend offset) opcode, c, 8⟩
  | .fallback => (again opcode c).map fun d => d.addCycles 4

def decodeExtended (again : U8 → Cpu → Option Decoded) (c : Cpu) (bus : β) : Option Decoded :=
  let (opcode, c) := c.fetch bus
  match edPrefixTable opcode with
  | some i => some ⟨i, c, 4⟩
  | none => (again opcode c).map fun d => d.addCycles 4

def decode (bus : β) : ℕ → U8 → Cpu → Option Decoded
  | 0, _, _ => none
  | fuel + 1, opcode, c =>
    match doOpcodeTable opcode with
    | .run i => some ⟨i, c, 0⟩
    | .cb =>
      let (opcode, c) := c.fetch bus
      some ⟨cbPrefixTable opcode, c, 4⟩
    | .dd => c.decodeIndex ddPrefixTable ddcbPrefixTable (decode bus fuel) bus
    | .ed => c.decodeExtended (decode bus fuel) bus
    | .fd => c.decodeIndex fdPrefixTable fdcbPrefixTable (decode bus fuel) bus

theorem indexPrefix_eq (index : U8 → IndexArm) (bits : U16 → U8 → Instr)
    {again : U8 → Cpu → Option (Outcome β)} {again' : U8 → Cpu → Option Decoded} {bus : β}
    (h : ∀ opcode c, again opcode c = (again' opcode c).map fun d => d.run bus) (c : Cpu) :
    c.indexPrefix index (fun c bus =>
        let (offset, c) := c.immediate bus
        let (opcode, c) := c.fetch bus
        (c.exec bus (bits (signExtend offset) opcode)).addCycles 4) again bus
      = (c.decodeIndex index bits again' bus).map fun d => d.run bus := by
  rw [indexPrefix, decodeIndex]
  cases hop : index (c.fetch bus).1 with
  | run i => simp [hop, Decoded.run]
  | bits => simp [hop, Decoded.run, Outcome.addCycles, ← Nat.add_assoc]
  | fallback =>
    simp only [hop, h, Option.map_map]
    congr 1
    funext d
    exact (d.run_addCycles 4 bus).symm

theorem edPrefix_eq {again : U8 → Cpu → Option (Outcome β)} {again' : U8 → Cpu → Option Decoded}
    {bus : β} (h : ∀ opcode c, again opcode c = (again' opcode c).map fun d => d.run bus)
    (c : Cpu) :
    c.edPrefix again bus = (c.decodeExtended again' bus).map fun d => d.run bus := by
  rw [edPrefix, decodeExtended]
  cases hop : edPrefixTable (c.fetch bus).1 with
  | some i => simp [hop, Decoded.run]
  | none =>
    simp only [hop, h, Option.map_map]
    congr 1
    funext d
    exact (d.run_addCycles 4 bus).symm

/-- **An instruction is decoded, then executed.** -/
theorem doOpcode_eq (bus : β) (fuel : ℕ) (opcode : U8) (c : Cpu) :
    doOpcode bus fuel opcode c = (decode bus fuel opcode c).map fun d => d.run bus := by
  induction fuel generalizing opcode c with
  | zero => rfl
  | succ fuel ih =>
    rw [doOpcode, decode]
    cases hop : doOpcodeTable opcode with
    | run i => simp [Decoded.run, Outcome.addCycles]
    | cb => simp [cbPrefix, Decoded.run]
    | dd => exact indexPrefix_eq ddPrefixTable ddcbPrefixTable ih c
    | ed => exact edPrefix_eq ih c
    | fd => exact indexPrefix_eq fdPrefixTable fdcbPrefixTable ih c

/-! ### Chains of prefixes -/

/-- `opcode` is a prefix and its page does not list `next`. -/
def chains (opcode next : U8) : Bool :=
  match doOpcodeTable opcode with
  | .dd => ddPrefixTable next == .fallback
  | .ed => edPrefixTable next == none
  | .fd => fdPrefixTable next == .fallback
  | _ => false

/-- The bytes a chain reads: `opcode`, then the memory from `pc` on. -/
def chainByte (bus : β) (opcode : U8) (pc : U16) : ℕ → U8
  | 0 => opcode
  | k + 1 => Bus.read bus (pc + BitVec.ofNat 16 k)

theorem chainByte_add_one (bus : β) (opcode : U8) (pc : U16) (k : ℕ) :
    chainByte bus opcode pc (k + 1) = Bus.read bus (pc + BitVec.ofNat 16 k) := rfl

theorem chainByte_succ (bus : β) (opcode : U8) (pc : U16) (k : ℕ) :
    chainByte bus (Bus.read bus pc) (pc + 1) k = chainByte bus opcode pc (k + 1) := by
  cases k with
  | zero => simp [chainByte]
  | succ k =>
    rw [chainByte_add_one, chainByte_add_one, BitVec.add_assoc, BitVec.add_comm 1,
      BitVec.ofNat_add]
    rfl

theorem chainByte_period (bus : β) (opcode : U8) (pc : U16) (k : ℕ) :
    chainByte bus opcode pc (k + 65536 + 1) = chainByte bus opcode pc (k + 1) := by
  have hwrap : BitVec.ofNat 16 (k + 65536) = BitVec.ofNat 16 k := by
    apply BitVec.eq_of_toNat_eq
    simp
  rw [chainByte_add_one, chainByte_add_one, hwrap]

@[simp] theorem fetch_fst (c : Cpu) (bus : β) : (c.fetch bus).1 = Bus.read bus c.pc := rfl

@[simp] theorem pc_fetch (c : Cpu) (bus : β) : (c.fetch bus).2.pc = c.pc + 1 := rfl

/-- Past one byte of a chain, decoding goes on with the next. -/
theorem decode_of_chains {bus : β} {opcode : U8} {c : Cpu}
    (h : chains opcode (Bus.read bus c.pc)) (fuel : ℕ) :
    decode bus (fuel + 1) opcode c =
      (decode bus fuel (Bus.read bus c.pc) (c.fetch bus).2).map fun d => d.addCycles 4 := by
  rw [decode]
  unfold chains at h
  cases hop : doOpcodeTable opcode with
  | run i => simp [hop] at h
  | cb => simp [hop] at h
  | dd => simp_all [decodeIndex]
  | ed => simp_all [decodeExtended]
  | fd => simp_all [decodeIndex]

/-- Where the chain ends, the instruction is decoded whatever the fuel. -/
theorem decode_of_not_chains {bus : β} {opcode : U8} {c : Cpu}
    (h : chains opcode (Bus.read bus c.pc) = false) :
    ∃ d, ∀ fuel, decode bus (fuel + 1) opcode c = some d := by
  unfold chains at h
  simp only [decode]
  cases hop : doOpcodeTable opcode with
  | run i => exact ⟨_, fun _ => rfl⟩
  | cb => exact ⟨_, fun _ => rfl⟩
  | dd =>
    simp only [hop, beq_eq_false_iff_ne, ne_eq] at h
    cases hdd : ddPrefixTable (Bus.read bus c.pc) with
    | run i => exact ⟨_, fun _ => by simp [decodeIndex, hdd]; rfl⟩
    | bits => exact ⟨_, fun _ => by simp [decodeIndex, hdd]; rfl⟩
    | fallback => exact absurd hdd h
  | ed =>
    simp only [hop, beq_eq_false_iff_ne, ne_eq] at h
    obtain ⟨i, hi⟩ := Option.ne_none_iff_exists'.1 h
    exact ⟨_, fun _ => by simp [decodeExtended, hi]; rfl⟩
  | fd =>
    simp only [hop, beq_eq_false_iff_ne, ne_eq] at h
    cases hfd : fdPrefixTable (Bus.read bus c.pc) with
    | run i => exact ⟨_, fun _ => by simp [decodeIndex, hfd]; rfl⟩
    | bits => exact ⟨_, fun _ => by simp [decodeIndex, hfd]; rfl⟩
    | fallback => exact absurd hfd h

/-- Decoding runs out of fuel exactly if the chain is as long as the fuel. -/
theorem decode_eq_none_iff (bus : β) (fuel : ℕ) (opcode : U8) (c : Cpu) :
    decode bus fuel opcode c = none ↔
      ∀ k < fuel, chains (chainByte bus opcode c.pc k) (chainByte bus opcode c.pc (k + 1)) := by
  induction fuel generalizing opcode c with
  | zero => simp [decode]
  | succ fuel ih =>
    have hstart : chainByte bus opcode c.pc (0 + 1) = Bus.read bus c.pc := by simp [chainByte]
    rw [Nat.forall_lt_succ_left, hstart]
    cases h : chains opcode (Bus.read bus c.pc) with
    | false =>
      obtain ⟨d, hd⟩ := decode_of_not_chains h
      simp [hd, chainByte, h]
    | true =>
      rw [decode_of_chains h, Option.map_eq_none_iff, ih, pc_fetch]
      simp only [chainByte_succ bus opcode]
      exact ⟨fun hk => ⟨h, hk⟩, fun hk => hk.2⟩

theorem decode_mono {bus : β} {fuel : ℕ} {opcode : U8} {c : Cpu} {d : Decoded}
    (h : decode bus fuel opcode c = some d) : decode bus (fuel + 1) opcode c = some d := by
  induction fuel generalizing opcode c d with
  | zero => cases h
  | succ fuel ih =>
    cases hch : chains opcode (Bus.read bus c.pc) with
    | false =>
      obtain ⟨d', hd⟩ := decode_of_not_chains hch
      rw [hd] at h ⊢
      exact h
    | true =>
      rw [decode_of_chains hch] at h ⊢
      obtain ⟨d', hd, rfl⟩ := Option.map_eq_some_iff.1 h
      rw [ih hd]
      rfl

theorem decode_le {bus : β} {fuel n : ℕ} {opcode : U8} {c : Cpu} {d : Decoded}
    (h : decode bus fuel opcode c = some d) (hle : fuel ≤ n) :
    decode bus n opcode c = some d := by
  induction hle with
  | refl => exact h
  | step _ ih => exact decode_mono ih

/-- A chain that goes round the memory never ends. -/
theorem chains_forever {bus : β} {opcode : U8} {pc : U16}
    (h : ∀ k < callLimit, chains (chainByte bus opcode pc k) (chainByte bus opcode pc (k + 1)))
    (k : ℕ) : chains (chainByte bus opcode pc k) (chainByte bus opcode pc (k + 1)) := by
  induction k using Nat.strong_induction_on with
  | _ k ih =>
    by_cases hk : k < callLimit
    · exact h k hk
    · obtain ⟨j, rfl⟩ : ∃ j, k = j + 65536 + 1 := ⟨k - 65537, by have := callLimit_eq; omega⟩
      rw [chainByte_period, show j + 65536 + 1 + 1 = (j + 1) + 65536 + 1 by ring,
        chainByte_period]
      exact ih (j + 1) (by omega)

/-- **The limit loses nothing.**  What some number of calls returns, `callLimit` calls do. -/
theorem decode_callLimit {bus : β} {opcode : U8} {c : Cpu} {d : Decoded} :
    decode bus callLimit opcode c = some d ↔ ∃ fuel, decode bus fuel opcode c = some d := by
  refine ⟨fun h => ⟨_, h⟩, ?_⟩
  rintro ⟨fuel, h⟩
  cases hlim : decode bus callLimit opcode c with
  | some d' =>
    have hd := decode_le h (Nat.le_add_right fuel callLimit)
    rw [decode_le hlim (Nat.le_add_left callLimit fuel)] at hd
    exact hd
  | none =>
    have hnone : decode bus fuel opcode c = none :=
      (decode_eq_none_iff bus fuel opcode c).2 fun k _ =>
        chains_forever ((decode_eq_none_iff bus callLimit opcode c).1 hlim) k
    rw [hnone] at h
    cases h

theorem doOpcode_callLimit {bus : β} {opcode : U8} {c : Cpu} {o : Outcome β} :
    doOpcode bus callLimit opcode c = some o ↔ ∃ fuel, doOpcode bus fuel opcode c = some o := by
  simp only [doOpcode_eq, Option.map_eq_some_iff, decode_callLimit]
  constructor
  · rintro ⟨d, ⟨fuel, hd⟩, ho⟩
    exact ⟨fuel, d, hd, ho⟩
  · rintro ⟨fuel, d, hd, ho⟩
    exact ⟨d, ⟨fuel, hd⟩, ho⟩

end Cpu

end Possum
