import Possum.Cpu.Termination
import Mathlib.Tactic.Ring

/-!
# Prefixes that change nothing

A prefix whose page does not list the next byte passes that byte on to `do_opcode`.  Nothing
else happens: the instruction is the one at the next byte, with PC and the low seven bits of R
moved on and four cycles more (`instruction_skip`, `step_skip`).

* **`last_prefix_wins`**: of a chain of 0xDD and 0xFD, only the last byte counts.
* **`undefined_extended`**: behind 0xED, a byte that the page does not list is executed as an
  opcode of its own; of those bytes, 0x00 and 0x7F alone are inert in every state.
-/

set_option autoImplicit false

namespace Possum

/-- R with its low seven bits moved on by `n`. -/
def refresh (r : U8) (n : U8) : U8 := (r &&& 0x80) ||| ((r + n) &&& 0x7F)

theorem refresh_toNat (r n : U8) :
    (refresh r n).toNat = r.toNat / 128 * 128 + (r.toNat + n.toNat) % 128 := by
  have hset : ∀ x : U8, (0x80 ||| (x &&& 0x7F)).toNat = 128 + x.toNat % 128 := by decide +kernel
  have hclear : ∀ x : U8, (0 ||| (x &&& 0x7F)).toNat = x.toNat % 128 := by decide +kernel
  have htop : ∀ x : U8, x &&& 0x80 = if x.toNat < 128 then 0 else 0x80 := by decide +kernel
  have hsum : (r + n).toNat % 128 = (r.toNat + n.toNat) % 128 := by
    rw [BitVec.toNat_add]
    omega
  have hr : r.toNat < 256 := r.isLt
  rw [refresh, htop]
  split
  · rw [hclear, hsum]
    omega
  · rw [hset, hsum]
    omega

theorem refresh_refresh (r n : U8) : refresh (refresh r 1) n = refresh r (n + 1) := by
  apply BitVec.eq_of_toNat_eq
  have hone : (1 : U8).toNat = 1 := rfl
  rw [refresh_toNat, refresh_toNat, refresh_toNat, BitVec.toNat_add, hone]
  omega

theorem refresh_zero (r : U8) : refresh r 0 = r := by
  have htable : ∀ r : U8, refresh r 0 = r := by decide +kernel
  exact htable r

theorem Outcome.addCycles_zero {β : Type} (o : Outcome β) : o.addCycles 0 = o := by
  simp only [Outcome.addCycles, Nat.zero_add]

theorem Outcome.addCycles_addCycles {β : Type} (o : Outcome β) (m n : ℕ) :
    (o.addCycles m).addCycles n = o.addCycles (m + n) := by
  simp only [Outcome.addCycles, ← Nat.add_assoc, Nat.add_comm n m]

namespace Cpu

/-- The processor past `n` opcode bytes. -/
def past (c : Cpu) (n : ℕ) : Cpu :=
  { c with
    pc := c.pc + BitVec.ofNat 16 n
    ir := word (hi c.ir) (refresh (lo c.ir) (BitVec.ofNat 8 n)) }

theorem past_zero (c : Cpu) : c.past 0 = c := by
  have hir : word (hi c.ir) (refresh (lo c.ir) 0) = c.ir := by
    rw [refresh_zero, word_hi_lo]
  show { c with pc := c.pc + 0, ir := word (hi c.ir) (refresh (lo c.ir) 0) } = c
  rw [hir]
  exact congrArg (fun pc => { c with pc := pc }) (BitVec.add_zero c.pc)

theorem past_past (c : Cpu) (n : ℕ) : (c.past 1).past n = c.past (n + 1) := by
  have hpc : c.pc + BitVec.ofNat 16 1 + BitVec.ofNat 16 n = c.pc + BitVec.ofNat 16 (n + 1) := by
    rw [BitVec.add_assoc, BitVec.ofNat_add, BitVec.add_comm (BitVec.ofNat 16 1)]
  have hir : word (hi (c.past 1).ir) (refresh (lo (c.past 1).ir) (BitVec.ofNat 8 n)) =
      word (hi c.ir) (refresh (lo c.ir) (BitVec.ofNat 8 (n + 1))) := by
    rw [past, hi_word, lo_word, BitVec.ofNat_add]
    exact congrArg (word (hi c.ir)) (refresh_refresh (lo c.ir) (BitVec.ofNat 8 n))
  show { c with pc := c.pc + BitVec.ofNat 16 1 + BitVec.ofNat 16 n, ir := _ } = _
  rw [hpc, hir]
  rfl

theorem takeEnable_past (c : Cpu) (n : ℕ) : (c.past n).takeEnable = c.takeEnable.past n := by
  unfold takeEnable
  have henable : (c.past n).enableInterruptsNextCycle = c.enableInterruptsNextCycle := rfl
  rw [henable]
  cases c.enableInterruptsNextCycle <;> rfl

theorem pc_takeEnable (c : Cpu) : c.takeEnable.pc = c.pc := by
  unfold takeEnable
  split <;> rfl

section

variable {β : Type} [Bus β]

theorem fetch_eq_past (c : Cpu) (bus : β) : c.fetch bus = (Bus.read bus c.pc, c.past 1) := rfl

/-! ### One prefix -/

/-- With the limit on the calls out of the way, decoding goes on with the next byte. -/
theorem decode_skip {bus : β} {opcode : U8} {c : Cpu} (h : chains opcode (Bus.read bus c.pc)) :
    decode bus callLimit opcode c =
      (decode bus callLimit (Bus.read bus c.pc) (c.fetch bus).2).map fun d => d.addCycles 4 := by
  cases hnext : decode bus callLimit (Bus.read bus c.pc) (c.fetch bus).2 with
  | some d =>
    have hlong : decode bus (callLimit + 1) opcode c = some (d.addCycles 4) := by
      rw [decode_of_chains h, hnext, Option.map_some]
    exact decode_callLimit.2 ⟨_, hlong⟩
  | none =>
    cases hfirst : decode bus callLimit opcode c with
    | none => rfl
    | some d =>
      rw [callLimit_eq, decode_of_chains h] at hfirst
      obtain ⟨d', hd', -⟩ := Option.map_eq_some_iff.1 hfirst
      have hle : decode bus callLimit (Bus.read bus c.pc) (c.fetch bus).2 = some d' :=
        decode_le hd' (by rw [callLimit_eq]; omega)
      rw [hnext] at hle
      cases hle

/-- **A prefix that its page does not use.**  The instruction is the one at the next byte. -/
theorem instruction_skip {c : Cpu} {bus : β}
    (h : chains (Bus.read bus c.pc) (Bus.read bus (c.pc + 1))) :
    c.instruction bus = ((c.past 1).instruction bus).map fun o => o.addCycles 4 := by
  have hchain : chains (Bus.read bus c.takeEnable.pc)
      (Bus.read bus (c.takeEnable.fetch bus).2.pc) := by
    rw [pc_fetch, pc_takeEnable]
    exact h
  have hleft : c.decoded bus =
      ((c.past 1).decoded bus).map fun d => d.addCycles 4 := by
    show decode bus callLimit (Bus.read bus c.takeEnable.pc) (c.takeEnable.fetch bus).2 =
      (decode bus callLimit (Bus.read bus (c.past 1).takeEnable.pc)
        ((c.past 1).takeEnable.fetch bus).2).map _
    rw [decode_skip hchain, takeEnable_past]
    rfl
  rw [instruction_eq, instruction_eq, hleft, Option.map_map, Option.map_map]
  congr 1
  funext d
  exact d.run_addCycles 4 bus

end

section

variable {β : Type} [InterruptBus β]

theorem step_skip {c : Cpu} {bus : β}
    (h : chains (Bus.read bus c.pc) (Bus.read bus (c.pc + 1))) :
    c.step bus = ((c.past 1).step bus).map fun o => o.addCycles 4 := by
  rw [step, step, instruction_skip h]
  cases (c.past 1).instruction bus with
  | none => rfl
  | some o =>
    show (doIrq o.cpu o.bus).map _ = ((doIrq o.cpu o.bus).map _).map _
    cases doIrq o.cpu o.bus with
    | error e => rfl
    | ok irq =>
      show Except.ok _ = Except.ok _
      simp only [Outcome.addCycles, Nat.add_assoc]

/-! ### Chains of index prefixes -/

/-- 0xDD or 0xFD. -/
def IndexPrefix (b : U8) : Prop := b = 0xDD ∨ b = 0xFD

instance (b : U8) : Decidable (IndexPrefix b) := inferInstanceAs (Decidable (_ ∨ _))

theorem chains_of_indexPrefix {b next : U8} (hb : IndexPrefix b) (hnext : IndexPrefix next) :
    chains b next := by
  obtain rfl | rfl := hb <;> obtain rfl | rfl := hnext <;> rfl

/-- **The last prefix wins.**  A step at a chain of `k` index prefixes is the step at the last
of them, with four cycles more for each of the others. -/
theorem last_prefix_wins (c : Cpu) (bus : β) (k : ℕ) (hk : 1 ≤ k)
    (hchain : ∀ i < k, IndexPrefix (Bus.read bus (c.pc + BitVec.ofNat 16 i))) :
    c.step bus = ((c.past (k - 1)).step bus).map fun o => o.addCycles (4 * (k - 1)) := by
  obtain ⟨n, rfl⟩ : ∃ n, k = n + 1 := ⟨k - 1, by omega⟩
  rw [Nat.add_sub_cancel]
  clear hk
  induction n generalizing c with
  | zero =>
    rw [past_zero]
    cases c.step bus with
    | error e => rfl
    | ok o => exact congrArg Except.ok o.addCycles_zero.symm
  | succ n ih =>
    have hfirst : IndexPrefix (Bus.read bus c.pc) := by
      have h0 := hchain 0 (by omega)
      rwa [BitVec.add_zero] at h0
    have hskip : c.step bus = ((c.past 1).step bus).map fun o => o.addCycles 4 :=
      step_skip (chains_of_indexPrefix hfirst (hchain 1 (by omega)))
    have hrest : ∀ i < n + 1, IndexPrefix (Bus.read bus ((c.past 1).pc + BitVec.ofNat 16 i)) := by
      intro i hi
      have hnext := hchain (i + 1) (by omega)
      have haddr : (c.past 1).pc + BitVec.ofNat 16 i = c.pc + BitVec.ofNat 16 (i + 1) := by
        show c.pc + BitVec.ofNat 16 1 + BitVec.ofNat 16 i = _
        rw [BitVec.add_assoc, BitVec.ofNat_add, BitVec.add_comm (BitVec.ofNat 16 1)]
      rwa [haddr]
    rw [hskip, ih (c.past 1) hrest, past_past]
    cases (c.past (n + 1)).step bus with
    | error e => rfl
    | ok o => exact congrArg Except.ok (o.addCycles_addCycles (4 * n) 4)

/-- `ld iy, 0x1234` behind two prefixes more. -/
theorem last_prefix_wins_ld :
    ({} : Cpu).step (TestBus.withMem [0xDD, 0xDD, 0xFD, 0x21, 0x34, 0x12]) =
      ((({} : Cpu).past (3 - 1)).step
        (TestBus.withMem [0xDD, 0xDD, 0xFD, 0x21, 0x34, 0x12])).map
          fun o => o.addCycles (4 * (3 - 1)) :=
  last_prefix_wins {} (TestBus.withMem [0xDD, 0xDD, 0xFD, 0x21, 0x34, 0x12]) 3 (by decide)
    (by decide)

end

/-! ### Bytes that the ED page does not list -/

/-- The second bytes of no ED instruction. -/
def Undefined (b : U8) : Prop :=
  b ≤ 0x3F ∨ b = 0x77 ∨ b = 0x7F ∨ (0x80 ≤ b ∧ b ≤ 0x9F) ∨ (0xA4 ≤ b ∧ b ≤ 0xA7) ∨
    (0xAC ≤ b ∧ b ≤ 0xAF) ∨ (0xB4 ≤ b ∧ b ≤ 0xB7) ∨ 0xBC ≤ b

instance (b : U8) : Decidable (Undefined b) := inferInstanceAs (Decidable (_ ∨ _))

theorem undefined_iff (b : U8) : Undefined b ↔ edPrefixTable b = none := by
  have htable : ∀ b : U8, Undefined b ↔ edPrefixTable b = none := by decide +kernel
  exact htable b

/-- Whatever the state and the memory, 0xED `b` changes nothing but PC and R. -/
def Inert (b : U8) : Prop :=
  ∀ (β : Type) [Bus β] (c : Cpu) (bus : β), Bus.read bus c.pc = 0xED →
    Bus.read bus (c.pc + 1) = b →
    ∃ cycles, c.instruction bus = some ⟨c.takeEnable.past 2, bus, cycles⟩

theorem chains_of_undefined {b : U8} (hb : Undefined b) : chains 0xED b := by
  show (edPrefixTable b == none) = true
  rw [(undefined_iff b).1 hb]
  rfl

/-- A byte whose instruction leaves every state as it is. -/
theorem inert_of_exec {b : U8} {i : Instr} (hb : Undefined b) (hi : doOpcodeTable b = .run i)
    (hexec : ∀ (β : Type) [Bus β] (c : Cpu) (bus : β), c.exec bus i = ⟨c, bus, 4⟩) : Inert b := by
  intro β _ c bus hed hnext
  have hskip : c.instruction bus = ((c.past 1).instruction bus).map fun o => o.addCycles 4 := by
    apply instruction_skip
    rw [hed, hnext]
    exact chains_of_undefined hb
  have hrun : doOpcodeTable (Bus.read bus (c.past 1).takeEnable.pc) = .run i := by
    have hpc : (c.past 1).takeEnable.pc = c.pc + 1 := pc_takeEnable (c.past 1)
    rw [hpc, hnext, hi]
  refine ⟨8, ?_⟩
  rw [hskip, instruction_of_decoded (decoded_of_run hrun), takeEnable_past, fetch_eq_past,
    past_past]
  simp only [Decoded.run, hexec, Option.map_some, Outcome.addCycles]

theorem inert_nop : Inert 0x00 := by
  refine inert_of_exec (i := .nop) (by decide) rfl ?_
  intro β _ c bus
  rfl

/-- `ld a, a` -/
theorem inert_copy : Inert 0x7F := by
  refine inert_of_exec (i := .copyRegister .A .A) (by decide) rfl ?_
  intro β _ c bus
  have haf : word (hi c.af) (lo c.af) = c.af := word_hi_lo c.af
  show (⟨{ c with af := word (hi c.af) (lo c.af) }, bus, 4⟩ : Outcome β) = _
  rw [haf]

/-- Two states in which every other byte shows: all flags set, and none. -/
def probes : List Cpu :=
  [0xFF, 0x00].map fun f =>
    { af := word 0x9B f, bc := 0x1122, de := 0x3344, hl := 0x5566, sp := 0x7788,
      afPrime := 0x0102, bcPrime := 0x0304, iff1 := true }

/-- What a probe looks at: the processor and the memory behind the register pairs. -/
def probed (c : Cpu) (o : Outcome TestBus) : Cpu × List U8 :=
  (o.cpu, [c.bc, c.de, c.hl].map (Bus.read o.bus))

theorem probes_show : ∀ b : U8, Undefined b → b ≠ 0x00 → b ≠ 0x7F → ∃ c ∈ probes,
    (doOpcode (TestBus.withMem [0xED, b, 0x05, 0x06]) 3 0xED (c.past 1)).any fun o =>
      probed c o ≠ (c.past 2, [0, 0, 0]) := by
  decide +kernel

theorem not_inert {b : U8} (hb : Undefined b) (h₀ : b ≠ 0x00) (h₁ : b ≠ 0x7F) : ¬ Inert b := by
  obtain ⟨c, hc, hany⟩ := probes_show b hb h₀ h₁
  obtain ⟨o, ho, hne⟩ := (Option.any_eq_true _ _).1 hany
  have hstart : c.pc = 0 ∧ c.takeEnable = c ∧
      [c.bc, c.de, c.hl].map (Bus.read (TestBus.withMem [0xED, b, 0x05, 0x06])) = [0, 0, 0] := by
    simp only [probes, List.map_cons, List.map_nil, List.mem_cons, List.not_mem_nil,
      or_false] at hc
    obtain rfl | rfl := hc <;> exact ⟨rfl, rfl, rfl⟩
  obtain ⟨hpc, htake, hmem⟩ := hstart
  have hins : c.instruction (TestBus.withMem [0xED, b, 0x05, 0x06]) = some o := by
    have hop : Bus.read (TestBus.withMem [0xED, b, 0x05, 0x06]) c.pc = 0xED := by
      rw [hpc]
      rfl
    rw [instruction, htake, fetch_eq_past, hop]
    exact doOpcode_callLimit.2 ⟨3, ho⟩
  intro hinert
  obtain ⟨cycles, hstep⟩ := hinert TestBus c (TestBus.withMem [0xED, b, 0x05, 0x06])
    (by rw [hpc]; rfl) (by rw [hpc]; rfl)
  rw [hins, htake, Option.some.injEq] at hstep
  apply of_decide_eq_true hne
  rw [hstep, probed, hmem]

theorem inert_iff {b : U8} (hb : Undefined b) : Inert b ↔ b = 0x00 ∨ b = 0x7F := by
  constructor
  · intro hinert
    by_contra hnot
    rw [not_or] at hnot
    exact not_inert hb hnot.1 hnot.2 hinert
  · rintro (rfl | rfl)
    · exact inert_nop
    · exact inert_copy

/-- **Undefined ED instructions.**  The prefix is a NOP of its own: the step is the one at the
byte behind it.  So 0x00 and 0x7F are inert, and no other byte is. -/
theorem undefined_extended (b : U8) (hb : Undefined b) :
    (∀ (β : Type) [InterruptBus β] (c : Cpu) (bus : β), Bus.read bus c.pc = 0xED →
      Bus.read bus (c.pc + 1) = b →
      c.step bus = ((c.past 1).step bus).map fun o => o.addCycles 4) ∧
    (Inert b ↔ b = 0x00 ∨ b = 0x7F) := by
  refine ⟨?_, inert_iff hb⟩
  intro β _ c bus hed hnext
  apply step_skip
  rw [hed, hnext]
  exact chains_of_undefined hb

/-- `inc b` behind 0xED. -/
theorem undefined_extended_inc :
    ({} : Cpu).step (TestBus.withMem [0xED, 0x04]) =
        ((({} : Cpu).past 1).step (TestBus.withMem [0xED, 0x04])).map (fun o => o.addCycles 4) ∧
      (Inert 0x04 ↔ (0x04 : U8) = 0x00 ∨ (0x04 : U8) = 0x7F) := by
  obtain ⟨hstep, hinert⟩ := undefined_extended 0x04 (by decide)
  exact ⟨hstep TestBus {} (TestBus.withMem [0xED, 0x04]) rfl rfl, hinert⟩

/-- 0xED 0x77 at address 0 stores A at HL. -/
theorem undefined_extended_store :
    Undefined 0x77 ∧
      (({ af := 0x4200, hl := 0x1000 } : Cpu).instruction (TestBus.withMem [0xED, 0x77])).map
          (fun o => Bus.read o.bus 0x1000) = some 0x42 ∧
      Bus.read (TestBus.withMem [0xED, 0x77]) 0x1000 = 0 := by
  decide +kernel

end Cpu

end Possum
