import Possum.Cpu.Exchange

/-!
# The DD and FD pages

`fdPrefix_swap`: the FD page is the DD page with IX and IY exchanged, DD CB and FD CB
included.  `ddPrefix_base`: the DD page is the base page with IX for HL.  An opcode without an
`(HL)` operand is conjugated by the exchange of HL and IX; one with such an operand
(`MemoryOp`) works on the byte at IX plus a displacement instead, and its H and L stay H and L.

The tables are compared entry by entry, and `Exchange.exec_rename` carries what they have in
common over to the execution.
-/

set_option autoImplicit false

namespace Possum

/-! ### The DD and FD tables -/

def IndexArm.rename (x : Exchange) : IndexArm → IndexArm
  | .run i => .run (i.rename x)
  | .bits => .bits
  | .fallback => .fallback

theorem fdPrefixTable_eq : ∀ opcode : U8,
    fdPrefixTable opcode = (ddPrefixTable opcode).rename .ixIy := by
  decide +kernel

/-- Two functions of a byte agree if the lists of their values do. -/
theorem eq_of_map_eq {α : Type} {f g : U8 → α}
    (h : (List.range 256).map (fun n => f (BitVec.ofNat 8 n)) =
      (List.range 256).map fun n => g (BitVec.ofNat 8 n)) : f = g := by
  funext b
  have hb := (List.map_inj_left.1 h) b.toNat (List.mem_range.2 b.isLt)
  rwa [BitVec.ofNat_toNat, BitVec.setWidth_eq] at hb

set_option maxRecDepth 100000 in
theorem fdcbPrefixTable_eq (offset : U16) :
    fdcbPrefixTable offset = fun opcode => (ddcbPrefixTable offset opcode).rename .ixIy := by
  apply eq_of_map_eq
  rfl

def Arm.instr : Arm → Option Instr
  | .run i => some i
  | _ => none

theorem Arm.eq_run {a : Arm} {i : Instr} (h : i ∈ a.instr) : a = .run i := by
  cases a with
  | run j => exact congrArg Arm.run (Option.some.inj h)
  | cb | dd | ed | fd => cases h

/-- The opcodes that the DD page leaves to the base page name neither index register. -/
theorem fallback_ixIy : ∀ opcode : U8, opcode ∉ ([0xDD, 0xED, 0xFD] : List U8) →
    ddPrefixTable opcode = .fallback →
      ∃ i ∈ (doOpcodeTable opcode).instr, i.rename .ixIy = i := by
  decide +kernel

/-! ### The base page -/

/-- The operations of the rows 0x80 to 0xBF of the base page. -/
inductive Arith
  | addCarry (carry : Carry)
  | subCarry (carry : Carry)
  | and | xor | or | compare
  deriving DecidableEq, Repr

/-- What an opcode with an `(HL)` operand does. -/
inductive MemoryOp
  | load (reg : Register)
  | store (reg : Register)
  | storeImmediate
  | inc
  | dec
  | arith (op : Arith)
  deriving DecidableEq, Repr

/-- Register `n` of an opcode; number 6 is the memory operand. -/
def operand : ℕ → Option Register
  | 0 => some .B
  | 1 => some .C
  | 2 => some .D
  | 3 => some .E
  | 4 => some .H
  | 5 => some .L
  | 7 => some .A
  | _ => none

def arith : ℕ → Arith
  | 0 => .addCarry .off
  | 1 => .addCarry .flagC
  | 2 => .subCarry .off
  | 3 => .subCarry .flagC
  | 4 => .and
  | 5 => .xor
  | 6 => .or
  | _ => .compare

/-- The memory operation of an opcode `xxyyyzzz`, if it has an `(HL)` operand. -/
def memoryOp (opcode : U8) : Option MemoryOp :=
  let y := opcode.toNat / 8 % 8
  let z := opcode.toNat % 8
  match opcode.toNat / 64 with
  | 0 =>
    if y = 6 then
      match z with
      | 4 => some .inc
      | 5 => some .dec
      | 6 => some .storeImmediate
      | _ => none
    else none
  | 1 =>
    match operand y, operand z with
    | some reg, none => some (.load reg)
    | none, some reg => some (.store reg)
    | _, _ => none
  | 2 => if z = 6 then some (.arith (arith y)) else none
  | _ => none

def Arith.hl : Arith → Instr
  | .addCarry carry => .addCarryHlIndirect carry
  | .subCarry carry => .subCarryHlIndirect carry
  | .and => .andHlIndirect
  | .xor => .xorHlIndirect
  | .or => .orHlIndirect
  | .compare => .compareHlIndirect

def Arith.indexed (index : WideRegister) : Arith → Instr
  | .addCarry carry => .addCarryIndexIndirectWz index carry
  | .subCarry carry => .subCarryIndexIndirectWz index carry
  | .and => .andIndexIndirectWz index
  | .xor => .xorIndexIndirectWz index
  | .or => .orIndexIndirectWz index
  | .compare => .compareIndexIndirectWz index

/-- The method of the base page. -/
def MemoryOp.hl : MemoryOp → Instr
  | .load reg => .copyRegisterHlIndirect reg
  | .store reg => .copyHlIndirectRegister reg
  | .storeImmediate => .writeImmediateHlIndirect
  | .inc => .incHlIndirect
  | .dec => .decHlIndirect
  | .arith op => op.hl

/-- The method of an index page. -/
def MemoryOp.indexed (index : WideRegister) : MemoryOp → Instr
  | .load reg => .readIndexIndirectWz reg index
  | .store reg => .writeIndexIndirectWz index reg
  | .storeImmediate => .writeImmediateIndexIndirectWz index
  | .inc => .incIndexIndirectWz index
  | .dec => .decIndexIndirectWz index
  | .arith op => op.indexed index

theorem memoryOp_tables : ∀ opcode : U8, ∀ op ∈ memoryOp opcode,
    doOpcodeTable opcode = .run op.hl ∧ ddPrefixTable opcode = .run (op.indexed .IX) := by
  decide +kernel

/-- The DD page renames the method of the base page, by an entry of its own or by leaving it
alone. -/
theorem ddPrefixTable_eq : ∀ opcode : U8,
    opcode ∉ ([0xCB, 0xD9, 0xDD, 0xEB, 0xED, 0xFD] : List U8) → memoryOp opcode = none →
      ∃ i ∈ (doOpcodeTable opcode).instr, i.unnamedHl = false ∧
        (ddPrefixTable opcode = .run (i.rename .hlIx) ∨
          ddPrefixTable opcode = .fallback ∧ i.rename .hlIx = i) := by
  decide +kernel

namespace Arith

def base : Arith → Cpu → U8 → Cpu
  | .addCarry carry, c, rhs => c.addCarryBase rhs (carry.value c)
  | .subCarry carry, c, rhs => c.subCarryBase rhs (carry.value c)
  | .and, c, rhs => c.andBase rhs
  | .xor, c, rhs => c.xorBase rhs
  | .or, c, rhs => c.orBase rhs
  | .compare, c, rhs => c.compareBase rhs

end Arith

namespace MemoryOp

variable {β : Type} [Bus β]

/-- The operation with its memory operand at `addr`; every register is the one it names. -/
def access (op : MemoryOp) (addr : U16) (c : Cpu) (bus : β) : Cpu × β :=
  match op with
  | .load reg => (c.setRegister reg (Bus.read bus addr), bus)
  | .store reg => (c, Bus.write bus addr (c.register reg))
  | .storeImmediate =>
    let (data, c) := c.immediate bus
    (c, Bus.write bus addr data)
  | .inc => (c.setIncFlags (Bus.read bus addr), Bus.write bus addr (Bus.read bus addr + 1))
  | .dec => (c.setDecFlags (Bus.read bus addr), Bus.write bus addr (Bus.read bus addr - 1))
  | .arith op => (op.base c (Bus.read bus addr), bus)

end MemoryOp

namespace Cpu

open Exchange

variable {β : Type} [Bus β]

theorem doOpcode_of_run {bus : β} {opcode : U8} {i : Instr} (h : doOpcodeTable opcode = .run i)
    (c : Cpu) : doOpcode bus callLimit opcode c = some (c.exec bus i) := by
  rw [callLimit_eq, doOpcode, h]

theorem fdcbPrefix_swap (c : Cpu) (bus : β) :
    (ixIy.swap c).fdcbPrefix bus = ixIy.outcome (c.ddcbPrefix bus) := by
  simp only [fdcbPrefix, ddcbPrefix, immediate_swap, fetch_swap, fdcbPrefixTable_eq]
  rw [exec_rename _ _ _ _ fun _ => rfl]
  rfl

/-- **The FD page is the DD page with IX and IY exchanged**, on any bus: one that records its
port accesses records the same for both. -/
theorem fdPrefix_swap (c : Cpu) (bus : β)
    (h : Bus.read bus c.pc ∉ ([0xDD, 0xED, 0xFD] : List U8)) :
    ∃ o, c.ddPrefix (doOpcode bus callLimit) bus = some o ∧
      (ixIy.swap c).fdPrefix (doOpcode bus callLimit) bus =
        some ⟨ixIy.swap o.cpu, o.bus, o.cycles⟩ := by
  have hfetch : ((ixIy.swap c).fetch bus).2 = ixIy.swap (c.fetch bus).2 := by
    rw [fetch_swap]
  simp only [ddPrefix, fdPrefix, indexPrefix, fetch_fst, pc_swap, hfetch, fdPrefixTable_eq]
  cases hop : ddPrefixTable (Bus.read bus c.pc) with
  | run i =>
    refine ⟨_, rfl, ?_⟩
    simp only [IndexArm.rename, exec_rename _ _ _ _ fun _ => rfl]
    rfl
  | bits =>
    refine ⟨_, rfl, ?_⟩
    simp only [IndexArm.rename, fdcbPrefix_swap]
    rfl
  | fallback =>
    obtain ⟨i, hi, hren⟩ := fallback_ixIy _ h hop
    have hexec := exec_rename ixIy (c.fetch bus).2 bus i fun _ => rfl
    rw [hren] at hexec
    simp only [IndexArm.rename, doOpcode_of_run (Arm.eq_run hi), hexec]
    exact ⟨_, rfl, rfl⟩

/-- `rlc (ix + 5), b` and `rlc (iy + 5), b`. -/
theorem fdPrefix_swap_rlc :
    ∃ o, ({ ix := 0x1000 } : Cpu).ddPrefix
        (doOpcode (TestBus.withMem [0xCB, 0x05, 0x00]) callLimit)
        (TestBus.withMem [0xCB, 0x05, 0x00]) = some o ∧
      (ixIy.swap { ix := 0x1000 }).fdPrefix
        (doOpcode (TestBus.withMem [0xCB, 0x05, 0x00]) callLimit)
        (TestBus.withMem [0xCB, 0x05, 0x00]) = some ⟨ixIy.swap o.cpu, o.bus, o.cycles⟩ :=
  fdPrefix_swap { ix := 0x1000 } (TestBus.withMem [0xCB, 0x05, 0x00]) (by decide)

/-! ### HL and IX -/

theorem exec_hl (op : MemoryOp) (c : Cpu) (bus : β) :
    ((c.exec bus op.hl).cpu, (c.exec bus op.hl).bus) = op.access c.hl c bus := by
  cases op with
  | arith op => cases op <;> rfl
  | _ => rfl

theorem exec_indexed (op : MemoryOp) (index : WideRegister) (c : Cpu) (bus : β) :
    ((c.exec bus (op.indexed index)).cpu, (c.exec bus (op.indexed index)).bus) =
      op.access (c.indexAddress index bus).1 (c.indexAddress index bus).2 bus := by
  cases op with
  | arith op => cases op <;> rfl
  | _ => rfl

/-- An opcode without a memory operand, conjugated. -/
theorem ddPrefix_conjugate (c : Cpu) (bus : β)
    (hop : Bus.read bus c.pc ∉ ([0xCB, 0xD9, 0xDD, 0xEB, 0xED, 0xFD] : List U8))
    (hmem : memoryOp (Bus.read bus c.pc) = none) :
    ∃ o, doOpcode bus callLimit (Bus.read bus c.pc) (hlIx.swap (c.fetch bus).2) = some o ∧
      c.ddPrefix (doOpcode bus callLimit) bus = some ((hlIx.outcome o).addCycles 4) := by
  obtain ⟨i, hi, hnamed, hdd⟩ := ddPrefixTable_eq _ hop hmem
  have hbase (c : Cpu) : doOpcode bus callLimit _ c = some (c.exec bus i) :=
    doOpcode_of_run (Arm.eq_run hi) c
  have hswap (c : Cpu) : hlIx.outcome ((hlIx.swap c).exec bus i) = c.exec bus (i.rename hlIx) := by
    have hexec := exec_named hlIx (hlIx.swap c) bus i hnamed
    rw [swap_swap] at hexec
    exact hexec.symm
  refine ⟨_, hbase _, ?_⟩
  rw [hswap]
  obtain hrun | ⟨hfall, hren⟩ := hdd
  · simp only [ddPrefix, indexPrefix, fetch_fst, hrun, Option.map_some]
  · simp only [ddPrefix, indexPrefix, fetch_fst, hfall, hbase, hren, Option.map_some]

/-- An opcode with a memory operand. -/
theorem ddPrefix_access {op : MemoryOp} (c : Cpu) (bus : β)
    (h : memoryOp (Bus.read bus c.pc) = some op) :
    ∃ o, c.ddPrefix (doOpcode bus callLimit) bus = some o ∧
      (o.cpu, o.bus) = op.access ((c.fetch bus).2.indexAddress .IX bus).1
        ((c.fetch bus).2.indexAddress .IX bus).2 bus := by
  have hdd := (memoryOp_tables _ op h).2
  refine ⟨((c.fetch bus).2.exec bus (op.indexed .IX)).addCycles 4, ?_, ?_⟩
  · simp only [ddPrefix, indexPrefix, fetch_fst, hdd, Option.map_some]
  · exact exec_indexed op .IX (c.fetch bus).2 bus

/-- **The DD page is the base page with IX for HL.**  An opcode without an `(HL)` operand does
what the base page does for the exchanged processor, exchanged back.  With one, the base page
works at HL and the DD page at IX and the displacement, which stays in WZ. -/
theorem ddPrefix_base (c : Cpu) (bus : β) :
    (Bus.read bus c.pc ∉ ([0xCB, 0xD9, 0xDD, 0xEB, 0xED, 0xFD] : List U8) →
      memoryOp (Bus.read bus c.pc) = none →
        ∃ o, doOpcode bus callLimit (Bus.read bus c.pc) (hlIx.swap (c.fetch bus).2) = some o ∧
          c.ddPrefix (doOpcode bus callLimit) bus =
            some ⟨hlIx.swap o.cpu, o.bus, 4 + o.cycles⟩) ∧
    ∀ op, memoryOp (Bus.read bus c.pc) = some op →
      (∀ c' : Cpu, ∃ o, doOpcode bus callLimit (Bus.read bus c.pc) c' = some o ∧
        (o.cpu, o.bus) = op.access c'.hl c' bus) ∧
      ∃ o, c.ddPrefix (doOpcode bus callLimit) bus = some o ∧
        (o.cpu, o.bus) =
          op.access (c.ix + signExtend (Bus.read bus (c.pc + 1)))
            (((c.fetch bus).2.setPc (c.pc + 2)).setWz
              (c.ix + signExtend (Bus.read bus (c.pc + 1)))) bus := by
  refine ⟨fun hop hmem => ddPrefix_conjugate c bus hop hmem, ?_⟩
  intro op hop
  constructor
  · intro c'
    exact ⟨_, doOpcode_of_run (memoryOp_tables _ op hop).1 c', exec_hl op c' bus⟩
  · have htwo : c.pc + 1 + 1 = c.pc + 2 := by bv_omega
    obtain ⟨o, ho, haccess⟩ := ddPrefix_access c bus hop
    refine ⟨o, ho, ?_⟩
    rw [haccess, ← htwo]
    rfl

/-- `add ix, bc`, and `ld h, (ix + 5)`, which loads H. -/
theorem ddPrefix_base_withMem :
    (∃ o, doOpcode (TestBus.withMem [0x09]) callLimit 0x09
        (hlIx.swap (({ bc := 1 } : Cpu).fetch (TestBus.withMem [0x09])).2) = some o ∧
      ({ bc := 1 } : Cpu).ddPrefix (doOpcode (TestBus.withMem [0x09]) callLimit)
        (TestBus.withMem [0x09]) = some ⟨hlIx.swap o.cpu, o.bus, 4 + o.cycles⟩) ∧
    ∃ o, ({} : Cpu).ddPrefix (doOpcode (TestBus.withMem [0x66, 0x05]) callLimit)
        (TestBus.withMem [0x66, 0x05]) = some o ∧
      (o.cpu, o.bus) = (MemoryOp.load .H).access 5
        (((({} : Cpu).fetch (TestBus.withMem [0x66, 0x05])).2.setPc 2).setWz 5)
        (TestBus.withMem [0x66, 0x05]) :=
  ⟨(ddPrefix_base { bc := 1 } (TestBus.withMem [0x09])).1 (by decide) (by decide),
    ((ddPrefix_base {} (TestBus.withMem [0x66, 0x05])).2 (.load .H) (by decide)).2⟩

end Cpu

end Possum
