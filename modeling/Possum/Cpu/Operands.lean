import Possum.Cpu.Bits
import Possum.Cpu.Prefixes

/-!
# The operands of the eight-bit operations

The eight operations of the rows 0x80 to 0xBF, and INC and DEC, take their operand from a
register, from half of an index register, from memory at HL, from memory at an index register
and a displacement, and the eight also from the byte behind the opcode.  `Operand` names these
forms, with the opcode bytes of each (`arithCode`, `countCode`) and the operand's value.

`Arith.result` and `Arith.flags` are what an operation computes, as functions of A, the operand
and the incoming carry.  **`operand_forms_agree`**: every form computes these.
-/

set_option autoImplicit false

namespace Possum

/-! ### What the operations compute -/

def Carry.pick (carry : Bool) : Carry → Bool
  | .off => false
  | .flagC => carry

/-- The flags of ADD and ADC. -/
def addFlags (a v : U8) (carry : Bool) : Flag → Bool :=
  let r := carryingAdd a v carry
  resultFlags (fun _ => r.2) false
    (Flag.PV.isIn (((a ^^^ v ^^^ 0x80) &&& (v ^^^ r.1)) >>> 5)) (Flag.H.isIn (a ^^^ v ^^^ r.1))
    r.1 r.1

/-- The flags of SUB, SBC and CP; X and Y come from `xy`. -/
def subFlags (a v : U8) (carry : Bool) (xy : U8) : Flag → Bool :=
  let r := borrowingSub a v carry
  resultFlags (fun _ => r.2) true
    (Flag.PV.isIn (((a ^^^ v) &&& (r.1 ^^^ a)) >>> 5)) (Flag.H.isIn (a ^^^ v ^^^ r.1)) xy r.1

/-- The flags of AND, XOR and OR. -/
def logicFlags (result : U8) (h : Bool) : Flag → Bool :=
  resultFlags (fun _ => false) false (Cpu.evenParity result) h result result

/-- INC and DEC. -/
inductive Count
  | inc | dec
  deriving DecidableEq, Repr

namespace Count

/-- The lowest three bits of the opcode. -/
def row : Count → ℕ
  | .inc => 4
  | .dec => 5

def result (v : U8) : Count → U8
  | .inc => v + 1
  | .dec => v - 1

/-- The flags of INC and DEC, with C as before. -/
def flags (v : U8) (carry : Bool) : Count → Flag → Bool
  | .inc =>
    resultFlags (fun _ => carry) false (v + 1 == 0x80) (Flag.H.isIn ((v + 1) ^^^ v)) (v + 1) (v + 1)
  | .dec =>
    resultFlags (fun _ => carry) true (v - 1 == 0x7F) (Flag.H.isIn ((v - 1) ^^^ v)) (v - 1) (v - 1)

end Count

namespace Arith

/-- A after the operation. -/
def result (op : Arith) (a v : U8) (carry : Bool) : U8 :=
  match op with
  | .addCarry k => (carryingAdd a v (k.pick carry)).1
  | .subCarry k => (borrowingSub a v (k.pick carry)).1
  | .and => a &&& v
  | .xor => a ^^^ v
  | .or => a ||| v
  | .compare => a

/-- The flags after the operation. -/
def flags (op : Arith) (a v : U8) (carry : Bool) : Flag → Bool :=
  match op with
  | .addCarry k => addFlags a v (k.pick carry)
  | .subCarry k => subFlags a v (k.pick carry) (borrowingSub a v (k.pick carry)).1
  | .and => logicFlags (a &&& v) true
  | .xor => logicFlags (a ^^^ v) false
  | .or => logicFlags (a ||| v) false
  | .compare => subFlags a v false v

/-- A and F after the operation. -/
def af (op : Arith) (a v : U8) (carry : Bool) : U16 :=
  word (op.result a v carry) (flagByte (op.flags a v carry))

end Arith

namespace Cpu

/-! ### The bases compute them -/

theorem resultFlags_update (v : Flag → Bool) (k n pv h : Bool) (xy result : U8) :
    resultFlags (Function.update v .C k) n pv h xy result =
      resultFlags (fun _ => k) n pv h xy result := by
  funext f
  cases f <;> simp [resultFlags]

/-- C, then the flags of a result. -/
theorem setFlags_eq (c : Cpu) (k n pv h : Bool) (xy result : U8) :
    (c.setFlag .C k).setResultFlags n pv h xy result =
      c.withFlags (resultFlags (fun _ => k) n pv h xy result) := by
  rw [setFlag_eq, setResultFlags_eq, resultFlags_update]

theorem setRegister_withFlags (c : Cpu) (v : Flag → Bool) (a : U8) :
    (c.withFlags v).setRegister .A a = { c with af := word a (flagByte v) } := by
  show { c with af := word a (lo (word (hi c.af) (flagByte v))) } = _
  rw [lo_word]

theorem addCarryBase_eq (c : Cpu) (rhs : U8) (carry : Bool) :
    c.addCarryBase rhs carry =
      { c with
        af := word (carryingAdd (hi c.af) rhs carry).1
          (flagByte (addFlags (hi c.af) rhs carry)) } := by
  rw [← setRegister_withFlags, addFlags, ← setFlags_eq]
  rfl

theorem subCarryBase_eq (c : Cpu) (rhs : U8) (carry : Bool) :
    c.subCarryBase rhs carry =
      { c with
        af := word (borrowingSub (hi c.af) rhs carry).1
          (flagByte (subFlags (hi c.af) rhs carry (borrowingSub (hi c.af) rhs carry).1)) } := by
  rw [← setRegister_withFlags, subFlags, ← setFlags_eq]
  rfl

theorem logicBase_eq (c : Cpu) (result : U8) (h : Bool) :
    c.logicBase result h =
      { c with af := word result (flagByte (logicFlags result h)) } := by
  rw [← setRegister_withFlags, logicFlags, ← setFlags_eq]
  rfl

theorem compareBase_eq (c : Cpu) (rhs : U8) :
    c.compareBase rhs =
      { c with af := word (hi c.af) (flagByte (subFlags (hi c.af) rhs false rhs)) } := by
  show _ = c.withFlags _
  rw [subFlags, ← setFlags_eq]
  rfl

theorem carry_value (k : Carry) (c : Cpu) : k.value c = k.pick (c.flag .C) := by
  cases k <;> rfl

/-- **A base is the operation** on A, the operand and the carry. -/
theorem arith_base_eq (op : Arith) (c : Cpu) (v : U8) :
    op.base c v = { c with af := op.af (c.register .A) v (c.flag .C) } := by
  cases op with
  | addCarry k =>
    rw [Arith.base, carry_value]
    exact addCarryBase_eq c v _
  | subCarry k =>
    rw [Arith.base, carry_value]
    exact subCarryBase_eq c v _
  | and => exact logicBase_eq c _ true
  | xor => exact logicBase_eq c _ false
  | or => exact logicBase_eq c _ false
  | compare => exact compareBase_eq c v

/-- C is left alone, the other flags are those of the result. -/
theorem setResultFlags_keeping (c : Cpu) (n pv h : Bool) (xy result : U8) :
    c.setResultFlags n pv h xy result =
      c.withFlags (resultFlags (fun _ => c.flag .C) n pv h xy result) := by
  conv_lhs => rw [← withFlags_flag c]
  rw [setResultFlags_eq, ← resultFlags_update c.flag, Function.update_eq_self]

theorem setIncFlags_eq (c : Cpu) (v : U8) :
    c.setIncFlags v = c.withFlags (Count.inc.flags v (c.flag .C)) :=
  setResultFlags_keeping c _ _ _ _ _

theorem setDecFlags_eq (c : Cpu) (v : U8) :
    c.setDecFlags v = c.withFlags (Count.dec.flags v (c.flag .C)) :=
  setResultFlags_keeping c _ _ _ _ _

theorem lo_setIncFlags (c : Cpu) (v : U8) :
    lo (c.setIncFlags v).af = flagByte (Count.inc.flags v (c.flag .C)) := by
  rw [setIncFlags_eq]
  exact lo_word _ _

theorem lo_setDecFlags (c : Cpu) (v : U8) :
    lo (c.setDecFlags v).af = flagByte (Count.dec.flags v (c.flag .C)) := by
  rw [setDecFlags_eq]
  exact lo_word _ _

end Cpu

/-! ### Operand forms -/

/-- Where an operation finds its operand. -/
inductive Operand
  | register (reg : Register)
  | hlIndirect
  | immediate
  | indexIndirect (index : WideRegister)
  deriving DecidableEq, Repr

namespace Operand

/-- The prefix and the register field of an operand that an opcode names. -/
def field : Operand → Option (List U8 × ℕ)
  | .register .B => some ([], 0)
  | .register .C => some ([], 1)
  | .register .D => some ([], 2)
  | .register .E => some ([], 3)
  | .register .H => some ([], 4)
  | .register .L => some ([], 5)
  | .hlIndirect => some ([], 6)
  | .register .A => some ([], 7)
  | .register .IXH => some ([0xDD], 4)
  | .register .IXL => some ([0xDD], 5)
  | .indexIndirect .IX => some ([0xDD], 6)
  | .register .IYH => some ([0xFD], 4)
  | .register .IYL => some ([0xFD], 5)
  | .indexIndirect .IY => some ([0xFD], 6)
  | _ => none

/-- The opcode bytes of operation `y` of the eight. -/
def arithCode (y : Fin 8) : Operand → Option (List U8 × U8)
  | .immediate => some ([], BitVec.ofNat 8 (0xC6 + 8 * y))
  | x => x.field.map fun f => (f.1, BitVec.ofNat 8 (0x80 + 8 * y + f.2))

/-- The opcode bytes of INC and DEC. -/
def countCode (k : Count) (x : Operand) : Option (List U8 × U8) :=
  x.field.map fun f => (f.1, BitVec.ofNat 8 (8 * f.2 + k.row))

variable {β : Type} [Bus β]

/-- The address of an operand in memory, for an instruction at PC. -/
def address (c : Cpu) (bus : β) : Operand → Option U16
  | .hlIndirect => some c.hl
  | .indexIndirect index => some (c.wideRegister index + signExtend (Bus.read bus (c.pc + 2)))
  | _ => none

/-- The value of an operand, for an instruction at PC. -/
def value (c : Cpu) (bus : β) : Operand → U8
  | .register reg => c.register reg
  | .hlIndirect => Bus.read bus c.hl
  | .immediate => Bus.read bus (c.pc + 1)
  | .indexIndirect index =>
    Bus.read bus (c.wideRegister index + signExtend (Bus.read bus (c.pc + 2)))

/-- The operand holds `w` after an instruction, and no byte of memory changed but it. -/
def Holds (c : Cpu) (bus : β) (o : Outcome β) (w : U8) : Operand → Prop
  | .register reg => o.cpu.register reg = w ∧ o.bus = bus
  | x => ∃ addr, x.address c bus = some addr ∧ o.bus = Bus.write bus addr w

end Operand

/-- The method of an operation on an operand. -/
def Arith.instr : Arith → Operand → Instr
  | .addCarry k, .register reg => .addCarry reg k
  | .subCarry k, .register reg => .subCarry reg k
  | .and, .register reg => .and reg
  | .xor, .register reg => .xor reg
  | .or, .register reg => .or reg
  | .compare, .register reg => .compare reg
  | op, .hlIndirect => op.hl
  | .addCarry k, .immediate => .addCarryImmediate k
  | .subCarry k, .immediate => .subCarryImmediate k
  | .and, .immediate => .andImmediate
  | .xor, .immediate => .xorImmediate
  | .or, .immediate => .orImmediate
  | .compare, .immediate => .compareImmediate
  | op, .indexIndirect index => op.indexed index

/-- The method of INC or DEC on an operand. -/
def Count.instr : Count → Operand → Option Instr
  | .inc, .register reg => some (.incWz reg)
  | .inc, .hlIndirect => some .incHlIndirect
  | .inc, .indexIndirect index => some (.incIndexIndirectWz index)
  | .dec, .register reg => some (.decWz reg)
  | .dec, .hlIndirect => some .decHlIndirect
  | .dec, .indexIndirect index => some (.decIndexIndirectWz index)
  | _, .immediate => none

/-! ### Opcodes -/

/-- The instruction that a prefix and an opcode select. -/
def Selects (code : List U8 × U8) (i : Instr) : Prop :=
  code.1 = [] ∧ doOpcodeTable code.2 = .run i ∨
    code.1 = [0xDD] ∧ ddPrefixTable code.2 = .run i ∨
    code.1 = [0xFD] ∧ fdPrefixTable code.2 = .run i

instance (code : List U8 × U8) (i : Instr) : Decidable (Selects code i) :=
  inferInstanceAs (Decidable (_ ∨ _))

/-- Memory holds the bytes from an address on. -/
def Starts {β : Type} [Bus β] (bus : β) (a : U16) : List U8 → Prop
  | [] => True
  | b :: bs => Bus.read bus a = b ∧ Starts bus (a + 1) bs

/-- The operands that opcodes name, and the byte behind the opcode. -/
def Operand.all : List Operand :=
  [.register .B, .register .C, .register .D, .register .E, .register .H, .register .L,
    .hlIndirect, .register .A, .register .IXH, .register .IXL, .indexIndirect .IX,
    .register .IYH, .register .IYL, .indexIndirect .IY, .immediate]

theorem Operand.mem_all {x : Operand} (h : x = .immediate ∨ x.field.isSome) : x ∈ all := by
  cases x with
  | register reg => cases reg <;> first | decide | simp [field] at h
  | hlIndirect => decide
  | immediate => decide
  | indexIndirect index => cases index <;> first | decide | simp [field] at h

theorem arith_tables : ∀ x ∈ Operand.all, ∀ y : Fin 8, ∀ code ∈ x.arithCode y,
    Selects code ((arith y).instr x) := by
  decide +kernel

theorem count_tables : ∀ x ∈ Operand.all, (∀ code ∈ x.countCode .inc,
      ∃ i ∈ Count.inc.instr x, Selects code i) ∧
    ∀ code ∈ x.countCode .dec, ∃ i ∈ Count.dec.instr x, Selects code i := by
  decide +kernel

namespace Cpu

variable {β : Type} [Bus β]

theorem decoded_of_index {c : Cpu} {bus : β} {i : Instr}
    (h : doOpcodeTable (Bus.read bus c.pc) = .dd ∧ ddPrefixTable (Bus.read bus (c.pc + 1)) = .run i ∨
      doOpcodeTable (Bus.read bus c.pc) = .fd ∧ fdPrefixTable (Bus.read bus (c.pc + 1)) = .run i) :
    c.decoded bus = some ⟨i, ((c.takeEnable.fetch bus).2.fetch bus).2, 4⟩ := by
  show decode bus callLimit (Bus.read bus c.takeEnable.pc) (c.takeEnable.fetch bus).2 = _
  rw [callLimit_eq, decode, pc_takeEnable]
  obtain ⟨hop, hi⟩ | ⟨hop, hi⟩ := h
  · simp only [hop, decodeIndex, fetch_fst, pc_fetch, pc_takeEnable, hi]
  · simp only [hop, decodeIndex, fetch_fst, pc_fetch, pc_takeEnable, hi]

/-- The instruction at PC is executed past its opcode bytes. -/
theorem instruction_of_selects {c : Cpu} {bus : β} {code : List U8 × U8} {i : Instr}
    (h : Selects code i) (hat : Starts bus c.pc (code.1 ++ [code.2])) :
    ∃ cycles, c.instruction bus =
      some (((c.takeEnable.past (code.1.length + 1)).exec bus i).addCycles cycles) := by
  obtain ⟨pre, b⟩ := code
  obtain ⟨rfl, hrun⟩ | hindex := h
  · obtain ⟨hb, -⟩ := hat
    have hdec : c.decoded bus = some ⟨i, (c.takeEnable.fetch bus).2, 0⟩ :=
      decoded_of_run (by rw [pc_takeEnable, hb]; exact hrun)
    exact ⟨0, instruction_of_decoded hdec⟩
  · have hdec : c.decoded bus = some ⟨i, ((c.takeEnable.fetch bus).2.fetch bus).2, 4⟩ ∧
        pre.length = 1 := by
      obtain ⟨rfl, hrun⟩ | ⟨rfl, hrun⟩ := hindex
      · obtain ⟨hpre, hb, -⟩ := hat
        exact ⟨decoded_of_index (.inl ⟨by rw [hpre]; rfl, by rw [hb]; exact hrun⟩), rfl⟩
      · obtain ⟨hpre, hb, -⟩ := hat
        exact ⟨decoded_of_index (.inr ⟨by rw [hpre]; rfl, by rw [hb]; exact hrun⟩), rfl⟩
    have hpast : ((c.takeEnable.fetch bus).2.fetch bus).2 = c.takeEnable.past (pre.length + 1) := by
      rw [hdec.2]
      exact past_past c.takeEnable 1
    rw [← hpast]
    exact ⟨4, instruction_of_decoded hdec.1⟩

/-! ### Execution -/

theorem register_takeEnable (c : Cpu) (reg : Register) :
    c.takeEnable.register reg = c.register reg := by
  unfold takeEnable
  split <;> cases reg <;> rfl

theorem wideRegister_takeEnable (c : Cpu) (reg : WideRegister) :
    c.takeEnable.wideRegister reg = c.wideRegister reg := by
  unfold takeEnable
  split <;> cases reg <;> rfl

/-- The operand that a method finds, past the opcode bytes. -/
def found (c : Cpu) (bus : β) : Operand → U8
  | .register reg => c.register reg
  | .hlIndirect => Bus.read bus c.hl
  | .immediate => Bus.read bus c.pc
  | .indexIndirect index =>
    Bus.read bus (c.wideRegister index + signExtend (Bus.read bus c.pc))

theorem found_past (c : Cpu) (bus : β) {x : Operand} {f : List U8 × ℕ} (h : x.field = some f) :
    (c.takeEnable.past (f.1.length + 1)).found bus x = x.value c bus := by
  cases x with
  | register reg =>
    show (c.takeEnable.past _).register reg = c.register reg
    rw [← register_takeEnable c reg]
    cases reg <;> first | rfl | cases h
  | hlIndirect =>
    show Bus.read bus (c.takeEnable.wideRegister .HL) = _
    rw [wideRegister_takeEnable]
    rfl
  | immediate => cases h
  | indexIndirect index =>
    show Bus.read bus ((c.takeEnable.past _).wideRegister index +
      signExtend (Bus.read bus (c.takeEnable.pc + _))) = _
    cases index with
    | IX =>
      cases h
      show Bus.read bus (c.takeEnable.wideRegister .IX + _) = _
      rw [wideRegister_takeEnable, pc_takeEnable]
      rfl
    | IY =>
      cases h
      show Bus.read bus (c.takeEnable.wideRegister .IY + _) = _
      rw [wideRegister_takeEnable, pc_takeEnable]
      rfl
    | _ => cases h

theorem found_immediate (c : Cpu) (bus : β) :
    (c.takeEnable.past 1).found bus .immediate = Operand.immediate.value c bus := by
  show Bus.read bus (c.takeEnable.pc + _) = _
  rw [pc_takeEnable]
  rfl

/-- Every method of an operation is its base on the operand. -/
theorem exec_instr (op : Arith) (x : Operand) (c : Cpu) (bus : β) :
    ∃ c' : Cpu, c'.af = c.af ∧ (c.exec bus (op.instr x)).cpu = op.base c' (c.found bus x) := by
  cases x with
  | register reg =>
    refine ⟨c, rfl, ?_⟩
    cases op <;> rfl
  | hlIndirect =>
    refine ⟨c, rfl, ?_⟩
    cases op <;> rfl
  | immediate =>
    refine ⟨c.setPc (c.pc + 1), rfl, ?_⟩
    cases op <;> rfl
  | indexIndirect index =>
    refine ⟨(c.indexAddress index bus).2, rfl, ?_⟩
    cases op <;> rfl

theorem af_exec_instr (op : Arith) (x : Operand) (c : Cpu) (bus : β) :
    (c.exec bus (op.instr x)).cpu.af =
      op.af (c.register .A) (c.found bus x) (c.flag .C) := by
  obtain ⟨c', haf, hcpu⟩ := exec_instr op x c bus
  have ha : c'.register .A = c.register .A := congrArg hi haf
  have hcarry : c'.flag .C = c.flag .C := by
    rw [flag_eq, flag_eq, haf]
  rw [hcpu, arith_base_eq, ha, hcarry]

/-- What INC and DEC of a register leave in F and in the register. -/
theorem setRegister_counted (c : Cpu) (reg : Register) (v : Flag → Bool) (w : U8) :
    lo ((c.withFlags v).setRegister reg w).af = flagByte v ∧
      ((c.withFlags v).setRegister reg w).register reg = w := by
  cases reg <;> simp [withFlags, setRegister, register]

/-- The operand after the method, past the opcode bytes. -/
def Put (c : Cpu) (bus : β) (o : Outcome β) (w : U8) : Operand → Prop
  | .register reg => o.cpu.register reg = w ∧ o.bus = bus
  | .hlIndirect => o.bus = Bus.write bus c.hl w
  | .immediate => False
  | .indexIndirect index =>
    o.bus = Bus.write bus (c.wideRegister index + signExtend (Bus.read bus c.pc)) w

theorem exec_count {k : Count} {x : Operand} {i : Instr} (h : k.instr x = some i) (c : Cpu)
    (bus : β) :
    lo (c.exec bus i).cpu.af = flagByte (k.flags (c.found bus x) (c.flag .C)) ∧
      c.Put bus (c.exec bus i) (k.result (c.found bus x)) x := by
  cases x with
  | register reg =>
    obtain ⟨hf, hreg⟩ := setRegister_counted
      (c.setWz ((k.result (c.register reg)).setWidth 16)) reg
      (k.flags (c.register reg) (c.flag .C)) (k.result (c.register reg))
    have hexec : (c.exec bus i).cpu =
        ((c.setWz ((k.result (c.register reg)).setWidth 16)).withFlags
          (k.flags (c.register reg) (c.flag .C))).setRegister reg (k.result (c.register reg)) := by
      cases k with
      | inc =>
        cases h
        exact congrArg (fun c : Cpu => c.setRegister reg _) (setIncFlags_eq _ _)
      | dec =>
        cases h
        exact congrArg (fun c : Cpu => c.setRegister reg _) (setDecFlags_eq _ _)
    have hbus : (c.exec bus i).bus = bus := by
      cases k <;> cases h <;> rfl
    rw [hexec]
    exact ⟨hf, hexec ▸ hreg, hbus⟩
  | hlIndirect =>
    cases k with
    | inc =>
      cases h
      exact ⟨lo_setIncFlags c _, rfl⟩
    | dec =>
      cases h
      exact ⟨lo_setDecFlags c _, rfl⟩
  | immediate => cases k <;> cases h
  | indexIndirect index =>
    cases k with
    | inc =>
      cases h
      exact ⟨lo_setIncFlags (c.indexAddress index bus).2 _, rfl⟩
    | dec =>
      cases h
      exact ⟨lo_setDecFlags (c.indexAddress index bus).2 _, rfl⟩

/-! ### All forms -/

theorem flag_past (c : Cpu) (n : ℕ) (f : Flag) : (c.takeEnable.past n).flag f = c.flag f := by
  rw [flag_eq, flag_eq]
  exact congrArg (fun af : U16 => f.isIn (lo af)) (wideRegister_takeEnable c .AF)

theorem register_a_past (c : Cpu) (n : ℕ) :
    (c.takeEnable.past n).register .A = c.register .A :=
  register_takeEnable c .A

/-- The prefix of an operand that the code names, and the operand found behind it. -/
theorem found_code {c : Cpu} {bus : β} {x : Operand} {y : Fin 8} {code : List U8 × U8}
    (h : x.arithCode y = some code) :
    x ∈ Operand.all ∧ (c.takeEnable.past (code.1.length + 1)).found bus x = x.value c bus := by
  cases x with
  | immediate =>
    cases h
    exact ⟨Operand.mem_all (.inl rfl), found_immediate c bus⟩
  | hlIndirect =>
    cases h
    exact ⟨Operand.mem_all (.inr rfl), found_past c bus (x := .hlIndirect) rfl⟩
  | register _ | indexIndirect _ =>
    obtain ⟨f, hf, rfl⟩ := Option.map_eq_some_iff.1 h
    exact ⟨Operand.mem_all (.inr (by rw [hf]; rfl)), found_past c bus hf⟩

theorem holds_of_put {c : Cpu} {bus : β} {x : Operand} {f : List U8 × ℕ} {o : Outcome β} {w : U8}
    (hf : x.field = some f) (h : (c.takeEnable.past (f.1.length + 1)).Put bus o w x)
    (cycles : ℕ) : x.Holds c bus (o.addCycles cycles) w := by
  cases x with
  | register reg => exact h
  | hlIndirect =>
    have hhl : (c.takeEnable.past (f.1.length + 1)).hl = c.hl := wideRegister_takeEnable c .HL
    exact ⟨c.hl, rfl, hhl ▸ h⟩
  | immediate => cases hf
  | indexIndirect index =>
    refine ⟨_, rfl, ?_⟩
    have hpc : (c.takeEnable.past (f.1.length + 1)).pc = c.pc + 2 := by
      cases index <;> cases hf <;> exact congrArg (· + 2) (pc_takeEnable c)
    have hindex : (c.takeEnable.past (f.1.length + 1)).wideRegister index =
        c.wideRegister index := by
      rw [← wideRegister_takeEnable c index]
      cases index <;> first | rfl | cases hf
    rw [← hpc, ← hindex]
    exact h

/-- One of the eight operations at PC, with its operand in any form. -/
theorem arith_instruction {c : Cpu} {bus : β} {x : Operand} {y : Fin 8} {code : List U8 × U8}
    (hcode : x.arithCode y = some code) (hat : Starts bus c.pc (code.1 ++ [code.2])) :
    ∃ o, c.instruction bus = some o ∧
      o.cpu.af = (arith y).af (c.register .A) (x.value c bus) (c.flag .C) := by
  have hnamed : x ∈ Operand.all ∧
      (c.takeEnable.past (code.1.length + 1)).found bus x = x.value c bus := found_code hcode
  obtain ⟨hx, hfound⟩ := hnamed
  obtain ⟨cycles, ho⟩ := instruction_of_selects (arith_tables x hx y code hcode) hat
  refine ⟨_, ho, ?_⟩
  show ((c.takeEnable.past (code.1.length + 1)).exec bus ((arith y).instr x)).cpu.af = _
  rw [af_exec_instr, hfound, flag_past, register_a_past]

/-- **All operand forms agree.**  Whatever form the operand has, the eight operations leave the
same A and F, a function of A, the operand and the carry; INC and DEC leave the same result in
the operand and the same F, with C kept. -/
theorem operand_forms_agree (c : Cpu) (bus : β) (x : Operand) :
    (∀ (y : Fin 8) (code : List U8 × U8), x.arithCode y = some code →
      Starts bus c.pc (code.1 ++ [code.2]) →
      ∃ o, c.instruction bus = some o ∧
        o.cpu.af = (arith y).af (c.register .A) (x.value c bus) (c.flag .C)) ∧
    ∀ (k : Count) (code : List U8 × U8), x.countCode k = some code →
      Starts bus c.pc (code.1 ++ [code.2]) →
      ∃ o, c.instruction bus = some o ∧
        lo o.cpu.af = flagByte (k.flags (x.value c bus) (c.flag .C)) ∧
        x.Holds c bus o (k.result (x.value c bus)) := by
  constructor
  · intro y code hcode hat
    exact arith_instruction hcode hat
  · intro k code hcode hat
    obtain ⟨f, hf, rfl⟩ := Option.map_eq_some_iff.1 hcode
    have hx : x ∈ Operand.all := Operand.mem_all (.inr (by rw [hf]; rfl))
    have hsel : ∃ i ∈ k.instr x, Selects (f.1, BitVec.ofNat 8 (8 * f.2 + k.row)) i := by
      cases k with
      | inc => exact (count_tables x hx).1 _ hcode
      | dec => exact (count_tables x hx).2 _ hcode
    obtain ⟨i, hi, hsel⟩ := hsel
    obtain ⟨cycles, ho⟩ := instruction_of_selects hsel hat
    obtain ⟨hflags, hput⟩ := exec_count hi (c.takeEnable.past (f.1.length + 1)) bus
    rw [found_past c bus hf] at hflags hput
    rw [flag_past] at hflags
    exact ⟨_, ho, hflags, holds_of_put hf hput cycles⟩

/-- `sbc a, ixh`, and `inc (ix + 5)`. -/
theorem operand_forms_agree_ix :
    (∃ o, ({ af := 0x1001, ix := 0x0F00 } : Cpu).instruction (TestBus.withMem [0xDD, 0x9C]) =
        some o ∧ o.cpu.af = (arith 3).af 0x10 0x0F true) ∧
      ∃ o, ({ ix := 0x1000 } : Cpu).instruction (TestBus.withMem [0xDD, 0x34, 0x05]) = some o ∧
        lo o.cpu.af = flagByte (Count.inc.flags 0 false) ∧
        (Operand.indexIndirect .IX).Holds { ix := 0x1000 } (TestBus.withMem [0xDD, 0x34, 0x05])
          o 1 :=
  ⟨(operand_forms_agree { af := 0x1001, ix := 0x0F00 } (TestBus.withMem [0xDD, 0x9C])
      (.register .IXH)).1 3 ([0xDD], 0x9C) rfl ⟨rfl, rfl, trivial⟩,
    (operand_forms_agree { ix := 0x1000 } (TestBus.withMem [0xDD, 0x34, 0x05])
      (.indexIndirect .IX)).2 .inc ([0xDD], 0x34) rfl ⟨rfl, rfl, trivial⟩⟩

end Cpu

end Possum
