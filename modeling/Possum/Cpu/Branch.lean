import Possum.Cpu.Line

/-!
# Conditional control flow

The encoding has eight condition codes `ccc`: the pairs test Z, C, PV and S, and the odd code
of a pair asks for the flag to be set.  RET cc is `11ccc000`, JP cc,nn `11ccc010` and
CALL cc,nn `11ccc100`.  `Transfer.taken` and `notTaken` are what such an instruction should
leave of PC, SP, F and memory.

`doOpcode_transfer` reads the 24 entries off the table, and `visible_exec` executes them.  The
code tests PV and S with the polarities exchanged, and the entry of CALL M names PE; the
branches on Z and C follow the encoding (`follows_iff`).
-/

set_option autoImplicit false

namespace Possum

inductive Transfer
  | ret | jp | call
  deriving DecidableEq

namespace Transfer

def opcode (t : Transfer) (ccc : BitVec 3) : U8 :=
  match t with
  | ret => 0b11#2 ++ ccc ++ 0b000#3
  | jp => 0b11#2 ++ ccc ++ 0b010#3
  | call => 0b11#2 ++ ccc ++ 0b100#3

end Transfer

/-! ### What the encoding says -/

/-- The flag that a condition code tests. -/
def testedFlag (ccc : BitVec 3) : Flag :=
  match ccc.toNat / 2 with
  | 0 => .Z
  | 1 => .C
  | 2 => .PV
  | _ => .S

/-- Condition `ccc` on F. -/
def holds (ccc : BitVec 3) (f : U8) : Bool := (testedFlag ccc).isIn f == ccc.getLsbD 0

/-- Of a pair of conditions exactly one holds. -/
theorem holds_pair (ccc : BitVec 3) (f : U8) : holds (ccc ^^^ 1) f = !holds ccc f := by
  have hflag : ∀ ccc : BitVec 3, testedFlag (ccc ^^^ 1) = testedFlag ccc := by decide
  have hbit : ∀ ccc : BitVec 3, (ccc ^^^ 1).getLsbD 0 = !ccc.getLsbD 0 := by decide
  rw [holds, holds, hflag, hbit]
  cases (testedFlag ccc).isIn f <;> cases ccc.getLsbD 0 <;> rfl

/-- PC, SP, F and memory. -/
@[ext] structure Visible (β : Type) where
  pc : U16
  sp : U16
  f : U8
  ram : β

variable {β : Type} [Bus β]

def Outcome.visible (o : Outcome β) : Visible β := ⟨o.cpu.pc, o.cpu.sp, lo o.cpu.af, o.bus⟩

namespace Transfer

/-- The word behind the opcode; PC is past the opcode. -/
def operand (c : Cpu) (bus : β) : U16 := word (Bus.read bus (c.pc + 1)) (Bus.read bus c.pc)

/-- The address of the next instruction. -/
def next (c : Cpu) : Transfer → U16
  | ret => c.pc
  | jp => c.pc + 2
  | call => c.pc + 2

def taken (c : Cpu) (bus : β) : Transfer → Visible β
  | ret => ⟨word (Bus.read bus (c.sp + 1)) (Bus.read bus c.sp), c.sp + 2, lo c.af, bus⟩
  | jp => ⟨operand c bus, c.sp, lo c.af, bus⟩
  | call =>
    let back := call.next c
    ⟨operand c bus, c.sp - 2, lo c.af,
      Bus.write (Bus.write bus (c.sp - 1) (hi back)) (c.sp - 2) (lo back)⟩

def notTaken (c : Cpu) (bus : β) (t : Transfer) : Visible β := ⟨t.next c, c.sp, lo c.af, bus⟩

end Transfer

/-- The instruction with opcode `t.opcode ccc` does what the encoding says. -/
def Follows (t : Transfer) (ccc : BitVec 3) (c : Cpu) (bus : β) : Prop :=
  ∃ o, Cpu.doOpcode bus Cpu.callLimit (t.opcode ccc) c = some o ∧
    o.visible = if holds ccc (lo c.af) then t.taken c bus else t.notTaken c bus

/-! ### What the code does -/

namespace Transfer

def instr : Transfer → Condition → Instr
  | ret, condition => .conditionalReturnWz condition
  | jp, condition => .conditionalJumpWz condition
  | call, condition => .conditionalCallWz condition

/-- The condition that the table names; CALL M names that of CALL PE. -/
def condition (t : Transfer) (ccc : BitVec 3) : Condition :=
  match ccc.toNat with
  | 0 => .NZ
  | 1 => .Z
  | 2 => .NC
  | 3 => .C
  | 4 => .PO
  | 5 => .PE
  | 6 => .P
  | _ => if t = call then .PE else .M

/-- The 24 entries of the base table. -/
theorem doOpcodeTable_opcode (t : Transfer) (ccc : BitVec 3) :
    doOpcodeTable (t.opcode ccc) = .run (t.instr (t.condition ccc)) := by
  revert ccc
  cases t <;> decide +kernel

theorem doOpcode_transfer (t : Transfer) (ccc : BitVec 3) (c : Cpu) (bus : β) :
    Cpu.doOpcode bus Cpu.callLimit (t.opcode ccc) c =
      some (c.exec bus (t.instr (t.condition ccc))) := by
  rw [Cpu.callLimit_eq, Cpu.doOpcode, doOpcodeTable_opcode]

theorem visible_exec (t : Transfer) (k : Condition) (c : Cpu) (bus : β) :
    (c.exec bus (t.instr k)).visible =
      if c.condition k then t.taken c bus else t.notTaken c bus := by
  cases t with
  | ret =>
    show (c.conditionalReturnWz k bus).visible = _
    rw [Cpu.conditionalReturnWz, Cpu.returnWz, Cpu.popBase_eq]
    split <;> rfl
  | jp =>
    show (c.conditionalJumpWz k bus).visible = _
    simp only [Cpu.conditionalJumpWz, Cpu.wideImmediate_eq]
    show Outcome.visible ⟨if c.condition k then _ else _, bus, 10⟩ = _
    split <;> rfl
  | call =>
    show (c.conditionalCallWz k bus).visible = _
    simp only [Cpu.conditionalCallWz, Cpu.callWz, Cpu.pushBase_eq, Cpu.wideImmediate_eq]
    split <;> rfl

/-- Taking a branch shows, unless it is a jump to the next instruction. -/
theorem taken_eq_notTaken_iff (t : Transfer) (c : Cpu) (bus : β) :
    t.taken c bus = t.notTaken c bus ↔ t = jp ∧ operand c bus = t.next c := by
  have hup : c.sp + 2 ≠ c.sp := by bv_omega
  have hdown : c.sp - 2 ≠ c.sp := by bv_omega
  cases t with
  | ret => exact ⟨fun h => absurd (congrArg Visible.sp h) hup, fun h => nomatch h.1⟩
  | jp =>
    constructor
    · intro h
      exact ⟨rfl, congrArg Visible.pc h⟩
    · rintro ⟨-, hnext⟩
      show Visible.mk (operand c bus) _ _ _ = Visible.mk _ _ _ _
      rw [hnext]
  | call => exact ⟨fun h => absurd (congrArg Visible.sp h) hdown, fun h => nomatch h.1⟩

/-- The conditions on Z and C are those of the encoding, those on PV and S their opposites;
that of CALL M is that of CALL PO. -/
theorem condition_eq_holds_iff (t : Transfer) (ccc : BitVec 3) (c : Cpu) :
    c.condition (t.condition ccc) = holds ccc (lo c.af) ↔
      ccc.toNat < 4 ∨ t = call ∧ ccc = 7 ∧ c.flag .S ≠ c.flag .PV := by
  have hccc : ∀ x : BitVec 3, x = 0 ∨ x = 1 ∨ x = 2 ∨ x = 3 ∨ x = 4 ∨ x = 5 ∨ x = 6 ∨ x = 7 := by
    decide
  rcases hccc ccc with rfl | rfl | rfl | rfl | rfl | rfl | rfl | rfl <;>
    simp [holds, testedFlag, condition, Cpu.condition, ← Cpu.flag_eq]
  -- only CALL M is left
  cases t <;> cases c.flag .S <;> cases c.flag .PV <;> simp

end Transfer

/-- The instruction does what the encoding says exactly if the code's condition is the
encoding's or taking the branch does not show. -/
theorem follows_iff_agrees (t : Transfer) (ccc : BitVec 3) (c : Cpu) (bus : β) :
    Follows t ccc c bus ↔
      c.condition (t.condition ccc) = holds ccc (lo c.af) ∨
        t.taken c bus = t.notTaken c bus := by
  unfold Follows
  simp only [t.doOpcode_transfer, Option.some.injEq, exists_eq_left', t.visible_exec]
  cases c.condition (t.condition ccc) <;> cases holds ccc (lo c.af) <;> simp [eq_comm]

/-- **Conditional branches follow the encoding** exactly for the conditions on Z and C, for
CALL M where S differs from PV, and where a jump leads to the next instruction. -/
theorem follows_iff (t : Transfer) (ccc : BitVec 3) (c : Cpu) (bus : β) :
    Follows t ccc c bus ↔
      ccc.toNat < 4 ∨ (t = .call ∧ ccc = 7 ∧ c.flag .S ≠ c.flag .PV) ∨
        (t = .jp ∧ Transfer.operand c bus = t.next c) := by
  rw [follows_iff_agrees, t.condition_eq_holds_iff, t.taken_eq_notTaken_iff, or_assoc]

/-- RET PO with PV clear should return, and goes on. -/
theorem not_follows_retPo : ¬ Follows .ret 4 ({} : Cpu) (TestBus.withMem []) := by
  rw [follows_iff_agrees, Transfer.taken_eq_notTaken_iff]
  decide

end Possum
