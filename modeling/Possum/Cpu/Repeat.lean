import Possum.Cpu.Operands

/-!
# Repeating block instructions

LDIR, CPIR, INIR and OTIR, and the same downwards, do one byte in each step and put PC back on
their own two bytes while there is more to do.  `BlockOp` names the eight, `step_block` is one step
of any of them with the interrupt line released, and `many_of_step` the loop rule: `R k` is what
holds of processor and bus after `k` steps.

`Cpu.erased` is what all of them leave alone: every register but PC, BC, DE, HL, WZ, F and R.
-/

set_option autoImplicit false

namespace Possum

/-! ### The eight instructions -/

/-- The direction of a block instruction. -/
inductive Way
  | up | down
  deriving DecidableEq, Repr

namespace Way

def move : Way → U16 → U16
  | .up => Cpu.up
  | .down => Cpu.down

/-- An address after `k` moves. -/
def after (w : Way) (k : ℕ) (a : U16) : U16 :=
  match w with
  | .up => a + BitVec.ofNat 16 k
  | .down => a - BitVec.ofNat 16 k

theorem after_zero (w : Way) (a : U16) : w.after 0 a = a := by
  cases w <;> simp [after]

theorem move_after (w : Way) (k : ℕ) (a : U16) : w.move (w.after k a) = w.after (k + 1) a := by
  cases w with
  | up =>
    show a + BitVec.ofNat 16 k + 1 = a + BitVec.ofNat 16 (k + 1)
    bv_omega
  | down =>
    show a - BitVec.ofNat 16 k - 1 = a - BitVec.ofNat 16 (k + 1)
    bv_omega

end Way

inductive BlockOp
  | load | compare | input | output
  deriving DecidableEq, Repr

namespace BlockOp

/-- The second byte. -/
def second : BlockOp → Way → U8
  | .load, .up => 0xB0
  | .compare, .up => 0xB1
  | .input, .up => 0xB2
  | .output, .up => 0xB3
  | .load, .down => 0xB8
  | .compare, .down => 0xB9
  | .input, .down => 0xBA
  | .output, .down => 0xBB

def instr : BlockOp → Way → Instr
  | .load, .up => .ldir
  | .compare, .up => .cpir
  | .input, .up => .inirWz
  | .output, .up => .otirWz
  | .load, .down => .lddr
  | .compare, .down => .cpdrWz
  | .input, .down => .indrWz
  | .output, .down => .otdrWz

theorem decode_second (op : BlockOp) (w : Way) :
    edPrefixTable (op.second w) = some (op.instr w) := by
  cases op <;> cases w <;> rfl

/-- The two bytes of the instruction are at `pc`. -/
def At {β : Type} [Bus β] (op : BlockOp) (w : Way) (bus : β) (pc : U16) : Prop :=
  Bus.read bus pc = 0xED ∧ Bus.read bus (pc + 1) = op.second w

end BlockOp

/-- The bytes that BC counts: 0 stands for 65536. -/
def blockLength (bc : U16) : ℕ := if bc = 0 then 65536 else bc.toNat

theorem blockLength_pos (bc : U16) : 0 < blockLength bc := by
  unfold blockLength
  split
  · decide
  · bv_omega

/-- The last byte is where BC counts down to 0. -/
theorem count_eq_zero {bc : U16} {k : ℕ} (hk : k < blockLength bc) :
    bc - BitVec.ofNat 16 k - 1 = 0 ↔ k + 1 = blockLength bc := by
  unfold blockLength at hk ⊢
  split at hk
  · next h =>
    subst h
    rw [if_pos rfl]
    bv_omega
  · next h =>
    rw [if_neg h]
    bv_omega

theorem ofNat_blockLength (bc : U16) : BitVec.ofNat 16 (blockLength bc) = bc := by
  unfold blockLength
  split
  · next h =>
    rw [h]
    rfl
  · rw [BitVec.ofNat_toNat, BitVec.setWidth_eq]

namespace Cpu

/-! ### What stays -/

/-- The processor without PC, BC, DE, HL, WZ, F and R. -/
def erased (c : Cpu) : Cpu :=
  { c with
    pc := 0, bc := 0, de := 0, hl := 0, wz := 0
    af := word (hi c.af) 0
    ir := word (hi c.ir) 0 }

@[simp] theorem erased_setPc (c : Cpu) (v : U16) : (c.setPc v).erased = c.erased := rfl
@[simp] theorem erased_setBc (c : Cpu) (v : U16) : (c.setBc v).erased = c.erased := rfl
@[simp] theorem erased_setDe (c : Cpu) (v : U16) : (c.setDe v).erased = c.erased := rfl
@[simp] theorem erased_setHl (c : Cpu) (v : U16) : (c.setHl v).erased = c.erased := rfl
@[simp] theorem erased_setWz (c : Cpu) (v : U16) : (c.setWz v).erased = c.erased := rfl

@[simp] theorem erased_setFlag (c : Cpu) (f : Flag) (v : Bool) :
    (c.setFlag f v).erased = c.erased := by
  rw [setFlag_eq]
  show { c with pc := 0, bc := 0, de := 0, hl := 0, wz := 0
                af := word (hi (word (hi c.af) (flagByte _))) 0
                ir := word (hi c.ir) 0 } = _
  rw [hi_word]
  rfl

@[simp] theorem erased_past (c : Cpu) (n : ℕ) : (c.past n).erased = c.erased := by
  show { c with pc := 0, bc := 0, de := 0, hl := 0, wz := 0
                af := word (hi c.af) 0
                ir := word (hi (word (hi c.ir) _)) 0 } = _
  rw [hi_word]
  rfl

/-- Setting a flag leaves the others. -/
theorem flag_setFlag (c : Cpu) (f g : Flag) (v : Bool) :
    (c.setFlag f v).flag g = if g = f then v else c.flag g := by
  rw [setFlag_eq, flag_withFlags, Function.update_apply]

@[simp] theorem pc_setFlag (c : Cpu) (f : Flag) (v : Bool) : (c.setFlag f v).pc = c.pc := rfl
@[simp] theorem bc_setFlag (c : Cpu) (f : Flag) (v : Bool) : (c.setFlag f v).bc = c.bc := rfl
@[simp] theorem de_setFlag (c : Cpu) (f : Flag) (v : Bool) : (c.setFlag f v).de = c.de := rfl
@[simp] theorem hl_setFlag (c : Cpu) (f : Flag) (v : Bool) : (c.setFlag f v).hl = c.hl := rfl
@[simp] theorem flag_setWz (c : Cpu) (f : Flag) (v : U16) : (c.setWz v).flag f = c.flag f := rfl
@[simp] theorem flag_setPc (c : Cpu) (f : Flag) (v : U16) : (c.setPc v).flag f = c.flag f := rfl

/-! Going back moves PC and WZ. -/

section

variable {β : Type} (o : Outcome β)

theorem bus_rewound : (rewound o).bus = o.bus := rfl
theorem hl_rewound : (rewound o).cpu.hl = o.cpu.hl := rfl
theorem de_rewound : (rewound o).cpu.de = o.cpu.de := rfl
theorem bc_rewound : (rewound o).cpu.bc = o.cpu.bc := rfl
theorem pc_rewound : (rewound o).cpu.pc = o.cpu.pc - 2 := rfl
theorem flag_rewound (f : Flag) : (rewound o).cpu.flag f = o.cpu.flag f := rfl
theorem erased_rewound : (rewound o).cpu.erased = o.cpu.erased := rfl

end

theorem settled_takeEnable (c : Cpu) : c.takeEnable.enableInterruptsNextCycle = false := by
  unfold takeEnable
  cases h : c.enableInterruptsNextCycle with
  | false => simpa using h
  | true => rfl

/-- A processor that differs from a settled one in what a block instruction changes is settled. -/
theorem takeEnable_of_erased {c d : Cpu} (h : c.erased = d.takeEnable.erased) :
    c.takeEnable = c := by
  have hsettled : c.enableInterruptsNextCycle = false :=
    (congrArg enableInterruptsNextCycle h).trans (settled_takeEnable d)
  rw [takeEnable, hsettled]
  rfl

/-! ### Steps -/

section

variable {β : Type} [Bus β]

/-- **One step of a block instruction.** -/
theorem step_block {op : BlockOp} {w : Way} {c : Cpu} {bus : β} (hat : op.At w bus c.pc) :
    c.step (⟨bus, false⟩ : Wired β) =
      .ok ((((c.takeEnable.past 2).exec bus (op.instr w)).addCycles 4).wired false) := by
  obtain ⟨hed, hsecond⟩ := hat
  have hdec : c.decoded bus =
      some ⟨op.instr w, ((c.takeEnable.fetch bus).2.fetch bus).2, 4⟩ := by
    apply decoded_of_extended
    · rw [pc_takeEnable, hed]
      rfl
    · rw [pc_takeEnable, hsecond, op.decode_second w]
  have hpast : ((c.takeEnable.fetch bus).2.fetch bus).2 = c.takeEnable.past 2 :=
    past_past c.takeEnable 1
  rw [step_released (instruction_of_decoded hdec), hpast]
  rfl

end

section

variable {β : Type} [InterruptBus β]

/-- `n` steps, with the sum of their cycles. -/
def many : ℕ → Cpu → β → Except Fault (Outcome β)
  | 0, c, bus => .ok ⟨c, bus, 0⟩
  | n + 1, c, bus =>
    (many n c bus).bind fun o => (o.cpu.step o.bus).map fun o' => o'.addCycles o.cycles

/-- **The loop rule.** -/
theorem many_of_step {R : ℕ → Cpu → β → Prop} {c : Cpu} {bus : β} (hstart : R 0 c bus) (n : ℕ)
    (hstep : ∀ k < n, ∀ c b, R k c b → ∃ o, c.step b = .ok o ∧ R (k + 1) o.cpu o.bus) :
    ∃ o, c.many n bus = .ok o ∧ R n o.cpu o.bus := by
  induction n with
  | zero => exact ⟨⟨c, bus, 0⟩, rfl, hstart⟩
  | succ n ih =>
    obtain ⟨o, hmany, hR⟩ := ih fun k hk => hstep k (by omega)
    obtain ⟨o', hlast, hR'⟩ := hstep n (Nat.lt_succ_self n) o.cpu o.bus hR
    refine ⟨o'.addCycles o.cycles, ?_, hR'⟩
    rw [many, hmany]
    show (o.cpu.step o.bus).map _ = _
    rw [hlast]
    rfl

end

end Cpu

end Possum
