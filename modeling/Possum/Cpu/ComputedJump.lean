import Possum.Cpu.Operands
import Possum.Cpu.Stack
import Mathlib.Data.List.GetD

/-!
# Jumps to a register

JP (HL), JP (IX) and JP (IY) against PUSH rr and RET.  Pushing the register and returning reaches
the value of the register (`push_return`).  The jump itself loads PC from the word in memory at
that value (`jump_instruction`), so it reaches the value where memory holds the value at its own
address, and then it has consulted memory; only where that word is the instruction does it depend
on no other byte (**`jump_indirect_iff`**).
-/

set_option autoImplicit false

namespace Possum

namespace Cpu

variable {β : Type} [Bus β]

/-- The opcode bytes of JP (rr). -/
def jumpCode : WideRegister → Option (List U8 × U8)
  | .HL => some ([], 0xE9)
  | .IX => some ([0xDD], 0xE9)
  | .IY => some ([0xFD], 0xE9)
  | _ => none

/-- The opcode bytes of PUSH rr. -/
def pushCode : WideRegister → Option (List U8 × U8)
  | .HL => some ([], 0xE5)
  | .IX => some ([0xDD], 0xE5)
  | .IY => some ([0xFD], 0xE5)
  | _ => none

theorem jump_tables {rr : WideRegister} {code : List U8 × U8} (h : jumpCode rr = some code) :
    Selects code (.jumpIndirect rr) ∧
      ∀ (c : Cpu) (n : ℕ), (c.takeEnable.past n).wideRegister rr = c.wideRegister rr := by
  cases rr with
  | HL => cases h; exact ⟨by decide, fun c _ => wideRegister_takeEnable c .HL⟩
  | IX => cases h; exact ⟨by decide, fun c _ => wideRegister_takeEnable c .IX⟩
  | IY => cases h; exact ⟨by decide, fun c _ => wideRegister_takeEnable c .IY⟩
  | _ => cases h

/-- **JP (rr)** loads PC from memory. -/
theorem jump_instruction {c : Cpu} {bus : β} {rr : WideRegister} {code : List U8 × U8}
    (hcode : jumpCode rr = some code) (hat : Starts bus c.pc (code.1 ++ [code.2])) :
    ∃ cycles, c.instruction bus =
      some ⟨(c.takeEnable.past (code.1.length + 1)).setPc (wordAt bus (c.wideRegister rr)), bus,
        cycles⟩ := by
  obtain ⟨hselects, hkeep⟩ := jump_tables hcode
  obtain ⟨cycles, hins⟩ := instruction_of_selects hselects hat
  rw [← hkeep c (code.1.length + 1)]
  exact ⟨_, hins⟩

/-- The instruction is executed alike wherever its own bytes are. -/
def OwnBytesOnly (c : Cpu) (code : List U8) (c' : Cpu) : Prop :=
  ∀ (γ : Type) [Bus γ] (bus : γ), Starts bus c.pc code → ∃ o, c.instruction bus = some o ∧ o.cpu = c'

/-- What JP (rr) is to do: load PC from the register, consult no byte of memory but its own, and
leave SP, F and memory. -/
def JumpsToRegister (c : Cpu) (bus : β) (rr : WideRegister) (code : List U8) : Prop :=
  ∃ o, c.instruction bus = some o ∧ o.cpu.pc = c.wideRegister rr ∧ OwnBytesOnly c code o.cpu ∧
    o.cpu.sp = c.sp ∧ lo o.cpu.af = lo c.af ∧ o.bus = bus

/-! ### The bytes that are consulted -/

/-- The given bytes from an address on, and one byte everywhere else. -/
def TestBus.filled (base : U16) (bytes : List U8) (fill : U8) : TestBus where
  mem a := bytes.getD (a - base).toNat fill
  io _ := 0

theorem starts_filled {rr : WideRegister} {code : List U8 × U8} (h : jumpCode rr = some code)
    (base : U16) (fill : U8) :
    Starts (TestBus.filled base (code.1 ++ [code.2]) fill) base (code.1 ++ [code.2]) := by
  have hzero : base - base = 0 := BitVec.sub_self base
  have hone : base + 1 - base = 1 := by bv_omega
  have hread : ∀ (a : U16) (bytes : List U8),
      Bus.read (TestBus.filled base bytes fill) a = bytes.getD (a - base).toNat fill :=
    fun _ _ => rfl
  cases rr with
  | HL =>
    cases h
    refine ⟨?_, trivial⟩
    rw [hread, hzero]
    rfl
  | IX | IY =>
    cases h
    refine ⟨?_, ?_, trivial⟩
    · rw [hread, hzero]
      rfl
    · rw [hread, hone]
      rfl
  | _ => cases h

/-- A jump that consults only its own bytes consults them both. -/
theorem own_of_ownBytesOnly {c : Cpu} {rr : WideRegister} {code : List U8 × U8} {c' : Cpu}
    (hcode : jumpCode rr = some code) (h : OwnBytesOnly c (code.1 ++ [code.2]) c') :
    c.wideRegister rr = c.pc ∧ code.1.length = 1 := by
  have hword : ∀ fill : U8, c'.pc =
      wordAt (TestBus.filled c.pc (code.1 ++ [code.2]) fill) (c.wideRegister rr) := by
    intro fill
    have hat := starts_filled hcode c.pc fill
    obtain ⟨o, ho, rfl⟩ := h TestBus _ hat
    obtain ⟨cycles, hins⟩ := jump_instruction hcode hat
    cases ho.symm.trans hins
    rfl
  have hsame : wordAt (TestBus.filled c.pc (code.1 ++ [code.2]) 0) (c.wideRegister rr) =
      wordAt (TestBus.filled c.pc (code.1 ++ [code.2]) 1) (c.wideRegister rr) :=
    (hword 0).symm.trans (hword 1)
  -- a byte that is not the instruction's would differ
  have hlow : (c.wideRegister rr - c.pc).toNat < (code.1 ++ [code.2]).length := by
    by_contra hout
    have hbyte := congrArg lo hsame
    rw [wordAt, wordAt, lo_word, lo_word] at hbyte
    have hfill : ∀ fill : U8, Bus.read (TestBus.filled c.pc (code.1 ++ [code.2]) fill)
        (c.wideRegister rr) = fill :=
      fun fill => List.getD_eq_default _ _ (by omega)
    rw [hfill, hfill] at hbyte
    exact absurd hbyte (by decide)
  have hhigh : (c.wideRegister rr + 1 - c.pc).toNat < (code.1 ++ [code.2]).length := by
    by_contra hout
    have hbyte := congrArg hi hsame
    rw [wordAt, wordAt, hi_word, hi_word] at hbyte
    have hfill : ∀ fill : U8, Bus.read (TestBus.filled c.pc (code.1 ++ [code.2]) fill)
        (c.wideRegister rr + 1) = fill :=
      fun fill => List.getD_eq_default _ _ (by omega)
    rw [hfill, hfill] at hbyte
    exact absurd hbyte (by decide)
  have hlen : code.1.length ≤ 1 := by
    cases rr <;> cases hcode <;> decide
  rw [List.length_append, List.length_singleton] at hlow hhigh
  constructor <;> bv_omega

/-! ### Push and return -/

theorem push_tables {rr : WideRegister} {code : List U8 × U8} (h : pushCode rr = some code) :
    ∃ reg : StackRegister, reg.1 = rr ∧ Selects code (StackOp.push reg).instr ∧
      ∀ (c : Cpu) (n : ℕ), (c.takeEnable.past n).wideRegister rr = c.wideRegister rr := by
  cases rr with
  | HL => cases h; exact ⟨⟨.HL, by decide⟩, rfl, by decide, fun c _ => wideRegister_takeEnable c .HL⟩
  | IX => cases h; exact ⟨⟨.IX, by decide⟩, rfl, by decide, fun c _ => wideRegister_takeEnable c .IX⟩
  | IY => cases h; exact ⟨⟨.IY, by decide⟩, rfl, by decide, fun c _ => wideRegister_takeEnable c .IY⟩
  | _ => cases h

/-- **PUSH rr and RET** reach the value of the register. -/
theorem push_return [RamBus β] {c : Cpu} {bus : β} {rr : WideRegister} {code : List U8 × U8}
    (hcode : pushCode rr = some code) (hat : Starts bus c.pc (code.1 ++ [code.2])) :
    ∃ o, c.instruction bus = some o ∧ (Bus.read o.bus o.cpu.pc = 0xC9 →
      ∃ o', o.cpu.instruction o.bus = some o' ∧ o'.cpu.pc = c.wideRegister rr) := by
  obtain ⟨reg, rfl, hselects, hkeep⟩ := push_tables hcode
  obtain ⟨cycles, hins⟩ := instruction_of_selects hselects hat
  refine ⟨_, hins, ?_⟩
  generalize hpast : c.takeEnable.past (code.1.length + 1) = d
  have hreg : d.wideRegister reg = c.wideRegister reg := hpast ▸ hkeep c _
  have hpush : StackOp.command d (.push reg) = .push (c.wideRegister reg) :=
    congrArg Lib.StackCmd.push hreg
  obtain ⟨bus', hstep, hstores⟩ := stackStep_push hpush d.sp bus
  have hafter : ((d.exec bus (StackOp.push reg).instr).cpu.sp,
      (d.exec bus (StackOp.push reg).instr).bus) = (d.sp - 2, bus') :=
    congrArg Prod.snd (Option.some.inj hstep)
  obtain ⟨hsp, hbus⟩ := Prod.mk.inj hafter
  show Bus.read (d.exec bus (StackOp.push reg).instr).bus
    (d.exec bus (StackOp.push reg).instr).cpu.pc = 0xC9 →
      ∃ o', (d.exec bus (StackOp.push reg).instr).cpu.instruction
        (d.exec bus (StackOp.push reg).instr).bus = some o' ∧ o'.cpu.pc = c.wideRegister reg
  rw [hbus]
  generalize (d.exec bus (StackOp.push reg).instr).cpu = e at hsp ⊢
  intro hret
  have hsel : Selects ([], 0xC9) (StackOp.ret).instr := by decide
  obtain ⟨cycles', hins'⟩ := instruction_of_selects hsel ⟨hret, trivial⟩
  refine ⟨_, hins', ?_⟩
  have hpop : stackStep ((e.takeEnable.past 1).sp, bus') (e.takeEnable.past 1, .ret) = _ :=
    stackStep_pop rfl _ _
  have hpc : ((e.takeEnable.past 1).exec bus' (StackOp.ret).instr).cpu.pc =
      wordAt bus' (e.takeEnable.past 1).sp :=
    Option.some.inj (congrArg Prod.fst (Option.some.inj hpop))
  have hkept : (e.takeEnable.past 1).sp = d.sp - 2 :=
    (wideRegister_takeEnable e .SP).trans hsp
  show ((e.takeEnable.past 1).exec bus' (StackOp.ret).instr).cpu.pc = _
  rw [hpc, hkept, hstores.wordAt]

/-! ### When they agree -/

/-- **When a register-indirect jump reaches the register.**  SP, F and memory are left alone by
every jump, and PUSH rr and RET reach the value of the register.  The jump reaches it if and only if
the word in memory at that value is the value, and consults no byte but its own besides if and only
if it is a prefixed jump at that address. -/
theorem jump_indirect_iff (c : Cpu) (bus : β) (rr : WideRegister) (code : List U8 × U8)
    (hcode : jumpCode rr = some code) (hat : Starts bus c.pc (code.1 ++ [code.2])) :
    (∃ o, c.instruction bus = some o ∧ o.cpu.sp = c.sp ∧ lo o.cpu.af = lo c.af ∧ o.bus = bus ∧
      (o.cpu.pc = c.wideRegister rr ↔ wordAt bus (c.wideRegister rr) = c.wideRegister rr)) ∧
    (c.JumpsToRegister bus rr (code.1 ++ [code.2]) ↔
      c.wideRegister rr = c.pc ∧ wordAt bus c.pc = c.pc ∧ rr ≠ .HL) ∧
    ∀ (γ : Type) [Bus γ] [RamBus γ] (mem : γ) (push : List U8 × U8), pushCode rr = some push →
      Starts mem c.pc (push.1 ++ [push.2]) →
      ∃ o, c.instruction mem = some o ∧ (Bus.read o.bus o.cpu.pc = 0xC9 →
        ∃ o', o.cpu.instruction o.bus = some o' ∧ o'.cpu.pc = c.wideRegister rr) := by
  obtain ⟨cycles, hins⟩ := jump_instruction hcode hat
  have hsp : (c.takeEnable.past (code.1.length + 1)).sp = c.sp := wideRegister_takeEnable c .SP
  have haf : (c.takeEnable.past (code.1.length + 1)).af = c.af := wideRegister_takeEnable c .AF
  refine ⟨⟨_, hins, hsp, congrArg lo haf, rfl, Iff.rfl⟩, ?_, fun _ _ _ _ _ => push_return⟩
  constructor
  · rintro ⟨o, ho, hpc, hown, -⟩
    obtain ⟨hvalue, hlen⟩ := own_of_ownBytesOnly hcode hown
    cases ho.symm.trans hins
    rw [← hvalue]
    refine ⟨rfl, hpc, ?_⟩
    rintro rfl
    cases hcode
    cases hlen
  · rintro ⟨hvalue, hword, hne⟩
    refine ⟨_, hins, ?_, ?_, hsp, congrArg lo haf, rfl⟩
    · show wordAt bus (c.wideRegister rr) = c.wideRegister rr
      rw [hvalue, hword]
    · intro γ _ bus' hat'
      obtain ⟨cycles', hins'⟩ := jump_instruction hcode hat'
      refine ⟨_, hins', ?_⟩
      -- the two bytes at PC are those of the prefixed jump
      have hsame : wordAt bus' c.pc = wordAt bus c.pc := by
        cases rr with
        | IX | IY =>
          cases hcode
          obtain ⟨hlow, hhigh, -⟩ := hat
          obtain ⟨hlow', hhigh', -⟩ := hat'
          rw [wordAt, wordAt, hlow, hhigh, hlow', hhigh']
        | HL => exact absurd rfl hne
        | _ => cases hcode
      show (c.takeEnable.past (code.1.length + 1)).setPc (wordAt bus' (c.wideRegister rr)) =
        (c.takeEnable.past (code.1.length + 1)).setPc (wordAt bus (c.wideRegister rr))
      rw [hvalue, hsame]

/-- `jp (ix)` at the address that its own bytes spell, and `push hl`, `ret`. -/
theorem jump_indirect_iff_ix :
    ({ pc := 0xE9DD, ix := 0xE9DD } : Cpu).JumpsToRegister
      (TestBus.filled 0xE9DD [0xDD, 0xE9] 0) .IX [0xDD, 0xE9] ∧
    ∃ o, ({ hl := 0x1234, sp := 0x8000 } : Cpu).instruction (TestBus.withMem [0xE5, 0xC9]) = some o ∧
      (Bus.read o.bus o.cpu.pc = 0xC9 →
        ∃ o', o.cpu.instruction o.bus = some o' ∧ o'.cpu.pc = 0x1234) :=
  ⟨((jump_indirect_iff { pc := 0xE9DD, ix := 0xE9DD } (TestBus.filled 0xE9DD [0xDD, 0xE9] 0) .IX
      ([0xDD], 0xE9) rfl ⟨rfl, rfl, trivial⟩).2.1).2 ⟨rfl, rfl, by decide⟩,
    (jump_indirect_iff { hl := 0x1234, sp := 0x8000 } (TestBus.withMem [0xE9]) .HL ([], 0xE9) rfl
      ⟨rfl, trivial⟩).2.2 TestBus (TestBus.withMem [0xE5, 0xC9]) ([], 0xE5) rfl ⟨rfl, trivial⟩⟩

/-- `jp (hl)` with 0x1234 in HL goes to the address that memory holds at 0x1234. -/
theorem jump_indirect_memory :
    Starts (TestBus.withMem [0xE9]) ({ hl := 0x1234 } : Cpu).pc [0xE9] ∧
      ¬ ({ hl := 0x1234 } : Cpu).JumpsToRegister (TestBus.withMem [0xE9]) .HL [0xE9] ∧
      ∃ o, ({ hl := 0x1234 } : Cpu).instruction (TestBus.withMem [0xE9]) = some o ∧
        o.cpu.pc = 0 := by
  have hat : Starts (TestBus.withMem [0xE9]) ({ hl := 0x1234 } : Cpu).pc ([] ++ [0xE9]) :=
    ⟨rfl, trivial⟩
  have hcode : jumpCode .HL = some ([], 0xE9) := rfl
  obtain ⟨cycles, hins⟩ := jump_instruction hcode hat
  refine ⟨hat, ?_, _, hins, rfl⟩
  rintro ⟨o, ho, hpc, -⟩
  cases ho.symm.trans hins
  have hzero : (0 : U16) = 0x1234 := hpc
  exact absurd hzero (by decide)

end Cpu

end Possum
