import Possum.Sys.Boot
import Possum.Cpu.Operands

/-!
# Programs on the board

The programs of `software` use six words of the processor, and no interrupts.  `At r b` is a state
with these words, on board `b`; what an instruction makes of them does not depend on the rest of
the processor (`regs_exec`), so it can be computed on a processor that has nothing else
(`leads_of_exec`).  The rules below do so for each instruction that the programs use.
-/

set_option autoImplicit false

namespace Possum

/-- The words of the processor that the programs use. -/
structure Regs where
  pc : U16 := 0
  sp : U16 := 0
  af : U16 := 0
  bc : U16 := 0
  de : U16 := 0
  hl : U16 := 0
  deriving DecidableEq, Repr

def Cpu.regs (c : Cpu) : Regs where
  pc := c.pc
  sp := c.sp
  af := c.af
  bc := c.bc
  de := c.de
  hl := c.hl

/-- A processor with nothing else. -/
def Regs.cpu (r : Regs) : Cpu :=
  { pc := r.pc, sp := r.sp, af := r.af, bc := r.bc, de := r.de, hl := r.hl }

namespace Software

open Lib Sys

/-- The registers in these words. -/
def registerPlain : Register → Bool
  | .A | .B | .C | .D | .E | .H | .L => true
  | _ => false

def widePlain : WideRegister → Bool
  | .SP | .AF | .BC | .DE | .HL => true
  | _ => false

/-- The instructions that use nothing else. -/
def plain : Instr → Bool
  | .readWideImmediate reg | .incWide reg | .decWide reg | .push reg | .pop reg => widePlain reg
  | .readImmediate reg | .copyRegisterHlIndirect reg | .copyHlIndirectRegister reg | .and reg
  | .or reg | .setBitRegister _ reg => registerPlain reg
  | .readIndirectWz reg addr => registerPlain reg && widePlain addr
  | .exchange reg1 reg2 => widePlain reg1 && widePlain reg2
  | .copyRegister dst src => registerPlain dst && registerPlain src
  | .djnzWz | .jumpRelativeWz | .conditionalJumpRelativeWz _ | .jumpWz | .conditionalJumpWz _
  | .callWz | .conditionalCallWz _ | .conditionalReturnWz _ | .returnWz | .rra | .daa | .scf
  | .addCarryImmediate _ | .andImmediate | .orImmediate | .compareImmediate
  | .outputImmediateIndirect | .inputImmediateIndirect => true
  | _ => false

/-! ### Processors with the same words -/

section

variable {c d : Cpu}

theorem regs_setFlag (h : c.regs = d.regs) (f : Flag) (v : Bool) :
    (c.setFlag f v).regs = (d.setFlag f v).regs := by
  simp only [Cpu.regs, Regs.mk.injEq] at h
  obtain ⟨hpc, hsp, haf, hbc, hde, hhl⟩ := h
  simp only [Cpu.regs, Cpu.setFlag, hpc, hsp, haf, hbc, hde, hhl]

theorem register_of_regs (h : c.regs = d.regs) {reg : Register} (hreg : registerPlain reg = true) :
    c.register reg = d.register reg := by
  simp only [Cpu.regs, Regs.mk.injEq] at h
  obtain ⟨hpc, hsp, haf, hbc, hde, hhl⟩ := h
  cases reg with
  | A => exact congrArg hi haf
  | B => exact congrArg hi hbc
  | C => exact congrArg lo hbc
  | D => exact congrArg hi hde
  | E => exact congrArg lo hde
  | H => exact congrArg hi hhl
  | L => exact congrArg lo hhl
  | _ => cases hreg

theorem wideRegister_of_regs (h : c.regs = d.regs) {reg : WideRegister}
    (hreg : widePlain reg = true) : c.wideRegister reg = d.wideRegister reg := by
  simp only [Cpu.regs, Regs.mk.injEq] at h
  obtain ⟨hpc, hsp, haf, hbc, hde, hhl⟩ := h
  cases reg with
  | SP => exact hsp
  | AF => exact haf
  | BC => exact hbc
  | DE => exact hde
  | HL => exact hhl
  | _ => cases hreg

theorem regs_setRegister (h : c.regs = d.regs) {reg : Register} (hreg : registerPlain reg = true)
    (v : U8) : (c.setRegister reg v).regs = (d.setRegister reg v).regs := by
  simp only [Cpu.regs, Regs.mk.injEq] at h
  obtain ⟨hpc, hsp, haf, hbc, hde, hhl⟩ := h
  cases reg with
  | A | B | C | D | E | H | L =>
    simp only [Cpu.regs, Cpu.setRegister, hpc, hsp, haf, hbc, hde, hhl]
  | _ => cases hreg

theorem regs_setWideRegister (h : c.regs = d.regs) {reg : WideRegister}
    (hreg : widePlain reg = true) (v : U16) :
    (c.setWideRegister reg v).regs = (d.setWideRegister reg v).regs := by
  simp only [Cpu.regs, Regs.mk.injEq] at h
  obtain ⟨hpc, hsp, haf, hbc, hde, hhl⟩ := h
  cases reg with
  | SP | AF | BC | DE | HL =>
    simp only [Cpu.regs, Cpu.setWideRegister, hpc, hsp, haf, hbc, hde, hhl]
  | _ => cases hreg

theorem regs_rotateA (h : c.regs = d.regs) (result : U8) (carry : Bool) :
    (c.rotateA result carry).1.regs = (d.rotateA result carry).1.regs := by
  refine regs_setRegister ?_ rfl _
  iterate 5 apply regs_setFlag
  exact h

theorem regs_scf (h : c.regs = d.regs) : c.scf.1.regs = d.scf.1.regs := by
  iterate 3 apply regs_setFlag
  exact h

theorem regs_daa (h : c.regs = d.regs) : c.daa.1.regs = d.daa.1.regs := by
  have haf : c.af = d.af := congrArg Regs.af h
  simp only [Cpu.daa, Cpu.register, Cpu.flag, haf]
  refine regs_setRegister ?_ rfl _
  iterate 7 apply regs_setFlag
  exact h

end

section

variable {β : Type} [Bus β] (c : Cpu) (bus : β)

theorem regs_base (op : Arith) (v : U8) : (op.base c v).regs = (op.base c.regs.cpu v).regs := by
  rw [Cpu.arith_base_eq, Cpu.arith_base_eq]
  rfl

omit [Bus β] in
theorem exec_conditional {p : Prop} [Decidable p] {o o' s s' : Outcome β}
    (ho : o.cpu.regs = o'.cpu.regs ∧ o.bus = o'.bus)
    (hs : s.cpu.regs = s'.cpu.regs ∧ s.bus = s'.bus) :
    (if p then o else s).cpu.regs = (if p then o' else s').cpu.regs ∧
      (if p then o else s).bus = (if p then o' else s').bus := by
  split
  · exact ho
  · exact hs

/-- **Such an instruction depends on these words alone.** -/
theorem regs_exec {i : Instr} (h : plain i = true) :
    (c.exec bus i).cpu.regs = (c.regs.cpu.exec bus i).cpu.regs ∧
      (c.exec bus i).bus = (c.regs.cpu.exec bus i).bus := by
  have hsame : c.regs = c.regs.cpu.regs := rfl
  cases i with
  | readWideImmediate reg =>
    refine ⟨regs_setWideRegister ?_ h _, rfl⟩
    rfl
  | readImmediate reg =>
    refine ⟨regs_setRegister ?_ h _, rfl⟩
    rfl
  | incWide reg | decWide reg =>
    have hword := wideRegister_of_regs hsame h
    refine ⟨?_, rfl⟩
    simp only [Cpu.exec, Cpu.still, Cpu.incWide, Cpu.decWide, hword]
    exact regs_setWideRegister hsame h _
  | push reg =>
    have hword := wideRegister_of_regs hsame h
    simp only [Cpu.exec, Cpu.push, hword]
    exact ⟨rfl, rfl⟩
  | pop reg =>
    refine ⟨regs_setWideRegister ?_ h _, rfl⟩
    rfl
  | copyRegisterHlIndirect reg => exact ⟨regs_setRegister hsame h _, rfl⟩
  | copyHlIndirectRegister reg =>
    have hbyte := register_of_regs hsame h
    simp only [Cpu.exec, Cpu.copyHlIndirectRegister, hbyte]
    exact ⟨rfl, rfl⟩
  | and reg =>
    have hbyte := register_of_regs hsame h
    simp only [Cpu.exec, Cpu.still, Cpu.and, hbyte]
    exact ⟨regs_base c .and _, trivial⟩
  | or reg =>
    have hbyte := register_of_regs hsame h
    simp only [Cpu.exec, Cpu.still, Cpu.or, hbyte]
    exact ⟨regs_base c .or _, trivial⟩
  | readIndirectWz reg addr =>
    obtain ⟨hreg, haddr⟩ := (Bool.and_eq_true_iff).1 h
    have hword := wideRegister_of_regs hsame haddr
    simp only [Cpu.exec, Cpu.readIndirectWz, hword]
    have hset := regs_setRegister hsame hreg (Bus.read bus (c.regs.cpu.wideRegister addr))
    exact ⟨hset, trivial⟩
  | exchange reg1 reg2 =>
    obtain ⟨hreg1, hreg2⟩ := (Bool.and_eq_true_iff).1 h
    have hword1 := wideRegister_of_regs hsame hreg1
    have hword2 := wideRegister_of_regs hsame hreg2
    refine ⟨?_, rfl⟩
    simp only [Cpu.exec, Cpu.still, Cpu.exchange, hword1, hword2]
    exact regs_setWideRegister (regs_setWideRegister hsame hreg1 _) hreg2 _
  | copyRegister dst src =>
    obtain ⟨hdst, hsrc⟩ := (Bool.and_eq_true_iff).1 h
    have hbyte := register_of_regs hsame hsrc
    refine ⟨?_, rfl⟩
    simp only [Cpu.exec, Cpu.still, Cpu.copyRegister, hbyte]
    exact regs_setRegister hsame hdst _
  | setBitRegister mask reg =>
    have hbyte := register_of_regs hsame h
    refine ⟨?_, rfl⟩
    simp only [Cpu.exec, Cpu.still, Cpu.setBitRegister, Cpu.modifyRegister, Cpu.setBitBase, hbyte]
    exact regs_setRegister hsame h _
  | djnzWz => exact exec_conditional ⟨rfl, rfl⟩ ⟨rfl, rfl⟩
  | conditionalJumpRelativeWz cc => cases cc <;> exact exec_conditional ⟨rfl, rfl⟩ ⟨rfl, rfl⟩
  | conditionalCallWz cc | conditionalReturnWz cc =>
    cases cc <;> exact exec_conditional ⟨rfl, rfl⟩ ⟨rfl, rfl⟩
  | conditionalJumpWz cc =>
    have hcond : ((c.wideImmediate bus).2.setWz (c.wideImmediate bus).1).condition cc =
        ((c.regs.cpu.wideImmediate bus).2.setWz (c.regs.cpu.wideImmediate bus).1).condition cc := by
      cases cc <;> rfl
    refine ⟨?_, rfl⟩
    simp only [Cpu.exec, Cpu.conditionalJumpWz, hcond]
    split <;> rfl
  | rra => exact ⟨regs_rotateA rfl _ _, rfl⟩
  | daa => exact ⟨regs_daa rfl, rfl⟩
  | scf => exact ⟨regs_scf rfl, rfl⟩
  | andImmediate => exact ⟨regs_base _ .and _, rfl⟩
  | orImmediate => exact ⟨regs_base _ .or _, rfl⟩
  | compareImmediate => exact ⟨regs_base _ .compare _, rfl⟩
  | addCarryImmediate carry => exact ⟨regs_base _ (.addCarry carry) _, rfl⟩
  | jumpWz | jumpRelativeWz | callWz | returnWz | outputImmediateIndirect
  | inputImmediateIndirect => exact ⟨rfl, rfl⟩
  | _ => cases h

end

/-! ### States of a program -/

/-- Running, with interrupts disabled. -/
structure Calm (k : Cpu.Control) : Prop where
  running : k.halted = false
  disabled : k.iff1 = false
  settled : k.enableInterruptsNextCycle = false

theorem effect_plain {i : Instr} (h : plain i = true) (k : Cpu.Control) : i.effect k = k := by
  cases i with
  | halt | disableInterrupts | enableInterrupts | setInterruptMode | retnWz | retiWz => cases h
  | _ => rfl

section

variable {H K : Type} [Device H] [Device K]

omit [Device H] [Device K] in
/-- A running program with words `r`, on board `b`. -/
structure At (r : Regs) (b : Board H K) (s : Cpu × Board H K) : Prop where
  regs : s.1.regs = r
  board : s.2 = b
  calm : Calm s.1.control

/-- A program that has halted, on board `b`. -/
structure Halted (b : Board H K) (s : Cpu × Board H K) : Prop where
  board : s.2 = b
  halted : s.1.halted = true

/-- A masked interrupt changes nothing that a program uses. -/
theorem doIrq_calm {β : Type} [InterruptBus β] {c : Cpu} (bus : β) (h : c.iff1 = false) :
    ∃ c' n, c.doIrq bus = .ok ⟨c', bus, n⟩ ∧ c'.regs = c.regs ∧
      c'.control = { c.control with halted := c.halted && !InterruptBus.interrupted bus } := by
  rw [Cpu.doIrq]
  cases hline : InterruptBus.interrupted bus with
  | false =>
    refine ⟨c, 0, rfl, rfl, ?_⟩
    rw [Bool.not_false, Bool.and_true]
    rfl
  | true =>
    refine ⟨({ c with halted := false }).setWz c.pc, 2, ?_, rfl, ?_⟩
    · rw [if_neg (by decide), if_neg (by simp [h])]
    · rw [Bool.not_true, Bool.and_false]
      rfl

omit [Device H] [Device K] in
theorem takeEnable_calm {c : Cpu} (h : Calm c.control) : c.takeEnable = c := by
  rw [Cpu.takeEnable, if_neg]
  rw [show c.enableInterruptsNextCycle = false from h.settled]
  exact Bool.false_ne_true

variable {r r' : Regs} {b b' : Board H K}

/-- A step of a calm program executes the instruction at PC, and a masked interrupt follows. -/
theorem loop_calm {c : Cpu} {d : Decoded} (hcalm : Calm c.control)
    (hdec : c.decoded (⟨some b⟩ : OnBoard H K) = some d)
    (hbus : (d.cpu.exec (⟨some b⟩ : OnBoard H K) d.instr).bus = ⟨some b'⟩)
    (hdisabled : (d.instr.effect c.control).iff1 = false) :
    ∃ c', Board.loop (c, b) = some (c', b') ∧
      c'.regs = (d.cpu.exec (⟨some b⟩ : OnBoard H K) d.instr).cpu.regs ∧
      c'.control = { d.instr.effect c.control with
        halted := (d.instr.effect c.control).halted && !b'.interrupted } := by
  let bus : OnBoard H K := ⟨some b⟩
  have htake : c.takeEnable = c := takeEnable_calm hcalm
  let o := d.run bus
  have hins : c.instruction bus = some o := Cpu.instruction_of_decoded hdec
  have hboard : o.bus = ⟨some b'⟩ := hbus
  have hcontrol : o.cpu.control = d.instr.effect c.control := by
    show (d.cpu.exec bus d.instr).cpu.control = _
    rw [Cpu.control_exec, Cpu.control_decoded hdec, htake]
  have hmasked : o.cpu.iff1 = false := (congrArg Cpu.Control.iff1 hcontrol).trans hdisabled
  have hhalted : o.cpu.halted = (d.instr.effect c.control).halted :=
    congrArg Cpu.Control.halted hcontrol
  obtain ⟨c', n, hirq, hregs', hcontrol'⟩ := doIrq_calm o.bus hmasked
  have hstep : c.step bus = .ok ⟨c', o.bus, o.cycles + n⟩ := by
    rw [Cpu.step, hins]
    simp only [hirq]
    rfl
  have hrunning : ¬ c.halted = true := by
    rw [show c.halted = false from hcalm.running]
    exact Bool.false_ne_true
  refine ⟨c', ?_, hregs', ?_⟩
  · rw [Board.loop, if_neg hrunning, Board.step]
    simp only [bus] at hstep
    rw [hstep]
    simp only [hboard, Option.map_some]
  · rw [hcontrol', hcontrol, hhalted, hboard]
    rfl

/-- **One instruction.**  What it makes of the words is computed on a processor with nothing
else. -/
theorem leads_of_decoded {i : Instr} {pc : U16}
    (hdec : ∀ c : Cpu, c.regs = r → c.takeEnable = c → ∃ d,
      c.decoded (⟨some b⟩ : OnBoard H K) = some d ∧ d.instr = i ∧ d.cpu.regs = { r with pc := pc })
    (hplain : plain i = true)
    (hregs : (({ r with pc := pc } : Regs).cpu.exec (⟨some b⟩ : OnBoard H K) i).cpu.regs = r')
    (hbus : (({ r with pc := pc } : Regs).cpu.exec (⟨some b⟩ : OnBoard H K) i).bus = ⟨some b'⟩) :
    Leads Board.loop (At r b) (At r' b') := by
  apply Leads.once
  rintro ⟨c, board⟩ ⟨hwords, rfl, hcalm⟩
  obtain ⟨d, hd, rfl, hcpu⟩ := hdec c hwords (takeEnable_calm hcalm)
  have heffect : d.instr.effect c.control = c.control := effect_plain hplain c.control
  obtain ⟨hsame, hsamebus⟩ := regs_exec d.cpu (⟨some board⟩ : OnBoard H K) hplain
  rw [hcpu] at hsame hsamebus
  obtain ⟨c', hloop, hregs', hcontrol⟩ := loop_calm hcalm hd (hsamebus.trans hbus)
    (by rw [heffect]; exact hcalm.disabled)
  refine ⟨(c', b'), hloop, hregs'.trans (hsame.trans hregs), rfl, ?_⟩
  rw [hcontrol, heffect]
  have hrunning : c.control.halted = false := hcalm.running
  exact ⟨by rw [hrunning, Bool.false_and], hcalm.disabled, hcalm.settled⟩

/-- An instruction of the base table. -/
theorem leads_of_exec {i : Instr} (hop : doOpcodeTable (b.byte r.pc) = .run i)
    (hplain : plain i = true)
    (hregs : (({ r with pc := r.pc + 1 } : Regs).cpu.exec (⟨some b⟩ : OnBoard H K) i).cpu.regs = r')
    (hbus : (({ r with pc := r.pc + 1 } : Regs).cpu.exec (⟨some b⟩ : OnBoard H K) i).bus =
      ⟨some b'⟩) : Leads Board.loop (At r b) (At r' b') := by
  refine leads_of_decoded ?_ hplain hregs hbus
  rintro c rfl htake
  have hread : doOpcodeTable (Bus.read (⟨some b⟩ : OnBoard H K) c.takeEnable.pc) = .run i := by
    rw [htake]
    exact hop
  refine ⟨_, Cpu.decoded_of_run hread, rfl, ?_⟩
  rw [htake]
  rfl

theorem decoded_of_bits {c : Cpu} {bus : OnBoard H K}
    (h : doOpcodeTable (Bus.read bus c.takeEnable.pc) = .cb) :
    c.decoded bus = some ⟨cbPrefixTable (Bus.read bus (c.takeEnable.pc + 1)),
      ((c.takeEnable.fetch bus).2.fetch bus).2, 4⟩ := by
  show Cpu.decode bus Cpu.callLimit (Bus.read bus c.takeEnable.pc) (c.takeEnable.fetch bus).2 = _
  rw [Cpu.callLimit_eq, Cpu.decode, h]
  rfl

/-- An instruction behind a CB. -/
theorem leads_of_bits {i : Instr} (hop : doOpcodeTable (b.byte r.pc) = .cb)
    (hi : cbPrefixTable (b.byte (r.pc + 1)) = i) (hplain : plain i = true)
    (hregs : (({ r with pc := r.pc + 1 + 1 } : Regs).cpu.exec (⟨some b⟩ : OnBoard H K) i).cpu.regs =
      r')
    (hbus : (({ r with pc := r.pc + 1 + 1 } : Regs).cpu.exec (⟨some b⟩ : OnBoard H K) i).bus =
      ⟨some b'⟩) : Leads Board.loop (At r b) (At r' b') := by
  refine leads_of_decoded ?_ hplain hregs hbus
  rintro c rfl htake
  have hread : doOpcodeTable (Bus.read (⟨some b⟩ : OnBoard H K) c.takeEnable.pc) = .cb := by
    rw [htake]
    exact hop
  refine ⟨_, decoded_of_bits hread, ?_, ?_⟩
  · rw [htake]
    exact hi
  · rw [htake]
    rfl

/-! ### Code -/

omit [Device H] [Device K] in
/-- The code at `org`. -/
def Code (b : Board H K) (org : U16) (code : List U8) : Prop :=
  ∀ k v, code[k]? = some v → b.byte (org + BitVec.ofNat 16 k) = v

/-- The address of byte `k` of the code at `org`. -/
def pcAt (org : U16) (k : ℕ) : U16 := org + BitVec.ofNat 16 k

theorem pcAt_add (org : U16) (k n : ℕ) : pcAt org k + BitVec.ofNat 16 n = pcAt org (k + n) := by
  rw [pcAt, pcAt, BitVec.add_assoc, BitVec.ofNat_add]

theorem pcAt_pcAt (org : U16) (k n : ℕ) : pcAt (pcAt org k) n = pcAt org (k + n) := pcAt_add org k n

omit [Device H] [Device K] in
/-- A part of the ROM. -/
theorem code_boot {rom p code q : List U8} (hrom : rom = p ++ code ++ q)
    (hlen : (p ++ code).length ≤ 0x10000) (kb : K) (hd : Option H) :
    Code (Board.boot rom kb hd) (BitVec.ofNat 16 p.length) code := by
  intro k v hk
  obtain ⟨hlt, -⟩ := List.getElem?_eq_some_iff.1 hk
  rw [List.length_append] at hlen
  have haddr : (BitVec.ofNat 16 p.length + BitVec.ofNat 16 k : U16).toNat =
      p.length + k := by
    rw [← BitVec.ofNat_add, BitVec.toNat_ofNat, Nat.mod_eq_of_lt (by omega)]
  rw [Board.byte_boot, haddr, hrom, List.getD_eq_getElem?_getD, List.append_assoc,
    List.getElem?_append_right (Nat.le_add_right _ _), Nat.add_sub_cancel_left,
    List.getElem?_append_left hlt, hk]
  rfl

end

section

variable {H K : Type} [Device H] [Device K] {r r' : Regs} {b b' : Board H K} {org target : U16}
  {code : List U8} {k j : ℕ} {op v v' : U8} {i : Instr} {reg : Register} {wide : WideRegister}
  {cc : Condition}

/-- The words at byte `k` of the code at `org`. -/
abbrev atCode (r : Regs) (org : U16) (k : ℕ) : Regs := { r with pc := pcAt org k }

omit [Device H] [Device K] in
theorem Code.byte (h : Code b org code) (hk : code[k]? = some v) : b.byte (pcAt org k) = v :=
  h k v hk

/-- An instruction of the code. -/
theorem leads_instr (hcode : Code b org code) (hk : code[k]? = some op)
    (hop : doOpcodeTable op = .run i) (hplain : plain i = true)
    (hregs : ((atCode r org (k + 1)).cpu.exec (⟨some b⟩ : OnBoard H K) i).cpu.regs = r')
    (hbus : ((atCode r org (k + 1)).cpu.exec (⟨some b⟩ : OnBoard H K) i).bus = ⟨some b'⟩) :
    Leads Board.loop (At (atCode r org k) b) (At r' b') := by
  have hnext : pcAt org k + 1 = pcAt org (k + 1) := pcAt_add org k 1
  have hfetch : doOpcodeTable (b.byte (atCode r org k).pc) = .run i := by
    rw [hcode.byte hk]
    exact hop
  refine leads_of_exec hfetch hplain ?_ ?_
  · rw [hnext]
    exact hregs
  · rw [hnext]
    exact hbus

omit [Device H] [Device K] in
theorem pcAt_succ (org : U16) (k : ℕ) : pcAt org k + 1 = pcAt org (k + 1) := pcAt_add org k 1

/-- The byte behind the opcode. -/
theorem immediate_code (r : Regs) (hcode : Code b org code) (hv : code[k]? = some v) :
    (atCode r org k).cpu.immediate (⟨some b⟩ : OnBoard H K) = (v, (atCode r org (k + 1)).cpu) := by
  show (b.byte (pcAt org k), ({ r with pc := pcAt org k + 1 } : Regs).cpu) = _
  rw [hcode.byte hv, pcAt_succ]

/-- The word behind the opcode. -/
theorem wideImmediate_code (r : Regs) (hcode : Code b org code) (hv : code[k]? = some v)
    (hv' : code[k + 1]? = some v') :
    (atCode r org k).cpu.wideImmediate (⟨some b⟩ : OnBoard H K) =
      (word v' v, (atCode r org (k + 2)).cpu) := by
  rw [Cpu.wideImmediate]
  simp only [immediate_code r hcode hv, immediate_code r hcode hv']

/-- `ld reg, v` -/
theorem leads_ld (hcode : Code b org code) (hk : code[k]? = some op)
    (hop : doOpcodeTable op = .run (.readImmediate reg)) (hv : code[k + 1]? = some v)
    (hreg : registerPlain reg = true) :
    Leads Board.loop (At (atCode r org k) b)
      (At ((atCode r org (k + 2)).cpu.setRegister reg v).regs b) := by
  refine leads_instr hcode hk hop hreg ?_ rfl
  simp only [Cpu.exec, Cpu.readImmediate, immediate_code r hcode hv]

/-- `ld wide, target` -/
theorem leads_ldWide (hcode : Code b org code) (hk : code[k]? = some op)
    (hop : doOpcodeTable op = .run (.readWideImmediate wide)) (hv : code[k + 1]? = some v)
    (hv' : code[k + 2]? = some v') (hwide : widePlain wide = true) :
    Leads Board.loop (At (atCode r org k) b)
      (At ((atCode r org (k + 3)).cpu.setWideRegister wide (word v' v)).regs b) := by
  refine leads_instr hcode hk hop hwide ?_ rfl
  simp only [Cpu.exec, Cpu.readWideImmediate, wideImmediate_code r hcode hv hv']

/-- An instruction of one byte that leaves the bus alone. -/
theorem leads_one (hcode : Code b org code) (hk : code[k]? = some op)
    (hop : doOpcodeTable op = .run i) (hplain : plain i = true)
    (hbus : ((atCode r org (k + 1)).cpu.exec (⟨some b⟩ : OnBoard H K) i).bus = ⟨some b⟩) :
    Leads Board.loop (At (atCode r org k) b)
      (At ((atCode r org (k + 1)).cpu.exec (⟨some b⟩ : OnBoard H K) i).cpu.regs b) :=
  leads_instr hcode hk hop hplain rfl hbus

/-- `ld (hl), reg` -/
theorem leads_store (hcode : Code b org code) (hk : code[k]? = some op)
    (hop : doOpcodeTable op = .run (.copyHlIndirectRegister reg)) (hreg : registerPlain reg = true)
    (hv : r.cpu.register reg = v) :
    Leads Board.loop (At (atCode r org k) b) (At (atCode r org (k + 1)) (b.write r.hl v)) := by
  have hsame : (atCode r org (k + 1)).cpu.register reg = v := by
    rw [← hv]
    cases reg <;> rfl
  refine leads_instr hcode hk hop hreg rfl ?_
  show (⟨some (b.write r.hl ((atCode r org (k + 1)).cpu.register reg))⟩ : OnBoard H K) = _
  rw [hsame]

/-- An instruction of two bytes, the first one a CB, that leaves the bus alone. -/
theorem leads_bits (hcode : Code b org code) (hk : code[k]? = some 0xCB)
    (hop : code[k + 1]? = some op) (hplain : plain (cbPrefixTable op) = true)
    (hbus : ((atCode r org (k + 2)).cpu.exec (⟨some b⟩ : OnBoard H K) (cbPrefixTable op)).bus =
      ⟨some b⟩) :
    Leads Board.loop (At (atCode r org k) b)
      (At ((atCode r org (k + 2)).cpu.exec (⟨some b⟩ : OnBoard H K) (cbPrefixTable op)).cpu.regs
        b) := by
  have hnext : pcAt org k + 1 = pcAt org (k + 1) := pcAt_succ org k
  have hlast : pcAt org (k + 1) + 1 = pcAt org (k + 2) := pcAt_succ org (k + 1)
  refine leads_of_bits (i := cbPrefixTable op) ?_ ?_ hplain ?_ ?_
  · rw [hcode.byte hk]
    rfl
  · rw [hnext, hcode.byte hop]
  · rw [hnext, hlast]
  · rw [hnext, hlast]
    exact hbus

/-! ### Arithmetic -/

/-- An operation on A. -/
theorem leads_base (o : Arith) (hcode : Code b org code) (hk : code[k]? = some op)
    (hop : doOpcodeTable op = .run i) (hplain : plain i = true)
    (hexec : ∀ bus : OnBoard H K, ((atCode r org (k + 1)).cpu.exec bus i).cpu =
      o.base (atCode r org (k + 1)).cpu v ∧ ((atCode r org (k + 1)).cpu.exec bus i).bus = bus) :
    Leads Board.loop (At (atCode r org k) b)
      (At { atCode r org (k + 1) with af := o.af (hi r.af) v (r.cpu.flag .C) } b) := by
  refine leads_instr hcode hk hop hplain ?_ (hexec _).2
  rw [(hexec _).1, Cpu.arith_base_eq]
  rfl

/-- An operation on A and the byte behind the opcode. -/
theorem leads_baseImmediate (o : Arith) (hcode : Code b org code) (hk : code[k]? = some op)
    (hop : doOpcodeTable op = .run i) (hplain : plain i = true) (hv : code[k + 1]? = some v)
    (hexec : ∀ (c : Cpu) (bus : OnBoard H K), (c.exec bus i).cpu =
      o.base (c.immediate bus).2 (c.immediate bus).1 ∧ (c.exec bus i).bus = bus) :
    Leads Board.loop (At (atCode r org k) b)
      (At { atCode r org (k + 2) with af := o.af (hi r.af) v (r.cpu.flag .C) } b) := by
  refine leads_instr hcode hk hop hplain ?_ (hexec _ _).2
  rw [(hexec _ _).1, Cpu.arith_base_eq, immediate_code r hcode hv]
  rfl

/-- C, as it is in AF. -/
def carry (af : U16) : Bool := Flag.C.isIn (lo af)

/-- A flag behind an operation on A. -/
theorem flag_base (o : Arith) (r : Regs) (a v : U8) (k : Bool) (f : Flag) :
    ({ r with af := o.af a v k } : Regs).cpu.flag f = o.flags a v k f := by
  rw [Cpu.flag_eq]
  exact (congrArg f.isIn (lo_word _ _)).trans (isIn_flagByte _ f)

theorem condition_carry (r : Regs) : r.cpu.condition .C = carry r.af := Cpu.flag_eq _ _

theorem scf_af (c : Cpu) : ∃ af, c.scf.1 = { c with af := af } ∧ carry af = true := by
  simp only [Cpu.scf]
  rw [Cpu.setFlag_eq c .C]
  simp only [Cpu.setFlag_withFlags]
  refine ⟨_, rfl, ?_⟩
  rw [carry, lo_word, isIn_flagByte]
  simp

/-! ### Jumps -/

theorem condition_atCode (r : Regs) (org : U16) (k : ℕ) (cc : Condition) :
    (atCode r org k).cpu.condition cc = r.cpu.condition cc := by
  cases cc <;> rfl

/-- Where a relative jump leads. -/
theorem carryingAdd_relative (hv : signExtend v = BitVec.ofNat 16 j - BitVec.ofNat 16 (k + 2)) :
    (carryingAdd (pcAt org (k + 1)) (signExtend v) true).1 = pcAt org j := by
  show pcAt org (k + 1) + signExtend v + 1 = pcAt org j
  rw [BitVec.add_assoc, BitVec.add_comm (signExtend v), ← BitVec.add_assoc, pcAt_succ, hv, pcAt,
    pcAt]
  bv_omega

theorem pc_djnz (bus : OnBoard H K) (c : Cpu) :
    (c.djnzWz bus).cpu.regs =
      { c.regs with
        bc := word (hi c.bc - 1) (lo c.bc)
        pc := if 0 < hi c.bc - 1 then (carryingAdd c.pc (signExtend (Bus.read bus c.pc)) true).1
          else c.pc + 1 } ∧ (c.djnzWz bus).bus = bus := by
  rw [Cpu.djnzWz]
  by_cases hpos : 0 < hi c.bc - 1
  · rw [if_pos hpos, if_pos (show 0 < c.register .B - 1 from hpos)]
    exact ⟨rfl, rfl⟩
  · rw [if_neg hpos, if_neg (show ¬ 0 < c.register .B - 1 from hpos)]
    exact ⟨rfl, rfl⟩

/-- `djnz`: B counts down, and the jump is taken until it is zero. -/
theorem leads_djnz (hcode : Code b org code) (hk : code[k]? = some 0x10)
    (hv : code[k + 1]? = some v)
    (hjump : signExtend v = BitVec.ofNat 16 j - BitVec.ofNat 16 (k + 2)) :
    Leads Board.loop (At (atCode r org k) b)
      (At { r with
        pc := pcAt org (if hi r.bc - 1 = 0 then k + 2 else j)
        bc := word (hi r.bc - 1) (lo r.bc) } b) := by
  have hpos : (0 < hi r.bc - 1) ↔ ¬ hi r.bc - 1 = 0 := by
    generalize hi r.bc - 1 = x
    bv_omega
  refine leads_instr hcode hk rfl rfl ?_ (pc_djnz _ _).2
  show ((atCode r org (k + 1)).cpu.djnzWz (⟨some b⟩ : OnBoard H K)).cpu.regs = _
  rw [(pc_djnz _ _).1]
  show ({ r with
    bc := word (hi r.bc - 1) (lo r.bc)
    pc := if 0 < hi r.bc - 1 then
      (carryingAdd (pcAt org (k + 1)) (signExtend (b.byte (pcAt org (k + 1)))) true).1
      else pcAt org (k + 1) + 1 } : Regs) = _
  rw [hcode.byte hv, carryingAdd_relative hjump, pcAt_succ]
  by_cases hzero : hi r.bc - 1 = 0
  · rw [if_neg fun h => hpos.1 h hzero, if_pos hzero]
  · rw [if_pos (hpos.2 hzero), if_neg hzero]

/-- `jr cc, v` -/
theorem leads_jr (hcode : Code b org code) (hk : code[k]? = some op)
    (hop : doOpcodeTable op = .run (.conditionalJumpRelativeWz cc)) (hv : code[k + 1]? = some v)
    (hjump : signExtend v = BitVec.ofNat 16 j - BitVec.ofNat 16 (k + 2)) :
    Leads Board.loop (At (atCode r org k) b)
      (At (atCode r org (if r.cpu.condition cc then j else k + 2)) b) := by
  refine leads_instr hcode hk hop rfl ?_ ?_
  · rw [Cpu.exec, Cpu.conditionalJumpRelativeWz, condition_atCode]
    cases r.cpu.condition cc with
    | true =>
      show ({ r with pc := (carryingAdd (pcAt org (k + 1))
        (signExtend (b.byte (pcAt org (k + 1)))) true).1 } : Regs) = _
      rw [hcode.byte hv, carryingAdd_relative hjump]
      rfl
    | false =>
      show ({ r with pc := pcAt org (k + 1) + 1 } : Regs) = _
      rw [pcAt_succ]
      rfl
  · rw [Cpu.exec, Cpu.conditionalJumpRelativeWz]
    split <;> rfl

/-- `jr v` -/
theorem leads_jrAlways (hcode : Code b org code) (hk : code[k]? = some 0x18)
    (hv : code[k + 1]? = some v)
    (hjump : signExtend v = BitVec.ofNat 16 j - BitVec.ofNat 16 (k + 2)) :
    Leads Board.loop (At (atCode r org k) b) (At (atCode r org j) b) := by
  refine leads_instr hcode hk rfl rfl ?_ rfl
  show ({ r with pc := (carryingAdd (pcAt org (k + 1))
    (signExtend (b.byte (pcAt org (k + 1)))) true).1 } : Regs) = _
  rw [hcode.byte hv, carryingAdd_relative hjump]

/-- `jp cc, target` -/
theorem leads_jpConditional (hcode : Code b org code) (hk : code[k]? = some op)
    (hop : doOpcodeTable op = .run (.conditionalJumpWz cc)) (hv : code[k + 1]? = some v)
    (hv' : code[k + 2]? = some v') :
    Leads Board.loop (At (atCode r org k) b)
      (At { r with pc := if r.cpu.condition cc then word v' v else pcAt org (k + 3) } b) := by
  refine leads_instr hcode hk hop rfl ?_ rfl
  simp only [Cpu.exec, Cpu.conditionalJumpWz, wideImmediate_code r hcode hv hv']
  have hcond :
      ((atCode r org (k + 3)).cpu.setWz (word v' v)).condition cc = r.cpu.condition cc := by
    cases cc <;> rfl
  rw [hcond]
  cases r.cpu.condition cc <;> rfl

/-- `jp target` -/
theorem leads_jp (hcode : Code b org code) (hk : code[k]? = some 0xC3)
    (hv : code[k + 1]? = some v) (hv' : code[k + 2]? = some v') :
    Leads Board.loop (At (atCode r org k) b) (At { r with pc := word v' v } b) := by
  refine leads_instr hcode hk rfl rfl ?_ rfl
  simp only [Cpu.exec, Cpu.jumpWz, wideImmediate_code r hcode hv hv']
  rfl

/-! ### Subroutines -/

omit [Device H] [Device K] in
/-- The board with a word on the stack that grows to `sp`. -/
def pushed (b : Board H K) (sp w : U16) : Board H K := (b.write (sp + 1) (hi w)).write sp (lo w)

omit [Device H] [Device K] in
/-- The word at the top of the stack. -/
def top (b : Board H K) (sp : U16) : U16 := word (b.byte (sp + 1)) (b.byte sp)

omit [Device H] [Device K] in
theorem top_pushed (b : Board H K) (sp w : U16) : top (pushed b sp w) sp = w := by
  have hne : sp + 1 ≠ sp := by bv_omega
  rw [top, pushed, Board.byte_write, if_neg hne, Board.byte_write, if_pos rfl, Board.byte_write,
    if_pos rfl, word_hi_lo]

omit [Device H] [Device K] in
/-- The word below it. -/
theorem top_pushed_below (b : Board H K) (sp w : U16) :
    top (pushed b (sp - 2) w) sp = top b sp := by
  have hlow : sp ≠ sp - 2 ∧ sp ≠ sp - 2 + 1 := by
    constructor <;> bv_omega
  have hhigh : sp + 1 ≠ sp - 2 ∧ sp + 1 ≠ sp - 2 + 1 := by
    constructor <;> bv_omega
  rw [top, pushed, Board.byte_write, if_neg hhigh.1, Board.byte_write, if_neg hhigh.2,
    Board.byte_write, if_neg hlow.1, Board.byte_write, if_neg hlow.2]
  rfl

omit [Device H] [Device K] in
/-- Code that the stack does not reach. -/
theorem Code.pushed {b : Board H K} {org sp w : U16} {code : List U8} (h : Code b org code)
    (hclear : ∀ k < code.length, pcAt org k ≠ sp ∧ pcAt org k ≠ sp + 1) :
    Code (Software.pushed b sp w) org code := by
  intro k v hk
  obtain ⟨hlt, -⟩ := List.getElem?_eq_some_iff.1 hk
  obtain ⟨hlow, hhigh⟩ := hclear k hlt
  show (Software.pushed b sp w).byte (pcAt org k) = v
  rw [Software.pushed, Board.byte_write, if_neg hlow, Board.byte_write, if_neg hhigh]
  exact h k v hk

/-- `call target` -/
theorem leads_call (hcode : Code b org code) (hk : code[k]? = some 0xCD)
    (hv : code[k + 1]? = some v) (hv' : code[k + 2]? = some v') :
    Leads Board.loop (At (atCode r org k) b)
      (At { r with pc := word v' v, sp := r.sp - 2 } (pushed b (r.sp - 2) (pcAt org (k + 3)))) := by
  have hnext : r.sp - 1 = r.sp - 2 + 1 := by bv_omega
  refine leads_instr hcode hk rfl rfl ?_ ?_
  · simp only [Cpu.exec, Cpu.callWz, wideImmediate_code r hcode hv hv', Cpu.pushBase_eq]
    rfl
  · simp only [Cpu.exec, Cpu.callWz, wideImmediate_code r hcode hv hv', Cpu.pushBase_eq]
    show (⟨some ((b.write (r.sp - 1) (hi (pcAt org (k + 3)))).write (r.sp - 2)
      (lo (pcAt org (k + 3))))⟩ : OnBoard H K) = _
    rw [hnext, pushed]

/-- `call cc, target`, which does not call -/
theorem leads_callPassed (hcode : Code b org code) (hk : code[k]? = some op)
    (hop : doOpcodeTable op = .run (.conditionalCallWz cc)) (hv : code[k + 1]? = some v)
    (hv' : code[k + 2]? = some v') (hcond : r.cpu.condition cc = false) :
    Leads Board.loop (At (atCode r org k) b) (At (atCode r org (k + 3)) b) := by
  have hnot : ¬ (atCode r org (k + 1)).cpu.condition cc = true := by
    rw [condition_atCode, hcond]
    exact Bool.false_ne_true
  refine leads_instr hcode hk hop rfl ?_ ?_
  · rw [Cpu.exec, Cpu.conditionalCallWz, if_neg hnot]
    simp only [wideImmediate_code r hcode hv hv']
    rfl
  · rw [Cpu.exec, Cpu.conditionalCallWz, if_neg hnot]

/-- `ret` -/
theorem leads_ret (hcode : Code b org code) (hk : code[k]? = some 0xC9) :
    Leads Board.loop (At (atCode r org k) b)
      (At { r with pc := top b r.sp, sp := r.sp + 2 } b) := by
  refine leads_instr hcode hk rfl rfl ?_ rfl
  simp only [Cpu.exec, Cpu.returnWz, Cpu.popBase_eq]
  rfl

/-- `ret cc` -/
theorem leads_retConditional (hcode : Code b org code) (hk : code[k]? = some op)
    (hop : doOpcodeTable op = .run (.conditionalReturnWz cc)) :
    Leads Board.loop (At (atCode r org k) b)
      (At (if r.cpu.condition cc then { r with pc := top b r.sp, sp := r.sp + 2 }
        else atCode r org (k + 1)) b) := by
  refine leads_instr hcode hk hop rfl ?_ ?_
  · rw [Cpu.exec, Cpu.conditionalReturnWz, condition_atCode]
    cases r.cpu.condition cc with
    | true =>
      simp only [Cpu.returnWz, Cpu.popBase_eq]
      rfl
    | false => rfl
  · rw [Cpu.exec, Cpu.conditionalReturnWz]
    split <;> rfl

/-- `push af` -/
theorem leads_pushAf (hcode : Code b org code) (hk : code[k]? = some 0xF5) :
    Leads Board.loop (At (atCode r org k) b)
      (At { atCode r org (k + 1) with sp := r.sp - 2 } (pushed b (r.sp - 2) r.af)) := by
  have hnext : r.sp - 1 = r.sp - 2 + 1 := by bv_omega
  refine leads_instr hcode hk rfl rfl ?_ ?_
  · simp only [Cpu.exec, Cpu.push, Cpu.pushBase_eq]
    rfl
  · simp only [Cpu.exec, Cpu.push, Cpu.pushBase_eq]
    show (⟨some (((b.write (r.sp - 1) (hi r.af)).write (r.sp - 2) (lo r.af)).write (r.sp - 2)
      (lo r.af))⟩ : OnBoard H K) = _
    -- The low byte is written twice.
    rw [hnext, pushed, Board.write_write]

/-- `pop af` -/
theorem leads_popAf (hcode : Code b org code) (hk : code[k]? = some 0xF1) :
    Leads Board.loop (At (atCode r org k) b)
      (At { atCode r org (k + 1) with sp := r.sp + 2, af := top b r.sp } b) := by
  refine leads_instr hcode hk rfl rfl ?_ rfl
  simp only [Cpu.exec, Cpu.pop, Cpu.popBase_eq]
  rfl

/-! ### Ports -/

/-- `out (v), a` -/
theorem leads_out (hcode : Code b org code) (hk : code[k]? = some 0xD3)
    (hv : code[k + 1]? = some v) (hout : b.output (word (hi r.af) v) (hi r.af) = some b') :
    Leads Board.loop (At (atCode r org k) b) (At (atCode r org (k + 2)) b') := by
  refine leads_instr hcode hk rfl rfl ?_ ?_
  · simp only [Cpu.exec, Cpu.outputImmediateIndirect, immediate_code r hcode hv]
    rfl
  · simp only [Cpu.exec, Cpu.outputImmediateIndirect, immediate_code r hcode hv]
    exact congrArg OnBoard.mk hout

/-- `in a, (v)` -/
theorem leads_in (hcode : Code b org code) (hk : code[k]? = some 0xDB)
    (hv : code[k + 1]? = some v) (hin : b.input (word (hi r.af) v) = some (v', b')) :
    Leads Board.loop (At (atCode r org k) b)
      (At { atCode r org (k + 2) with af := word v' (lo r.af) } b') := by
  have hport : Bus.input (⟨some b⟩ : OnBoard H K)
      (word ((atCode r org (k + 1)).cpu.register .A) v) = (v', ⟨some b'⟩) := by
    show Bus.input (⟨some b⟩ : OnBoard H K) (word (hi r.af) v) = _
    simp only [Bus.input, Option.bind_some, hin]
  refine leads_instr hcode hk rfl rfl ?_ ?_
  · simp only [Cpu.exec, Cpu.inputImmediateIndirect, immediate_code r hcode hv, hport]
    rfl
  · simp only [Cpu.exec, Cpu.inputImmediateIndirect, immediate_code r hcode hv, hport]

/-- `halt`, with the interrupt line released. -/
theorem leads_halt (hcode : Code b org code) (hk : code[k]? = some 0x76)
    (hline : b.interrupted = false) :
    Leads Board.loop (At (atCode r org k) b) (Halted b) := by
  apply Leads.once
  rintro ⟨c, board⟩ ⟨hwords, rfl, hcalm⟩
  have hpc : c.pc = pcAt org k := congrArg Regs.pc hwords
  have hop :
      doOpcodeTable (Bus.read (⟨some board⟩ : OnBoard H K) c.takeEnable.pc) = .run .halt := by
    show doOpcodeTable (board.byte c.takeEnable.pc) = _
    rw [takeEnable_calm hcalm, hpc, hcode.byte hk]
    rfl
  obtain ⟨c', hloop, -, hcontrol⟩ := loop_calm hcalm (Cpu.decoded_of_run hop) rfl hcalm.disabled
  refine ⟨(c', board), hloop, rfl, ?_⟩
  have hhalted := congrArg Cpu.Control.halted hcontrol
  rw [hline] at hhalted
  exact hhalted

end

end Software

end Possum
