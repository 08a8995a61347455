import Possum.Cpu.Instr
import Possum.Lib.Stack

/-!
# The stack

PUSH, CALL, RST, POP, RET and EX (SP) on a memory that is RAM are a stack of words, for every
initial SP and down to the depth at which the stack fills the 64 KiB.

The stack is a machine with SP and the bus for its state.  Its inputs are the operations, each
with the processor at that moment, whose registers may be anything; SP is the machine's.
`Represents` relates its states to lists of words.  One lemma for each kind of command says
what the methods do to memory, `step_represents` that they do what the list machine does, and
`run_represents` that whole runs do.  The theorem on bracketed sequences is then the one of
`Lib.Stack`.
-/

set_option autoImplicit false

namespace Possum

open Lib

/-- The registers that PUSH and POP name. -/
abbrev StackRegister := {reg : WideRegister // reg ∈ [WideRegister.AF, .BC, .DE, .HL, .IX, .IY]}

inductive StackOp
  | push (reg : StackRegister)
  | call
  | rst (offset : U8)
  | pop (reg : StackRegister)
  | ret
  | exchange (reg : StackRegister)

namespace StackOp

def instr : StackOp → Instr
  | .push reg => .push reg
  | .call => .callWz
  | .rst offset => .resetWz offset
  | .pop reg => .pop reg
  | .ret => .returnWz
  | .exchange reg => .exchangeStackPointerIndirectWz reg

/-- The command to the stack, for the processor past the opcode.  CALL pushes the address
behind its operand. -/
def command (c : Cpu) : StackOp → StackCmd U16
  | .push reg => .push (c.wideRegister reg)
  | .call => .push (c.pc + 2)
  | .rst _ => .push c.pc
  | .pop _ => .pop
  | .ret => .pop
  | .exchange reg => .swap (c.wideRegister reg)

/-- The word the operation takes from the stack, in the processor it leaves. -/
def received (c : Cpu) : StackOp → Option U16
  | .push _ => none
  | .call => none
  | .rst _ => none
  | .pop reg => some (c.wideRegister reg)
  | .ret => some c.pc
  | .exchange reg => some (c.wideRegister reg)

end StackOp

namespace Cpu

variable {β : Type} [Bus β]

/-- The stack as a machine. -/
def stackStep : Machine (U16 × β) (Cpu × StackOp) (Option U16)
  | (sp, bus), (c, op) =>
    let o := (c.setSp sp).exec bus op.instr
    some (op.received o.cpu, (o.cpu.sp, o.bus))

theorem wideRegister_setSp (c : Cpu) (sp : U16) (reg : StackRegister) :
    (c.setSp sp).wideRegister reg = c.wideRegister reg := by
  obtain ⟨reg, hreg⟩ := reg
  cases reg <;> first | rfl | simp at hreg

theorem sp_setWideRegister (c : Cpu) (reg : StackRegister) (v : U16) :
    (c.setWideRegister reg v).sp = c.sp := by
  obtain ⟨reg, hreg⟩ := reg
  cases reg <;> first | rfl | simp at hreg

theorem wideRegister_setWideRegister (c : Cpu) (reg : WideRegister) (v : U16) :
    (c.setWideRegister reg v).wideRegister reg = v := by
  cases reg <;> rfl

/-! ### Words in memory -/

/-- The word at `a`. -/
def wordAt (bus : β) (a : U16) : U16 := word (Bus.read bus (a + 1)) (Bus.read bus a)

/-- `bus'` is `bus` with the word `w` stored at `a`. -/
def Stores (bus : β) (a w : U16) (bus' : β) : Prop :=
  ∀ b, Bus.read bus' b = if b = a then lo w else if b = a + 1 then hi w else Bus.read bus b

theorem Stores.wordAt {bus bus' : β} {a w : U16} (h : Stores bus a w bus') :
    wordAt bus' a = w := by
  have hne : a + 1 ≠ a := by bv_omega
  rw [Cpu.wordAt, h, h, if_neg hne, if_pos rfl, if_pos rfl, word_hi_lo]

theorem Stores.read {bus bus' : β} {a w b : U16} (h : Stores bus a w bus')
    (hb : 2 ≤ (b - a).toNat) : Bus.read bus' b = Bus.read bus b := by
  have hne : b ≠ a := by bv_omega
  have hne' : b ≠ a + 1 := by bv_omega
  rw [h, if_neg hne, if_neg hne']

variable [RamBus β]

theorem stores_pushBase (c : Cpu) (w : U16) (bus : β) :
    Stores bus (c.sp - 2) w (c.pushBase w bus).2 := by
  intro b
  have hnext : c.sp - 2 + 1 = c.sp - 1 := by bv_omega
  rw [pushBase_eq, RamBus.read_write, RamBus.read_write, hnext]

/-! ### The operations -/

/-- PUSH, CALL and RST.  PUSH stores the low byte a second time. -/
theorem stackStep_push {c : Cpu} {op : StackOp} {w : U16} (h : op.command c = .push w) (sp : U16)
    (bus : β) :
    ∃ bus', stackStep (sp, bus) (c, op) = some (none, (sp - 2, bus')) ∧
      Stores bus (sp - 2) w bus' := by
  cases op with
  | push reg =>
    obtain rfl : c.wideRegister reg = w := StackCmd.push.inj h
    have hstores : Stores bus (sp - 2) (c.wideRegister reg) _ :=
      stores_pushBase (c.setSp sp) (c.wideRegister reg) bus
    refine ⟨Bus.write ((c.setSp sp).pushBase (c.wideRegister reg) bus).2 (sp - 2)
      (lo (c.wideRegister reg)), ?_, ?_⟩
    · simp only [stackStep, StackOp.instr, exec, push, wideRegister_setSp, pushBase_eq]
      rfl
    · intro b
      rw [RamBus.read_write, hstores]
      by_cases hb : b = sp - 2
      · rw [if_pos hb, if_pos hb]
      · rw [if_neg hb, if_neg hb]
  | call =>
    obtain rfl : c.pc + 2 = w := StackCmd.push.inj h
    refine ⟨((c.setSp sp).pushBase (c.pc + 2) bus).2, ?_,
      stores_pushBase (c.setSp sp) (c.pc + 2) bus⟩
    simp only [stackStep, StackOp.instr, exec, callWz, wideImmediate_eq, pushBase_eq]
    rfl
  | rst offset =>
    obtain rfl : c.pc = w := StackCmd.push.inj h
    refine ⟨((c.setSp sp).pushBase c.pc bus).2, ?_, stores_pushBase (c.setSp sp) c.pc bus⟩
    simp only [stackStep, StackOp.instr, exec, resetWz, pushBase_eq]
    rfl
  | pop | ret | exchange => cases h

omit [RamBus β] in
/-- POP and RET. -/
theorem stackStep_pop {c : Cpu} {op : StackOp} (h : op.command c = .pop) (sp : U16) (bus : β) :
    stackStep (sp, bus) (c, op) = some (some (wordAt bus sp), (sp + 2, bus)) := by
  cases op with
  | pop reg =>
    simp only [stackStep, StackOp.instr, exec, pop, popBase_eq, StackOp.received,
      wideRegister_setWideRegister, sp_setWideRegister]
    rfl
  | ret =>
    simp only [stackStep, StackOp.instr, exec, returnWz, popBase_eq, StackOp.received]
    rfl
  | push | call | rst | exchange => cases h

/-- EX (SP): the word comes back through WZ. -/
theorem stackStep_swap {c : Cpu} {op : StackOp} {w : U16} (h : op.command c = .swap w) (sp : U16)
    (bus : β) :
    ∃ bus', stackStep (sp, bus) (c, op) = some (some (wordAt bus sp), (sp, bus')) ∧
      Stores bus sp w bus' := by
  cases op with
  | exchange reg =>
    obtain rfl : c.wideRegister reg = w := StackCmd.swap.inj h
    have hback : sp + 2 - 2 = sp := by bv_omega
    have hnext : sp + 2 - 1 = sp + 1 := by bv_omega
    refine ⟨Bus.write (Bus.write bus (sp + 1) (hi (c.wideRegister reg))) sp
      (lo (c.wideRegister reg)), ?_, ?_⟩
    · have hreg := wideRegister_setSp (c.setWz (wordAt bus sp)) (sp + 2) reg
      have hwz : (c.setWz (wordAt bus sp)).wideRegister reg = c.wideRegister reg := by
        cases reg.1 <;> rfl
      simp only [stackStep, StackOp.instr, exec, exchangeStackPointerIndirectWz, popBase_eq,
        pushBase_eq, StackOp.received, wideRegister_setWideRegister, sp_setWideRegister]
      show some (some (wordAt bus sp), (sp + 2 - 2, Bus.write (Bus.write bus (sp + 2 - 1)
        (hi (((c.setWz (wordAt bus sp)).setSp (sp + 2)).wideRegister reg))) (sp + 2 - 2)
        (lo (((c.setWz (wordAt bus sp)).setSp (sp + 2)).wideRegister reg)))) = _
      rw [hback, hnext, hreg, hwz]
    · intro b
      rw [RamBus.read_write, RamBus.read_write]
  | push | call | rst | pop | ret => cases h

/-! ### Lists of words -/

/-- The words of `s` lie in memory from `sp` on. -/
def Holds (bus : β) : U16 → List U16 → Prop
  | _, [] => True
  | sp, w :: s => wordAt bus sp = w ∧ Holds bus (sp + 2) s

/-- The stack pointer for `n` words below `base`. -/
def pointer (base : U16) (n : ℕ) : U16 := base - BitVec.ofNat 16 (2 * n)

/-- SP and memory represent the words of `s`, below `base`. -/
structure Represents (base : U16) (s : List U16) (st : U16 × β) : Prop where
  sp_eq : st.1 = pointer base s.length
  holds : Holds st.2 st.1 s

/-- The bytes of memory but for the `2 * n` below `base`. -/
def Frame (base : U16) (n : ℕ) (bus bus' : β) : Prop :=
  ∀ a : U16, 2 * n ≤ (base - 1 - a).toNat → Bus.read bus' a = Bus.read bus a

omit [RamBus β] in
/-- The words stay if no byte of theirs changes. -/
theorem Holds.congr {bus bus' : β} {sp : U16} {s : List U16} (h : Holds bus sp s)
    (hlen : s.length ≤ 32768)
    (hread : ∀ a : U16, (a - sp).toNat < 2 * s.length → Bus.read bus' a = Bus.read bus a) :
    Holds bus' sp s := by
  induction s generalizing sp with
  | nil => trivial
  | cons w s ih =>
    rw [List.length_cons] at hlen hread
    obtain ⟨hw, hs⟩ := h
    refine ⟨?_, ih hs (by omega) ?_⟩
    · have hlow := hread sp (by bv_omega)
      have hhigh := hread (sp + 1) (by bv_omega)
      rw [← hw, wordAt, wordAt, hlow, hhigh]
    · intro a ha
      apply hread
      have hoff : (a - sp).toNat = ((a - (sp + 2)).toNat + 2) % 65536 := by bv_omega
      omega

theorem pointer_succ (base : U16) (n : ℕ) : pointer base (n + 1) = pointer base n - 2 := by
  have htwo : BitVec.ofNat 16 (2 * (n + 1)) = BitVec.ofNat 16 (2 * n) + 2 := by
    rw [Nat.mul_succ, BitVec.ofNat_add]
    rfl
  rw [pointer, pointer, htwo]
  bv_omega

omit [RamBus β] in
theorem Frame.trans {base : U16} {n : ℕ} {bus bus' bus'' : β} (h : Frame base n bus bus')
    (h' : Frame base n bus' bus'') : Frame base n bus bus'' := by
  intro a ha
  rw [h' a ha, h a ha]

omit [RamBus β] in
/-- A word stored among the `n` below `base`. -/
theorem frame_of_stores {base : U16} {k n : ℕ} {bus bus' : β} {w : U16} (hk : k < n)
    (hn : n ≤ 32768) (h : Stores bus (pointer base (k + 1)) w bus') : Frame base n bus bus' := by
  intro a ha
  apply h.read
  rw [pointer]
  bv_omega

omit [RamBus β] in
/-- A word stored in front of others. -/
theorem holds_of_stores {bus bus' : β} {a w : U16} {s : List U16} (h : Stores bus a w bus')
    (hs : Holds bus (a + 2) s) (hlen : s.length + 1 ≤ 32768) : Holds bus' a (w :: s) := by
  refine ⟨h.wordAt, hs.congr (by omega) ?_⟩
  intro b hb
  apply h.read
  bv_omega

/-- **A step of the stack** does what the list machine does, and only among the `n` words
below `base`. -/
theorem step_represents {base : U16} {n : ℕ} {s s' : List U16} {st : U16 × β} {c : Cpu}
    {op : StackOp} {answer : Option U16} (hn : n ≤ 32768) (hlen : s.length ≤ n)
    (h : Represents base s st)
    (hstep : StackCmd.limited n s (op.command c) = some (answer, s')) :
    ∃ st', stackStep st (c, op) = some (answer, st') ∧ Represents base s' st' ∧
      s'.length ≤ n ∧ Frame base n st.2 st'.2 := by
  obtain ⟨sp, bus⟩ := st
  obtain ⟨rfl, hholds⟩ := h
  obtain ⟨w, hcmd, rfl, rfl, hlt⟩ | ⟨w, hcmd, rfl, rfl⟩ | ⟨w, v, t, hcmd, rfl, rfl, rfl⟩ :=
    StackCmd.limited_cases hstep
  · obtain ⟨bus', hpush, hstores⟩ := stackStep_push hcmd (pointer base s.length) bus
    rw [← pointer_succ] at hpush hstores
    have hback : pointer base (s.length + 1) + 2 = pointer base s.length := by
      rw [pointer_succ]
      bv_omega
    refine ⟨_, hpush, ⟨rfl, holds_of_stores hstores ?_ (by omega)⟩, hlt,
      frame_of_stores hlt hn hstores⟩
    rw [hback]
    exact hholds
  · rw [List.length_cons] at hlen
    have hpop := stackStep_pop hcmd (pointer base (s'.length + 1)) bus
    have hnext : pointer base (s'.length + 1) + 2 = pointer base s'.length := by
      rw [pointer_succ]
      bv_omega
    obtain ⟨hw, hrest⟩ := hholds
    rw [List.length_cons, hnext] at hrest
    rw [List.length_cons] at hw
    rw [hw, hnext] at hpop
    exact ⟨_, hpop, ⟨rfl, hrest⟩, by omega, fun _ _ => rfl⟩
  · rw [List.length_cons] at hlen
    obtain ⟨bus', hswap, hstores⟩ := stackStep_swap hcmd (pointer base (t.length + 1)) bus
    obtain ⟨hw, hrest⟩ := hholds
    rw [List.length_cons] at hw hrest
    rw [hw] at hswap
    exact ⟨_, hswap, ⟨rfl, holds_of_stores hstores hrest (by omega)⟩, hlen,
      frame_of_stores hlen hn hstores⟩

/-- **A run of the stack** does what the list machine does. -/
theorem run_represents {base : U16} {n : ℕ} {s s' : List U16} {st : U16 × β}
    {ops : List (Cpu × StackOp)} {answers : List (Option U16)} (hn : n ≤ 32768)
    (hlen : s.length ≤ n) (h : Represents base s st)
    (hrun : Machine.run (StackCmd.limited n) s (ops.map fun i => i.2.command i.1) =
      some (answers, s')) :
    ∃ st', Machine.run stackStep st ops = some (answers, st') ∧ Represents base s' st' ∧
      Frame base n st.2 st'.2 := by
  induction ops generalizing s st answers with
  | nil =>
    cases hrun
    exact ⟨st, rfl, h, fun _ _ => rfl⟩
  | cons i ops ih =>
    obtain ⟨answer, s₁, answers', hstep, hrest, rfl⟩ := Machine.run_cons_eq_some hrun
    obtain ⟨st₁, hfirst, h₁, hlen₁, hframe⟩ := step_represents hn hlen h hstep
    obtain ⟨st', hst', h', hframe'⟩ := ih hlen₁ h₁ hrest
    refine ⟨st', ?_, h', hframe.trans hframe'⟩
    rw [Machine.run_cons hfirst, hst']
    rfl

/-! ### Bracketed sequences -/

/-- A run that leaves the list machine empty, from any SP. -/
theorem run_empty {n : ℕ} {ops : List (Cpu × StackOp)} {answers : List (Option U16)}
    (hn : n ≤ 32768)
    (hrun : Machine.run (StackCmd.limited n) [] (ops.map fun i => i.2.command i.1) =
      some (answers, [])) (sp : U16) (bus : β) :
    ∃ bus', Machine.run stackStep (sp, bus) ops = some (answers, (sp, bus')) ∧
      Frame sp n bus bus' := by
  have hsp : pointer sp 0 = sp := by
    rw [pointer]
    bv_omega
  have hempty : Represents sp [] (sp, bus) := ⟨hsp.symm, trivial⟩
  obtain ⟨⟨sp', bus'⟩, hst, h, hframe⟩ := run_represents (s := []) hn (Nat.zero_le n) hempty hrun
  obtain rfl : sp' = sp := h.sp_eq.trans hsp
  exact ⟨bus', hst, hframe⟩

/-- **Stack discipline.**  Words that are pushed and then popped come back in the reverse
order.  In a bracketed sequence every pop receives the word of its own push, or the one that
EX (SP) last put in its place, and EX (SP) the word it replaces.  SP is restored, and only the
words below the initial SP change. -/
theorem stack_discipline (sp : U16) (bus : β) :
    (∀ (ws : List U16) (pushes pops : List (Cpu × StackOp)), ws.length ≤ 32768 →
      (pushes.map fun i => i.2.command i.1) = ws.map .push →
      (pops.map fun i => i.2.command i.1) = List.replicate ws.length .pop →
      ∃ bus', Machine.run stackStep (sp, bus) (pushes ++ pops) =
          some (List.replicate ws.length none ++ ws.reverse.map some, (sp, bus')) ∧
        Frame sp ws.length bus bus') ∧
    ∀ (n : ℕ) (ops : List (Cpu × StackOp)) (answers : List (Option U16)), n ≤ 32768 →
      StackCmd.Bracketed n (ops.map fun i => i.2.command i.1) answers →
      ∃ bus', Machine.run stackStep (sp, bus) ops = some (answers, (sp, bus')) ∧
        Frame sp n bus bus' := by
  constructor
  · intro ws pushes pops hlen hpushes hpops
    apply run_empty hlen
    rw [List.map_append, hpushes, hpops]
    exact StackCmd.run_push_pop ws (by rw [List.length_nil]; omega)
  · intro n ops answers hn hops
    apply run_empty hn
    exact hops.run [] (by rw [List.length_nil]; omega)

/-- With SP at 1, so that the stack wraps: two words, pushed and popped, and a CALL around an
EX (SP). -/
theorem stack_discipline_wrap :
    (∃ bus', Machine.run stackStep (1, TestBus.withMem [])
        ([({ bc := 0x1234 }, .push ⟨.BC, by decide⟩), ({ hl := 0x5678 }, .push ⟨.HL, by decide⟩)] ++
          [(({} : Cpu), .pop ⟨.DE, by decide⟩), (({} : Cpu), .ret)]) =
        some ([none, none, some 0x5678, some 0x1234], (1, bus')) ∧
      Frame 1 2 (TestBus.withMem []) bus') ∧
    ∃ bus', Machine.run stackStep (1, TestBus.withMem [])
        [({ pc := 0x4000 }, .call), ({ ix := 0x8000 }, .exchange ⟨.IX, by decide⟩),
          (({} : Cpu), .ret)] =
        some ([none, some 0x4002, some 0x8000], (1, bus')) ∧
      Frame 1 1 (TestBus.withMem []) bus' := by
  constructor
  · exact (stack_discipline 1 (TestBus.withMem [])).1 [0x1234, 0x5678] _ _ (by decide) rfl rfl
  · apply (stack_discipline 1 (TestBus.withMem [])).2 1 _ _ (by decide)
    exact .bracket (.swap (.nil 0 0x8000)) (.nil 1)

end Cpu

end Possum
