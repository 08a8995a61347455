import Possum.Cpu.Line

/-!
# What an instruction does to the bus

An instruction reads what it needs, asks at most one port, and only then writes.  So it is a
function of the bytes of the memory and of one answer: `Probe` is a bus that shows both and writes
down what is done to it, and on every bus an instruction does what it does on the probe, with the
operations written down performed (`exec_on`, `instruction_on`).

`exec_brief` says of every instruction how many operations there are and in which order, and
`exec_answer` that no port counts but the one that is asked.
-/

set_option autoImplicit false

namespace Possum

/-- An operation that may change the bus. -/
inductive BusOp
  | write (a : U16) (v : U8)
  | input (p : U16)
  | output (p : U16) (v : U8)
  deriving DecidableEq, Repr

namespace BusOp

def isWrite : BusOp → Bool
  | .write _ _ => true
  | _ => false

/-- At most three operations, and none but the first is a port access. -/
def Brief (ops : List BusOp) : Prop := ops.length ≤ 3 ∧ ∀ op ∈ ops.tail, op.isWrite = true

theorem brief_nil : Brief [] := ⟨by simp, by simp⟩

theorem brief_one (op : BusOp) : Brief [op] := ⟨by simp, by simp⟩

theorem brief_two (op : BusOp) (a : U16) (v : U8) : Brief [op, .write a v] := by
  refine ⟨by simp, ?_⟩
  intro op' h
  rw [List.mem_singleton.1 h]
  rfl

theorem brief_three (op : BusOp) (a a' : U16) (v v' : U8) :
    Brief [op, .write a v, .write a' v'] := by
  refine ⟨by simp, ?_⟩
  intro op' h
  rcases List.mem_pair.1 h with rfl | rfl
  · rfl
  · rfl

section

variable {β : Type} [Bus β]

/-- What a port answers; a write is not answered. -/
def answer (bus : β) : BusOp → U8
  | .input p => (Bus.input bus p).1
  | _ => 0

def perform (bus : β) : BusOp → β
  | .write a v => Bus.write bus a v
  | .input p => (Bus.input bus p).2
  | .output p v => Bus.output bus p v

def performAll (bus : β) (ops : List BusOp) : β := ops.foldl perform bus

theorem performAll_cons (bus : β) (op : BusOp) (ops : List BusOp) :
    performAll bus (op :: ops) = performAll (op.perform bus) ops := rfl

theorem performAll_append (bus : β) (ops ops' : List BusOp) :
    performAll bus (ops ++ ops') = performAll (performAll bus ops) ops' :=
  List.foldl_append

end

end BusOp

open BusOp

/-- The bytes of a memory and what each port would answer, with the operations done so far.  None
of them changes what is shown. -/
structure Probe where
  memory : U16 → U8
  answers : U16 → U8
  ops : List BusOp := []

instance : Bus Probe where
  read p a := p.memory a
  write p a v := { p with ops := p.ops ++ [.write a v] }
  input p port := (p.answers port, { p with ops := p.ops ++ [.input port] })
  output p port v := { p with ops := p.ops ++ [.output port v] }

/-- An effect: the operations stand in the place of the bus. -/
abbrev Effect := Outcome (List BusOp)

/-- What was done to the probe. -/
def Outcome.effect (o : Outcome Probe) : Effect := ⟨o.cpu, o.bus.ops, o.cycles⟩

/-- The effect on a bus: the operations are performed there. -/
def Effect.on {β : Type} [Bus β] (e : Effect) (bus : β) : Outcome β :=
  ⟨e.cpu, performAll bus e.bus, e.cycles⟩

namespace Cpu

/-- What an instruction makes of the bytes of the memory and the answers of the ports. -/
def effect (c : Cpu) (memory answers : U16 → U8) (i : Instr) : Effect :=
  (c.exec (⟨memory, answers, []⟩ : Probe) i).effect

/-- What an instruction makes of what a bus shows. -/
def effectOn {β : Type} [Bus β] (c : Cpu) (bus : β) (i : Instr) : Effect :=
  c.effect (Bus.read bus) (fun p => (Bus.input bus p).1) i

variable {β : Type} [Bus β]

/-! ### One instruction -/

theorem rewound_on (again : Bool) (o : Outcome Probe) (bus : β) :
    (if again then rewound (o.effect.on bus) else o.effect.on bus) =
      (if again then rewound o else o).effect.on bus := by
  cases again <;> rfl

theorem repeatPort_on (c : Cpu) (p : Probe) (bus : β) :
    repeatPort (c, performAll bus p.ops) = (repeatPort (c, p)).effect.on bus := by
  simp only [repeatPort]
  split <;> rfl

/-- **An instruction does on every bus what it does on the probe.** -/
theorem exec_on (c : Cpu) (bus : β) (i : Instr) : c.exec bus i = (c.effectOn bus i).on bus := by
  let probe : Probe := ⟨Bus.read bus, fun p => (Bus.input bus p).1, []⟩
  cases i with
  | djnzWz => simp only [effectOn, effect, exec, djnzWz]; split <;> rfl
  | conditionalJumpRelativeWz cc =>
    simp only [effectOn, effect, exec, conditionalJumpRelativeWz]
    split <;> rfl
  | conditionalReturnWz cc =>
    simp only [effectOn, effect, exec, conditionalReturnWz]
    split <;> rfl
  | conditionalCallWz cc =>
    simp only [effectOn, effect, exec, conditionalCallWz]
    split <;> rfl
  | ldir => exact rewound_on _ (loadBlock up c probe) bus
  | lddr => exact rewound_on _ (loadBlock down c probe) bus
  | cpir => exact rewound_on _ (compareBlock up c probe) bus
  | cpdrWz => exact rewound_on _ (compareBlock down c probe) bus
  | inirWz => exact repeatPort_on _ (inputBlock up c probe).2 bus
  | indrWz => exact repeatPort_on _ (inputBlock down c probe).2 bus
  | otirWz => exact repeatPort_on _ (outputBlock up c probe).2 bus
  | otdrWz => exact repeatPort_on _ (outputBlock down c probe).2 bus
  | rlcIndexIndirectWz | rrcIndexIndirectWz | rlIndexIndirectWz | rrIndexIndirectWz
  | slaIndexIndirectWz | sraIndexIndirectWz | sllIndexIndirectWz | srlIndexIndirectWz
  | resetBitIndexIndirectWz | setBitIndexIndirectWz =>
    rename_i reg
    cases reg <;> rfl
  | _ => rfl

/-! ### How many operations, and in which order -/

theorem brief_rewound (again : Bool) {o : Outcome Probe} (h : Brief o.bus.ops) :
    Brief (if again then rewound o else o).bus.ops := by
  cases again <;> exact h

theorem brief_repeatPort {r : Cpu × Probe} (h : Brief r.2.ops) : Brief (repeatPort r).bus.ops := by
  simp only [repeatPort]
  split <;> exact h

/-- **At most one port access, before any write, and at most three operations.** -/
theorem brief_effect (c : Cpu) (memory answers : U16 → U8) (i : Instr) :
    Brief (c.effect memory answers i).bus := by
  cases i with
  | djnzWz =>
    simp only [effect, exec, djnzWz]
    split <;> exact brief_nil
  | conditionalJumpRelativeWz cc =>
    simp only [effect, exec, conditionalJumpRelativeWz]
    split <;> exact brief_nil
  | conditionalReturnWz cc =>
    simp only [effect, exec, conditionalReturnWz]
    split <;> exact brief_nil
  | conditionalCallWz cc =>
    simp only [effect, exec, conditionalCallWz]
    split
    · exact brief_two _ _ _
    · exact brief_nil
  | ldir => exact brief_rewound _ (o := loadBlock up c _) (brief_one _)
  | lddr => exact brief_rewound _ (o := loadBlock down c _) (brief_one _)
  | cpir => exact brief_rewound _ (o := compareBlock up c _) brief_nil
  | cpdrWz => exact brief_rewound _ (o := compareBlock down c _) brief_nil
  | inirWz => exact brief_repeatPort (r := inputBlock up c _) (brief_two _ _ _)
  | indrWz => exact brief_repeatPort (r := inputBlock down c _) (brief_two _ _ _)
  | otirWz => exact brief_repeatPort (r := outputBlock up c _) (brief_one _)
  | otdrWz => exact brief_repeatPort (r := outputBlock down c _) (brief_one _)
  | rlcIndexIndirectWz | rrcIndexIndirectWz | rlIndexIndirectWz | rrIndexIndirectWz
  | slaIndexIndirectWz | sraIndexIndirectWz | sllIndexIndirectWz | srlIndexIndirectWz
  | resetBitIndexIndirectWz | setBitIndexIndirectWz =>
    rename_i reg
    cases reg <;> exact brief_one _
  | writeIndirectWz | writeAbsoluteWz | writeImmediateHlIndirect | copyHlIndirectRegister
  | incHlIndirect | decHlIndirect | incIndexIndirectWz | decIndexIndirectWz
  | writeImmediateIndexIndirectWz | writeIndexIndirectWz | rlcHlIndirect | rrcHlIndirect
  | rlHlIndirect | rrHlIndirect | slaHlIndirect | sraHlIndirect | sllHlIndirect | srlHlIndirect
  | resetBitHlIndirect | setBitHlIndirect | rrdWz | rldWz | ldi | ldd | outputImmediateIndirect
  | inputImmediateIndirect | input | output | inputAndDrop | outputZero | outiWz | outdWz =>
    exact brief_one _
  | writeWideAbsoluteWz | callWz | resetWz | exchangeStackPointerIndirectWz | iniWz | indWz =>
    exact brief_two _ _ _
  | push => exact brief_three _ _ _ _ _
  | _ => exact brief_nil

/-! ### The port that is asked -/

theorem effect_rewound (again : Bool) (o : Outcome Probe) :
    (if again then rewound o else o).effect = if again then rewound o.effect else o.effect := by
  cases again <;> rfl

theorem effect_repeatPort (r : Cpu × Probe) :
    (repeatPort r).effect = repeatPort (r.1, r.2.ops) := by
  simp only [repeatPort]
  split <;> rfl

section

variable {c : Cpu} {memory answers answers' : U16 → U8} {i : Instr}

/-- An instruction that asks port `p` and no other. -/
theorem effect_of_asked {p : U16}
    (hasks : ∀ answers, c.effect memory answers i = c.effect memory (fun _ => answers p) i)
    (hop : .input p ∈ (c.effect memory answers i).bus)
    (h : ∀ p, .input p ∈ (c.effect memory answers i).bus → answers p = answers' p) :
    c.effect memory answers i = c.effect memory answers' i := by
  rw [hasks answers, hasks answers', h p hop]

/-- A repeating input asks the port in BC. -/
theorem effect_of_block {move : U16 → U16}
    (hi : ∀ answers, c.effect memory answers i =
      repeatPort ((inputBlock move c (⟨memory, answers, []⟩ : Probe)).1,
        [.input c.bc, .write c.hl (answers c.bc)]))
    (h : ∀ p, .input p ∈ (c.effect memory answers i).bus → answers p = answers' p) :
    c.effect memory answers i = c.effect memory answers' i := by
  refine effect_of_asked (p := c.bc) ?_ ?_ h
  · intro answers
    rw [hi, hi]
    rfl
  · rw [hi, repeatPort]
    split <;> exact List.mem_cons_self

/-- **No port counts but the one that is asked.** -/
theorem effect_answer
    (h : ∀ p, .input p ∈ (c.effect memory answers i).bus → answers p = answers' p) :
    c.effect memory answers i = c.effect memory answers' i := by
  let probe : Probe := ⟨memory, answers, []⟩
  let probe' : Probe := ⟨memory, answers', []⟩
  cases i with
  | inputImmediateIndirect =>
    exact effect_of_asked (p := word (c.register .A) (memory c.pc)) (fun _ => rfl)
      List.mem_cons_self h
  | input | inputAndDrop | iniWz | indWz =>
    exact effect_of_asked (p := c.bc) (fun _ => rfl) List.mem_cons_self h
  | inirWz => exact effect_of_block (fun _ => effect_repeatPort (inputBlock up c _)) h
  | indrWz => exact effect_of_block (fun _ => effect_repeatPort (inputBlock down c _)) h
  | otirWz =>
    exact (effect_repeatPort (outputBlock up c probe)).trans
      (effect_repeatPort (outputBlock up c probe')).symm
  | otdrWz =>
    exact (effect_repeatPort (outputBlock down c probe)).trans
      (effect_repeatPort (outputBlock down c probe')).symm
  | ldir =>
    exact (effect_rewound _ (loadBlock up c probe)).trans
      (effect_rewound _ (loadBlock up c probe')).symm
  | lddr =>
    exact (effect_rewound _ (loadBlock down c probe)).trans
      (effect_rewound _ (loadBlock down c probe')).symm
  | cpir =>
    exact (effect_rewound _ (compareBlock up c probe)).trans
      (effect_rewound _ (compareBlock up c probe')).symm
  | cpdrWz =>
    exact (effect_rewound _ (compareBlock down c probe)).trans
      (effect_rewound _ (compareBlock down c probe')).symm
  | djnzWz =>
    simp only [effect, exec, djnzWz]
    split <;> rfl
  | conditionalJumpRelativeWz cc =>
    simp only [effect, exec, conditionalJumpRelativeWz]
    split <;> rfl
  | conditionalReturnWz cc =>
    simp only [effect, exec, conditionalReturnWz]
    split <;> rfl
  | conditionalCallWz cc =>
    simp only [effect, exec, conditionalCallWz]
    split <;> rfl
  | rlcIndexIndirectWz | rrcIndexIndirectWz | rlIndexIndirectWz | rrIndexIndirectWz
  | slaIndexIndirectWz | sraIndexIndirectWz | sllIndexIndirectWz | srlIndexIndirectWz
  | resetBitIndexIndirectWz | setBitIndexIndirectWz =>
    rename_i reg
    cases reg <;> rfl
  | _ => rfl

end

/-! ### Instructions and interrupts -/

/-- What the instruction of a step makes of what a bus shows. -/
def instructionEffect (c : Cpu) (bus : β) : Option Effect :=
  (c.decoded bus).map fun d => (d.cpu.effectOn bus d.instr).addCycles d.cycles

theorem instruction_on (c : Cpu) (bus : β) :
    c.instruction bus = (c.instructionEffect bus).map fun e => Effect.on e bus := by
  rw [instruction_eq, instructionEffect, Option.map_map]
  congr 1
  funext d
  rw [Decoded.run, exec_on]
  rfl

theorem brief_instructionEffect {c : Cpu} {bus : β} {e : Effect}
    (h : c.instructionEffect bus = some e) : Brief e.bus := by
  obtain ⟨d, -, rfl⟩ := Option.map_eq_some_iff.1 h
  exact brief_effect _ _ _ _

/-- What an interrupt makes of the processor, with the line at a level. -/
def irqEffect (c : Cpu) (line : Bool) : Except Fault Effect :=
  (doIrq c (⟨⟨fun _ => 0, fun _ => 0, []⟩, line⟩ : Wired Probe)).map fun o =>
    ⟨o.cpu, o.bus.bus.ops, o.cycles⟩

theorem doIrq_on {γ : Type} [InterruptBus γ] (c : Cpu) (bus : γ) :
    c.doIrq bus =
      (c.irqEffect (InterruptBus.interrupted bus)).map fun e => Effect.on e bus := by
  simp only [irqEffect, doIrq, InterruptBus.interrupted]
  cases InterruptBus.interrupted bus with
  | false => rfl
  | true =>
    cases c.iff1 with
    | false => rfl
    | true => cases c.interruptMode <;> rfl

/-- An interrupt writes twice or not at all. -/
theorem writes_irqEffect {c : Cpu} {line : Bool} {e : Effect} (h : c.irqEffect line = .ok e) :
    e.bus.length ≤ 2 ∧ ∀ op ∈ e.bus, op.isWrite = true := by
  have hcases : e.bus = [] ∨ ∃ a v a' v', e.bus = [.write a v, .write a' v'] := by
    simp only [irqEffect, doIrq, InterruptBus.interrupted] at h
    cases line with
    | false =>
      cases h
      exact .inl rfl
    | true =>
      cases hiff : c.iff1 with
      | false =>
        simp only [hiff] at h
        cases h
        exact .inl rfl
      | true =>
        simp only [hiff] at h
        cases hmode : c.interruptMode with
        | one =>
          simp only [hmode] at h
          cases h
          exact .inr ⟨_, _, _, _, rfl⟩
        | zero | two =>
          simp only [hmode] at h
          cases h
  obtain hnil | ⟨a, v, a', v', htwo⟩ := hcases
  · rw [hnil]
    exact ⟨by simp, by simp⟩
  · rw [htwo]
    refine ⟨le_rfl, ?_⟩
    intro op hop
    rcases List.mem_pair.1 hop with rfl | rfl
    · rfl
    · rfl

/-- **The operations of a step**: those of the instruction, then those of the interrupt. -/
theorem step_eq_ok {γ : Type} [InterruptBus γ] {c : Cpu} {bus : γ} {o : Outcome γ}
    (h : c.step bus = .ok o) :
    ∃ e₁ e₂, c.instructionEffect bus = some e₁ ∧
      e₁.cpu.irqEffect (InterruptBus.interrupted (performAll bus e₁.bus)) = .ok e₂ ∧
      o = ⟨e₂.cpu, performAll bus (e₁.bus ++ e₂.bus), e₁.cycles + e₂.cycles⟩ := by
  rw [step, instruction_on] at h
  cases hins : c.instructionEffect bus with
  | none =>
    rw [hins] at h
    cases h
  | some e₁ =>
    simp only [hins, Option.map_some, doIrq_on] at h
    cases hirq : e₁.cpu.irqEffect (InterruptBus.interrupted (performAll bus e₁.bus)) with
    | error fault =>
      simp only [Effect.on, hirq] at h
      cases h
    | ok e₂ =>
      simp only [Effect.on, hirq] at h
      cases h
      refine ⟨e₁, e₂, rfl, hirq, ?_⟩
      rw [performAll_append]
      rfl

theorem step_of_effects {γ : Type} [InterruptBus γ] {c : Cpu} {bus : γ} {e₁ e₂ : Effect}
    (hins : c.instructionEffect bus = some e₁)
    (hirq : e₁.cpu.irqEffect (InterruptBus.interrupted (performAll bus e₁.bus)) = .ok e₂) :
    c.step bus = .ok ⟨e₂.cpu, performAll bus (e₁.bus ++ e₂.bus), e₁.cycles + e₂.cycles⟩ := by
  rw [step, instruction_on, hins]
  simp only [Option.map_some, doIrq_on, Effect.on, hirq, performAll_append]
  rfl

end Cpu

end Possum
