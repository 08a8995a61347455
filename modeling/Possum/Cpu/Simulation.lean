import Possum.Cpu.Effects
import Possum.Cpu.Repeat

/-!
# Buses that the processor cannot tell apart

A `BusSimulation` relates two buses, of any types, as long as the first one is alive: they show the
same bytes, answer the same and interrupt together, and an operation on both keeps them related.
Then a step on both is the same step (`step_related`), because an instruction is a function of what
a bus shows and its operations are performed one by one.

`Recorded β` is the bus `β` with the operations done to it.  A run on it is the run on `β`, whose
last bus is the first one with the log performed on it, and the log is short (**`many_recorded`**).
-/

set_option autoImplicit false

namespace Possum

open BusOp

/-- The second bus does what the first one does, while the first one is alive.  A bus that is not
alive stays so. -/
structure BusSimulation {β γ : Type} [InterruptBus β] [InterruptBus γ] (Alive : β → Prop)
    (R : β → γ → Prop) : Prop where
  read : ∀ {b b'}, R b b' → ∀ a, Bus.read b a = Bus.read b' a
  alive : ∀ {b} {op : BusOp}, Alive (op.perform b) → Alive b
  perform : ∀ {b b'} {op : BusOp}, R b b' → Alive (op.perform b) →
    op.answer b = op.answer b' ∧ R (op.perform b) (op.perform b')
  interrupted : ∀ {b b'}, R b b' → Alive b →
    InterruptBus.interrupted b = InterruptBus.interrupted b'

namespace BusSimulation

variable {β γ : Type} [InterruptBus β] [InterruptBus γ] {Alive : β → Prop} {R : β → γ → Prop}
  {b : β} {b' : γ}

theorem alive_performAll (sim : BusSimulation Alive R) {ops : List BusOp}
    (h : Alive (performAll b ops)) : Alive b := by
  induction ops generalizing b with
  | nil => exact h
  | cons op ops ih => exact sim.alive (ih h)

/-- Operations performed on both buses. -/
theorem performAll (sim : BusSimulation Alive R) {ops : List BusOp} (hR : R b b')
    (h : Alive (performAll b ops)) : R (performAll b ops) (BusOp.performAll b' ops) := by
  induction ops generalizing b b' with
  | nil => exact hR
  | cons op ops ih => exact ih (sim.perform hR (sim.alive_performAll h)).2 h

/-- **The effect is the same.**  The port that is asked is asked first, so both buses answer the
same. -/
theorem effectOn (sim : BusSimulation Alive R) {c : Cpu} {i : Instr} (hR : R b b')
    (h : Alive (BusOp.performAll b (c.effectOn b i).bus)) : c.effectOn b i = c.effectOn b' i := by
  have hread : Bus.read b = Bus.read b' := by
    funext a
    exact sim.read hR a
  have hbrief : Brief (c.effectOn b i).bus := c.brief_effect _ _ i
  show _ = c.effect (Bus.read b') _ i
  rw [← hread]
  apply Cpu.effect_answer
  intro p hp
  replace hp : .input p ∈ (c.effectOn b i).bus := hp
  obtain ⟨op, ops, hops⟩ := List.exists_cons_of_ne_nil (List.ne_nil_of_mem hp)
  rw [hops] at hp hbrief h
  rcases List.mem_cons.1 hp with rfl | htail
  · exact (sim.perform hR (sim.alive_performAll h)).1
  · exact Bool.noConfusion (hbrief.2 _ htail)

theorem decoded (sim : BusSimulation Alive R) (c : Cpu) (hR : R b b') :
    c.decoded b = c.decoded b' := by
  have hfetch : c.takeEnable.fetch b = c.takeEnable.fetch b' := by
    simp only [Cpu.fetch, Cpu.immediate, sim.read hR]
  show Cpu.decode b Cpu.callLimit (c.takeEnable.fetch b).1 (c.takeEnable.fetch b).2 =
    Cpu.decode b' Cpu.callLimit (c.takeEnable.fetch b').1 (c.takeEnable.fetch b').2
  rw [hfetch]
  exact Cpu.decode_congr (sim.read hR) _ _ _

theorem instructionEffect (sim : BusSimulation Alive R) {c : Cpu} {e : Effect} (hR : R b b')
    (h : c.instructionEffect b = some e) (he : Alive (BusOp.performAll b e.bus)) :
    c.instructionEffect b' = some e := by
  obtain ⟨d, hd, rfl⟩ := Option.map_eq_some_iff.1 h
  have heffect : d.cpu.effectOn b d.instr = d.cpu.effectOn b' d.instr := sim.effectOn hR he
  rw [Cpu.instructionEffect, ← sim.decoded c hR, hd, Option.map_some, ← heffect]

/-- **One step on both buses.** -/
theorem step (sim : BusSimulation Alive R) {c : Cpu} {o : Outcome β} (hR : R b b')
    (h : c.step b = .ok o) (ho : Alive o.bus) :
    ∃ bus', c.step b' = .ok ⟨o.cpu, bus', o.cycles⟩ ∧ R o.bus bus' := by
  obtain ⟨e₁, e₂, hins, hirq, rfl⟩ := Cpu.step_eq_ok h
  have hboth : Alive (BusOp.performAll (BusOp.performAll b e₁.bus) e₂.bus) := by
    rwa [← BusOp.performAll_append]
  have hfirst : Alive (BusOp.performAll b e₁.bus) := sim.alive_performAll hboth
  have hline := sim.interrupted (sim.performAll hR hfirst) hfirst
  refine ⟨_, Cpu.step_of_effects (sim.instructionEffect hR hins hfirst) ?_, sim.performAll hR ho⟩
  rw [← hline]
  exact hirq

end BusSimulation

/-! ### A bus with a log -/

/-- A bus with the operations done to it, in order. -/
structure Recorded (β : Type) where
  bus : β
  log : List BusOp := []

section

variable {β : Type} [InterruptBus β]

instance : InterruptBus (Recorded β) where
  read l a := Bus.read l.bus a
  write l a v := ⟨Bus.write l.bus a v, l.log ++ [.write a v]⟩
  input l p := ((Bus.input l.bus p).1, ⟨(Bus.input l.bus p).2, l.log ++ [.input p]⟩)
  output l p v := ⟨Bus.output l.bus p v, l.log ++ [.output p v]⟩
  interrupted l := InterruptBus.interrupted l.bus

theorem perform_recorded (op : BusOp) (bus : β) (log : List BusOp) :
    op.perform (⟨bus, log⟩ : Recorded β) = ⟨op.perform bus, log ++ [op]⟩ := by
  cases op <;> rfl

theorem performAll_recorded (ops : List BusOp) (bus : β) (log : List BusOp) :
    performAll (⟨bus, log⟩ : Recorded β) ops = ⟨performAll bus ops, log ++ ops⟩ := by
  induction ops generalizing bus log with
  | nil => rw [List.append_nil]; rfl
  | cons op ops ih =>
    rw [performAll_cons, perform_recorded, ih, performAll_cons, List.append_assoc]
    rfl

/-- The log is no more than a record. -/
theorem recorded_simulates :
    BusSimulation (fun _ => True) fun (bus : β) (l : Recorded β) => l.bus = bus where
  read := by
    rintro bus l rfl a
    rfl
  alive := fun _ => trivial
  perform := by
    rintro bus ⟨-, log⟩ op rfl -
    rw [perform_recorded]
    cases op <;> exact ⟨rfl, rfl⟩
  interrupted := by
    rintro bus l rfl -
    rfl

end

namespace BusOp

/-- The port accesses among some operations. -/
def ports (ops : List BusOp) : ℕ := ops.countP fun op => !op.isWrite

/-- The writes among some operations. -/
def writes (ops : List BusOp) : ℕ := ops.countP isWrite

theorem ports_of_writes {ops : List BusOp} (h : ∀ op ∈ ops, op.isWrite = true) : ports ops = 0 := by
  apply List.countP_eq_zero.2
  intro op hop
  simp [h op hop]

theorem ports_le_one {ops : List BusOp} (h : ∀ op ∈ ops.tail, op.isWrite = true) :
    ports ops ≤ 1 := by
  cases ops with
  | nil => exact Nat.zero_le 1
  | cons op ops =>
    have htail : ops.countP (fun op => !op.isWrite) = 0 := ports_of_writes h
    rw [ports, List.countP_cons, htail]
    split <;> omega

end BusOp

namespace Cpu

variable {β : Type} [InterruptBus β]

/-- **One step with a log**: at most five operations are added, and none of them but the first is a
port access. -/
theorem step_recorded {c : Cpu} {bus : β} {o : Outcome β} (h : c.step bus = .ok o)
    (log : List BusOp) :
    ∃ ops, c.step (⟨bus, log⟩ : Recorded β) = .ok ⟨o.cpu, ⟨o.bus, log ++ ops⟩, o.cycles⟩ ∧
      o.bus = performAll bus ops ∧ ops.length ≤ 5 ∧ ∀ op ∈ ops.tail, op.isWrite = true := by
  obtain ⟨e₁, e₂, hins, hirq, rfl⟩ := step_eq_ok h
  obtain ⟨hfew, htail⟩ := brief_instructionEffect hins
  obtain ⟨htwo, hwrites⟩ := writes_irqEffect hirq
  have hins' : c.instructionEffect (⟨bus, log⟩ : Recorded β) = some e₁ :=
    recorded_simulates.instructionEffect rfl hins trivial
  refine ⟨e₁.bus ++ e₂.bus, ?_, rfl, ?_, ?_⟩
  · rw [← performAll_recorded]
    apply step_of_effects hins'
    rw [performAll_recorded]
    exact hirq
  · rw [List.length_append]
    omega
  · intro op hop
    cases hops : e₁.bus with
    | nil =>
      rw [hops, List.nil_append] at hop
      exact hwrites op (List.mem_of_mem_tail hop)
    | cons first rest =>
      rw [hops, List.cons_append, List.tail_cons] at hop
      rw [hops, List.tail_cons] at htail
      rcases List.mem_append.1 hop with hop | hop
      · exact htail op hop
      · exact hwrites op hop

/-- **Runs with a log.**  The log does not change the run, the last bus is the first one with the
log performed on it, and there is at most one port access a step. -/
theorem many_recorded {c : Cpu} {bus : β} {n : ℕ} {o : Outcome β} (h : c.many n bus = .ok o) :
    ∃ log, c.many n (⟨bus, []⟩ : Recorded β) = .ok ⟨o.cpu, ⟨o.bus, log⟩, o.cycles⟩ ∧
      o.bus = performAll bus log ∧ ports log ≤ n ∧ writes log ≤ 5 * n := by
  induction n generalizing o with
  | zero =>
    cases h
    exact ⟨[], rfl, rfl, le_rfl, le_rfl⟩
  | succ n ih =>
    cases hn : c.many n bus with
    | error fault =>
      rw [many, hn] at h
      cases h
    | ok o₁ =>
      rw [many, hn] at h
      change (o₁.cpu.step o₁.bus).map _ = _ at h
      cases hstep : o₁.cpu.step o₁.bus with
      | error fault =>
        rw [hstep] at h
        cases h
      | ok o₂ =>
        rw [hstep] at h
        cases h
        obtain ⟨log, hmany, hbus, hports, hwrites⟩ := ih hn
        obtain ⟨ops, hstep', hbus', hlen, htail⟩ := step_recorded hstep log
        have hports' : ports ops ≤ 1 := ports_le_one htail
        have hwrites' : writes ops ≤ 5 := List.countP_le_length.trans hlen
        refine ⟨log ++ ops, ?_, ?_, ?_, ?_⟩
        · rw [many, hmany]
          show (o₁.cpu.step (⟨o₁.bus, log⟩ : Recorded β)).map _ = _
          rw [hstep']
          rfl
        · show o₂.bus = _
          rw [performAll_append, ← hbus, hbus']
        · rw [ports, List.countP_append]
          rw [ports] at hports hports'
          omega
        · rw [writes, List.countP_append]
          rw [writes] at hwrites hwrites'
          omega

/-- `push bc` at address 0. -/
theorem many_recorded_push : ∃ o log,
    ({} : Cpu).many 1 (⟨TestBus.withMem [0xC5], false⟩ : Wired TestBus) = .ok o ∧
      ({} : Cpu).many 1 (⟨⟨TestBus.withMem [0xC5], false⟩, []⟩ : Recorded (Wired TestBus)) =
        .ok ⟨o.cpu, ⟨o.bus, log⟩, o.cycles⟩ ∧
      o.bus = performAll (⟨TestBus.withMem [0xC5], false⟩ : Wired TestBus) log ∧
      ports log ≤ 1 ∧ writes log ≤ 5 * 1 := by
  have hdec : ({} : Cpu).decoded (TestBus.withMem [0xC5]) = some _ :=
    decoded_of_run (i := .push .BC) rfl
  obtain ⟨o, hstep⟩ : ∃ o,
      ({} : Cpu).step (⟨TestBus.withMem [0xC5], false⟩ : Wired TestBus) = .ok o :=
    ⟨_, step_released (instruction_of_decoded hdec)⟩
  have hmany : ({} : Cpu).many 1 (⟨TestBus.withMem [0xC5], false⟩ : Wired TestBus) =
      .ok (o.addCycles 0) := by
    show (({} : Cpu).step _).map _ = _
    rw [hstep]
    rfl
  obtain ⟨log, hlog⟩ := many_recorded hmany
  exact ⟨o.addCycles 0, log, hmany, hlog⟩

end Cpu

end Possum
