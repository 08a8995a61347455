import Possum.Cpu.Interrupts

/-!
# Masked and accepted interrupts

Two comparisons of a step with the line asserted and the same step with the line released.

* A masked interrupt should not show.  It always does: `do_irq` takes the processor out of
  the halt state, copies PC to WZ and counts two cycles before it gives up
  (`not_invisible_of_masked`, `halted_iff_released`).
* An accepted interrupt should not disturb the program, once the handler at 0x0038 has
  returned.  `transparent_iff` states that this is so exactly if the interrupted instruction
  is not HALT, which leaves PC at itself and so is executed again.
-/

set_option autoImplicit false

namespace Possum.Cpu

open Lib Lib.Machine

variable {β : Type} [Bus β]

/-! ### Masked interrupts -/

/-- What a step leaves, but for the line itself. -/
def seen (o : Outcome (Wired β)) : Cpu × β × ℕ := (o.cpu, o.bus.bus, o.cycles)

/-- IFF1 is false when `do_irq` runs. -/
def Masked (c : Cpu) (bus : β) : Prop := ∃ o, c.instruction bus = some o ∧ o.cpu.iff1 = false

/-- The step does the same with the line asserted and with the line released. -/
def Invisible (c : Cpu) (bus : β) : Prop :=
  (c.step (⟨bus, true⟩ : Wired β)).map seen = (c.step (⟨bus, false⟩ : Wired β)).map seen

theorem not_invisible_of_masked {c : Cpu} {bus : β} (h : Masked c bus) : ¬ Invisible c bus := by
  obtain ⟨o, ho, hmask⟩ := h
  intro heq
  rw [Invisible, step_masked ho hmask, step_released ho] at heq
  have hcycles : o.cycles + 2 = o.cycles := congrArg (fun x => x.2.2) (Except.ok.inj heq)
  omega

/-- Interrupts are disabled and stay so, and PC is at `p`. -/
structure Resting (p : U16) (c : Cpu) : Prop where
  pc : c.pc = p
  iff1 : c.iff1 = false
  pending : c.enableInterruptsNextCycle = false

/-- The instruction at PC is HALT. -/
def AtHalt (p : U16) (w : Wired β) : Prop := Bus.read w.bus p = 0x76

theorem halt_decoded {p : U16} {c : Cpu} {w : Wired β} (h : Resting p c) (hw : AtHalt p w) :
    c.decoded w.bus = some ⟨.halt, (c.fetch w.bus).2, 0⟩ := by
  have hte : c.takeEnable = c := by simp [takeEnable, h.pending]
  have hread : doOpcodeTable (Bus.read w.bus c.takeEnable.pc) = .run .halt := by
    rw [hte, h.pc, hw]
    rfl
  rw [decoded_of_run hread, hte]

theorem tick_eq {c : Cpu} {bus : β} {line : Bool} {d : Decoded} {r : Outcome (Wired β)}
    (hd : c.decoded bus = some d) (hr : c.step (⟨bus, line⟩ : Wired β) = .ok r) :
    Cpu.tick c (⟨bus, line⟩ : Wired β) =
      some (⟨d.instr, line && (d.run bus).cpu.iff1, r.cpu⟩, r.cpu) := by
  simp only [Cpu.tick, hd, hr]

/-- A step at HALT leaves the processor halted exactly if the line is released. -/
theorem Resting.tick {p : U16} {c : Cpu} {w : Wired β} (h : Resting p c) (hw : AtHalt p w) :
    ∃ t c', Cpu.tick c w = some (t, c') ∧ Resting p c' ∧ (c'.halted = true ↔ w.line = false) := by
  obtain ⟨bus, line⟩ := w
  have hd := halt_decoded h hw
  have hins := instruction_of_decoded hd
  have hpc : c.pc + 1 - 1 = p := by rw [BitVec.add_sub_cancel, h.pc]
  cases line with
  | false =>
    exact ⟨_, _, tick_eq hd (step_released hins), ⟨hpc, h.iff1, h.pending⟩, iff_of_true rfl rfl⟩
  | true =>
    exact ⟨_, _, tick_eq hd (step_masked hins h.iff1), ⟨hpc, h.iff1, h.pending⟩,
      iff_of_false Bool.false_ne_true (fun hl => Bool.false_ne_true hl.symm)⟩

/-- **At HALT with interrupts disabled**, the processor stays halted throughout a run exactly
if the line stays released. -/
theorem halted_iff_released {p : U16} {c : Cpu} {ws : List (Wired β)} (h : Resting p c)
    (hhalt : c.halted = true) (hw : ∀ w ∈ ws, AtHalt p w) :
    Throughout Cpu.tick (fun c => c.halted = true) c ws ↔ ∀ w ∈ ws, w.line = false := by
  induction ws generalizing c with
  | nil => simp [Throughout, hhalt]
  | cons w ws ih =>
    obtain ⟨t, c', ht, hrest, hline⟩ := h.tick (hw w (List.mem_cons_self ..))
    have hws : ∀ w ∈ ws, AtHalt p w := fun x hx => hw x (List.mem_cons_of_mem w hx)
    rw [List.forall_mem_cons, Throughout]
    constructor
    · rintro ⟨-, hnext⟩
      have hth := hnext t c' ht
      have hhalt' : c'.halted = true := hth.first
      exact ⟨hline.1 hhalt', (ih hrest hhalt' hws).1 hth⟩
    · rintro ⟨hl, hls⟩
      refine ⟨hhalt, ?_⟩
      intro o s hs
      rw [ht] at hs
      cases hs
      exact (ih hrest (hline.2 hl) hws).2 hls

/-- The processor is halted at a HALT, with interrupts disabled. -/
def Dormant (c : Cpu) (bus : β) : Prop :=
  c.halted = true ∧ Resting c.pc c ∧ Bus.read bus c.pc = 0x76

/-- **Masked interrupts always show.**  A step with the line asserted never does what it does
with the line released, and a dormant processor does not stay halted in any run in which the
line is asserted, even once. -/
theorem masked_never_invisible (c : Cpu) (bus : β) (h : Masked c bus) :
    ¬ Invisible c bus ∧
      ∀ lines : List Bool, Dormant c bus → true ∈ lines →
        ¬ Throughout Cpu.tick (fun c => c.halted = true) c
          (lines.map fun line => (⟨bus, line⟩ : Wired β)) := by
  refine ⟨not_invisible_of_masked h, ?_⟩
  rintro lines ⟨hhalt, hrest, hread⟩ hline hth
  have hw : ∀ w ∈ lines.map fun line => (⟨bus, line⟩ : Wired β), AtHalt c.pc w := by
    intro w hmem
    obtain ⟨line, -, rfl⟩ := List.mem_map.1 hmem
    exact hread
  have hreleased := (halted_iff_released hrest hhalt hw).1 hth
  cases hreleased _ (List.mem_map_of_mem hline)

/-- A HALT at address 0. -/
def haltProgram : TestBus := TestBus.withMem [0x76]

theorem masked_halt : Masked ({ halted := true } : Cpu) haltProgram :=
  ⟨_, instruction_of_decoded (decoded_of_run (i := .halt) rfl), rfl⟩

theorem dormant_halt : Dormant ({ halted := true } : Cpu) haltProgram :=
  ⟨rfl, ⟨rfl, rfl, rfl⟩, rfl⟩

theorem masked_never_invisible_halt :
    ¬ Invisible ({ halted := true } : Cpu) haltProgram ∧
      ¬ Throughout Cpu.tick (fun c => c.halted = true) ({ halted := true } : Cpu)
        ([true].map fun line => (⟨haltProgram, line⟩ : Wired TestBus)) :=
  ⟨(masked_never_invisible _ _ masked_halt).1,
    (masked_never_invisible _ _ masked_halt).2 [true] dormant_halt (List.mem_singleton_self _)⟩

/-- At the HALT, one step with the line asserted and one with the line released. -/
theorem not_invisible_halt :
    Masked ({ halted := true } : Cpu) haltProgram ∧
      ¬ Invisible ({ halted := true } : Cpu) haltProgram :=
  ⟨masked_halt, not_invisible_of_masked masked_halt⟩

/-! ### Registers that survive -/

/-- The registers that an interrupt leaves alone, SP aside. -/
structure Agree (c c' : Cpu) : Prop where
  af : c.af = c'.af
  bc : c.bc = c'.bc
  de : c.de = c'.de
  hl : c.hl = c'.hl
  ix : c.ix = c'.ix
  iy : c.iy = c'.iy
  afPrime : c.afPrime = c'.afPrime
  bcPrime : c.bcPrime = c'.bcPrime
  dePrime : c.dePrime = c'.dePrime
  hlPrime : c.hlPrime = c'.hlPrime

theorem Agree.trans {c c' c'' : Cpu} (h : Agree c c') (h' : Agree c' c'') : Agree c c'' where
  af := h.af.trans h'.af
  bc := h.bc.trans h'.bc
  de := h.de.trans h'.de
  hl := h.hl.trans h'.hl
  ix := h.ix.trans h'.ix
  iy := h.iy.trans h'.iy
  afPrime := h.afPrime.trans h'.afPrime
  bcPrime := h.bcPrime.trans h'.bcPrime
  dePrime := h.dePrime.trans h'.dePrime
  hlPrime := h.hlPrime.trans h'.hlPrime

theorem agree_takeEnable (c : Cpu) : Agree c.takeEnable c := by
  unfold takeEnable
  split <;> exact ⟨rfl, rfl, rfl, rfl, rfl, rfl, rfl, rfl, rfl, rfl⟩

theorem agree_fetch (c : Cpu) (bus : β) : Agree (c.fetch bus).2 c :=
  ⟨rfl, rfl, rfl, rfl, rfl, rfl, rfl, rfl, rfl, rfl⟩

theorem agree_pending (c : Cpu) (pending : Bool) :
    Agree { c with enableInterruptsNextCycle := pending } c :=
  ⟨rfl, rfl, rfl, rfl, rfl, rfl, rfl, rfl, rfl, rfl⟩

theorem agree_acknowledge (c : Cpu) (bus : β) : Agree (c.acknowledge bus).1 c :=
  ⟨rfl, rfl, rfl, rfl, rfl, rfl, rfl, rfl, rfl, rfl⟩

theorem takeEnable_pc (c : Cpu) : c.takeEnable.pc = c.pc := by
  unfold takeEnable
  split <;> rfl

theorem takeEnable_sp (c : Cpu) : c.takeEnable.sp = c.sp := by
  unfold takeEnable
  split <;> rfl

/-! ### The handler -/

/-- EI and RETI at 0x0038. -/
structure Handler (bus : β) : Prop where
  ei : Bus.read bus 0x0038 = 0xFB
  ed : Bus.read bus 0x0039 = 0xED
  reti : Bus.read bus 0x003A = 0x4D

/-- The two bytes below the stack pointer are not the handler's. -/
def Apart (sp : U16) : Prop := ∀ a : U16, 0x0038 ≤ a → a ≤ 0x003A → a ≠ sp - 1 ∧ a ≠ sp - 2

/-- The stacked PC, with the rest of memory as before. -/
theorem read_acknowledge [RamBus β] (c : Cpu) (bus : β) (a : U16) :
    Bus.read (c.acknowledge bus).2 a =
      if a = c.sp - 2 then lo c.pc else if a = c.sp - 1 then hi c.pc else Bus.read bus a := by
  show Bus.read (pushBase { c with halted := false, iff1 := false, iff2 := false } c.pc bus).2 a = _
  rw [pushBase_eq, RamBus.read_write, RamBus.read_write]

theorem read_acknowledge_of_ne [RamBus β] {c : Cpu} {a : U16} (bus : β) (h₁ : a ≠ c.sp - 1)
    (h₂ : a ≠ c.sp - 2) : Bus.read (c.acknowledge bus).2 a = Bus.read bus a := by
  rw [read_acknowledge, if_neg h₂, if_neg h₁]

theorem acknowledge_sp (c : Cpu) (bus : β) : (c.acknowledge bus).1.sp = c.sp - 2 := by
  show c.sp - 1 - 1 = c.sp - 2
  bv_omega

/-- The word on the stack is the PC that was pushed. -/
theorem word_acknowledge [RamBus β] (c : Cpu) (bus : β) :
    word (Bus.read (c.acknowledge bus).2 (c.sp - 2 + 1))
      (Bus.read (c.acknowledge bus).2 (c.sp - 2)) = c.pc := by
  have hup : c.sp - 2 + 1 = c.sp - 1 := by bv_omega
  have hne : c.sp - 1 ≠ c.sp - 2 := by bv_omega
  rw [hup, read_acknowledge, read_acknowledge, if_neg hne, if_pos rfl, if_pos rfl, word_hi_lo]

/-- Pushing PC leaves the handler in place. -/
theorem handler_acknowledge [RamBus β] {c : Cpu} {bus : β} (h : Handler bus) (hsp : Apart c.sp) :
    Handler (c.acknowledge bus).2 := by
  have hcode (a : U16) (hle : 0x0038 ≤ a) (hge : a ≤ 0x003A) :
      Bus.read (c.acknowledge bus).2 a = Bus.read bus a :=
    read_acknowledge_of_ne bus (hsp a hle hge).1 (hsp a hle hge).2
  constructor
  · rw [hcode 0x0038 (by decide) (by decide), h.ei]
  · rw [hcode 0x0039 (by decide) (by decide), h.ed]
  · rw [hcode 0x003A (by decide) (by decide), h.reti]

/-- The step of EI. -/
theorem step_ei (c : Cpu) (bus : β) (h : Bus.read bus c.pc = 0xFB) :
    c.step (⟨bus, false⟩ : Wired β) =
      .ok ⟨{ (c.takeEnable.fetch bus).2 with enableInterruptsNextCycle := true },
        ⟨bus, false⟩, 4⟩ := by
  have hread : doOpcodeTable (Bus.read bus c.takeEnable.pc) = .run .enableInterrupts := by
    rw [takeEnable_pc, h]
    rfl
  rw [step_released (instruction_of_decoded (decoded_of_run hread))]
  rfl

/-- The step of RETI returns to the word on the stack. -/
theorem step_reti (c : Cpu) (bus : β) (h : Bus.read bus c.pc = 0xED)
    (h' : Bus.read bus (c.pc + 1) = 0x4D) :
    ∃ r, c.step (⟨bus, false⟩ : Wired β) = .ok r ∧ r.bus.bus = bus ∧
      r.cpu.pc = word (Bus.read bus (c.sp + 1)) (Bus.read bus c.sp) ∧ r.cpu.sp = c.sp + 2 ∧
      Agree r.cpu c := by
  have hread : doOpcodeTable (Bus.read bus c.takeEnable.pc) = .ed := by
    rw [takeEnable_pc, h]
    rfl
  have hreti : edPrefixTable (Bus.read bus (c.takeEnable.pc + 1)) = some .retiWz := by
    rw [takeEnable_pc, h']
    rfl
  have hins := instruction_of_decoded (decoded_of_extended hread hreti)
  have hsp : ((c.takeEnable.fetch bus).2.fetch bus).2.sp = c.sp := takeEnable_sp c
  have hagree : Agree ((c.takeEnable.fetch bus).2.fetch bus).2 c :=
    ((agree_fetch _ bus).trans (agree_fetch _ bus)).trans (agree_takeEnable c)
  generalize ((c.takeEnable.fetch bus).2.fetch bus).2 = x at hins hsp hagree
  have hreturn : x.returnWz bus =
      ⟨((x.setSp (c.sp + 2)).setPc (word (Bus.read bus (c.sp + 1)) (Bus.read bus c.sp))).setWz
        (word (Bus.read bus (c.sp + 1)) (Bus.read bus c.sp)), bus, 10⟩ := by
    rw [returnWz, popBase_eq, hsp]
  refine ⟨_, step_released hins, rfl, ?_, ?_, ?_⟩
  · show (x.returnWz bus).cpu.pc = _
    rw [hreturn]
    rfl
  · show (x.returnWz bus).cpu.sp = _
    rw [hreturn]
    rfl
  · exact ⟨hagree.af, hagree.bc, hagree.de, hagree.hl, hagree.ix, hagree.iy, hagree.afPrime,
      hagree.bcPrime, hagree.dePrime, hagree.hlPrime⟩

/-- **The handler returns** to the word on the stack, in two steps. -/
theorem handler_returns {c : Cpu} {bus : β} (hpc : c.pc = 0x0038) (hram : Handler bus) :
    ∃ r r', c.step (⟨bus, false⟩ : Wired β) = .ok r ∧
      r.cpu.step (⟨r.bus.bus, false⟩ : Wired β) = .ok r' ∧ r'.bus.bus = bus ∧
      r'.cpu.pc = word (Bus.read bus (c.sp + 1)) (Bus.read bus c.sp) ∧ r'.cpu.sp = c.sp + 2 ∧
      Agree r'.cpu c := by
  have hei := step_ei c bus (by rw [hpc]; exact hram.ei)
  have hpc' : (c.takeEnable.fetch bus).2.pc = 0x0039 := by
    show c.takeEnable.pc + 1 = 0x0039
    rw [takeEnable_pc, hpc]
    rfl
  have hsp' : (c.takeEnable.fetch bus).2.sp = c.sp := takeEnable_sp c
  have hagree' : Agree (c.takeEnable.fetch bus).2 c :=
    (agree_fetch c.takeEnable bus).trans (agree_takeEnable c)
  generalize (c.takeEnable.fetch bus).2 = x at hei hpc' hsp' hagree'
  obtain ⟨r', hreti, hbus, hret, hsp, hagree⟩ :=
    step_reti { x with enableInterruptsNextCycle := true } bus
      (by
        show Bus.read bus x.pc = 0xED
        rw [hpc']
        exact hram.ed)
      (by
        show Bus.read bus (x.pc + 1) = 0x4D
        rw [hpc']
        exact hram.reti)
  refine ⟨_, r', hei, hreti, hbus, ?_, ?_, ?_⟩
  · rw [hret]
    show word (Bus.read bus (x.sp + 1)) (Bus.read bus x.sp) = _
    rw [hsp']
  · rw [hsp]
    show x.sp + 2 = c.sp + 2
    rw [hsp']
  · exact (hagree.trans (agree_pending x true)).trans hagree'

/-! ### Accepted interrupts -/

/-- The interrupted step, EI and RETI lead from `c` to the instruction at `next`, and leave
the registers and memory of `r` but for the two stack bytes. -/
def Restores (c : Cpu) (bus : β) (r : Outcome (Wired β)) (next : U16) : Prop :=
  ∃ r₁ r₂ r₃, c.step (⟨bus, true⟩ : Wired β) = .ok r₁ ∧
    r₁.cpu.step (⟨r₁.bus.bus, false⟩ : Wired β) = .ok r₂ ∧
    r₂.cpu.step (⟨r₂.bus.bus, false⟩ : Wired β) = .ok r₃ ∧
    r₃.cpu.pc = next ∧ r₃.cpu.sp = r.cpu.sp ∧ Agree r₃.cpu r.cpu ∧
    ∀ a, a ≠ r.cpu.sp - 1 → a ≠ r.cpu.sp - 2 → Bus.read r₃.bus.bus a = Bus.read r.bus.bus a

/-- An interrupt is transparent: execution resumes where the step alone would have left it,
and behind a HALT. -/
def Transparent (c : Cpu) (bus : β) (r : Outcome (Wired β)) : Prop :=
  Restores c bus r (if c.executes bus = some .halt then r.cpu.pc + 1 else r.cpu.pc)

theorem step_released_inv {c : Cpu} {bus : β} {r : Outcome (Wired β)}
    (h : c.step (⟨bus, false⟩ : Wired β) = .ok r) :
    ∃ o, c.instruction bus = some o ∧ r = o.wired false := by
  cases hins : c.instruction bus with
  | none =>
    rw [step_eq, hins] at h
    cases h
  | some o =>
    rw [step_released hins] at h
    exact ⟨o, rfl, (Except.ok.inj h).symm⟩

/-- The handler leads back to the PC that was pushed. -/
theorem restores_pc [RamBus β] {c : Cpu} {bus : β} {r : Outcome (Wired β)}
    (h : c.step (⟨bus, false⟩ : Wired β) = .ok r) (hiff : r.cpu.iff1 = true)
    (hmode : r.cpu.interruptMode = .one) (hram : Handler r.bus.bus) (hsp : Apart r.cpu.sp) :
    Restores c bus r r.cpu.pc := by
  obtain ⟨o, hins, rfl⟩ := step_released_inv h
  have hacc := step_accepted hins hiff hmode
  obtain ⟨r₂, r₃, hei, hreti, hbus, hpc, hsp₃, hagree⟩ :=
    handler_returns (c := (o.cpu.acknowledge o.bus).1) rfl (handler_acknowledge hram hsp)
  refine ⟨_, r₂, r₃, hacc, hei, hreti, ?_, ?_, ?_, ?_⟩
  · rw [hpc, acknowledge_sp]
    exact word_acknowledge o.cpu o.bus
  · rw [hsp₃, acknowledge_sp]
    show o.cpu.sp - 2 + 2 = o.cpu.sp
    bv_omega
  · exact hagree.trans (agree_acknowledge o.cpu o.bus)
  · intro a h₁ h₂
    rw [hbus]
    exact read_acknowledge_of_ne o.bus h₁ h₂

/-- The three steps are determined, so there is one PC to return to. -/
theorem restores_unique {c : Cpu} {bus : β} {r : Outcome (Wired β)} {p q : U16}
    (h : Restores c bus r p) (h' : Restores c bus r q) : p = q := by
  obtain ⟨r₁, r₂, r₃, h₁, h₂, h₃, rfl, -⟩ := h
  obtain ⟨s₁, s₂, s₃, g₁, g₂, g₃, rfl, -⟩ := h'
  rw [h₁] at g₁
  cases g₁
  rw [h₂] at g₂
  cases g₂
  rw [h₃] at g₃
  cases g₃
  rfl

/-- RETI leads back to the HALT itself. -/
theorem not_transparent_of_halt [RamBus β] {c : Cpu} {bus : β} {r : Outcome (Wired β)}
    (h : c.step (⟨bus, false⟩ : Wired β) = .ok r) (hiff : r.cpu.iff1 = true)
    (hmode : r.cpu.interruptMode = .one) (hram : Handler r.bus.bus) (hsp : Apart r.cpu.sp)
    (hhalt : c.executes bus = some .halt) : ¬ Transparent c bus r := by
  intro htrans
  rw [Transparent, if_pos hhalt] at htrans
  have hne : r.cpu.pc + 1 ≠ r.cpu.pc := by bv_omega
  exact hne (restores_unique htrans (restores_pc h hiff hmode hram hsp))

/-- **An interrupt is transparent exactly if it does not come with a HALT.** -/
theorem transparent_iff [RamBus β] (c : Cpu) (bus : β) (r : Outcome (Wired β))
    (h : c.step (⟨bus, false⟩ : Wired β) = .ok r) (hiff : r.cpu.iff1 = true)
    (hmode : r.cpu.interruptMode = .one) (hram : Handler r.bus.bus) (hsp : Apart r.cpu.sp) :
    Transparent c bus r ↔ c.executes bus ≠ some .halt := by
  constructor
  · intro htrans hhalt
    exact not_transparent_of_halt h hiff hmode hram hsp hhalt htrans
  · intro hhalt
    rw [Transparent, if_neg hhalt]
    exact restores_pc h hiff hmode hram hsp

/-- An opcode at address 0 and the handler at 0x0038. -/
def handlerProgram (opcode : U8) : TestBus :=
  TestBus.withMem (opcode :: List.replicate 0x37 0x00 ++ [0xFB, 0xED, 0x4D])

theorem handler_handlerProgram (opcode : U8) : Handler (handlerProgram opcode) :=
  ⟨rfl, rfl, rfl⟩

/-- Interrupts enabled in mode 1, and the stack out of the way. -/
def interruptible : Cpu := { sp := 0x8000, interruptMode := .one, iff1 := true, iff2 := true }

theorem apart_interruptible : Apart interruptible.sp := by
  intro a _ hle
  show a ≠ 0x8000 - 1 ∧ a ≠ 0x8000 - 2
  constructor <;> bv_omega

theorem transparent_iff_nop :
    ∃ r, interruptible.step (⟨handlerProgram 0x00, false⟩ : Wired TestBus) = .ok r ∧
      (Transparent interruptible (handlerProgram 0x00) r ↔
        interruptible.executes (handlerProgram 0x00) ≠ some .halt) := by
  have hnop : interruptible.decoded (handlerProgram 0x00) =
      some ⟨.nop, (interruptible.takeEnable.fetch (handlerProgram 0x00)).2, 0⟩ :=
    decoded_of_run rfl
  have hstep := step_released (instruction_of_decoded hnop)
  exact ⟨_, hstep, transparent_iff _ _ _ hstep rfl rfl (handler_handlerProgram 0x00)
    apart_interruptible⟩

/-- The interrupt comes with a HALT at address 0, and the handler returns to address 0. -/
theorem not_transparent_halt :
    ∃ r, interruptible.step (⟨handlerProgram 0x76, false⟩ : Wired TestBus) = .ok r ∧
      r.cpu.iff1 = true ∧ r.cpu.interruptMode = .one ∧ Handler r.bus.bus ∧ Apart r.cpu.sp ∧
      ¬ Transparent interruptible (handlerProgram 0x76) r := by
  have hhalt : interruptible.decoded (handlerProgram 0x76) =
      some ⟨.halt, (interruptible.takeEnable.fetch (handlerProgram 0x76)).2, 0⟩ :=
    decoded_of_run rfl
  have hstep := step_released (instruction_of_decoded hhalt)
  have hram := handler_handlerProgram 0x76
  exact ⟨_, hstep, rfl, rfl, hram, apart_interruptible,
    not_transparent_of_halt hstep rfl rfl hram apart_interruptible (executes_of_decoded hhalt)⟩

end Possum.Cpu
