import Possum.Sys.PortMap
import Possum.Sys.Banks
import Possum.Sys.BlockIo
import Possum.Cpu.Simulation
import Possum.Vdc.Modes

/-!
# The devices behind the bus

What a run of the system does is one list of events: the operations of the processor and the ticks
of the video chip (`System.log`).  Every device runs on its own part of the list and on nothing else:
the keyboard and the disk on the accesses of their ports, the video chip on those and on the ticks,
and the memory on the writes and the bank selects (**`devices_of_log`**).  So no access is lost, made
twice or made out of order, and no device sees what is meant for another.
-/

set_option autoImplicit false

namespace Possum.Sys

open Lib Ata BusOp

/-! ### Devices as machines -/

section

variable {δ : Type} [Device δ]

/-- A device as a machine: a read answers its byte. -/
def Device.step : Machine δ PortOp (Option U8)
  | d, .read port => (Device.read d port).map fun r => (some r.1, r.2)
  | d, .write port data => (Device.write d port data).map fun d => (none, d)

/-- A device that may be absent: then a read answers 0. -/
def Device.stepAbsent : Machine (Option δ) PortOp (Option U8)
  | some d, op => (Device.step d op).map fun r => (r.1, some r.2)
  | none, .read _ => some (some 0, none)
  | none, .write _ _ => some (none, none)

end

/-! ### Events -/

/-- What happens to the system: an operation of the processor, or a tick of the video chip. -/
inductive Event
  | op (op : BusOp)
  | tick
  deriving DecidableEq, Repr

namespace Event

/-- The access of a device. -/
def device (dev : Selection) : Event → Option PortOp
  | .op (.input port) => if selection port = dev then some (.read (port &&& 0xFF)) else none
  | .op (.output port data) =>
    if selection port = dev then some (.write (port &&& 0xFF) data) else none
  | _ => none

/-- An access of the video chip, or a tick of it. -/
def vdc : Event → Option Vdc.Op
  | .tick => some .tick
  | .op access =>
    match device .vdc (.op access) with
    | some (.read port) => some (.read port)
    | some (.write port data) => some (.write port data)
    | none => none

/-- What reaches the memory. -/
def memory : Event → Option MemoryOp
  | .op (.write a data) => some (.write a data)
  | .op (.output port data) => if selection port = .bank then some (.select (hi port) data) else none
  | _ => none

end Event

namespace View

variable {H K : Type} [Device H] [Device K] {m : Overflow} {v v' : View H K}

/-- One event; a read of a port answers its byte. -/
def happen (m : Overflow) : Machine (View H K) Event (Option U8)
  | v, .op (.write a data) => (v.write a data).map fun v => (none, v)
  | v, .op (.input port) => (v.input m port).map fun r => (some r.1, r.2)
  | v, .op (.output port data) => (v.output m port data).map fun v => (none, v)
  | v, .tick => (v.vdc.tick m).map fun vdc => (none, { v with vdc := vdc })

omit [Device H] [Device K] in
/-- A write reaches the RAM alone. -/
theorem write_eq_some {a : U16} {data : U8} (h : v.write a data = some v') :
    ∃ ram, Sys.write v.ram v.bank.offset a data = some ram ∧ v' = { v with ram := ram } := by
  obtain ⟨ram, hram, rfl⟩ := Option.map_eq_some_iff.1 h
  exact ⟨ram, hram, rfl⟩

/-- **An input reaches the device that is selected.** -/
theorem input_cases {port : U16} {b : U8} (h : v.input m port = some (b, v')) :
    (selection port = .kb ∧ ∃ kb, Device.read v.kb (port &&& 0xFF) = some (b, kb) ∧
        v' = { v with kb := kb }) ∨
      (selection port = .hd ∧ ∃ hd, Device.stepAbsent v.hd (.read (port &&& 0xFF)) = some (some b, hd) ∧
        v' = { v with hd := hd }) ∨
      (selection port = .vdc ∧ ∃ vdc, v.vdc.read m (port &&& 0xFF) = some (b, vdc) ∧
        v' = { v with vdc := vdc }) ∨
      selection port ≠ .kb ∧ selection port ≠ .hd ∧ selection port ≠ .vdc ∧ v' = v := by
  rw [input_eq] at h
  cases hsel : selection port with
  | kb =>
    rw [hsel] at h
    obtain ⟨r, hr, heq⟩ := Option.map_eq_some_iff.1 h
    cases heq
    exact .inl ⟨rfl, r.2, hr, rfl⟩
  | hd =>
    rw [hsel, inputFrom] at h
    refine .inr (.inl ⟨rfl, ?_⟩)
    cases hhd : v.hd with
    | none =>
      simp only [hhd] at h
      cases h
      exact ⟨none, rfl, by rw [← hhd]⟩
    | some hd =>
      simp only [hhd] at h
      obtain ⟨r, hr, heq⟩ := Option.map_eq_some_iff.1 h
      cases heq
      refine ⟨some r.2, ?_, rfl⟩
      simp only [Device.stepAbsent, Device.step, hr, Option.map_some]
  | vdc =>
    rw [hsel] at h
    obtain ⟨r, hr, heq⟩ := Option.map_eq_some_iff.1 h
    cases heq
    exact .inr (.inr (.inl ⟨rfl, r.2, hr, rfl⟩))
  | absent | bank =>
    rw [hsel] at h
    cases h
    exact .inr (.inr (.inr ⟨by decide, by decide, by decide, rfl⟩))
  | ic =>
    rw [hsel] at h
    refine .inr (.inr (.inr ⟨by decide, by decide, by decide, ?_⟩))
    obtain ⟨hbusy, hquiet⟩ := inputFrom_ic m v (port &&& 0xFF)
    cases hline : v.interrupted with
    | true =>
      obtain ⟨b', hb⟩ := hbusy hline
      cases hb.symm.trans h
      rfl
    | false => cases (hquiet hline).symm.trans h

/-- **An output reaches the device that is selected.** -/
theorem output_cases {port : U16} {data : U8} (h : v.output m port data = some v') :
    (selection port = .kb ∧ ∃ kb, Device.write v.kb (port &&& 0xFF) data = some kb ∧
        v' = { v with kb := kb }) ∨
      (selection port = .hd ∧ ∃ hd,
        Device.stepAbsent v.hd (.write (port &&& 0xFF) data) = some (none, hd) ∧
        v' = { v with hd := hd }) ∨
      (selection port = .vdc ∧ ∃ vdc, v.vdc.write m (port &&& 0xFF) data = some vdc ∧
        v' = { v with vdc := vdc }) ∨
      (selection port = .bank ∧ v' = { v with bank := v.bank.select data }) ∨
      selection port ≠ .kb ∧ selection port ≠ .hd ∧ selection port ≠ .vdc ∧
        selection port ≠ .bank ∧ v' = v := by
  rw [output_eq] at h
  cases hsel : selection port with
  | kb =>
    rw [hsel] at h
    obtain ⟨kb, hkb, heq⟩ := Option.map_eq_some_iff.1 h
    cases heq
    exact .inl ⟨rfl, kb, hkb, rfl⟩
  | hd =>
    rw [hsel, outputTo] at h
    refine .inr (.inl ⟨rfl, ?_⟩)
    cases hhd : v.hd with
    | none =>
      simp only [hhd] at h
      cases h
      exact ⟨none, rfl, by rw [← hhd]⟩
    | some hd =>
      simp only [hhd] at h
      obtain ⟨hd', hhd', heq⟩ := Option.map_eq_some_iff.1 h
      cases heq
      refine ⟨some hd', ?_, rfl⟩
      simp only [Device.stepAbsent, Device.step, hhd', Option.map_some]
  | vdc =>
    rw [hsel] at h
    obtain ⟨vdc, hvdc, heq⟩ := Option.map_eq_some_iff.1 h
    cases heq
    exact .inr (.inr (.inl ⟨rfl, vdc, hvdc, rfl⟩))
  | bank =>
    rw [hsel] at h
    cases h
    exact .inr (.inr (.inr (.inl ⟨rfl, rfl⟩)))
  | absent | ic =>
    rw [hsel] at h
    cases h
    exact .inr (.inr (.inr (.inr ⟨by decide, by decide, by decide, by decide, rfl⟩)))

/-- What an event reaches. -/
inductive Reaches (m : Overflow) (e : Event) (v : View H K) : View H K → Prop
  | kb {a : PortOp} {o : Option U8} {kb : K} : e.device .kb = some a →
      Device.step v.kb a = some (o, kb) → e.device .hd = none → e.vdc = none → e.memory = none →
      Reaches m e v { v with kb := kb }
  | hd {a : PortOp} {o : Option U8} {hd : Option H} : e.device .hd = some a →
      Device.stepAbsent v.hd a = some (o, hd) → e.device .kb = none → e.vdc = none →
      e.memory = none → Reaches m e v { v with hd := hd }
  | vdc {a : Vdc.Op} {o : Option U8} {vdc : Vdc} : e.vdc = some a →
      Vdc.step m v.vdc a = some (o, vdc) → e.device .kb = none → e.device .hd = none →
      e.memory = none → Reaches m e v { v with vdc := vdc }
  | memory {a : MemoryOp} {o : Option U8} {bank : BankSelect} {ram : Ram} : e.memory = some a →
      MemoryOp.step m v a = some (o, { v with bank := bank, ram := ram }) →
      e.device .kb = none → e.device .hd = none → e.vdc = none →
      Reaches m e v { v with bank := bank, ram := ram }
  | nothing : e.device .kb = none → e.device .hd = none → e.vdc = none → e.memory = none →
      Reaches m e v v

/-- **An event reaches one device.** -/
theorem happen_reaches {e : Event} {o : Option U8} (h : happen m v e = some (o, v')) :
    Reaches m e v v' := by
  cases e with
  | tick =>
    obtain ⟨vdc, hvdc, heq⟩ := Option.map_eq_some_iff.1 h
    cases heq
    have hstep : Vdc.step m v.vdc .tick = some (none, vdc) := by rw [Vdc.step, hvdc, Option.map_some]
    exact .vdc rfl hstep rfl rfl rfl
  | op access =>
    cases access with
    | write a data =>
      obtain ⟨v₁, hv₁, heq⟩ := Option.map_eq_some_iff.1 h
      cases heq
      obtain ⟨ram, -, rfl⟩ := write_eq_some hv₁
      have hstep : MemoryOp.step m v (.write a data) = some (none, { v with ram := ram }) := by
        rw [MemoryOp.step, hv₁, Option.map_some]
      exact .memory rfl hstep rfl rfl rfl
    | input port =>
      obtain ⟨⟨b, v₁⟩, hv₁, heq⟩ := Option.map_eq_some_iff.1 h
      cases heq
      obtain ⟨hsel, kb, hkb, rfl⟩ | ⟨hsel, hd, hhd, rfl⟩ | ⟨hsel, vdc, hvdc, rfl⟩ |
        ⟨hkb, hhd, hvdc, rfl⟩ := input_cases hv₁
      · refine .kb (a := .read (port &&& 0xFF)) (o := some b) ?_ ?_ ?_ ?_ rfl
        · simp [Event.device, hsel]
        · rw [Device.step, hkb, Option.map_some]
        · simp [Event.device, hsel]
        · simp [Event.vdc, Event.device, hsel]
      · refine .hd (a := .read (port &&& 0xFF)) (o := some b) ?_ hhd ?_ ?_ rfl
        · simp [Event.device, hsel]
        · simp [Event.device, hsel]
        · simp [Event.vdc, Event.device, hsel]
      · refine .vdc (a := .read (port &&& 0xFF)) (o := some b) ?_ ?_ ?_ ?_ rfl
        · simp [Event.vdc, Event.device, hsel]
        · rw [Vdc.step, hvdc, Option.map_some]
        · simp [Event.device, hsel]
        · simp [Event.device, hsel]
      · refine .nothing ?_ ?_ ?_ rfl
        · exact if_neg hkb
        · exact if_neg hhd
        · simp [Event.vdc, Event.device, hvdc]
    | output port data =>
      obtain ⟨v₁, hv₁, heq⟩ := Option.map_eq_some_iff.1 h
      cases heq
      obtain ⟨hsel, kb, hkb, rfl⟩ | ⟨hsel, hd, hhd, rfl⟩ | ⟨hsel, vdc, hvdc, rfl⟩ | ⟨hsel, rfl⟩ |
        ⟨hkb, hhd, hvdc, hbank, rfl⟩ := output_cases hv₁
      · refine .kb (a := .write (port &&& 0xFF) data) (o := none) ?_ ?_ ?_ ?_ ?_
        · simp [Event.device, hsel]
        · rw [Device.step, hkb, Option.map_some]
        · simp [Event.device, hsel]
        · simp [Event.vdc, Event.device, hsel]
        · simp [Event.memory, hsel]
      · refine .hd (a := .write (port &&& 0xFF) data) (o := none) ?_ hhd ?_ ?_ ?_
        · simp [Event.device, hsel]
        · simp [Event.device, hsel]
        · simp [Event.vdc, Event.device, hsel]
        · simp [Event.memory, hsel]
      · refine .vdc (a := .write (port &&& 0xFF) data) (o := none) ?_ ?_ ?_ ?_ ?_
        · simp [Event.vdc, Event.device, hsel]
        · rw [Vdc.step, hvdc, Option.map_some]
        · simp [Event.device, hsel]
        · simp [Event.device, hsel]
        · simp [Event.memory, hsel]
      · refine .memory (a := .select (hi port) data) (o := none) ?_ ?_ ?_ ?_ ?_
        · simp [Event.memory, hsel]
        · rw [MemoryOp.step, output_bank, Option.map_some]
        · simp [Event.device, hsel]
        · simp [Event.device, hsel]
        · simp [Event.vdc, Event.device, hsel]
      · refine .nothing ?_ ?_ ?_ ?_
        · exact if_neg hkb
        · exact if_neg hhd
        · simp [Event.vdc, Event.device, hvdc]
        · exact if_neg hbank

/-! ### Runs of events -/

variable {es : List Event} {os : List (Option U8)}

theorem kb_of_run (h : Machine.run (happen m) v es = some (os, v')) :
    ∃ os', Machine.run Device.step v.kb (es.filterMap (Event.device .kb)) = some (os', v'.kb) := by
  refine Machine.run_project (fun v => v.kb) (Event.device .kb) ?_ ?_ h
  · intro v e o v' op h hop
    cases happen_reaches h with
    | kb hdev hstep =>
      cases hdev.symm.trans hop
      exact ⟨_, hstep⟩
    | hd _ _ hnone | vdc _ _ hnone | memory _ _ hnone | nothing hnone => cases hnone.symm.trans hop
  · intro v e o v' h hnone
    cases happen_reaches h with
    | kb hdev => cases hdev.symm.trans hnone
    | hd | vdc | memory | nothing => rfl

theorem hd_of_run (h : Machine.run (happen m) v es = some (os, v')) :
    ∃ os', Machine.run Device.stepAbsent v.hd (es.filterMap (Event.device .hd)) =
      some (os', v'.hd) := by
  refine Machine.run_project (fun v => v.hd) (Event.device .hd) ?_ ?_ h
  · intro v e o v' op h hop
    cases happen_reaches h with
    | hd hdev hstep =>
      cases hdev.symm.trans hop
      exact ⟨_, hstep⟩
    | kb _ _ hnone | vdc _ _ _ hnone | memory _ _ _ hnone | nothing _ hnone =>
      cases hnone.symm.trans hop
  · intro v e o v' h hnone
    cases happen_reaches h with
    | hd hdev => cases hdev.symm.trans hnone
    | kb | vdc | memory | nothing => rfl

theorem vdc_of_run (h : Machine.run (happen m) v es = some (os, v')) :
    ∃ os', Machine.run (Vdc.step m) v.vdc (es.filterMap Event.vdc) = some (os', v'.vdc) := by
  refine Machine.run_project (fun v => v.vdc) Event.vdc ?_ ?_ h
  · intro v e o v' op h hop
    cases happen_reaches h with
    | vdc hdev hstep =>
      cases hdev.symm.trans hop
      exact ⟨_, hstep⟩
    | kb _ _ _ hnone | hd _ _ _ hnone | memory _ _ _ _ hnone | nothing _ _ hnone =>
      cases hnone.symm.trans hop
  · intro v e o v' h hnone
    cases happen_reaches h with
    | vdc hdev => cases hdev.symm.trans hnone
    | kb | hd | memory | nothing => rfl

/-- The memory holds the store that the writes and the bank selects leave. -/
theorem holds_of_run {b : U8} {st : Cell → U8} (hv : Holds v b st)
    (h : Machine.run (happen m) v es = some (os, v')) :
    Holds v' ((es.filterMap Event.memory).foldl MemoryOp.bankAfter b)
      (StoreOp.stored st (MemoryOp.history b (es.filterMap Event.memory))) := by
  induction es generalizing v os b st with
  | nil =>
    cases h
    exact hv
  | cons e es ih =>
    obtain ⟨o, v₁, os', h₁, hrest, -⟩ := Machine.run_cons_eq_some h
    cases happen_reaches h₁ with
    | kb _ _ _ _ hnone | hd _ _ _ _ hnone | vdc _ _ _ _ hnone | nothing _ _ _ hnone =>
      rw [List.filterMap_cons_none hnone]
      refine ih ?_ hrest
      exact ⟨hv.bank, hv.cells⟩
    | memory hop hstep =>
      obtain ⟨o', v₂, hstep', hv₂⟩ := hv.step (m := m) _
      cases hstep'.symm.trans hstep
      rw [List.filterMap_cons_some hop, history_cons, StoreOp.stored_append]
      exact ih hv₂ hrest

end View

/-! ### The events of the system -/

section

variable {H K : Type} [Device H] [Device K] {m : Overflow}

/-- The operations of the processor on the view, as events. -/
theorem Guest.happens {v v' : View H K} {ops : List BusOp}
    (h : performAll (⟨some v⟩ : Guest m H K) ops = ⟨some v'⟩) :
    ∃ os, Machine.run (View.happen m) v (ops.map .op) = some (os, v') := by
  have hnone (ops : List BusOp) : performAll (⟨none⟩ : Guest m H K) ops = ⟨none⟩ := by
    induction ops with
    | nil => rfl
    | cons op ops ih =>
      rw [performAll_cons]
      cases op <;> exact ih
  induction ops generalizing v with
  | nil =>
    cases h
    exact ⟨[], rfl⟩
  | cons op ops ih =>
    rw [performAll_cons] at h
    have hop : op.perform (⟨some v⟩ : Guest m H K) = ⟨(View.happen m v (.op op)).map Prod.snd⟩ := by
      cases op with
      | write a data =>
        show (⟨v.write a data⟩ : Guest m H K) = _
        rw [View.happen, Option.map_map]
        exact congrArg Guest.mk Option.map_id'.symm
      | input port =>
        rw [View.happen, Option.map_map]
        simp only [BusOp.perform, Bus.input, Option.bind_some]
        cases v.input m port <;> rfl
      | output port data =>
        show (⟨v.output m port data⟩ : Guest m H K) = _
        rw [View.happen, Option.map_map]
        exact congrArg Guest.mk Option.map_id'.symm
    rw [hop] at h
    cases hstep : View.happen m v (.op op) with
    | none =>
      rw [hstep, Option.map_none, hnone] at h
      cases h
    | some r =>
      rw [hstep, Option.map_some] at h
      obtain ⟨os, hrun⟩ := ih h
      refine ⟨r.1 :: os, ?_⟩
      rw [List.map_cons, Machine.run_cons hstep, hrun, Option.map_some]

theorem ticks_happen {n : ℕ} {v : View H K} {vdc : Vdc} (h : ticks m n v.vdc = some vdc) :
    ∃ os, Machine.run (View.happen m) v (List.replicate n .tick) =
      some (os, { v with vdc := vdc }) := by
  induction n generalizing v with
  | zero =>
    cases h
    exact ⟨[], rfl⟩
  | succ n ih =>
    obtain ⟨vdc₁, htick, hrest⟩ := Option.bind_eq_some_iff.1 h
    obtain ⟨os, hrun⟩ := ih (v := { v with vdc := vdc₁ }) hrest
    have hstep : View.happen m v .tick = some (none, { v with vdc := vdc₁ }) := by
      rw [View.happen, htick, Option.map_some]
    refine ⟨none :: os, ?_⟩
    rw [List.replicate_succ, Machine.run_cons hstep, hrun, Option.map_some]

/-- A steady chip ticks on. -/
theorem ticks_of_steady {vdc : Vdc} (h : vdc.Steady) (m : Overflow) (n : ℕ) :
    ∃ vdc', ticks m n vdc = some vdc' ∧ vdc'.Steady := by
  induction n generalizing vdc with
  | zero => exact ⟨vdc, rfl, h⟩
  | succ n ih =>
    obtain ⟨vdc₁, htick, h₁⟩ := h.tick m
    obtain ⟨vdc', hticks, h'⟩ := ih h₁
    exact ⟨vdc', by rw [ticks, htick, Option.bind_some, hticks], h'⟩

namespace System

variable {s s' : System H K}

/-- **What a step of the system does.** -/
theorem step_eq_some (h : s.step m = some s') :
    ∃ o view vdc, s.cpu.step (⟨some s.view⟩ : Guest m H K) = .ok o ∧ o.bus = ⟨some view⟩ ∧
      ticks m o.cycles view.vdc = some vdc ∧ s' = ⟨o.cpu, { view with vdc := vdc }⟩ := by
  rw [step] at h
  split at h
  · next o ho =>
    split at h
    · next view hview =>
      obtain ⟨vdc, hvdc, rfl⟩ := Option.map_eq_some_iff.1 h
      exact ⟨o, view, vdc, ho, congrArg Guest.mk hview, hvdc, rfl⟩
    · cases h
  · cases h

/-- The events of a step: the operations of the processor, then the ticks for its cycles. -/
def events (m : Overflow) (s : System H K) : List Event :=
  match s.cpu.step (⟨⟨some s.view⟩, []⟩ : Recorded (Guest m H K)) with
  | .ok o => o.bus.log.map .op ++ List.replicate o.cycles .tick
  | .error _ => []

/-- The events of `n` steps. -/
def log (m : Overflow) : ℕ → System H K → List Event
  | 0, _ => []
  | n + 1, s => log m n s ++ ((steps m n s).map (events m)).getD []

theorem events_happen (h : s.step m = some s') :
    ∃ os, Machine.run (View.happen m) s.view (s.events m) = some (os, s'.view) := by
  obtain ⟨o, view, vdc, hcpu, hbus, hticks, rfl⟩ := step_eq_some h
  obtain ⟨ops, hlogged, hops, -⟩ := Cpu.step_recorded hcpu []
  obtain ⟨os, hrun⟩ := Guest.happens (hops.symm.trans hbus)
  obtain ⟨os', hrun'⟩ := ticks_happen hticks
  refine ⟨os ++ os', ?_⟩
  rw [events, hlogged]
  exact Machine.run_append_of_some hrun hrun'

/-- The view behind a run is the view before it, with the events of the run. -/
theorem log_happens {n : ℕ} (h : steps m n s = some s') :
    ∃ os, Machine.run (View.happen m) s.view (log m n s) = some (os, s'.view) := by
  induction n generalizing s' with
  | zero =>
    cases h
    exact ⟨[], rfl⟩
  | succ n ih =>
    obtain ⟨s₁, hs₁, hstep⟩ := Option.bind_eq_some_iff.1 h
    obtain ⟨os, hrun⟩ := ih hs₁
    obtain ⟨os', hrun'⟩ := events_happen hstep
    refine ⟨os ++ os', ?_⟩
    rw [log, hs₁]
    exact Machine.run_append_of_some hrun hrun'

/-- **Every device runs on its own part of the log.** -/
theorem devices_of_log {n : ℕ} (h : steps m n s = some s') :
    (∃ os, Machine.run Device.step s.view.kb ((log m n s).filterMap (Event.device .kb)) =
        some (os, s'.view.kb)) ∧
      (∃ os, Machine.run Device.stepAbsent s.view.hd
        ((log m n s).filterMap (Event.device .hd)) = some (os, s'.view.hd)) ∧
      (∃ os, Machine.run (Vdc.step m) s.view.vdc ((log m n s).filterMap Event.vdc) =
        some (os, s'.view.vdc)) ∧
      ∀ b st, Holds s.view b st →
        Holds s'.view (((log m n s).filterMap Event.memory).foldl MemoryOp.bankAfter b)
          (StoreOp.stored st (MemoryOp.history b ((log m n s).filterMap Event.memory))) := by
  obtain ⟨os, hrun⟩ := log_happens h
  exact ⟨View.kb_of_run hrun, View.hd_of_run hrun, View.vdc_of_run hrun,
    fun b st hv => View.holds_of_run hv hrun⟩

end System

end

end Possum.Sys
