import Possum.Software.Print

/-!
# `hello.az8`

The assembled program, for any message: it prints the message on the keyboard port and halts.  It is
followed from the first byte of the ROM to the end of the loop of `main` (**`main_hello`**).
-/

set_option autoImplicit false

namespace Possum.Software

open Lib Sys

/-- `ld hl, HELLO`, `ld b, HELLO.len`, `call .Print`, `halt` -/
def helloStart (msg : List U8) : List U8 :=
  [0x21, 0x10, 0x00, 0x06, BitVec.ofNat 8 msg.length, 0xCD, 0x09, 0x00, 0x76]

/-- The program, with its message at `HELLO`. -/
def helloRom (msg : List U8) : List U8 := helloStart msg ++ kbWrite ++ msg

section

variable {H K : Type} [Device H] [Device K] {kb kb' : K} {hd : Option H}

/-- **The program on the board.** -/
theorem leads_hello {msg : List U8} (hpos : 0 < msg.length) (hlen : msg.length ≤ 256)
    (htypes : types kb msg = some kb') (hquiet : ∀ disk ∈ hd, Device.interrupting disk = false) :
    ∃ s, Arrives Board.loop ({}, Board.boot (helloRom msg) kb hd) s ∧ s.1.halted = true ∧
      s.2.kb = kb' ∧ s.2.hd = hd := by
  let b : Board H K := Board.boot (helloRom msg) kb hd
  let b' : Board H K := pushed b 0xFFFE (pcAt 0 8)
  have hstart : Code b 0 (helloStart msg) := by
    refine code_boot (p := []) (q := kbWrite ++ msg) ?_ ?_ kb hd
    · rw [helloRom, List.append_assoc]
      rfl
    · rw [List.nil_append]
      exact (by decide : 9 ≤ 0x10000)
  have hprint : Code b 9 kbWrite := by
    refine code_boot (p := helloStart msg) (q := msg) rfl ?_ kb hd
    exact (by decide : 16 ≤ 0x10000)
  have hmsg : Code b 0x10 msg := by
    refine code_boot (p := helloStart msg ++ kbWrite) (q := []) ?_ ?_ kb hd
    · rw [List.append_nil, helloRom]
    · rw [List.length_append]
      show 16 + msg.length ≤ 0x10000
      omega
  have hload : Leads Board.loop (At (atCode {} 0 0) b) (At (atCode { hl := 0x10 } 0 3) b) :=
    leads_ldWide (k := 0) hstart rfl rfl rfl rfl rfl
  have hcount : Leads Board.loop (At (atCode { hl := 0x10 } 0 3) b)
      (At (atCode { hl := 0x10, bc := word (BitVec.ofNat 8 msg.length) 0 } 0 5) b) :=
    leads_ld (k := 3) hstart rfl rfl rfl rfl
  have hcall : Leads Board.loop
      (At (atCode { hl := 0x10, bc := word (BitVec.ofNat 8 msg.length) 0 } 0 5) b)
      (At (atCode { sp := 0xFFFE, hl := 0x10, bc := word (BitVec.ofNat 8 msg.length) 0 } 9 0) b') :=
    leads_call (k := 5) hstart rfl rfl rfl
  have hbelow : ∀ {org : U16} {n : ℕ}, org.toNat + n ≤ 0x200 → ∀ k < n,
      pcAt org k ≠ 0xFFFE ∧ pcAt org k ≠ 0xFFFE + 1 := by
    intro org n hle k hk
    have hbound : (pcAt org k).toNat ≤ 0x200 := by
      rw [pcAt, BitVec.toNat_add, BitVec.toNat_ofNat]
      omega
    constructor
    · intro heq
      rw [heq] at hbound
      exact absurd hbound (by decide)
    · intro heq
      rw [heq] at hbound
      exact absurd hbound (by decide)
  have hreturn := leads_kbWrite (b := b')
    (r := { sp := 0xFFFE, hl := 0x10, bc := word (BitVec.ofNat 8 msg.length) 0 })
    (hprint.pushed (hbelow (by decide)))
    (hmsg.pushed (hbelow (show 16 + msg.length ≤ 0x200 by omega))) hpos hlen
    (hi_word _ _) htypes
  have htop : top b' 0xFFFE = pcAt 0 8 := top_pushed b 0xFFFE (pcAt 0 8)
  obtain ⟨s, harrives, af, hs⟩ :=
    (((hload.trans hcount).trans hcall).trans hreturn) ({}, b) ⟨rfl, rfl, rfl, rfl, rfl⟩
  rw [htop] at hs
  have hline : Board.interrupted { b' with kb := kb' } = false := by
    show Board.interrupted b = false
    rw [Board.interrupted]
    cases hd with
    | none => rfl
    | some disk => exact hquiet disk rfl
  have hend : Code { b' with kb := kb' } 0 (helloStart msg) :=
    hstart.pushed (hbelow (show 0 + 9 ≤ 0x200 by decide))
  let r' : Regs :=
    { sp := 0xFFFE + 2
      af := af
      bc := word 0 (lo (word (BitVec.ofNat 8 msg.length) 0))
      hl := 0x10 + BitVec.ofNat 16 msg.length }
  obtain ⟨s', harrives', hboard, hhalted⟩ := leads_halt (k := 8) (r := r') hend rfl hline s hs
  refine ⟨s', harrives.trans harrives', hhalted, ?_, ?_⟩
  · rw [hboard]
  · rw [hboard]
    rfl

/-- **`hello.az8`, from the ROM to the end of the loop**: in every build the emulator prints the
message, byte by byte, and stops. -/
theorem main_hello (m : Overflow) {msg : List U8} (hpos : 0 < msg.length)
    (hlen : msg.length ≤ 256) (htypes : types kb msg = some kb')
    (hquiet : ∀ disk ∈ hd, Device.interrupting disk = false) :
    ∃ n t t', (System.new kb hd).writeRam (helloRom msg) 0 = some t ∧
      System.main m n t = some t' ∧ t'.view.kb = kb' ∧ t'.view.hd = hd := by
  obtain ⟨s, harrives, hhalted, hkb, hhd⟩ := leads_hello hpos hlen htypes hquiet
  have hfits : (helloRom msg).length ≤ RAM_SIZE := by
    rw [helloRom, List.length_append, RAM_SIZE_eq]
    show 16 + msg.length ≤ _
    omega
  obtain ⟨n, t, t', hboot, hmain, hruns⟩ := main_of_board m hfits harrives hhalted
  exact ⟨n, t, t', hboot, hmain, hruns.shows.kb.trans hkb, hruns.shows.hd.trans hhd⟩

end

/-- `"Howdy Cowboy\n"` -/
def howdy : List U8 :=
  [0x48, 0x6F, 0x77, 0x64, 0x79, 0x20, 0x43, 0x6F, 0x77, 0x62, 0x6F, 0x79, 0x0A]

/-- The program as it is, at a keyboard where nobody types. -/
theorem main_hello_howdy :
    let host : Host := ⟨fun _ => 0, fun _ => none, fun _ => true⟩
    ∃ n t t', (System.new (H := Ata.CardBus Ata.Image) (AsciiKeyboard.new host 0) none).writeRam
        (helloRom howdy) 0 = some t ∧ System.main .wraps n t = some t' ∧
      t'.view.kb = { AsciiKeyboard.new host 0 with stdout := howdy } ∧ t'.view.hd = none := by
  intro host
  have hpos : 0 < howdy.length := by decide
  have hlen : howdy.length ≤ 256 := by decide
  have htypes : types (AsciiKeyboard.new host 0) howdy =
      some { AsciiKeyboard.new host 0 with stdout := howdy } :=
    types_of_accepts (fun _ => rfl) howdy
  exact main_hello .wraps hpos hlen htypes fun disk hdisk => absurd hdisk (Option.not_mem_none disk)

/-- The log of a run that prints a letter: calls, and a byte to the keyboard. -/
theorem devices_of_log_letter :
    let host : Host := ⟨fun _ => 0, fun _ => none, fun _ => true⟩
    ∃ n s s', (System.new (H := Ata.CardBus Ata.Image) (AsciiKeyboard.new host 0) none).writeRam
        (helloRom [0x48]) 0 = some s ∧ System.steps .panics n s = some s' ∧
      s'.view.kb = { AsciiKeyboard.new host 0 with stdout := [0x48] } ∧
      (∃ os, Machine.run Device.step s.view.kb
        ((System.log .panics n s).filterMap (Event.device .kb)) = some (os, s'.view.kb)) ∧
      (∃ os, Machine.run Device.stepAbsent s.view.hd
        ((System.log .panics n s).filterMap (Event.device .hd)) = some (os, s'.view.hd)) ∧
      (∃ os, Machine.run (Vdc.step .panics) s.view.vdc
        ((System.log .panics n s).filterMap Event.vdc) = some (os, s'.view.vdc)) ∧
      ∀ b st, Holds s.view b st →
        Holds s'.view (((System.log .panics n s).filterMap Event.memory).foldl MemoryOp.bankAfter b)
          (StoreOp.stored st
            (MemoryOp.history b ((System.log .panics n s).filterMap Event.memory))) := by
  intro host
  have htypes : types (AsciiKeyboard.new host 0) [0x48] =
      some { AsciiKeyboard.new host 0 with stdout := [0x48] } :=
    types_of_accepts (fun _ => rfl) [0x48]
  have hquiet : ∀ disk ∈ (none : Option (Ata.CardBus Ata.Image)), Device.interrupting disk = false :=
    fun disk hdisk => absurd hdisk (Option.not_mem_none disk)
  have hpos : 0 < ([0x48] : List U8).length := by decide
  have hlen : ([0x48] : List U8).length ≤ 256 := by decide
  obtain ⟨board, harrives, hhalted, hkb, -⟩ := leads_hello hpos hlen htypes hquiet
  have hfits : (helloRom [0x48]).length ≤ RAM_SIZE := by
    rw [RAM_SIZE_eq]
    decide
  obtain ⟨n, s, s', hboot, hmain, hruns⟩ := main_of_board .panics hfits harrives hhalted
  obtain ⟨k, hsteps⟩ := System.steps_of_main hmain
  exact ⟨k, s, s', hboot, hsteps, hruns.shows.kb.trans hkb, System.devices_of_log hsteps⟩

end Possum.Software
