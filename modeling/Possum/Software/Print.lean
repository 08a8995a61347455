import Possum.Software.Calls
import Possum.Sys.Keyboard
import Possum.Cpu.Decimal
import Possum.Cpu.Repeat

/-!
# Printing

The subroutines of `hello.az8` and `hello_hd.az8` that write to the keyboard port: `KbWrite` (which
`hello.az8` calls `.Print`) writes B bytes from HL on, `KbWriteLn` a line of them, `KbWriteC` A, and
`KbWriteX` A in hexadecimal.
-/

set_option autoImplicit false

namespace Possum.Software

open Lib Sys

section

variable {H K : Type} [Device H] [Device K] {r : Regs} {b : Board H K} {kb kb' : K} {org : U16}
  {code : List U8} {k : ℕ}

omit [Device H] in
/-- The bytes that the keyboard port takes, one after the other. -/
def types (kb : K) (msg : List U8) : Option K :=
  msg.foldlM (fun kb data => Device.write kb IOAddr.KB data) kb

/-- A write to the keyboard port. -/
theorem output_kb (high data : U8) (h : Device.write b.kb IOAddr.KB data = some kb') :
    b.output (word high 0x02) data = some { b with kb := kb' } := by
  obtain ⟨hmask, hsel⟩ := low_port (show lo (word high 0x02) = lo 0x02 from lo_word high 0x02)
  rw [Board.output, hsel, hmask]
  show (Device.write b.kb IOAddr.KB data).map _ = _
  rw [h, Option.map_some]

/-- `out (KB_PORT), a` -/
theorem leads_outKb (hcode : Code b org code) (hk : code[k]? = some 0xD3)
    (hv : code[k + 1]? = some 0x02) (h : Device.write b.kb IOAddr.KB (hi r.af) = some kb') :
    Leads Board.loop (At (atCode r org k) b) (At (atCode r org (k + 2)) { b with kb := kb' }) :=
  leads_out hcode hk hv (output_kb _ _ h)

end

/-- A keyboard whose standard output accepts every byte takes every message. -/
theorem types_of_accepts {k : AsciiKeyboard} (h : ∀ n, k.host.accepts n = true) (msg : List U8) :
    types k msg = some { k with stdout := k.stdout ++ msg } := by
  induction msg generalizing k with
  | nil =>
    rw [List.append_nil]
    rfl
  | cons data msg ih =>
    have hwrite : Device.write k IOAddr.KB data = some { k with stdout := k.stdout ++ [data] } :=
      if_pos (h k.stdout.length)
    have hrest := ih (k := { k with stdout := k.stdout ++ [data] }) h
    rw [List.append_assoc, List.singleton_append] at hrest
    rw [types, List.foldlM_cons, hwrite]
    exact hrest

section

variable {H K : Type} [Device H] [Device K] {r : Regs} {b : Board H K} {kb kb' : K} {org : U16}
  {code : List U8} {k : ℕ}

/-! ### `KbWrite` -/

/-- `ld a, (hl)`, `out (KB_PORT), a`, `inc hl`, `djnz KbWrite`, `ret` -/
def kbWrite : List U8 := [0x7E, 0xD3, 0x02, 0x23, 0x10, 0xFA, 0xC9]

/-- With `k` bytes to go. -/
def Printing (r : Regs) (b : Board H K) (org : U16) (msg : List U8) (kb' : K) (k : ℕ)
    (s : Cpu × Board H K) : Prop :=
  ∃ done rest kb af, msg = done ++ rest ∧ rest.length = k ∧ types kb rest = some kb' ∧
    At { r with
      pc := pcAt org (if k = 0 then 6 else 0)
      af := af
      bc := word (BitVec.ofNat 8 k) (lo r.bc)
      hl := r.hl + BitVec.ofNat 16 done.length } { b with kb := kb } s

/-- **One byte.** -/
theorem printing_step (hcode : Code b org kbWrite) {msg : List U8} (hmsg : Code b r.hl msg)
    (hlen : msg.length ≤ 256) (k : ℕ) :
    Leads Board.loop (Printing r b org msg kb' (k + 1)) (Printing r b org msg kb' k) := by
  rintro s ⟨done, rest, kb, af, rfl, hrest, htypes, hs⟩
  obtain ⟨data, rest, rfl⟩ := List.exists_cons_of_length_eq_add_one hrest
  obtain ⟨kb₁, hwrite, htypes₁⟩ := Option.bind_eq_some_iff.1 htypes
  simp only [List.length_append, List.length_cons] at hrest hlen
  let r₁ : Regs :=
    { r with
      af := word data (lo af)
      bc := word (BitVec.ofNat 8 (k + 1)) (lo r.bc)
      hl := r.hl + BitVec.ofNat 16 done.length }
  have hbyte : b.byte (r.hl + BitVec.ofNat 16 done.length) = data := by
    apply hmsg
    rw [List.getElem?_append_right (Nat.le_refl _), Nat.sub_self]
    rfl
  have hload : Leads Board.loop (At (atCode { r₁ with af := af } org 0) { b with kb := kb })
      (At (atCode r₁ org 1) { b with kb := kb }) := by
    have hone := leads_one (r := { r₁ with af := af }) (b := { b with kb := kb })
      (i := .copyRegisterHlIndirect .A) (k := 0) hcode rfl rfl rfl rfl
    have hregs : ((atCode { r₁ with af := af } org 1).cpu.exec
        (⟨some { b with kb := kb }⟩ : OnBoard H K) (.copyRegisterHlIndirect .A)).cpu.regs =
          { atCode r₁ org 1 with af := word (b.byte r₁.hl) (lo af) } := rfl
    rw [hregs, hbyte] at hone
    exact hone
  have hout : Leads Board.loop (At (atCode r₁ org 1) { b with kb := kb })
      (At (atCode r₁ org 3) { b with kb := kb₁ }) := by
    refine leads_outKb (b := { b with kb := kb }) (k := 1) hcode rfl rfl ?_
    rw [hi_word]
    exact hwrite
  have hnext : Leads Board.loop (At (atCode r₁ org 3) { b with kb := kb₁ })
      (At (atCode { r₁ with hl := r₁.hl + 1 } org 4) { b with kb := kb₁ }) :=
    leads_one (b := { b with kb := kb₁ }) (i := .incWide .HL) (k := 3) hcode rfl rfl rfl rfl
  have hloop := leads_djnz (r := { r₁ with hl := r₁.hl + 1 }) (b := { b with kb := kb₁ }) (k := 4)
    (j := 0) hcode rfl rfl (by decide)
  obtain ⟨s', harrives, hs'⟩ := ((hload.trans hout).trans (hnext.trans hloop)) s hs
  refine ⟨s', harrives, done ++ [data], rest, kb₁, word data (lo af), ?_, ?_, htypes₁, ?_⟩
  · rw [List.append_assoc, List.singleton_append]
  · omega
  · have hb : (BitVec.ofNat 8 (k + 1) : U8) - 1 = BitVec.ofNat 8 k := by bv_omega
    have hzero : (BitVec.ofNat 8 k : U8) = 0 ↔ k = 0 := by bv_omega
    have hhl : r.hl + BitVec.ofNat 16 done.length + 1 =
        r.hl + BitVec.ofNat 16 (done ++ [data]).length := by
      rw [List.length_append, List.length_singleton, BitVec.add_assoc]
      congr 1
      exact (BitVec.ofNat_add _ 1).symm
    simp only [r₁, hi_word, lo_word, hb, hzero] at hs'
    rw [hhl] at hs'
    exact hs'

/-- **`KbWrite`** writes the B bytes from HL on to the keyboard port, in order, and returns. -/
theorem leads_kbWrite (hcode : Code b org kbWrite) {msg : List U8} (hmsg : Code b r.hl msg)
    (hpos : 0 < msg.length) (hlen : msg.length ≤ 256)
    (hb : hi r.bc = BitVec.ofNat 8 msg.length) (htypes : types b.kb msg = some kb') :
    Leads Board.loop (At (atCode r org 0) b)
      (fun s => ∃ af, At { r with
        pc := top b r.sp
        sp := r.sp + 2
        af := af
        bc := word 0 (lo r.bc)
        hl := r.hl + BitVec.ofNat 16 msg.length } { b with kb := kb' } s) := by
  have hprint : Leads Board.loop (Printing r b org msg kb' msg.length)
      (Printing r b org msg kb' 0) := Leads.countdown (printing_step hcode hmsg hlen) msg.length
  have hstart : Leads Board.loop (At (atCode r org 0) b)
      (Printing r b org msg kb' msg.length) := by
    apply Leads.of_imp
    intro s hs
    refine ⟨[], msg, b.kb, r.af, rfl, rfl, htypes, ?_⟩
    rw [if_neg (Nat.ne_of_gt hpos), ← hb, word_hi_lo, List.length_nil, BitVec.add_zero]
    exact hs
  refine (hstart.trans hprint).trans ?_
  rintro s ⟨done, rest, kb, af, rfl, hrest, htypes, hs⟩
  obtain rfl := List.eq_nil_of_length_eq_zero hrest
  cases htypes
  rw [List.append_nil]
  rw [if_pos rfl] at hs
  obtain ⟨s', harrives, hs'⟩ := leads_ret (r := { r with
    af := af
    bc := word 0 (lo r.bc)
    hl := r.hl + BitVec.ofNat 16 done.length }) (b := { b with kb := kb' }) (k := 6) hcode rfl s hs
  exact ⟨s', harrives, af, hs'⟩

end

/-! ### `KbWriteX` -/

/-- One `rra` on A and C. -/
def rotated (p : U8 × Bool) : U8 × Bool :=
  ((p.1 >>> 1) ||| (if p.2 then 0x80 else 0x00), p.1 &&& 0x01 != 0)

/-- Four of them bring the high nibble down. -/
theorem rotated_four : ∀ (a : U8) (c : Bool),
    (rotated (rotated (rotated (rotated (a, c))))).1 &&& (0x0F : U8) = a >>> 4 := by
  decide +kernel

/-- A digit in ASCII. -/
def hexDigit (n : U8) : U8 := if n < 10 then 0x30 + n else 0x37 + n

/-- The two digits of a byte. -/
def hexByte (v : U8) : List U8 := [hexDigit (v >>> 4), hexDigit (v &&& 0x0F)]

/-- A and C behind `add a, v` or `adc a, v`, and `daa`. -/
def decimalAdd (a v : U8) (c : Bool) : U8 × Bool :=
  let f := addFlags a v c
  let sum := (carryingAdd a v c).1
  (adjusted (f .N) (f .H) (f .C) sum, f .C || decide (0x99 < sum))

/-- **The digit of a nibble**: `add a, $90`, `daa`, `adc a, $40`, `daa`. -/
theorem decimalAdd_digit : ∀ a : U8,
    (decimalAdd (decimalAdd (a &&& 0x0F) 0x90 false).1 0x40
      (decimalAdd (a &&& 0x0F) 0x90 false).2).1 = hexDigit (a &&& 0x0F) := by
  decide +kernel

theorem rra_af (c : Cpu) :
    ∃ af, c.rra.1 = { c with af := af } ∧ (hi af, carry af) = rotated (hi c.af, carry c.af) := by
  have hflags : ∃ v : Flag → Bool, v .C = (hi c.af &&& 0x01 != 0) ∧
      c.rra.1 = (c.withFlags v).setRegister .A (rotated (hi c.af, carry c.af)).1 := by
    simp only [Cpu.rra, Cpu.rotateA]
    rw [Cpu.setFlag_eq c .C]
    simp only [Cpu.setFlag_withFlags, Cpu.flag_eq]
    refine ⟨_, ?_, rfl⟩
    simp [Cpu.register]
  obtain ⟨v, hv, hrra⟩ := hflags
  refine ⟨word (rotated (hi c.af, carry c.af)).1 (flagByte v), ?_, ?_⟩
  · rw [hrra, Cpu.setRegister_withFlags]
  · have hcarry : carry (word (rotated (hi c.af, carry c.af)).1 (flagByte v)) =
        (hi c.af &&& 0x01 != 0) := by
      rw [carry, lo_word, isIn_flagByte, hv]
    rw [hi_word, hcarry]
    rfl

theorem daa_af (c : Cpu) {a v : U8} {k : Bool} (ha : hi c.af = (carryingAdd a v k).1)
    (hf : ∀ f, f.isIn (lo c.af) = addFlags a v k f) :
    ∃ af, c.daa.1 = { c with af := af } ∧ (hi af, carry af) = decimalAdd a v k := by
  have hframe : ∃ af, c.daa.1 = { c with af := af } := by
    simp only [Cpu.daa]
    rw [Cpu.setFlag_eq c .C]
    simp only [Cpu.setFlag_withFlags, Cpu.setRegister_withFlags]
    exact ⟨_, rfl⟩
  obtain ⟨af, hframe⟩ := hframe
  obtain ⟨hadjusted, hcarry⟩ := daa_spec c
  rw [Cpu.flag_eq, Cpu.flag_eq, Cpu.flag_eq, hf, hf, hf, hframe] at hadjusted
  rw [Cpu.flag_eq, Cpu.flag_eq, hf, hframe] at hcarry
  have ha' : c.register .A = (carryingAdd a v k).1 := ha
  rw [ha'] at hadjusted hcarry
  exact ⟨af, hframe, Prod.ext hadjusted hcarry⟩

section

variable {H K : Type} [Device H] [Device K] {r : Regs} {b : Board H K} {kb' : K} {org : U16}
  {code : List U8} {k : ℕ} {p : U8 × Bool} {op v : U8}

omit [Device H] [Device K] in
/-- A program with `p` in A and C. -/
def AtAc (p : U8 × Bool) (r : Regs) (b : Board H K) (s : Cpu × Board H K) : Prop :=
  ∃ af, (hi af, carry af) = p ∧ At { r with af := af } b s

/-- What leads on from every AF with `p` in A and C. -/
theorem leads_ac {Q : Cpu × Board H K → Prop}
    (h : ∀ af, (hi af, carry af) = p → Leads Board.loop (At { r with af := af } b) Q) :
    Leads Board.loop (AtAc p r b) Q := by
  rintro s ⟨af, hp, hs⟩
  exact h af hp s hs

/-- An instruction of one byte that writes AF only. -/
theorem leads_af {q : Regs} {p' : U8 × Bool} {i : Instr} (hcode : Code b org code)
    (hk : code[k]? = some op) (hop : doOpcodeTable op = .run i) (hplain : plain i = true)
    (hbus : ((atCode q org (k + 1)).cpu.exec (⟨some b⟩ : OnBoard H K) i).bus = ⟨some b⟩)
    (haf : ∃ af, ((atCode q org (k + 1)).cpu.exec (⟨some b⟩ : OnBoard H K) i).cpu =
      { (atCode q org (k + 1)).cpu with af := af } ∧ (hi af, carry af) = p') :
    Leads Board.loop (At (atCode q org k) b) (AtAc p' (atCode q org (k + 1)) b) := by
  obtain ⟨af, hexec, hp'⟩ := haf
  refine (leads_one hcode hk hop hplain hbus).conseq (fun s hs => hs) ?_
  intro s hs
  rw [hexec] at hs
  exact ⟨af, hp', hs⟩

/-- `rra` -/
theorem leads_rra (hcode : Code b org code) (hk : code[k]? = some 0x1F) :
    Leads Board.loop (AtAc p (atCode r org k) b) (AtAc (rotated p) (atCode r org (k + 1)) b) := by
  apply leads_ac
  rintro af rfl
  exact leads_af (q := { r with af := af }) hcode hk rfl rfl rfl (rra_af _)

/-- `adc a, v` or `add a, v`, and `daa` -/
theorem leads_decimalAdd (keep : Carry) (hcode : Code b org code) (hk : code[k]? = some op)
    (hop : doOpcodeTable op = .run (.addCarryImmediate keep)) (hv : code[k + 1]? = some v)
    (hdaa : code[k + 2]? = some 0x27) :
    Leads Board.loop (AtAc p (atCode r org k) b)
      (AtAc (decimalAdd p.1 v (keep.pick p.2)) (atCode r org (k + 3)) b) := by
  apply leads_ac
  rintro af rfl
  have hadd := leads_baseImmediate (r := { r with af := af }) (b := b) (.addCarry keep) hcode hk hop
    rfl hv fun c bus => ⟨rfl, rfl⟩
  have hc : ({ r with af := af } : Regs).cpu.flag .C = carry af := Cpu.flag_eq _ _
  rw [hc] at hadd
  refine hadd.trans ?_
  refine leads_af (q := { r with af := Arith.af (.addCarry keep) (hi af) v (carry af) })
    (i := .daa) hcode hdaa rfl rfl rfl (daa_af _ ?_ ?_)
  · exact hi_word _ (flagByte (addFlags (hi af) v (keep.pick (carry af))))
  · intro f
    exact (congrArg f.isIn (lo_word _ _)).trans
      (isIn_flagByte (addFlags (hi af) v (keep.pick (carry af))) f)

/-- `and v` -/
theorem leads_andAc (hcode : Code b org code) (hk : code[k]? = some 0xE6)
    (hv : code[k + 1]? = some v) :
    Leads Board.loop (AtAc p (atCode r org k) b)
      (AtAc (p.1 &&& v, false) (atCode r org (k + 2)) b) := by
  apply leads_ac
  rintro af rfl
  have hand := leads_baseImmediate (r := { r with af := af }) (b := b) .and hcode hk rfl rfl hv
    fun c bus => ⟨rfl, rfl⟩
  refine hand.conseq (fun s hs => hs) ?_
  intro s hs
  refine ⟨_, Prod.ext (hi_word _ _) ?_, hs⟩
  show carry (word _ _) = false
  rw [carry, lo_word, isIn_flagByte]
  rfl

/-- `ld c, a`, `rra` four times, `call .wr_low_nibble`, `ld a, c`, and behind it
`.wr_low_nibble`: `and $0F`, `add a, $90`, `daa`, `adc a, $40`, `daa`, `out (KB_PORT), a`, `ret` -/
def kbWriteX (org : U16) : List U8 :=
  [0x4F, 0x1F, 0x1F, 0x1F, 0x1F, 0xCD, lo (pcAt org 9), hi (pcAt org 9), 0x79,
    0xE6, 0x0F, 0xC6, 0x90, 0x27, 0xCE, 0x40, 0x27, 0xD3, 0x02, 0xC9]

/-- **`.wr_low_nibble`** writes the digit of the low nibble of A, and returns. -/
theorem leads_wrLowNibble (hcode : Code b org (kbWriteX org))
    (hwrite : Device.write b.kb IOAddr.KB (hexDigit (hi r.af &&& 0x0F)) = some kb') :
    Leads Board.loop (At (atCode r org 9) b)
      (fun s => ∃ af, At { r with pc := top b r.sp, sp := r.sp + 2, af := af }
        { b with kb := kb' } s) := by
  let a := hi r.af
  have hac : Leads Board.loop (At (atCode r org 9) b) (AtAc (a, carry r.af) (atCode r org 9) b) :=
    Leads.of_imp fun s hs => ⟨r.af, rfl, hs⟩
  have hand : Leads Board.loop (AtAc (a, carry r.af) (atCode r org 9) b)
      (AtAc (a &&& 0x0F, false) (atCode r org 11) b) := leads_andAc (k := 9) hcode rfl rfl
  let p' := decimalAdd (a &&& 0x0F) 0x90 false
  have hadd : Leads Board.loop (AtAc (a &&& 0x0F, false) (atCode r org 11) b)
      (AtAc p' (atCode r org 14) b) := leads_decimalAdd (k := 11) .off hcode rfl rfl rfl rfl
  have hadc : Leads Board.loop (AtAc p' (atCode r org 14) b)
      (AtAc (decimalAdd p'.1 0x40 p'.2) (atCode r org 17) b) :=
    leads_decimalAdd (k := 14) .flagC hcode rfl rfl rfl rfl
  refine (((hac.trans hand).trans hadd).trans hadc).trans (leads_ac ?_)
  intro af haf
  have hdigit : hi af = hexDigit (a &&& 0x0F) := (congrArg Prod.fst haf).trans (decimalAdd_digit a)
  rw [← hdigit] at hwrite
  have hout : Leads Board.loop (At (atCode { r with af := af } org 17) b)
      (At (atCode { r with af := af } org 19) { b with kb := kb' }) :=
    leads_outKb (k := 17) hcode rfl rfl hwrite
  have hret := leads_ret (r := { r with af := af }) (b := { b with kb := kb' }) (k := 19) hcode rfl
  refine (hout.trans hret).conseq (fun s hs => hs) ?_
  intro s hs
  exact ⟨af, hs⟩

/-- **`KbWriteX`** writes A in hexadecimal, and returns. -/
theorem leads_kbWriteX (hcode : Code b org (kbWriteX org))
    (hclear : ∀ k < 20, pcAt org k ≠ r.sp - 2 ∧ pcAt org k ≠ r.sp - 2 + 1)
    (htypes : types b.kb (hexByte (hi r.af)) = some kb') :
    Leads Board.loop (At (atCode r org 0) b)
      (fun s => ∃ af, At { r with
        pc := top b r.sp
        sp := r.sp + 2
        af := af
        bc := word (hi r.bc) (hi r.af) }
          { pushed b (r.sp - 2) (pcAt org 8) with kb := kb' } s) := by
  obtain ⟨kb₁, hhigh, htypes⟩ := Option.bind_eq_some_iff.1 htypes
  obtain ⟨kb₂, hlow, hkb⟩ := Option.bind_eq_some_iff.1 htypes
  cases hkb
  let a := hi r.af
  let r₁ : Regs := { r with bc := word (hi r.bc) a }
  let b₁ := pushed b (r.sp - 2) (pcAt org 8)
  have hcode₁ : Code b₁ org (kbWriteX org) := hcode.pushed hclear
  have hsave : Leads Board.loop (At (atCode r org 0) b) (At (atCode r₁ org 1) b) :=
    leads_one (k := 0) (i := .copyRegister .C .A) hcode rfl rfl rfl rfl
  have hac : Leads Board.loop (At (atCode r₁ org 1) b)
      (AtAc (a, carry r.af) (atCode r₁ org 1) b) := Leads.of_imp fun s hs => ⟨r.af, rfl, hs⟩
  have hrra := fun {p : U8 × Bool} {k : ℕ} => leads_rra (r := r₁) (p := p) (k := k) hcode
  let p₄ := rotated (rotated (rotated (rotated (a, carry r.af))))
  have hfour : Leads Board.loop (AtAc (a, carry r.af) (atCode r₁ org 1) b)
      (AtAc p₄ (atCode r₁ org 5) b) :=
    ((hrra rfl).trans (hrra rfl)).trans ((hrra rfl).trans (hrra rfl))
  -- The first digit, by the call.
  let called := fun (s : Cpu × Board H K) => ∃ af, At (atCode { r₁ with af := af } org 8)
    { b₁ with kb := kb₁ } s
  have hfirst : Leads Board.loop (AtAc p₄ (atCode r₁ org 5) b) called := by
    apply leads_ac
    intro af haf
    have hcall := leads_call (r := { r₁ with af := af }) (k := 5) hcode rfl rfl rfl
    rw [word_hi_lo] at hcall
    have hnibble : hi af &&& (0x0F : U8) = a >>> 4 :=
      (congrArg (fun p => p.1 &&& (0x0F : U8)) haf).trans (rotated_four a (carry r.af))
    have hprint := leads_wrLowNibble (r := { r₁ with sp := r.sp - 2, af := af }) (b := b₁)
      hcode₁ ((congrArg (fun n => Device.write b.kb IOAddr.KB (hexDigit n)) hnibble).trans hhigh)
    rw [top_pushed, BitVec.sub_add_cancel] at hprint
    exact hcall.trans hprint
  -- The second one, by what follows.
  refine (((hsave.trans hac).trans hfour).trans hfirst).trans (Leads.exists_elim ?_)
  intro af
  let r₂ : Regs := { r₁ with af := word a (lo af) }
  have hload : Leads Board.loop (At (atCode { r₁ with af := af } org 8) { b₁ with kb := kb₁ })
      (At (atCode r₂ org 9) { b₁ with kb := kb₁ }) := by
    have hload := leads_one (r := { r₁ with af := af }) (b := { b₁ with kb := kb₁ }) (k := 8)
      (i := .copyRegister .A .C) hcode₁ rfl rfl rfl rfl
    have hregs : ((atCode { r₁ with af := af } org 9).cpu.exec
        (⟨some { b₁ with kb := kb₁ }⟩ : OnBoard H K) (.copyRegister .A .C)).cpu.regs =
          { atCode r₁ org 9 with af := word (lo (word (hi r.bc) a)) (lo af) } := rfl
    rw [hregs, lo_word] at hload
    exact hload
  have hprint := leads_wrLowNibble (r := r₂) (b := { b₁ with kb := kb₁ }) hcode₁
    (by rw [hi_word]; exact hlow)
  have htop : top { b₁ with kb := kb₁ } r₂.sp = top b r.sp := top_pushed_below b r.sp _
  rw [htop] at hprint
  exact hload.trans hprint

end

/-! ### Calls of them -/

/-- `out (KB_PORT), a`, `ret` -/
def kbWriteC : List U8 := [0xD3, 0x02, 0xC9]

/-- `call KbWrite`, `ld a, '\r'`, `out (KB_PORT), a`, `ld a, '\n'`, `out (KB_PORT), a`, `ret` -/
def kbWriteLn (write : U16) : List U8 :=
  [0xCD, lo write, hi write, 0x3E, 0x0D, 0xD3, 0x02, 0x3E, 0x0A, 0xD3, 0x02, 0xC9]

section

variable {H K : Type} {n k : ℕ} {r : Regs} {b : Board H K} {kb kb' : K} {org write : U16}
  {code msg msg' : List U8}

/-- A program with SP, PC and DE as in `r`. -/
def Back (n : ℕ) (r : Regs) (b : Board H K) (s : Cpu × Board H K) : Prop :=
  ∃ q : Regs, q.pc = r.pc ∧ q.sp = r.sp ∧ q.de = r.de ∧ Near n q b s

theorem kept_withKb {sp : U16} (h : Kept n sp b org code) (kb : K) :
    Kept n sp { b with kb := kb } org code :=
  ⟨h.holds, h.clear⟩

variable [Device H] [Device K]

theorem leads_back {Q : Cpu × Board H K → Prop}
    (h : ∀ af bc hl, Leads Board.loop (Near n { r with af := af, bc := bc, hl := hl } b) Q) :
    Leads Board.loop (Back n r b) Q := by
  rintro s ⟨⟨pc, sp, af, bc, de, hl⟩, hpc, hsp, hde, hs⟩
  cases hpc
  cases hsp
  cases hde
  exact h af bc hl s hs

omit [Device H] in
theorem types_append :
    types kb (msg ++ msg') = (types kb msg).bind fun kb => types kb msg' := List.foldlM_append

/-- `out (KB_PORT), a` -/
theorem leads_outKbNear (hcode : Kept n r.sp b org code) (hk : code[k]? = some 0xD3)
    (hv : code[k + 1]? = some 0x02) (h : Device.write b.kb IOAddr.KB (hi r.af) = some kb') :
    Leads Board.loop (Near n (atCode r org k) b)
      (Near n (atCode r org (k + 2)) { b with kb := kb' }) := by
  apply leads_near
  intro b' hb'
  have hout := leads_outKb (r := r) (hcode.same hb').holds hk hv (hb'.kb.symm ▸ h)
  refine hout.conseq (fun s hs => hs) ?_
  intro s hs
  exact ⟨_, hs, hb'.withKb _⟩

/-- A read of the keyboard port. -/
theorem input_kb (high : U8) {v : U8} (h : Device.read b.kb IOAddr.KB = some (v, kb')) :
    b.input (word high 0x02) = some (v, { b with kb := kb' }) := by
  obtain ⟨hmask, hsel⟩ := low_port (show lo (word high 0x02) = lo 0x02 from lo_word high 0x02)
  rw [Board.input, hsel, hmask]
  show (Device.read b.kb IOAddr.KB).map _ = _
  rw [h, Option.map_some]

/-- `in a, (KB_PORT)` -/
theorem leads_inKb {v : U8} (hcode : Kept n r.sp b org code) (hk : code[k]? = some 0xDB)
    (hv : code[k + 1]? = some 0x02) (h : Device.read b.kb IOAddr.KB = some (v, kb')) :
    Leads Board.loop (Near n (atCode r org k) b)
      (Near n { atCode r org (k + 2) with af := word v (lo r.af) } { b with kb := kb' }) := by
  apply leads_near
  intro b' hb'
  have hin := leads_in (r := r) (hcode.same hb').holds hk hv (input_kb _ (hb'.kb.symm ▸ h))
  refine hin.conseq (fun s hs => hs) ?_
  intro s hs
  exact ⟨_, hs, hb'.withKb _⟩

/-- A call of a subroutine that prints. -/
theorem leads_callPrint {entry : U16} (hcode : Kept (n + 2) r.sp b org code)
    (hk : code[k]? = some 0xCD) (hlo : code[k + 1]? = some (lo entry))
    (hhi : code[k + 2]? = some (hi entry))
    (h : Leads Board.loop
      (Near n (atCode { r with sp := r.sp - 2 } entry 0) (pushed b (r.sp - 2) (pcAt org (k + 3))))
      (Back (n + 2) { r with
        pc := top (pushed b (r.sp - 2) (pcAt org (k + 3))) (r.sp - 2)
        sp := r.sp - 2 + 2 } { pushed b (r.sp - 2) (pcAt org (k + 3)) with kb := kb' })) :
    Leads Board.loop (Near (n + 2) (atCode r org k) b)
      (Back (n + 2) (atCode r org (k + 3)) { b with kb := kb' }) := by
  have hentry : pcAt entry 0 = entry := BitVec.add_zero entry
  rw [atCode, hentry] at h
  refine (leads_callNear hcode hk hlo hhi h).conseq (fun s hs => hs) ?_
  rintro s ⟨q, hpc, hsp, hde, hs⟩
  rw [top_pushed] at hpc
  rw [BitVec.sub_add_cancel] at hsp
  refine ⟨q, hpc, hsp, hde, hs.of_same ?_ (Nat.le_refl _)⟩
  rw [show q.sp = r.sp from hsp]
  exact (same_pushed n r.sp _ b).withKb _

/-- **`KbWriteC`** writes A, and returns. -/
theorem leads_kbWriteC (hn : n ≤ 0xFFFE) (hcode : Kept n r.sp b org kbWriteC)
    (htypes : types b.kb [hi r.af] = some kb') :
    Leads Board.loop (Near n (atCode r org 0) b)
      (Back (n + 2) { r with pc := top b r.sp, sp := r.sp + 2 } { b with kb := kb' }) := by
  obtain ⟨kb₁, hwrite, hkb⟩ := Option.bind_eq_some_iff.1 htypes
  cases hkb
  have hout := leads_outKbNear (r := r) (k := 0) hcode rfl rfl hwrite
  have hret := leads_retNear (r := r) (k := 2) hn (kept_withKb hcode kb') rfl
  refine (hout.trans hret).conseq (fun s hs => hs) ?_
  intro s hs
  exact ⟨_, rfl, rfl, rfl, hs⟩

/-- **`KbWrite`**, called. -/
theorem leads_kbWriteBack (hn : n ≤ 0xFFFE) (hcode : Kept n r.sp b org kbWrite)
    (hmsg : Kept n r.sp b r.hl msg) (hpos : 0 < msg.length) (hlen : msg.length ≤ 256)
    (hb : hi r.bc = BitVec.ofNat 8 msg.length) (htypes : types b.kb msg = some kb') :
    Leads Board.loop (Near n (atCode r org 0) b)
      (Back (n + 2) { r with pc := top b r.sp, sp := r.sp + 2 } { b with kb := kb' }) := by
  apply leads_near
  intro b' hb'
  have hwrite := leads_kbWrite (r := r) (hcode.same hb').holds (hmsg.same hb').holds hpos hlen hb
    (hb'.kb.symm ▸ htypes)
  rw [hb'.top hn] at hwrite
  refine hwrite.conseq (fun s hs => hs) ?_
  rintro s ⟨af, hs⟩
  let q : Regs := { r with
    af := af
    bc := word 0 (lo r.bc)
    hl := r.hl + BitVec.ofNat 16 msg.length }
  have hback := Near.returned (r := q) ⟨_, hs, hb'.withKb kb'⟩
  exact ⟨{ q with pc := top b r.sp, sp := r.sp + 2 }, rfl, rfl, rfl, hback⟩

/-- **`KbWriteX`**, called. -/
theorem leads_kbWriteXBack (hn : n ≤ 0xFFFC) (hcode : Kept (n + 2) r.sp b org (kbWriteX org))
    (htypes : types b.kb (hexByte (hi r.af)) = some kb') :
    Leads Board.loop (Near (n + 2) (atCode r org 0) b)
      (Back (n + 4) { r with pc := top b r.sp, sp := r.sp + 2 } { b with kb := kb' }) := by
  apply leads_near
  intro b' hb'
  have hclear : ∀ k < 20, pcAt org k ≠ r.sp - 2 ∧ pcAt org k ≠ r.sp - 2 + 1 := by
    intro k hk
    obtain ⟨hlow, hhigh⟩ := below_pushed n r.sp
    constructor
    · intro heq
      exact hcode.clear k hk (heq ▸ hlow)
    · intro heq
      exact hcode.clear k hk (heq ▸ hhigh)
  have hwrite := leads_kbWriteX (r := r) (hcode.same hb').holds hclear (hb'.kb.symm ▸ htypes)
  rw [hb'.top (by omega)] at hwrite
  refine hwrite.conseq (fun s hs => hs) ?_
  rintro s ⟨af, hs⟩
  let q : Regs := { r with
    af := af
    bc := word (hi r.bc) (hi r.af) }
  have hsame := (hb'.trans (same_pushed n r.sp (pcAt org 8) b')).withKb kb'
  have hback := Near.returned (r := q) ⟨_, hs, hsame⟩
  exact ⟨{ q with pc := top b r.sp, sp := r.sp + 2 }, rfl, rfl, rfl, hback⟩

/-- **`KbWriteLn`** writes a line. -/
theorem leads_kbWriteLn (hn : n ≤ 0xFFFC) (hcode : Kept (n + 2) r.sp b org (kbWriteLn write))
    (hwrite : Kept (n + 2) r.sp b write kbWrite) (hmsg : Kept (n + 2) r.sp b r.hl msg)
    (hpos : 0 < msg.length) (hlen : msg.length ≤ 256)
    (hb : hi r.bc = BitVec.ofNat 8 msg.length)
    (htypes : types b.kb (msg ++ [0x0D, 0x0A]) = some kb') :
    Leads Board.loop (Near (n + 2) (atCode r org 0) b)
      (Back (n + 4) { r with pc := top b r.sp, sp := r.sp + 2 } { b with kb := kb' }) := by
  rw [types_append] at htypes
  obtain ⟨kb₁, htext, htypes⟩ := Option.bind_eq_some_iff.1 htypes
  obtain ⟨kb₂, hcr, htypes⟩ := Option.bind_eq_some_iff.1 htypes
  obtain ⟨kb₃, hlf, hkb⟩ := Option.bind_eq_some_iff.1 htypes
  cases hkb
  have hcall := leads_callPrint (r := r) (k := 0) hcode rfl rfl rfl
    (leads_kbWriteBack (r := { r with sp := r.sp - 2 }) (by omega) (hwrite.nested _)
      (hmsg.nested _) hpos hlen hb htext)
  refine hcall.trans (leads_back ?_)
  intro af bc hl
  let q : Regs := { r with af := af, bc := bc, hl := hl }
  let q₁ : Regs := { q with af := word 0x0D (lo q.af) }
  let q₂ : Regs := { q₁ with af := word 0x0A (lo q₁.af) }
  have hkept := fun kb => kept_withKb hcode kb
  have hcarriage : Leads Board.loop (Near (n + 2) (atCode q org 3) { b with kb := kb₁ })
      (Near (n + 2) (atCode q₁ org 5) { b with kb := kb₁ }) :=
    leads_loadA (k := 3) (hkept kb₁) rfl rfl
  have hout : Leads Board.loop (Near (n + 2) (atCode q₁ org 5) { b with kb := kb₁ })
      (Near (n + 2) (atCode q₁ org 7) { b with kb := kb₂ }) := by
    refine leads_outKbNear (k := 5) (hkept kb₁) rfl rfl ?_
    rw [hi_word]
    exact hcr
  have hfeed : Leads Board.loop (Near (n + 2) (atCode q₁ org 7) { b with kb := kb₂ })
      (Near (n + 2) (atCode q₂ org 9) { b with kb := kb₂ }) :=
    leads_loadA (k := 7) (hkept kb₂) rfl rfl
  have hout' : Leads Board.loop (Near (n + 2) (atCode q₂ org 9) { b with kb := kb₂ })
      (Near (n + 2) (atCode q₂ org 11) { b with kb := kb' }) := by
    refine leads_outKbNear (k := 9) (hkept kb₂) rfl rfl ?_
    rw [hi_word]
    exact hlf
  have hret :=
    leads_retNear (r := q₂) (k := 11) (b := { b with kb := kb' }) (by omega) (hkept kb') rfl
  refine (((hcarriage.trans hout).trans (hfeed.trans hout')).trans hret).conseq (fun s hs => hs) ?_
  intro s hs
  exact ⟨{ q₂ with pc := top b r.sp, sp := r.sp + 2 }, rfl, rfl, rfl, hs⟩

end

end Possum.Software
