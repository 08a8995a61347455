import Possum.Ser.Uart

/-!
# The divisor latch of the UART

Ports 0 and 1 lead to the divisor latch while bit 7 of the line control (DLAB) is set, and to the
data registers otherwise.  Three of the four accesses test the bit; a write to port 1 multiplies by
its mask.  The product is zero where the byte is even and leaves the word from 2 on, so the write
goes where the others go only if the two outer bits of the line control agree, and in a build that
checks arithmetic only for a line control of zero (**`dlab_selects_iff`**).
-/

set_option autoImplicit false

namespace Possum

open Lib

namespace Uart

variable {τ : Type} {m : Overflow} {u u' : Uart τ} {port : U16} {data : U8}

/-- The divisor latch access bit. -/
def dlab (u : Uart τ) : Bool := u.lineControl.getLsbD 7

/-- Whatever is written to port 1 is stored by DLAB alone, in one register and no other, and is
read back. -/
def StoresHigh (m : Overflow) (u : Uart τ) : Prop :=
  ∀ (port : U16) (data : U8), port &&& 7 = 1 →
    ∃ u', u.write m port data = some u' ∧ (u'.read port).1 = data ∧
      (u.dlab = false → u' = { u with interruptEnable := data }) ∧
      (u.dlab = true → u' = { u with divisorLatch := word data (lo u.divisorLatch) })

/-- With DLAB set the two halves written to ports 0 and 1, in either order, make up the latch, and
the interrupt enable stays. -/
def ProgramsLatch (m : Overflow) (u : Uart τ) : Prop :=
  u.dlab = true → ∀ (port0 port1 : U16) (low high : U8), port0 &&& 7 = 0 → port1 &&& 7 = 1 →
    ∀ writes ∈ [[(port0, low), (port1, high)], [(port1, high), (port0, low)]],
      ∃ u', writes.foldlM (fun u w => u.write m w.1 w.2) u = some u' ∧
        u'.divisorLatch.toNat = high.toNat * 256 + low.toNat ∧
        u'.interruptEnable = u.interruptEnable

/-! ### The four accesses -/

theorem dataPort_eq_dlab (u : Uart τ) : u.dataPort = !u.dlab := dataPort_eq u

/-- A write to port 0 with DLAB set. -/
theorem write_low (hport : port &&& 7 = 0) (h : u.dlab = true) :
    u.write m port data = some { u with divisorLatch := word (hi u.divisorLatch) data } := by
  have hlatch : u.dataPort = false := by rw [dataPort_eq_dlab, h]; rfl
  unfold write
  rw [hport, ← replace_low]
  show (if u.dataPort then _ else _) = _
  rw [hlatch]
  rfl

theorem read_high (hport : port &&& 7 = 1) :
    (u.read port).1 = if u.dlab then hi u.divisorLatch else u.interruptEnable := by
  unfold read
  rw [hport]
  show (if u.dataPort then _ else _ : U8 × Uart τ).1 = _
  rw [dataPort_eq_dlab]
  cases u.dlab <;> rfl

/-- The chip with a byte in the latch or in the interrupt enable. -/
def withHigh (u : Uart τ) (latch : Bool) (data : U8) : Uart τ :=
  if latch then { u with divisorLatch := word data (lo u.divisorLatch) }
  else { u with interruptEnable := data }

theorem write_high (hport : port &&& 7 = 1) :
    u.write m port data =
      (m.mul 8 u.lineControl.toNat 0x80).map fun product => u.withHigh (product != 0) data := by
  unfold write
  rw [hport]
  show Option.map _ (m.mul 8 u.lineControl.toNat 0x80) = _
  congr 1
  funext product
  rw [withHigh, ← replace_high]
  cases product <;> rfl

/-- A product with 0x80 keeps the lowest bit alone. -/
theorem write_high_wraps (hport : port &&& 7 = 1) :
    u.write .wraps port data = some (u.withHigh (u.lineControl.getLsbD 0) data) := by
  have hproduct : ∀ b : U8, (b.toNat * 0x80 % 2 ^ 8 != 0) = b.getLsbD 0 := by decide
  rw [write_high hport, Overflow.mul_wraps, Option.map_some, hproduct]

theorem write_high_panics (hport : port &&& 7 = 1) :
    u.write .panics port data =
      if u.lineControl.toNat ≤ 1 then some (u.withHigh (u.lineControl.getLsbD 0) data)
      else none := by
  have hproduct : ∀ b : U8, b.toNat ≤ 1 →
      b.toNat * 0x80 < 2 ^ 8 ∧ (b.toNat * 0x80 != 0) = b.getLsbD 0 := by decide
  rw [write_high hport]
  by_cases hsmall : u.lineControl.toNat ≤ 1
  · obtain ⟨hlt, hbit⟩ := hproduct u.lineControl hsmall
    rw [if_pos hsmall, Overflow.mul_of_lt hlt, Option.map_some, hbit]
  · have hlarge : ¬ u.lineControl.toNat * 0x80 < 2 ^ 8 := by omega
    rw [if_neg hsmall, Overflow.mul, if_neg hlarge]
    rfl

/-! ### When they agree -/

/-- Where a write to port 1 goes, for every chip with this line control. -/
def Directs (m : Overflow) (u : Uart τ) (latch : Bool) : Prop :=
  ∀ (w : Uart τ) (port : U16) (data : U8), w.lineControl = u.lineControl → port &&& 7 = 1 →
    w.write m port data = some (w.withHigh latch data)

variable {latch : Bool}

theorem storesHigh_iff (h : Directs m u latch) : StoresHigh m u ↔ latch = u.dlab := by
  constructor
  · intro hstores
    -- a byte that the interrupt enable does not hold yet
    obtain ⟨u', hwrite, -, hclear, hset⟩ := hstores 1 (~~~u.interruptEnable) rfl
    have hother : ~~~u.interruptEnable ≠ u.interruptEnable := by
      intro heq
      have hbit := congrArg (BitVec.getLsbD · 0) heq
      simp at hbit
    rw [h u 1 _ rfl rfl] at hwrite
    obtain rfl := Option.some.inj hwrite
    cases hdlab : u.dlab with
    | false =>
      cases latch with
      | false => rfl
      | true => exact absurd (congrArg interruptEnable (hclear hdlab)).symm hother
    | true =>
      cases latch with
      | false => exact absurd (congrArg interruptEnable (hset hdlab)) hother
      | true => rfl
  · rintro rfl port data hport
    refine ⟨_, h u port data rfl hport, ?_, ?_, ?_⟩
    · rw [read_high hport]
      cases hdlab : u.dlab with
      | false =>
        have hkept : (u.withHigh false data).dlab = false := hdlab
        rw [hkept]
        rfl
      | true =>
        have hkept : (u.withHigh true data).dlab = true := hdlab
        rw [hkept]
        exact hi_word data _
    · intro hdlab
      rw [hdlab]
      rfl
    · intro hdlab
      rw [hdlab]
      rfl

theorem programsLatch_of (h : Directs m u u.dlab) : ProgramsLatch m u := by
  intro hdlab port0 port1 low high hport0 hport1 writes hwrites
  rw [hdlab] at h
  have hvalue : (word high low).toNat = high.toNat * 256 + low.toNat := by
    rw [word_toNat]
    omega
  simp only [List.mem_cons, List.not_mem_nil, or_false] at hwrites
  obtain rfl | rfl := hwrites
  · let u₁ : Uart τ := { u with divisorLatch := word (hi u.divisorLatch) low }
    have hlow : u.write m port0 low = some u₁ := write_low hport0 hdlab
    have hhigh : u₁.write m port1 high = some (u₁.withHigh true high) := h u₁ port1 high rfl hport1
    refine ⟨u₁.withHigh true high, ?_, ?_, rfl⟩
    · simp only [List.foldlM_cons, List.foldlM_nil, hlow, Option.bind_eq_bind, Option.bind_some,
        hhigh]
      rfl
    · rw [← hvalue]
      exact congrArg (fun b => (word high b).toNat) (lo_word _ _)
  · let u₁ : Uart τ := u.withHigh true high
    have hhigh : u.write m port1 high = some u₁ := h u port1 high rfl hport1
    have hdlab₁ : u₁.dlab = true := hdlab
    have hlow : u₁.write m port0 low =
        some { u₁ with divisorLatch := word (hi u₁.divisorLatch) low } := write_low hport0 hdlab₁
    refine ⟨{ u₁ with divisorLatch := word (hi u₁.divisorLatch) low }, ?_, ?_, rfl⟩
    · simp only [List.foldlM_cons, List.foldlM_nil, hlow, Option.bind_eq_bind, Option.bind_some,
        hhigh]
      rfl
    · rw [← hvalue]
      exact congrArg (fun b => (word b low).toNat) (hi_word _ _)

/-- **When DLAB selects.**  A write to port 1 goes where DLAB says, and the latch can be programmed,
in a build that checks arithmetic exactly if the line control is zero, and in one that wraps
exactly if its highest and its lowest bit agree. -/
theorem dlab_selects_iff (u : Uart τ) :
    (StoresHigh .panics u ∧ ProgramsLatch .panics u ↔ u.lineControl = 0) ∧
      (StoresHigh .wraps u ∧ ProgramsLatch .wraps u ↔
        u.lineControl.getLsbD 7 = u.lineControl.getLsbD 0) := by
  constructor
  · by_cases hsmall : u.lineControl.toNat ≤ 1
    · have hdirects : Directs .panics u (u.lineControl.getLsbD 0) := by
        intro w port data hline hport
        rw [write_high_panics hport, hline, if_pos hsmall]
      have hbits : ∀ b : U8, b.toNat ≤ 1 → (b.getLsbD 0 = b.getLsbD 7 ↔ b = 0) := by decide
      rw [storesHigh_iff hdirects, dlab, hbits _ hsmall]
      refine and_iff_left_of_imp fun hzero => programsLatch_of ?_
      have hagree : u.lineControl.getLsbD 0 = u.dlab := by
        rw [dlab, hzero]
        rfl
      rwa [hagree] at hdirects
    · refine iff_of_false ?_ ?_
      · rintro ⟨hstores, -⟩
        obtain ⟨u', hwrite, -⟩ := hstores 1 0 rfl
        rw [write_high_panics rfl, if_neg hsmall] at hwrite
        cases hwrite
      · intro hzero
        rw [hzero] at hsmall
        exact hsmall (Nat.zero_le 1)
  · have hdirects : Directs .wraps u (u.lineControl.getLsbD 0) := by
      intro w port data hline hport
      rw [write_high_wraps hport, hline]
    rw [storesHigh_iff hdirects, eq_comm]
    refine and_iff_left_of_imp fun hagree => programsLatch_of ?_
    have hsame : u.lineControl.getLsbD 0 = u.dlab := hagree.symm
    rwa [hsame] at hdirects

/-- With a line control of 0x80 the high half of the divisor goes to the interrupt enable, and a
build that checks arithmetic panics. -/
theorem dlab_selects_not :
    (((new ()).write .wraps 3 0x80).bind (·.write .wraps 1 0x12)).map
        (fun u => (u.divisorLatch, u.interruptEnable)) = some (0x0000, 0x12) ∧
      ((new ()).write .panics 3 0x80).bind (·.write .panics 1 0x12) = none ∧
      ¬ ∀ u : Uart Unit, StoresHigh .wraps u ∧ ProgramsLatch .wraps u := by
  refine ⟨by decide, rfl, ?_⟩
  intro h
  obtain ⟨u', hwrite, -, -, hlatch⟩ := (h { new () with lineControl := 0x80 }).1 1 0x12 rfl
  have henable : ({ new () with lineControl := 0x80 } : Uart Unit).write .wraps 1 0x12 =
      some { new () with lineControl := 0x80, interruptEnable := 0x12 } := rfl
  rw [henable] at hwrite
  obtain rfl := Option.some.inj hwrite
  exact absurd (congrArg interruptEnable (hlatch rfl)) (by decide)

end Uart

end Possum
