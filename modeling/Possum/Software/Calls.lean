import Possum.Software.Program

/-!
# Calls

A subroutine leaves its return address, and those of its own calls, under the stack pointer.  `Same n
sp` says that two boards differ in these bytes at most, and `Near n r b` is a program with words `r`
on a board that is `b` but for them: so a contract need not say what a call leaves there.  The rules
below carry those of single instructions over, and `leads_callNear` is the one for a call.
-/

set_option autoImplicit false

namespace Possum.Software

open Lib Sys

/-- One of the `n` bytes under `sp`. -/
def Below (n : ℕ) (sp a : U16) : Prop := (sp - 1 - a).toNat < n

instance (n : ℕ) (sp a : U16) : Decidable (Below n sp a) := inferInstanceAs (Decidable (_ < _))

theorem Below.mono {n n' : ℕ} {sp a : U16} (h : Below n sp a) (hle : n ≤ n') : Below n' sp a :=
  Nat.lt_of_lt_of_le h hle

/-- What is under the return address is under the stack pointer before the call. -/
theorem Below.nested {n : ℕ} {sp a : U16} (h : Below n (sp - 2) a) : Below (n + 2) sp a := by
  unfold Below at h ⊢
  bv_omega

theorem Below.cases {n : ℕ} {sp a : U16} (h : Below (n + 2) sp a) :
    a = sp - 2 ∨ a = sp - 2 + 1 ∨ Below n (sp - 2) a := by
  unfold Below at h ⊢
  bv_omega

/-- The return address. -/
theorem below_pushed (n : ℕ) (sp : U16) :
    Below (n + 2) sp (sp - 2) ∧ Below (n + 2) sp (sp - 2 + 1) := by
  have hlow : sp - 1 - (sp - 2) = 1 := by bv_omega
  have hhigh : sp - 1 - (sp - 2 + 1) = 0 := by bv_omega
  rw [Below, Below, hlow, hhigh]
  exact ⟨show 1 < n + 2 by omega, show 0 < n + 2 by omega⟩

/-- The word at the stack pointer is not under it. -/
theorem not_below_top {n : ℕ} (hn : n ≤ 0xFFFE) (sp : U16) :
    ¬ Below n sp sp ∧ ¬ Below n sp (sp + 1) := by
  have hlow : sp - 1 - sp = 0xFFFF := by bv_omega
  have hhigh : sp - 1 - (sp + 1) = 0xFFFE := by bv_omega
  rw [Below, Below, hlow, hhigh]
  exact ⟨show ¬ 0xFFFF < n by omega, show ¬ 0xFFFE < n by omega⟩

section

variable {H K : Type}

/-- The same board, but for the `n` bytes under `sp`. -/
structure Same (n : ℕ) (sp : U16) (b b' : Board H K) : Prop where
  bank : b'.bank = b.bank
  hd : b'.hd = b.hd
  kb : b'.kb = b.kb
  store : ∀ c, (∀ a, Below n sp a → c ≠ cell b.bank a) → b'.store c = b.store c

namespace Same

variable {n n' : ℕ} {sp a : U16} {b b' b'' : Board H K}

theorem refl (n : ℕ) (sp : U16) (b : Board H K) : Same n sp b b := ⟨rfl, rfl, rfl, fun _ _ => rfl⟩

theorem trans (h : Same n sp b b') (h' : Same n sp b' b'') : Same n sp b b'' where
  bank := h'.bank.trans h.bank
  hd := h'.hd.trans h.hd
  kb := h'.kb.trans h.kb
  store c hc := (h'.store c fun a ha => h.bank ▸ hc a ha).trans (h.store c hc)

theorem widen (h : Same n sp b b') {sp' : U16} (hw : ∀ a, Below n sp a → Below n' sp' a) :
    Same n' sp' b b' where
  bank := h.bank
  hd := h.hd
  kb := h.kb
  store c hc := h.store c fun a ha => hc a (hw a ha)

/-- A byte elsewhere. -/
theorem byte (h : Same n sp b b') (ha : ¬ Below n sp a) : b'.byte a = b.byte a := by
  rw [Board.byte, Board.byte, h.bank]
  apply h.store
  intro a' ha' heq
  rw [Board.cell_inj heq] at ha
  exact ha ha'

theorem top (h : Same n sp b b') (hn : n ≤ 0xFFFE) : Software.top b' sp = Software.top b sp := by
  obtain ⟨hlow, hhigh⟩ := not_below_top hn sp
  rw [Software.top, Software.top, h.byte hlow, h.byte hhigh]

theorem write (h : Same n sp b b') (a : U16) (v : U8) : Same n sp (b.write a v) (b'.write a v) where
  bank := h.bank
  hd := h.hd
  kb := h.kb
  store c hc := by
    show Function.update b'.store (cell b'.bank a) v c = Function.update b.store (cell b.bank a) v c
    rw [h.bank, Function.update_apply, Function.update_apply, h.store c hc]

theorem pushed (h : Same n sp b b') (sp' w : U16) :
    Same n sp (Software.pushed b sp' w) (Software.pushed b' sp' w) :=
  (h.write _ _).write _ _

theorem withHd (h : Same n sp b b') (hd : Option H) :
    Same n sp { b with hd := hd } { b' with hd := hd } :=
  ⟨h.bank, rfl, h.kb, h.store⟩

theorem withKb (h : Same n sp b b') (kb : K) : Same n sp { b with kb := kb } { b' with kb := kb } :=
  ⟨h.bank, h.hd, rfl, h.store⟩

end Same

/-- A write under the stack pointer. -/
theorem same_write {n : ℕ} {sp a : U16} (b : Board H K) (v : U8) (ha : Below n sp a) :
    Same n sp b (b.write a v) where
  bank := rfl
  hd := rfl
  kb := rfl
  store _ hc := Function.update_of_ne (hc a ha) _ _

/-- A call leaves its return address. -/
theorem same_pushed (n : ℕ) (sp w : U16) (b : Board H K) :
    Same (n + 2) sp b (pushed b (sp - 2) w) :=
  (same_write b _ (below_pushed n sp).2).trans (same_write _ _ (below_pushed n sp).1)

/-- **A call on both boards.** -/
theorem Same.called {n : ℕ} {sp : U16} {b b' : Board H K} (h : Same (n + 2) sp b b') (w : U16) :
    Same n (sp - 2) (Software.pushed b (sp - 2) w) (Software.pushed b' (sp - 2) w) := by
  have hpushed := h.pushed (sp - 2) w
  refine ⟨hpushed.bank, hpushed.hd, hpushed.kb, ?_⟩
  intro c hc
  by_cases hlow : c = cell b.bank (sp - 2)
  · subst hlow
    simp only [Software.pushed, Board.write]
    rw [h.bank, Function.update_self, Function.update_self]
  by_cases hhigh : c = cell b.bank (sp - 2 + 1)
  · subst hhigh
    simp only [Software.pushed, Board.write]
    rw [h.bank, Function.update_of_ne hlow, Function.update_of_ne hlow, Function.update_self,
      Function.update_self]
  · apply hpushed.store
    intro a ha
    rcases ha.cases with rfl | rfl | ha
    · exact hlow
    · exact hhigh
    · exact hc a ha

/-! ### Programs -/

/-- A running program with words `r`, on `b` but for the `n` bytes under its stack pointer. -/
def Near (n : ℕ) (r : Regs) (b : Board H K) (s : Cpu × Board H K) : Prop :=
  ∃ b', At r b' s ∧ Same n r.sp b b'

variable {n : ℕ} {r r' : Regs} {b b₁ : Board H K} {s : Cpu × Board H K}

theorem Near.of_same {n' : ℕ} (h : Near n r b s) (hsame : Same n' r.sp b₁ b) (hle : n ≤ n') :
    Near n' r b₁ s := by
  obtain ⟨b', hs, hb'⟩ := h
  exact ⟨b', hs, hsame.trans (hb'.widen fun a ha => ha.mono hle)⟩

variable [Device H] [Device K]

/-- What leads on from every such board. -/
theorem leads_near {Q : Cpu × Board H K → Prop}
    (h : ∀ b', Same n r.sp b b' → Leads Board.loop (At r b') Q) :
    Leads Board.loop (Near n r b) Q := by
  rintro s ⟨b', hs, hb'⟩
  exact h b' hb' s hs

/-- A rule that leaves the board and the stack pointer alone. -/
theorem leads_still (hsp : r'.sp = r.sp)
    (h : ∀ b', Same n r.sp b b' → Leads Board.loop (At r b') (At r' b')) :
    Leads Board.loop (Near n r b) (Near n r' b) := by
  apply leads_near
  intro b' hb'
  refine (h b' hb').conseq (fun s hs => hs) ?_
  intro s hs
  exact ⟨b', hs, hsp ▸ hb'⟩

omit [Device H] [Device K] in
/-- Code that the stack does not reach. -/
structure Kept (n : ℕ) (sp : U16) (b : Board H K) (org : U16) (code : List U8) : Prop where
  holds : Code b org code
  clear : ∀ k < code.length, ¬ Below n sp (pcAt org k)

variable {sp org entry : U16} {code : List U8} {k : ℕ}

omit [Device H] [Device K] in
theorem Kept.same {b' : Board H K} (h : Kept n sp b org code) (hb' : Same n sp b b') :
    Kept n sp b' org code where
  holds j v hj := by
    obtain ⟨hlt, -⟩ := List.getElem?_eq_some_iff.1 hj
    exact (hb'.byte (h.clear j hlt)).trans (h.holds j v hj)
  clear := h.clear

omit [Device H] [Device K] in
/-- A part of the code. -/
theorem Kept.part {p q : List U8} (h : Kept n sp b org (p ++ code ++ q)) :
    Kept n sp b (pcAt org p.length) code := by
  constructor
  · intro j v hj
    show b.byte (pcAt (pcAt org p.length) j) = v
    obtain ⟨hlt, -⟩ := List.getElem?_eq_some_iff.1 hj
    rw [pcAt_pcAt]
    apply h.holds
    rw [List.append_assoc, List.getElem?_append_right (Nat.le_add_right _ _),
      Nat.add_sub_cancel_left, List.getElem?_append_left hlt]
    exact hj
  · intro j hj
    rw [pcAt_pcAt]
    apply h.clear
    simp only [List.length_append]
    omega

omit [Device H] [Device K] in
/-- A part of the code, where it is. -/
theorem Kept.slice {part : List U8} {a : ℕ} (h : Kept n sp b org code)
    (hpart : (code.drop a).take part.length = part) : Kept n sp b (pcAt org a) part := by
  have hget : ∀ {j v}, part[j]? = some v → code[a + j]? = some v := by
    intro j v hj
    obtain ⟨hlt, -⟩ := List.getElem?_eq_some_iff.1 hj
    rw [← hpart, List.getElem?_take_of_lt hlt, List.getElem?_drop] at hj
    exact hj
  constructor
  · intro j v hj
    show b.byte (pcAt (pcAt org a) j) = v
    rw [pcAt_pcAt]
    exact h.holds _ _ (hget hj)
  · intro j hj
    rw [pcAt_pcAt]
    obtain ⟨hlt, -⟩ := List.getElem?_eq_some_iff.1 (hget (List.getElem?_eq_getElem hj))
    exact h.clear _ hlt

omit [Device H] [Device K] in
theorem Kept.nested (h : Kept (n + 2) sp b org code) (w : U16) :
    Kept n (sp - 2) (pushed b (sp - 2) w) org code where
  holds := (h.same (same_pushed n sp w b)).holds
  clear j hj hbelow := h.clear j hj hbelow.nested

/-- `jp entry` -/
theorem leads_jpNear (hcode : Kept n r.sp b org code) (hk : code[k]? = some 0xC3)
    (hlo : code[k + 1]? = some (lo entry)) (hhi : code[k + 2]? = some (hi entry)) :
    Leads Board.loop (Near n (atCode r org k) b) (Near n (atCode r entry 0) b) := by
  refine leads_still rfl ?_
  intro b' hb'
  have hjp := leads_jp (r := r) (hcode.same hb').holds hk hlo hhi
  have hentry : pcAt entry 0 = entry := BitVec.add_zero entry
  rw [word_hi_lo, ← hentry] at hjp
  exact hjp

/-- `ld a, v` -/
theorem leads_loadA {v : U8} (hcode : Kept n r.sp b org code) (hk : code[k]? = some 0x3E)
    (hv : code[k + 1]? = some v) :
    Leads Board.loop (Near n (atCode r org k) b)
      (Near n { atCode r org (k + 2) with af := word v (lo r.af) } b) := by
  refine leads_still rfl ?_
  intro b' hb'
  exact leads_ld (hcode.same hb').holds hk rfl hv rfl

/-- `push af` -/
theorem leads_pushNear (hcode : Kept (n + 2) r.sp b org code) (hk : code[k]? = some 0xF5) :
    Leads Board.loop (Near (n + 2) (atCode r org k) b)
      (Near n { atCode r org (k + 1) with sp := r.sp - 2 } (pushed b (r.sp - 2) r.af)) := by
  apply leads_near
  intro b' hb'
  refine (leads_pushAf (r := r) (hcode.same hb').holds hk).conseq (fun s hs => hs) ?_
  intro s hs
  exact ⟨_, hs, Same.called hb' _⟩

/-- **`call entry`**, for what the subroutine leads to. -/
theorem leads_callNear {Q : Cpu × Board H K → Prop} (hcode : Kept (n + 2) r.sp b org code)
    (hk : code[k]? = some 0xCD) (hlo : code[k + 1]? = some (lo entry))
    (hhi : code[k + 2]? = some (hi entry))
    (h : Leads Board.loop (Near n { r with pc := entry, sp := r.sp - 2 }
      (pushed b (r.sp - 2) (pcAt org (k + 3)))) Q) :
    Leads Board.loop (Near (n + 2) (atCode r org k) b) Q := by
  apply leads_near
  intro b' hb'
  have hcall := leads_call (r := r) (hcode.same hb').holds hk hlo hhi
  rw [word_hi_lo] at hcall
  refine hcall.trans (h.conseq ?_ fun s hs => hs)
  intro s hs
  exact ⟨_, hs, Same.called hb' _⟩

omit [Device H] [Device K] in
/-- What is under the stack pointer before `ret` is under it afterwards. -/
theorem Near.returned {r : Regs} {pc : U16} {b : Board H K} {s : Cpu × Board H K}
    (h : ∃ b', At { r with pc := pc, sp := r.sp + 2 } b' s ∧ Same n r.sp b b') :
    Near (n + 2) { r with pc := pc, sp := r.sp + 2 } b s := by
  obtain ⟨b', hs, hb'⟩ := h
  refine ⟨b', hs, hb'.widen ?_⟩
  intro a ha
  apply Below.nested
  rw [BitVec.add_sub_cancel]
  exact ha

/-- `ret` -/
theorem leads_retNear (hn : n ≤ 0xFFFE) (hcode : Kept n r.sp b org code)
    (hk : code[k]? = some 0xC9) :
    Leads Board.loop (Near n (atCode r org k) b)
      (Near (n + 2) { r with pc := top b r.sp, sp := r.sp + 2 } b) := by
  apply leads_near
  intro b' hb'
  have hret := leads_ret (r := r) (hcode.same hb').holds hk
  rw [hb'.top hn] at hret
  refine hret.conseq (fun s hs => hs) ?_
  intro s hs
  exact Near.returned ⟨b', hs, hb'⟩

/-- `pop af` -/
theorem leads_popNear (hn : n ≤ 0xFFFE) (hcode : Kept n r.sp b org code)
    (hk : code[k]? = some 0xF1) :
    Leads Board.loop (Near n (atCode r org k) b)
      (Near (n + 2) { atCode r org (k + 1) with sp := r.sp + 2, af := top b r.sp } b) := by
  apply leads_near
  intro b' hb'
  have hpop := leads_popAf (r := r) (hcode.same hb').holds hk
  rw [hb'.top hn] at hpop
  refine hpop.conseq (fun s hs => hs) ?_
  intro s hs
  exact Near.returned (r := { r with af := top b r.sp }) ⟨b', hs, hb'⟩

variable {op : U8} {cc : Condition}

/-- `ret cc`, which returns -/
theorem leads_retTaken (hn : n ≤ 0xFFFE) (hcode : Kept n r.sp b org code)
    (hk : code[k]? = some op) (hop : doOpcodeTable op = .run (.conditionalReturnWz cc))
    (hcond : r.cpu.condition cc = true) :
    Leads Board.loop (Near n (atCode r org k) b)
      (Near (n + 2) { r with pc := top b r.sp, sp := r.sp + 2 } b) := by
  apply leads_near
  intro b' hb'
  have hret := leads_retConditional (r := r) (hcode.same hb').holds hk hop
  rw [if_pos hcond, hb'.top hn] at hret
  refine hret.conseq (fun s hs => hs) ?_
  intro s hs
  exact Near.returned ⟨b', hs, hb'⟩

/-- `ret cc`, which does not return -/
theorem leads_retPassed (hcode : Kept n r.sp b org code)
    (hk : code[k]? = some op) (hop : doOpcodeTable op = .run (.conditionalReturnWz cc))
    (hcond : r.cpu.condition cc = false) :
    Leads Board.loop (Near n (atCode r org k) b) (Near n (atCode r org (k + 1)) b) := by
  refine leads_still rfl ?_
  intro b' hb'
  have hret := leads_retConditional (r := r) (hcode.same hb').holds hk hop
  rw [if_neg (by simp [hcond])] at hret
  exact hret

omit [Device H] [Device K] in
/-- Back from a call, on the board that it should leave. -/
theorem Near.back {r : Regs} {w : U16} {b b₁ b₂ : Board H K} {s : Cpu × Board H K}
    (h : Near (n + 2) { r with
      pc := top (pushed b (sp - 2) w) (sp - 2)
      sp := sp - 2 + 2 } b₂ s) (hsame : Same (n + 2) sp b₁ b₂) :
    Near (n + 2) { r with pc := w, sp := sp } b₁ s := by
  rw [top_pushed, BitVec.sub_add_cancel] at h
  exact h.of_same hsame (Nat.le_refl _)

/-! ### A buffer -/

omit [Device H] [Device K] in
/-- The board with `bytes` from `a` on. -/
def fill (b : Board H K) (a : U16) : List U8 → Board H K
  | [] => b
  | v :: bytes => fill (b.write a v) (a + 1) bytes

omit [Device H] [Device K] in
theorem fill_snoc (b : Board H K) (a : U16) (bytes : List U8) (v : U8) :
    fill b a (bytes ++ [v]) = (fill b a bytes).write (pcAt a bytes.length) v := by
  induction bytes generalizing b a with
  | nil =>
    have hstart : pcAt a 0 = a := BitVec.add_zero a
    rw [List.length_nil, hstart]
    rfl
  | cons w bytes ih =>
    rw [List.cons_append, fill, ih, fill, List.length_cons]
    congr 1
    rw [pcAt, pcAt, BitVec.add_assoc, BitVec.add_comm 1]
    congr 1
    exact (BitVec.ofNat_add _ 1).symm

omit [Device H] [Device K] in
@[simp] theorem hd_fill (b : Board H K) (a : U16) (bytes : List U8) :
    (fill b a bytes).hd = b.hd := by
  induction bytes generalizing b a with
  | nil => rfl
  | cons v bytes ih => exact ih _ _

omit [Device H] [Device K] in
@[simp] theorem kb_fill (b : Board H K) (a : U16) (bytes : List U8) :
    (fill b a bytes).kb = b.kb := by
  induction bytes generalizing b a with
  | nil => rfl
  | cons v bytes ih => exact ih _ _

omit [Device H] [Device K] in
/-- A byte outside the buffer. -/
theorem byte_fill_of_out (b : Board H K) (a : U16) (bytes : List U8) {a' : U16}
    (h : ∀ k < bytes.length, a' ≠ pcAt a k) : (fill b a bytes).byte a' = b.byte a' := by
  induction bytes using List.reverseRecOn with
  | nil => rfl
  | append_singleton bytes v ih =>
    rw [List.length_append, List.length_singleton] at h
    rw [fill_snoc, Board.byte_write, if_neg (h bytes.length (Nat.lt_succ_self _)), ih]
    intro k hk
    exact h k (Nat.lt_succ_of_lt hk)

omit [Device H] [Device K] in
theorem Same.fill {b' : Board H K} (h : Same n sp b b') (a : U16) (bytes : List U8) :
    Same n sp (Software.fill b a bytes) (Software.fill b' a bytes) := by
  induction bytes generalizing b b' a with
  | nil => exact h
  | cons v bytes ih => exact ih (h.write a v) (a + 1)

omit [Device H] [Device K] in
/-- A buffer that is not the top of the stack. -/
theorem top_fill (b : Board H K) (a : U16) (bytes : List U8)
    (h : ∀ k < bytes.length, sp ≠ pcAt a k ∧ sp + 1 ≠ pcAt a k) :
    top (fill b a bytes) sp = top b sp := by
  rw [top, top, byte_fill_of_out b a bytes fun k hk => (h k hk).1,
    byte_fill_of_out b a bytes fun k hk => (h k hk).2]

omit [Device H] [Device K] in
/-- The bytes of the buffer. -/
theorem code_fill (b : Board H K) (a : U16) {bytes : List U8} (hlen : bytes.length ≤ 0x10000) :
    Code (fill b a bytes) a bytes := by
  induction bytes using List.reverseRecOn with
  | nil =>
    intro k v hk
    cases hk
  | append_singleton bytes v ih =>
    rw [List.length_append, List.length_singleton] at hlen
    intro k w hk
    show (fill b a (bytes ++ [v])).byte (pcAt a k) = w
    rw [fill_snoc, Board.byte_write]
    by_cases hlast : k = bytes.length
    · subst hlast
      rw [List.getElem?_append_right (Nat.le_refl _), Nat.sub_self] at hk
      rw [if_pos rfl]
      exact Option.some.inj hk
    · obtain ⟨hlt, -⟩ := List.getElem?_eq_some_iff.1 hk
      rw [List.length_append, List.length_singleton] at hlt
      have hbefore : k < bytes.length := by omega
      have hne : pcAt a k ≠ pcAt a bytes.length := by
        rw [pcAt, pcAt]
        bv_omega
      rw [List.getElem?_append_left hbefore] at hk
      rw [if_neg hne]
      exact ih (by omega) k w hk

omit [Device H] [Device K] in
/-- Code that the buffer does not reach. -/
theorem Kept.fill (h : Kept n sp b org code) {a : U16} {bytes : List U8}
    (hclear : ∀ j < code.length, ∀ k < bytes.length, pcAt org j ≠ pcAt a k) :
    Kept n sp (Software.fill b a bytes) org code where
  holds j v hj := by
    obtain ⟨hlt, -⟩ := List.getElem?_eq_some_iff.1 hj
    exact (byte_fill_of_out b a bytes (hclear j hlt)).trans (h.holds j v hj)
  clear := h.clear

end

end Possum.Software
