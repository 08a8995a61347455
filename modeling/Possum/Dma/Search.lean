import Possum.Dma.Block

/-!
# Searches of the DMA controller

A byte should match where it agrees with the match byte on every bit that the mask leaves
(`Matches`).  The device compares it with the match byte less the masked bits, so a byte with a
masked bit set is never found.  A match that should not stop the device disables it all the same.

`Searches` is what a search should do on a bus, and **`searches_iff`** when the device does it.
-/

set_option autoImplicit false

namespace Possum

namespace Dma

/-! ### What a search should do -/

/-- The byte agrees with the match byte on the bits that are zero in the mask. -/
def Matches (d : Dma) (v : U8) : Prop := (v ^^^ d.matchByte) &&& ~~~d.maskByte = 0

instance (d : Dma) (v : U8) : Decidable (d.Matches v) := inferInstanceAs (Decidable (_ = _))

/-- A byte that the device finds does match. -/
theorem matches_of_hits {d : Dma} {v : U8} (h : d.Hits v) : d.Matches v := by
  unfold Matches
  rw [← h.2]
  apply BitVec.eq_of_getLsbD_eq
  intro i hlt
  have hzero : (0 : U8).getLsbD i = false := BitVec.getLsbD_zero
  simp only [BitVec.getLsbD_and, BitVec.getLsbD_xor, BitVec.getLsbD_not, hlt, decide_true,
    Bool.true_and, hzero]
  cases d.maskByte.getLsbD i <;> cases d.matchByte.getLsbD i <;> rfl

section

variable {β : Type} [DeviceBus β]

/-- The device processes `n` bytes and is disabled with the last of them.  `MATCH_NOT_FOUND` is
cleared if something was found and else stays. -/
def Processes (d : Dma) (bus : β) (n : ℕ) (found : Prop) : Prop :=
  (∀ k < n, ∃ e, d.ticks bus k = some (e, d.view.pass bus k) ∧ e.enabled = true) ∧
    ∃ e, d.ticks bus n = some (e, d.view.pass bus n) ∧ e.enabled = false ∧
      (e.notFound = true ↔ d.notFound = true ∧ ¬ found)

/-- Byte `j` is the first that matches. -/
def FirstMatch (d : Dma) (bus : β) (j : ℕ) : Prop :=
  d.Matches (d.view.byteAt bus j) ∧ ∀ i < j, ¬ d.Matches (d.view.byteAt bus i)

/-- With stop on match the device processes the bytes up to the first match, or all of them where
there is none; without it, it processes them all. -/
def Searches (d : Dma) (bus : β) : Prop :=
  if d.stopOnMatch = true then
    (∀ j < d.blockBytes, d.FirstMatch bus j → d.Processes bus (j + 1) True) ∧
      ((∀ i < d.blockBytes, ¬ d.Matches (d.view.byteAt bus i)) →
        d.Processes bus d.blockBytes False)
  else d.Processes bus d.blockBytes (∃ i < d.blockBytes, d.Matches (d.view.byteAt bus i))

/-- The bytes and the flags of a block that is searched as it should be.  With stop on match the
first match must be a byte the device finds (or the last one, with nothing left to clear), and
without it no byte but the last may be one. -/
def FindsRight (d : Dma) (bus : β) : Prop :=
  if d.stopOnMatch = true then
    (∀ j < d.blockBytes, d.FirstMatch bus j →
      d.Hits (d.view.byteAt bus j) ∨
        (j + 1 = d.blockBytes ∧ d.restartAtEndOfBlock = false ∧ d.notFound = false)) ∧
      ((∀ i < d.blockBytes, ¬ d.Matches (d.view.byteAt bus i)) → d.restartAtEndOfBlock = false)
  else
    d.restartAtEndOfBlock = false ∧
      (∀ i, i + 1 < d.blockBytes → ¬ d.Hits (d.view.byteAt bus i)) ∧
      (d.notFound = true → (∃ i < d.blockBytes, d.Matches (d.view.byteAt bus i)) →
        d.Hits (d.view.byteAt bus (d.blockBytes - 1)))

/-! ### What the device does -/

variable {d : Dma} {bus : β}

/-- Bytes that do not match are not found. -/
theorem not_hits_of {n : ℕ} (h : ∀ i < n, ¬ d.Matches (d.view.byteAt bus i)) :
    ∀ i < n, ¬ d.view.Hits (d.view.byteAt bus i) :=
  fun i hi hhit => h i hi (matches_of_hits hhit)

/-- The device is enabled as long as it has found nothing. -/
theorem enabled_before (hon : d.enabled = true) {n : ℕ} (hn : n ≤ d.view.rest + 1)
    (hmiss : ∀ i, i + 1 < n → ¬ d.view.Hits (d.view.byteAt bus i)) :
    ∀ k < n, ∃ e, d.ticks bus k = some (e, d.view.pass bus k) ∧ e.enabled = true := by
  intro k hk
  obtain ⟨e, hticks, hunderway⟩ :=
    run_underway hon bus (by omega) fun i (hi : i < k) => hmiss i (by omega)
  exact ⟨e, hticks, hunderway.enabled hon⟩

/-- **The end of the block**, for a device that is not stopped by a match before it. -/
theorem processes_all (hon : d.enabled = true)
    (hmiss : ∀ i < d.view.rest, ¬ d.view.Hits (d.view.byteAt bus i))
    (hgo : ¬ (d.Hits (d.view.byteAt bus d.view.rest) ∧ d.stopOnMatch = true)) (found : Prop) :
    d.Processes bus (d.view.rest + 1) found ↔
      d.restartAtEndOfBlock = false ∧
        (d.notFound = true → (d.Hits (d.view.byteAt bus d.view.rest) ↔ found)) := by
  obtain ⟨e, hticks, hunderway⟩ := run_underway hon bus (Nat.le_refl _) hmiss
  have hbefore : ∀ k < d.view.rest + 1, ∃ e, d.ticks bus k = some (e, d.view.pass bus k) ∧
      e.enabled = true := enabled_before hon (Nat.le_refl _) fun i hi => hmiss i (by omega)
  obtain ⟨hrestart, hnone⟩ | ⟨hrestart, e', htick, hoff, -, -, hfound⟩ :=
    hunderway.finish hon bus hgo
  · refine iff_of_false ?_ ?_
    · rintro ⟨-, e', hend, -⟩
      rw [ticks_succ_of_none hticks hnone] at hend
      cases hend
    · rintro ⟨hclear, -⟩
      rw [hclear] at hrestart
      cases hrestart
  · have hend := ticks_succ hticks htick
    have hbit : e'.notFound = true ↔
        d.notFound = true ∧ ¬ d.Hits (d.view.byteAt bus d.view.rest) := by
      rw [hfound]
      split
      · exact iff_of_false Bool.false_ne_true fun h => h.2 (by assumption)
      · exact (and_iff_left (by assumption)).symm
    constructor
    · rintro ⟨-, e'', hend', -, hbit'⟩
      rw [hend] at hend'
      cases hend'
      refine ⟨hrestart, fun hset => ?_⟩
      have hsame := hbit.symm.trans hbit'
      rw [and_iff_right hset, and_iff_right hset] at hsame
      exact not_iff_not.1 hsame
    · rintro ⟨-, hsame⟩
      refine ⟨hbefore, e', hend, hoff, hbit.trans ?_⟩
      exact and_congr_right fun hset => not_congr (hsame hset)

/-- A match that stops the device. -/
theorem processes_stop (hon : d.enabled = true) {j : ℕ} (hj : j ≤ d.view.rest)
    (hmiss : ∀ i < j, ¬ d.view.Hits (d.view.byteAt bus i))
    (hhit : d.view.Hits (d.view.byteAt bus j)) (hstop : d.stopOnMatch = true) :
    d.Processes bus (j + 1) True := by
  obtain ⟨e, hticks, hunderway⟩ := run_underway hon bus hj hmiss
  obtain ⟨e', htick, hoff, hfound⟩ := hunderway.stop hon bus hhit hstop
  refine ⟨enabled_before hon (by omega) fun i hi => hmiss i (by omega), e',
    ticks_succ hticks htick, hoff, ?_⟩
  rw [hfound]
  exact iff_of_false Bool.false_ne_true fun h => h.2 trivial

/-- A device that processes all bytes has found none but the last. -/
theorem misses_of_processes (hon : d.enabled = true) {n : ℕ} {found : Prop}
    (hn : n ≤ d.view.rest + 1) (h : d.Processes bus n found) (i : ℕ) (hi : i + 1 < n) :
    ¬ d.view.Hits (d.view.byteAt bus i) := by
  induction i using Nat.strong_induction_on with
  | _ i ih =>
    intro hhit
    obtain ⟨e, hticks, hunderway⟩ := run_underway hon bus (k := i) (by omega)
      fun k hk => ih k hk (by omega)
    obtain ⟨e', htick, hoff⟩ := hunderway.hit hon bus hhit (by omega)
    obtain ⟨e'', hnext, henabled⟩ := h.1 (i + 1) hi
    rw [ticks_succ hticks htick] at hnext
    cases hnext
    rw [hoff] at henabled
    cases henabled

end

/-- **When a search is right.**  For a device at the start of a block: it stops at the first byte
that matches, or goes through the whole block, as it should, if and only if the bytes and the flags
are such as `FindsRight` says. -/
theorem searches_iff {β : Type} [DeviceBus β] {d : Dma} (bus : β) (hon : d.enabled = true)
    (hcount : d.byteCounter = 0) : d.Searches bus ↔ d.FindsRight bus := by
  have hbytes := blockBytes_eq hcount
  unfold Searches FindsRight
  by_cases hstop : d.stopOnMatch = true
  · rw [if_pos hstop, if_pos hstop]
    refine and_congr (forall_congr' fun j => forall_congr' fun hj => forall_congr' fun hfirst => ?_)
      (forall_congr' fun hnone => ?_)
    · have hmiss := not_hits_of hfirst.2
      by_cases hhit : d.Hits (d.view.byteAt bus j)
      · exact iff_of_true (processes_stop hon (by omega) hmiss hhit hstop) (Or.inl hhit)
      · rw [or_iff_right hhit]
        by_cases hlast : j = d.view.rest
        · subst hlast
          rw [processes_all hon hmiss (fun h => hhit h.1), and_iff_right hbytes]
          refine and_congr_right fun _ => ?_
          rw [iff_true, ← Bool.not_eq_true]
          exact ⟨fun h hset => hhit (h hset), fun h hset => absurd hset h⟩
        · -- the device goes on behind the match
          have hmore : ∀ i < j + 1, ¬ d.view.Hits (d.view.byteAt bus i) := by
            intro i hi
            obtain hlt | rfl := Nat.lt_succ_iff_lt_or_eq.1 hi
            · exact hmiss i hlt
            · exact hhit
          obtain ⟨e, hticks, hunderway⟩ := run_underway hon bus (by omega) hmore
          refine iff_of_false ?_ fun h => hlast (by omega)
          rintro ⟨-, e', hend, hoff, -⟩
          rw [hticks] at hend
          cases hend
          rw [hunderway.enabled hon] at hoff
          cases hoff
    · have hmiss := not_hits_of hnone
      have hlast := hmiss d.view.rest (by omega)
      rw [← hbytes, processes_all hon (fun i hi => hmiss i (by omega)) fun h => hlast h.1]
      exact and_iff_left fun _ => iff_of_false hlast id
  · have hlast : d.blockBytes - 1 = d.view.rest := by omega
    rw [if_neg hstop, if_neg hstop, hlast]
    constructor
    · intro h
      have hmiss := misses_of_processes hon (by omega) h
      rw [← hbytes, processes_all hon (fun i hi => hmiss i (by omega)) fun hs => hstop hs.2] at h
      exact ⟨h.1, hmiss, fun hset => (hbytes ▸ h.2 hset).2⟩
    · rintro ⟨hrestart, hmiss, hclears⟩
      rw [← hbytes] at hmiss hclears ⊢
      rw [processes_all hon (fun i hi => hmiss i (by omega)) fun hs => hstop hs.2]
      refine ⟨hrestart, fun hset => ⟨fun hhit => ?_, hclears hset⟩⟩
      exact ⟨d.view.rest, by omega, matches_of_hits hhit⟩

/-- A device that looks for 0x41 in a block of two bytes and stops where it finds it. -/
def twoBytes : Dma := { (default : Dma) with
  status := 0x30, enabled := true, search := true, stopOnMatch := true
  matchByte := 0x41, blockLength := 2 }

/-- It looks for 1 in the low half of four bytes of memory. -/
def fourBytes : Dma := { twoBytes with
  maskByte := 0xF0, blockLength := 4, portBIsMemory := true, portBIncrementMode := .increment }

/-- The third byte is the first that matches, and the device finds it. -/
theorem searches_iff_third : fourBytes.Searches (TestBus.withMem [0x10, 0x22, 0x01, 0x31]) := by
  refine (searches_iff _ rfl rfl).2 ?_
  unfold FindsRight
  rw [if_pos (by decide)]
  refine ⟨?_, fun _ => rfl⟩
  rintro j hj ⟨hmatch, hfirst⟩
  have hlt : j < 4 := hj
  refine .inl ?_
  obtain rfl | rfl | rfl | rfl : j = 0 ∨ j = 1 ∨ j = 2 ∨ j = 3 := by omega
  · exact absurd hmatch (by decide)
  · exact absurd hmatch (by decide)
  · exact ⟨rfl, rfl⟩
  · exact absurd (by decide) (hfirst 2 (by decide))

/-- With the four high bits masked 0x31 matches, but does not stop the device.  And a device that
should not stop on a match is disabled by it. -/
theorem searches_not :
    ({ twoBytes with maskByte := 0xF0 } : Dma).Matches 0x31 ∧
      (({ twoBytes with maskByte := 0xF0 } : Dma).ticks (ConstantBus.mk 0x31) 1).map
        (fun r => r.1.enabled) = some true ∧
      (({ twoBytes with stopOnMatch := false } : Dma).ticks (ConstantBus.mk 0x41) 1).map
        (fun r => r.1.enabled) = some false ∧
      ¬ ∀ (d : Dma) (bus : ConstantBus), d.enabled = true → d.search = true →
        d.byteCounter = 0 → d.Searches bus := by
  have hon : (({ twoBytes with maskByte := 0xF0 } : Dma).ticks (ConstantBus.mk 0x31) 1).map
      (fun r => r.1.enabled) = some true := by decide
  refine ⟨by decide, hon, by decide, ?_⟩
  intro h
  have hsearches := h { twoBytes with maskByte := 0xF0 } (ConstantBus.mk 0x31) rfl rfl rfl
  unfold Searches at hsearches
  rw [if_pos (by decide)] at hsearches
  obtain ⟨-, e, hend, hoff, -⟩ := hsearches.1 0 (by decide)
    ⟨by decide, fun i hi => absurd hi (Nat.not_lt_zero i)⟩
  rw [hend, Option.map_some, hoff] at hon
  cases hon

end Dma

end Possum
