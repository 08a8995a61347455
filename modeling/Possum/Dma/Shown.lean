import Possum.Dma.Transfer
import Mathlib.Data.Finset.Card

/-!
# What a transfer shows

Two transfers on buses of their own, started in the same state, are compared tick by tick: the
accesses each makes, with their bytes, and whether it goes on, has stopped or is lost
(`Dma.shown`, `BlockTransfer.shown`).  A device shows what the transfer in it shows
(`shown_view`).

**`shown_iff`**: two transfers of the same layout show the same on every bus, for any number of
ticks, if and only if they read and write the same addresses, have the same length and the same
restart, and look for the same byte, unless there is nothing a byte found could change
(`BlockTransfer.Same`).  One direction is a bisimulation; for the other it is enough to look at
the buses that answer every read with the same byte.
-/

set_option autoImplicit false

namespace Possum

open Lib Agent

/-- What a tick shows: its accesses, and whether the device is still enabled, if it is not
lost. -/
abbrev Shown := List BusAccess × Option Bool

/-- A tick on a bus, with what it shows. -/
def shows {σ β : Type} (tick : σ → Traced β → Option σ × Traced β) (enabled : σ → Bool) :
    Agent σ β Shown := fun s bus =>
  let r := tick s ⟨bus, []⟩
  ((r.2.accesses, r.1.map enabled), r.1, r.2.bus)

def Dma.shown {β : Type} [DeviceBus β] : Agent Dma β Shown := shows Dma.tick Dma.enabled

def BlockTransfer.shown {β : Type} [DeviceBus β] : Agent BlockTransfer β Shown :=
  shows BlockTransfer.tick BlockTransfer.enabled

/-- A device shows what its transfer shows. -/
theorem Dma.shown_view {β : Type} [DeviceBus β] :
    IsBisim (Dma.shown (β := β)) BlockTransfer.shown (fun d t => d.view = t) := by
  refine isBisim_of_map Dma.view fun d bus => ?_
  unfold Dma.shown BlockTransfer.shown shows
  simp only [Dma.tick_view, Option.map_map]
  rfl

namespace Side

variable {β : Type} [DeviceBus β]

def reading (s : Side) (v : U8) : BusAccess :=
  if s.isMemory then .read s.counter v else .input s.counter v

def writing (s : Side) (v : U8) : BusAccess :=
  if s.isMemory then .write s.counter v else .output s.counter v

theorem fetch_traced (s : Side) (bus : β) (accesses : List BusAccess) :
    s.fetch (⟨bus, accesses⟩ : Traced β) =
      ((s.fetch bus).1, ⟨(s.fetch bus).2, accesses ++ [s.reading (s.fetch bus).1]⟩) := by
  unfold fetch reading
  cases s.isMemory <;> rfl

theorem store_traced (s : Side) (bus : β) (accesses : List BusAccess) (v : U8) :
    s.store (⟨bus, accesses⟩ : Traced β) v =
      ⟨s.store bus v, accesses ++ [s.writing v]⟩ := by
  unfold store writing
  cases s.isMemory <;> rfl

end Side

namespace BlockTransfer

/-! ### One tick -/

/-- Both sides after one byte. -/
def moved (t : BlockTransfer) : BlockTransfer :=
  { t with source := t.source.next, destination := t.destination.next }

section

variable {β : Type} [DeviceBus β]

/-- The tick of a transfer in progress. -/
theorem shown_of_enabled {t : BlockTransfer} (h : t.enabled = true) (bus : β) :
    t.shown bus =
      ((t.source.reading (t.source.fetch bus).1 ::
          if t.transfer then [t.destination.writing (t.source.fetch bus).1] else [],
        (t.moved.advance (t.source.fetch bus).1).map enabled),
        t.moved.advance (t.source.fetch bus).1,
        if t.transfer then t.destination.store (t.source.fetch bus).2 (t.source.fetch bus).1
        else (t.source.fetch bus).2) := by
  unfold shown shows tick
  simp only [if_pos h, Side.fetch_traced]
  by_cases htransfer : t.transfer = true
  · simp only [if_pos htransfer, Side.store_traced]
    rfl
  · simp only [if_neg htransfer]
    rfl

theorem shown_of_disabled {t : BlockTransfer} (h : t.enabled = false) (bus : β) :
    t.shown bus = (([], some false), some t, bus) := by
  unfold shown shows tick
  simp only [h, Bool.false_eq_true, if_false, Option.map_some]

end

/-! ### Counting -/

/-- The byte is the one that is wanted. -/
def Hits (t : BlockTransfer) (v : U8) : Prop := t.search = true ∧ t.wanted = v

theorem advance_of_miss {t : BlockTransfer} {v : U8} (h : ¬ t.Hits v) :
    t.advance v = t.count := if_neg h

theorem count_of_rest {t : BlockTransfer} (h : t.rest ≠ 0) :
    t.count = some { t with rest := t.rest - 1 } := if_neg h

/-- The last byte of a block ends the transfer or loses it in the restart. -/
theorem count_last {t : BlockTransfer} (hrest : t.rest = 0) :
    (t.restart = true ∧ t.count = none) ∨
      (t.restart = false ∧ ∃ u, t.count = some u ∧ u.enabled = false) := by
  unfold count
  rw [if_pos hrest]
  cases hrestart : t.restart with
  | true => exact Or.inl ⟨rfl, rfl⟩
  | false => exact Or.inr ⟨rfl, _, rfl, rfl⟩

/-- So does a last byte that is found, unless the match stops the transfer before the restart. -/
theorem advance_last {t : BlockTransfer} {v : U8} (hrest : t.rest = 0)
    (h : ¬ (t.Hits v ∧ t.stopOnMatch = true ∧ t.restart = true)) :
    (t.restart = true ∧ t.advance v = none) ∨
      (t.restart = false ∧ ∃ u, t.advance v = some u ∧ u.enabled = false) := by
  unfold advance
  by_cases hhit : t.search = true ∧ t.wanted = v
  · rw [if_pos hhit]
    by_cases hstop : t.stopOnMatch = true
    · have hrestart : t.restart = false := by
        cases hcase : t.restart with
        | false => rfl
        | true => exact absurd ⟨hhit, hstop, hcase⟩ h
      rw [if_pos hstop]
      exact Or.inr ⟨hrestart, _, rfl, rfl⟩
    · rw [if_neg hstop]
      exact count_last (t := { t with enabled := false }) hrest
  · rw [if_neg hhit]
    exact count_last hrest

/-- A byte that is found stops the transfer, before or after the end of the block. -/
theorem advance_of_hit {t : BlockTransfer} {v : U8} (h : t.Hits v)
    (hsafe : t.stopOnMatch = true ∨ t.rest ≠ 0) :
    ∃ u, t.advance v = some u ∧ u.enabled = false := by
  have hmatch : t.search = true ∧ t.wanted = v := h
  unfold advance count
  rw [if_pos hmatch]
  cases hstop : t.stopOnMatch with
  | true => exact ⟨_, rfl, rfl⟩
  | false =>
    have hrest : t.rest ≠ 0 := hsafe.resolve_left (by rw [hstop]; exact Bool.false_ne_true)
    rw [if_neg Bool.false_ne_true, if_neg hrest]
    exact ⟨_, rfl, rfl⟩

/-! ### Transfers that show the same -/

/-- What decides what a transfer shows.  A search is not seen where the block has one byte
left, unless a match would keep the transfer from its restart. -/
structure Same (t u : BlockTransfer) : Prop where
  source : t.source = u.source
  transfer : t.transfer = u.transfer
  destination : t.transfer = true → t.destination = u.destination
  stopOnMatch : t.stopOnMatch = u.stopOnMatch
  restart : t.restart = u.restart
  rest : t.rest = u.rest
  search : (t.rest = 0 ∧ ¬ (t.restart = true ∧ t.stopOnMatch = true)) ∨
    (t.search = u.search ∧ (t.search = true → t.wanted = u.wanted))

/-- Both are at their end, or go on to show the same. -/
def Together (t u : BlockTransfer) : Prop :=
  (t.enabled = false ∧ u.enabled = false) ∨
    (t.enabled = true ∧ u.enabled = true ∧ Same t u)

theorem Together.enabled_eq {a b : Option BlockTransfer} (h : Option.Rel Together a b) :
    a.map enabled = b.map enabled := by
  cases h with
  | none => rfl
  | some h =>
    obtain ⟨ha, hb⟩ | ⟨ha, hb, -⟩ := h
    · rw [Option.map_some, Option.map_some, ha, hb]
    · rw [Option.map_some, Option.map_some, ha, hb]

theorem Same.moved {t u : BlockTransfer} (h : Same t u) : Same t.moved u.moved where
  source := congrArg Side.next h.source
  transfer := h.transfer
  destination ht := congrArg Side.next (h.destination ht)
  stopOnMatch := h.stopOnMatch
  restart := h.restart
  rest := h.rest
  search := h.search

/-- The last byte ends both transfers, or loses both. -/
theorem Same.advance_last {t u : BlockTransfer} (h : Same t u) {v : U8} (hrest : t.rest = 0)
    (ht : ¬ (t.Hits v ∧ t.stopOnMatch = true ∧ t.restart = true))
    (hu : ¬ (u.Hits v ∧ u.stopOnMatch = true ∧ u.restart = true)) :
    Option.Rel Together (t.advance v) (u.advance v) := by
  have hrest' : u.rest = 0 := h.rest ▸ hrest
  obtain ⟨hlost, hnone⟩ | ⟨hends, t', hsome, hoff⟩ := BlockTransfer.advance_last hrest ht
  · obtain ⟨-, hnone'⟩ | ⟨hends', -⟩ := BlockTransfer.advance_last hrest' hu
    · rw [hnone, hnone']
      exact Option.Rel.none
    · rw [h.restart, hends'] at hlost
      cases hlost
  · obtain ⟨hlost', -⟩ | ⟨-, u', hsome', hoff'⟩ := BlockTransfer.advance_last hrest' hu
    · rw [h.restart, hlost'] at hends
      cases hends
    · rw [hsome, hsome']
      exact Option.Rel.some (Or.inl ⟨hoff, hoff'⟩)

/-- The same byte takes transfers that show the same to such transfers. -/
theorem Same.advance {t u : BlockTransfer} (h : Same t u) (ht : t.enabled = true)
    (hu : u.enabled = true) (v : U8) : Option.Rel Together (t.advance v) (u.advance v) := by
  obtain ⟨hrest, hsafe⟩ | ⟨hsearch, hwanted⟩ := h.search
  · refine h.advance_last hrest (fun hbad => hsafe ⟨hbad.2.2, hbad.2.1⟩) fun hbad => hsafe ?_
    rw [h.restart, h.stopOnMatch]
    exact ⟨hbad.2.2, hbad.2.1⟩
  · have hhits : t.Hits v ↔ u.Hits v := by
      constructor
      · rintro ⟨hon, hv⟩
        exact ⟨hsearch ▸ hon, hwanted hon ▸ hv⟩
      · rintro ⟨hon, hv⟩
        have hon' : t.search = true := hsearch.trans hon
        exact ⟨hon', (hwanted hon').trans hv⟩
    have hfound : t.Hits v → t.stopOnMatch = true ∨ t.rest ≠ 0 →
        Option.Rel Together (t.advance v) (u.advance v) := by
      intro hhit hsafe
      obtain ⟨t', hsome, hoff⟩ := advance_of_hit hhit hsafe
      rw [h.stopOnMatch, h.rest] at hsafe
      obtain ⟨u', hsome', hoff'⟩ := advance_of_hit (hhits.1 hhit) hsafe
      rw [hsome, hsome']
      exact Option.Rel.some (Or.inl ⟨hoff, hoff'⟩)
    by_cases hrest : t.rest = 0
    · by_cases hbad : t.Hits v ∧ t.stopOnMatch = true ∧ t.restart = true
      · exact hfound hbad.1 (Or.inl hbad.2.1)
      · refine h.advance_last hrest hbad fun hbad' => hbad ?_
        rw [h.stopOnMatch, h.restart, hhits]
        exact hbad'
    · by_cases hhit : t.Hits v
      · exact hfound hhit (Or.inr hrest)
      · have hrest' : u.rest ≠ 0 := h.rest ▸ hrest
        rw [advance_of_miss hhit, advance_of_miss (fun hhit' => hhit (hhits.2 hhit')),
          count_of_rest hrest, count_of_rest hrest']
        refine Option.Rel.some (Or.inr ⟨ht, hu, ?_⟩)
        exact ⟨h.source, h.transfer, h.destination, h.stopOnMatch, h.restart,
          congrArg (· - 1) h.rest, Or.inr ⟨hsearch, hwanted⟩⟩

/-- Transfers that show the same are bisimilar. -/
theorem together_isBisim {β : Type} [DeviceBus β] :
    IsBisim (BlockTransfer.shown (β := β)) BlockTransfer.shown Together := by
  rintro t u bus (⟨ht, hu⟩ | ⟨ht, hu, hsame⟩)
  · rw [shown_of_disabled ht, shown_of_disabled hu]
    exact ⟨rfl, Option.Rel.some (Or.inl ⟨ht, hu⟩), rfl⟩
  · have hnext := hsame.moved.advance ht hu (t.source.fetch bus).1
    rw [shown_of_enabled ht, shown_of_enabled hu, ← hsame.source, ← hsame.transfer]
    refine ⟨?_, hnext, ?_⟩
    · refine Prod.ext ?_ (Together.enabled_eq hnext)
      by_cases hon : t.transfer = true
      · simp only [if_pos hon, hsame.destination hon]
      · simp only [if_neg hon]
    · by_cases hon : t.transfer = true
      · simp only [if_pos hon, hsame.destination hon]
      · simp only [if_neg hon]

/-! ### Telling transfers apart -/

/-- The layout of a transfer: where its sides are and how they move, and what it does on a
match. -/
structure Alike (t u : BlockTransfer) : Prop where
  sourceMemory : t.source.isMemory = u.source.isMemory
  sourceMode : t.source.mode = u.source.mode
  destinationMemory : t.destination.isMemory = u.destination.isMemory
  destinationMode : t.destination.mode = u.destination.mode
  stopOnMatch : t.stopOnMatch = u.stopOnMatch

end BlockTransfer

/-- A bus that answers every read with one byte. -/
structure ConstantBus where
  value : U8

instance : DeviceBus ConstantBus where
  read bus _ := (bus.value, bus)
  write bus _ _ := bus
  input bus _ := (bus.value, bus)
  output bus _ _ := bus

namespace BlockTransfer

/-- The tick of a transfer in progress on a constant bus. -/
theorem shown_constant {t : BlockTransfer} (h : t.enabled = true) (v : U8) :
    t.shown (ConstantBus.mk v) =
      ((t.source.reading v :: if t.transfer then [t.destination.writing v] else [],
        (t.moved.advance v).map enabled), t.moved.advance v, ConstantBus.mk v) := by
  have hfetch : t.source.fetch (ConstantBus.mk v) = (v, ConstantBus.mk v) := by
    unfold Side.fetch
    cases t.source.isMemory <;> rfl
  have hstore : t.destination.store (ConstantBus.mk v) v = ConstantBus.mk v := by
    unfold Side.store
    cases t.destination.isMemory <;> rfl
  rw [shown_of_enabled h, hfetch, hstore, ite_self]

/-- An access tells its address. -/
theorem counter_inj {f g : U16 → BusAccess} (hf : Function.Injective f)
    (hg : Function.Injective g) {isMemory : Bool} {a b : U16}
    (h : (if isMemory then f a else g a) = if isMemory then f b else g b) : a = b := by
  cases isMemory with
  | true => exact hf h
  | false => exact hg h

theorem reading_inj {s s' : Side} (h : s.isMemory = s'.isMemory) {v : U8}
    (heq : s.reading v = s'.reading v) : s.counter = s'.counter := by
  unfold Side.reading at heq
  rw [← h] at heq
  exact counter_inj (f := fun a => .read a v) (g := fun a => .input a v)
    (fun _ _ hab => (BusAccess.read.inj hab).1) (fun _ _ hab => (BusAccess.input.inj hab).1) heq

theorem writing_inj {s s' : Side} (h : s.isMemory = s'.isMemory) {v : U8}
    (heq : s.writing v = s'.writing v) : s.counter = s'.counter := by
  unfold Side.writing at heq
  rw [← h] at heq
  exact counter_inj (f := fun a => .write a v) (g := fun a => .output a v)
    (fun _ _ hab => (BusAccess.write.inj hab).1) (fun _ _ hab => (BusAccess.output.inj hab).1) heq

/-- The transfer after a byte that was neither found nor the last one. -/
def went (t : BlockTransfer) : BlockTransfer := { t.moved with rest := t.rest - 1 }

theorem shown_of_miss {t : BlockTransfer} (ht : t.enabled = true) {v : U8} (h : ¬ t.Hits v)
    (hrest : t.rest ≠ 0) :
    t.shown (ConstantBus.mk v) =
      ((t.shown (ConstantBus.mk v)).1, some t.went, ConstantBus.mk v) := by
  have hmoved : ¬ t.moved.Hits v := h
  have hrest' : t.moved.rest ≠ 0 := hrest
  rw [shown_constant ht, advance_of_miss hmoved, count_of_rest hrest']
  rfl

/-- What the status after a tick tells of a transfer that found nothing. -/
theorem status_of_miss {t : BlockTransfer} (ht : t.enabled = true) {v : U8} (h : ¬ t.Hits v) :
    (t.shown (ConstantBus.mk v)).1.2 =
      if t.rest = 0 then if t.restart then none else some false else some true := by
  rw [shown_constant ht]
  show (t.moved.advance v).map enabled = _
  have hmiss : ¬ t.moved.Hits v := h
  rw [advance_of_miss hmiss]
  unfold count
  by_cases hrest : t.rest = 0
  · have hrest' : t.moved.rest = 0 := hrest
    rw [if_pos hrest, if_pos hrest']
    by_cases hrestart : t.restart = true
    · have hrestart' : t.moved.restart = true := hrestart
      rw [if_pos hrestart, if_pos hrestart']
      rfl
    · have hrestart' : ¬ t.moved.restart = true := hrestart
      rw [if_neg hrestart, if_neg hrestart']
      rfl
  · have hrest' : ¬ t.moved.rest = 0 := hrest
    rw [if_neg hrest, if_neg hrest', Option.map_some]
    exact congrArg some ht

/-- Transfers that find nothing and show the same on a constant bus have one length, and both or
neither restart. -/
theorem ends_alike {v : U8} {t u : BlockTransfer} (ht : t.enabled = true) (hu : u.enabled = true)
    (hmiss : ¬ t.Hits v) (hmiss' : ¬ u.Hits v)
    (h : ∀ n, observe shown n t (ConstantBus.mk v) = observe shown n u (ConstantBus.mk v)) :
    t.rest = u.rest ∧ t.restart = u.restart := by
  -- by induction on what is left: the status of a tick tells whether it was the last one
  induction hlength : t.rest generalizing t u with
  | zero =>
    have hstatus := congrArg Prod.snd (first_eq h)
    rw [status_of_miss ht hmiss, status_of_miss hu hmiss', if_pos hlength] at hstatus
    by_cases hrest : u.rest = 0
    · rw [if_pos hrest] at hstatus
      refine ⟨hrest.symm, ?_⟩
      cases hcase : t.restart <;> cases hcase' : u.restart <;> simp_all
    · rw [if_neg hrest] at hstatus
      cases hcase : t.restart <;> rw [hcase] at hstatus <;> cases hstatus
  | succ k ih =>
    have hpos : t.rest ≠ 0 := by omega
    have hstatus := congrArg Prod.snd (first_eq h)
    rw [status_of_miss ht hmiss, status_of_miss hu hmiss', if_neg hpos] at hstatus
    have hpos' : u.rest ≠ 0 := by
      intro hrest
      rw [if_pos hrest] at hstatus
      cases hcase : u.restart <;> rw [hcase] at hstatus <;> cases hstatus
    have hgo := rest_eq h (shown_of_miss ht hmiss hpos) (shown_of_miss hu hmiss' hpos')
    have hlength' : t.went.rest = k := by
      show t.rest - 1 = k
      omega
    obtain ⟨hrest, hrestart⟩ :=
      ih (t := t.went) (u := u.went) ht hu hmiss hmiss' hgo hlength'
    have hrest' : k = u.rest - 1 := hrest
    exact ⟨by omega, hrestart⟩

/-- Some byte is neither of two. -/
theorem exists_ne (a b : U8) : ∃ v : U8, v ≠ a ∧ v ≠ b := by
  have hcard : ({a, b} : Finset U8).card < ({0, 1, 2} : Finset U8).card := by
    have htwo : ({a, b} : Finset U8).card ≤ 2 := Finset.card_le_two
    have hthree : ({0, 1, 2} : Finset U8).card = 3 := rfl
    omega
  obtain ⟨v, -, hv⟩ := Finset.exists_mem_notMem_of_card_lt_card hcard
  simp only [Finset.mem_insert, Finset.mem_singleton, not_or] at hv
  exact ⟨v, hv⟩

/-- Transfers in progress that show the same on every constant bus look for the same byte,
unless there is nothing a byte found could change. -/
theorem search_alike {t u : BlockTransfer} (ht : t.enabled = true) (hu : u.enabled = true)
    (hrest : t.rest = u.rest) (hrestart : t.restart = u.restart)
    (h : ∀ v n, observe shown n t (ConstantBus.mk v) = observe shown n u (ConstantBus.mk v))
    (hseen : ¬ (t.rest = 0 ∧ ¬ (t.restart = true ∧ t.stopOnMatch = true))) (v : U8)
    (hhit : t.Hits v) : u.Hits v := by
  by_contra hmiss
  have hstatus := congrArg Prod.snd (first_eq (h v))
  have hsafe : t.stopOnMatch = true ∨ t.rest ≠ 0 := by
    by_cases hzero : t.rest = 0
    · left
      by_contra hon
      exact hseen ⟨hzero, fun hboth => hon hboth.2⟩
    · exact Or.inr hzero
  have hmoved : t.moved.Hits v := hhit
  obtain ⟨t', hsome, hoff⟩ := advance_of_hit hmoved hsafe
  rw [shown_constant ht, status_of_miss hu hmiss] at hstatus
  simp only [hsome, Option.map_some, hoff, ← hrest, ← hrestart] at hstatus
  by_cases hzero : t.rest = 0
  · have hagain : t.restart = true := by
      by_contra hon
      exact hseen ⟨hzero, fun hboth => hon hboth.1⟩
    rw [if_pos hzero, if_pos hagain] at hstatus
    cases hstatus
  · rw [if_neg hzero] at hstatus
    cases hstatus

/-- **What a transfer shows.**  Transfers in progress of one layout show the same on every bus,
for any number of ticks, exactly when they are the same as far as it can be seen. -/
theorem shown_iff {t u : BlockTransfer} (ht : t.enabled = true) (hu : u.enabled = true)
    (halike : Alike t u) :
    (∀ (β : Type) [DeviceBus β] (bus : β) (n : ℕ), observe shown n t bus = observe shown n u bus) ↔
      Same t u := by
  constructor
  · intro h
    have hconstant := fun (v : U8) n => h ConstantBus (ConstantBus.mk v) n
    -- a byte neither transfer looks for
    obtain ⟨v, hv, hv'⟩ := exists_ne t.wanted u.wanted
    have hmiss : ¬ t.Hits v := fun hhit => hv hhit.2.symm
    have hmiss' : ¬ u.Hits v := fun hhit => hv' hhit.2.symm
    obtain ⟨hrest, hrestart⟩ := ends_alike ht hu hmiss hmiss' (hconstant v)
    have hfirst := congrArg Prod.fst (first_eq (hconstant v))
    rw [shown_constant ht, shown_constant hu] at hfirst
    obtain ⟨hread, hwrite⟩ := List.cons.inj hfirst
    have hsource : t.source = u.source :=
      Side.ext halike.sourceMemory halike.sourceMode (reading_inj halike.sourceMemory hread)
    have htransfer : t.transfer = u.transfer := by
      cases hcase : t.transfer <;> cases hcase' : u.transfer
      · rfl
      · rw [hcase, hcase'] at hwrite
        cases hwrite
      · rw [hcase, hcase'] at hwrite
        cases hwrite
      · rfl
    refine ⟨hsource, htransfer, ?_, halike.stopOnMatch, hrestart, hrest, ?_⟩
    · intro hon
      rw [← htransfer, if_pos hon, if_pos hon] at hwrite
      have hcounter := writing_inj halike.destinationMemory (List.cons.inj hwrite).1
      exact Side.ext halike.destinationMemory halike.destinationMode hcounter
    · by_cases hseen : t.rest = 0 ∧ ¬ (t.restart = true ∧ t.stopOnMatch = true)
      · exact Or.inl hseen
      · have hseen' : ¬ (u.rest = 0 ∧ ¬ (u.restart = true ∧ u.stopOnMatch = true)) := by
          rw [← hrest, ← hrestart, ← halike.stopOnMatch]
          exact hseen
        have hto := search_alike ht hu hrest hrestart hconstant hseen
        have hfrom := search_alike hu ht hrest.symm hrestart.symm
          (fun v n => (hconstant v n).symm) hseen'
        refine Or.inr ⟨?_, fun hon => (hto t.wanted ⟨hon, rfl⟩).2.symm⟩
        rw [Bool.eq_iff_iff]
        exact ⟨fun hon => (hto t.wanted ⟨hon, rfl⟩).1, fun hon => (hfrom u.wanted ⟨hon, rfl⟩).1⟩
  · intro hsame β _ bus n
    exact together_isBisim.observe_eq (Or.inr ⟨ht, hu, hsame⟩) bus n

end BlockTransfer

end Possum
