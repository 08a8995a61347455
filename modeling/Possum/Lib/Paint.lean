import Mathlib.Order.Interval.Set.Basic
import Mathlib.Data.List.Basic

/-!
# Painting

`Drawn f a a'` says that `a'` is `a` with the values of `f` over it, a function of the positions
that is `none` where nothing is drawn.  What is drawn later covers what is drawn first
(`Drawn.cover`), and two stretches side by side are one (`Drawn.append`), so a loop over positions
is an induction.

Two lists are painted by one procedure that never looks at them.  `Painted s a a' b b'` says what
is left of the difference between `a` and `b` then: `a'` and `b'` agree at the positions `s` that
were painted and are as they were everywhere else.  Painting composes to the union of the
positions (`Painted.trans`), and in the end the two lists are equal exactly if they were at the
positions never painted (`Painted.eq_iff`).
-/

set_option autoImplicit false

namespace Possum.Lib

variable {α : Type*}

/-! ### One list -/

/-- `a'` is `a` with the values of `f` over it. -/
def Drawn (f : ℕ → Option α) (a a' : List α) : Prop := ∀ i, a'[i]? = (f i).or a[i]?

/-- The values `c` at `n` positions from `i` on. -/
def stretch (i n : ℕ) (c : ℕ → α) (j : ℕ) : Option α :=
  if i ≤ j ∧ j < i + n then some (c (j - i)) else none

/-- `g` over `f`. -/
def covering (g f : ℕ → Option α) (i : ℕ) : Option α := (g i).or (f i)

section

variable {i k n : ℕ} {c d e : ℕ → α}

theorem stretch_of_lt (c : ℕ → α) (h : k < n) : stretch i n c (i + k) = some (c k) := by
  rw [stretch, if_pos ⟨Nat.le_add_right i k, Nat.add_lt_add_left h i⟩, Nat.add_sub_cancel_left]

theorem stretch_of_not (c : ℕ → α) {j : ℕ} (h : ¬ (i ≤ j ∧ j < i + n)) :
    stretch i n c j = none := if_neg h

theorem stretch_isSome {j : ℕ} : (stretch i n c j).isSome ↔ j ∈ Set.Ico i (i + n) := by
  unfold stretch
  split
  case isTrue h => exact iff_of_true rfl h
  case isFalse h => exact iff_of_false nofun h

theorem covering_isSome {g f : ℕ → Option α} :
    (covering g f i).isSome ↔ (g i).isSome ∨ (f i).isSome := by
  rw [covering, Option.isSome_or, Bool.or_eq_true]

end

namespace Drawn

variable {f g : ℕ → Option α} {a a' a'' : List α} {i k n : ℕ} {c d e : ℕ → α}

theorem nothing (h : ∀ i, f i = none) (a : List α) : Drawn f a a := by
  intro i
  rw [h, Option.none_or]

theorem nil (i : ℕ) (c : ℕ → α) (a : List α) : Drawn (stretch i 0 c) a a :=
  nothing (fun _ => stretch_of_not c (by omega)) a

theorem set (h : i < a.length) (x : α) : Drawn (stretch i 1 fun _ => x) a (a.set i x) := by
  intro j
  by_cases hj : i = j
  · subst hj
    rw [List.getElem?_set_self h, ← Nat.add_zero i, stretch_of_lt _ Nat.one_pos]
    rfl
  · rw [List.getElem?_set_ne hj, stretch_of_not _ (by omega), Option.none_or]

/-- **What is drawn later covers what is drawn first.** -/
theorem cover (h : Drawn f a a') (h' : Drawn g a' a'') : Drawn (covering g f) a a'' := by
  intro i
  rw [h', h, covering, Option.or_assoc]

/-- **Two stretches side by side are one.** -/
theorem append (h : Drawn (stretch i k c) a a') (h' : Drawn (stretch (i + k) n d) a' a'')
    (hc : ∀ j < k, e j = c j) (hd : ∀ j < n, e (k + j) = d j) :
    Drawn (stretch i (k + n) e) a a'' := by
  intro j
  rw [h', h]
  by_cases hlow : i ≤ j ∧ j < i + k
  · obtain ⟨x, rfl⟩ := Nat.exists_eq_add_of_le hlow.1
    have hx : x < k := by omega
    rw [stretch_of_not d (by omega), stretch_of_lt c hx, stretch_of_lt e (by omega), hc x hx]
    rfl
  · by_cases hhigh : i + k ≤ j ∧ j < i + k + n
    · obtain ⟨x, rfl⟩ := Nat.exists_eq_add_of_le hhigh.1
      have hx : x < n := by omega
      rw [stretch_of_lt d hx, Nat.add_assoc, stretch_of_lt e (by omega), hd x hx]
      rfl
    · rw [stretch_of_not d hhigh, stretch_of_not c hlow, stretch_of_not e (by omega)]
      rfl

end Drawn

/-! ### Two lists -/

/-- The same positions `s` of `a` and of `b` were painted in the same way. -/
structure Painted (s : Set ℕ) (a a' b b' : List α) : Prop where
  painted : ∀ i ∈ s, a'[i]? = b'[i]?
  left : ∀ i ∉ s, a'[i]? = a[i]?
  right : ∀ i ∉ s, b'[i]? = b[i]?

namespace Painted

variable {s t : Set ℕ} {a a' a'' b b' b'' : List α}

theorem refl (a b : List α) : Painted ∅ a a b b where
  painted _ hi := hi.elim
  left _ _ := rfl
  right _ _ := rfl

/-- **Painting composes.**  What is painted later covers what is painted first. -/
theorem trans (h : Painted s a a' b b') (h' : Painted t a' a'' b' b'') :
    Painted (s ∪ t) a a'' b b'' where
  painted i hi := by
    by_cases ht : i ∈ t
    · exact h'.painted i ht
    · have hs : i ∈ s := hi.resolve_right ht
      rw [h'.left i ht, h'.right i ht, h.painted i hs]
  left i hi := by
    rw [Set.mem_union, not_or] at hi
    rw [h'.left i hi.2, h.left i hi.1]
  right i hi := by
    rw [Set.mem_union, not_or] at hi
    rw [h'.right i hi.2, h.right i hi.1]

/-- Two lists with the same drawn over them. -/
theorem of_drawn {f : ℕ → Option α} (ha : Drawn f a a') (hb : Drawn f b b') :
    Painted {i | (f i).isSome} a a' b b' where
  painted i hi := by
    obtain ⟨x, hx⟩ := Option.isSome_iff_exists.1 hi
    rw [ha, hb, hx]
    rfl
  left i hi := by rw [ha, Option.not_isSome_iff_eq_none.1 hi, Option.none_or]
  right i hi := by rw [hb, Option.not_isSome_iff_eq_none.1 hi, Option.none_or]

/-- **What is left of the difference**: nothing where it was painted, all of it elsewhere. -/
theorem eq_iff (h : Painted s a a' b b') : a' = b' ↔ ∀ i ∉ s, a[i]? = b[i]? := by
  constructor
  · intro heq i hi
    rw [← h.left i hi, ← h.right i hi, heq]
  · intro hout
    apply List.ext_getElem?
    intro i
    by_cases hi : i ∈ s
    · exact h.painted i hi
    · rw [h.left i hi, h.right i hi, hout i hi]

end Painted

end Possum.Lib
