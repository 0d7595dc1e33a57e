import Mathlib.Data.Int.Order.Basic
import Mathlib.Tactic

/-!
# Comparators that return an `int`

A C comparator answers with the sign of an `int`; `ordOf` reads that sign as an `Ordering`, so
that the lexicographic combinators and the classes `OrientedCmp` and `TransCmp` of the standard
library apply.

Two things go beyond them.  A comparator need not be a preorder everywhere, and `PreorderAt`
says that it is one at three given points; `preorderAt_compareLex_iff` reduces it, for a chain
of two comparators of which the first is a preorder, to the points the first does not tell
apart.  And the difference of two `int`s taken in 32 bits is no comparison of integers:
`subOrd` is the order it reports, and `subOn_swap_iff` and `subOn_trans_iff` say at which
points a chain that starts with such a difference still obeys the laws.
-/

namespace TorOnion

open Std (TransCmp OrientedCmp)

/-! ## The sign of an `int` -/

/-- The order an `int` reports by its sign. -/
def ordOf (i : ℤ) : Ordering := compare i 0

lemma ordOf_eq_lt {i : ℤ} : ordOf i = .lt ↔ i < 0 := Int.compare_eq_lt

lemma ordOf_eq_eq {i : ℤ} : ordOf i = .eq ↔ i = 0 := Int.compare_eq_eq

lemma ordOf_eq_gt {i : ℤ} : ordOf i = .gt ↔ 0 < i := Int.compare_eq_gt

lemma isLE_ordOf {i : ℤ} : (ordOf i).isLE = true ↔ i ≤ 0 := by
  rw [Ordering.isLE_iff_ne_gt, ordOf_eq_gt, not_lt]

lemma ordOf_swap (i : ℤ) : (ordOf i).swap = ordOf (-i) := by
  rcases lt_trichotomy i 0 with h | rfl | h
  · rw [ordOf_eq_lt.mpr h, ordOf_eq_gt.mpr (by omega)]
    rfl
  · rfl
  · rw [ordOf_eq_gt.mpr h, ordOf_eq_lt.mpr (by omega)]
    rfl

lemma sign_eq_iff {i j : ℤ} : i.sign = j.sign ↔ ordOf i = ordOf j := by
  have hsign : ∀ k : ℤ, ordOf k = ordOf k.sign := by
    intro k
    rcases lt_trichotomy k 0 with h | rfl | h
    · rw [ordOf_eq_lt.mpr h, Int.sign_eq_neg_one_of_neg h]
      rfl
    · rfl
    · rw [ordOf_eq_gt.mpr h, Int.sign_eq_one_of_pos h]
      rfl
  refine ⟨fun h => by rw [hsign i, hsign j, h], fun h => ?_⟩
  rcases lt_trichotomy i 0 with hi | rfl | hi
  · have hj : j < 0 := ordOf_eq_lt.mp (h ▸ ordOf_eq_lt.mpr hi)
    rw [Int.sign_eq_neg_one_of_neg hi, Int.sign_eq_neg_one_of_neg hj]
  · have hj : j = 0 := ordOf_eq_eq.mp (h ▸ ordOf_eq_eq.mpr rfl)
    rw [hj]
  · have hj : 0 < j := ordOf_eq_gt.mp (h ▸ ordOf_eq_gt.mpr hi)
    rw [Int.sign_eq_one_of_pos hi, Int.sign_eq_one_of_pos hj]

/-- Two signs are opposite when the orders are. -/
lemma sign_eq_neg_iff {i j : ℤ} : i.sign = -j.sign ↔ ordOf i = (ordOf j).swap := by
  rw [ordOf_swap, ← Int.sign_neg, sign_eq_iff]

/-- `if ((i = x)) return i; return y;`. -/
def orElse (x y : ℤ) : ℤ := if x ≠ 0 then x else y

lemma ordOf_orElse (x y : ℤ) : ordOf (orElse x y) = (ordOf x).then (ordOf y) := by
  by_cases hx : x = 0
  · simp [orElse, hx, ordOf]
  · rw [orElse, if_pos hx]
    rcases lt_or_gt_of_ne hx with h | h
    · rw [ordOf_eq_lt.mpr h]
      rfl
    · rw [ordOf_eq_gt.mpr h]
      rfl

/-! ## A preorder at three points -/

section Levels

variable {α : Type*} {front back : α → α → Ordering} {a b c : α}

/-- The laws of a preorder, at three points. -/
structure PreorderAt (cmp : α → α → Ordering) (a b c : α) : Prop where
  oriented : cmp a b = (cmp b a).swap
  trans : (cmp a b).isLE = true → (cmp b c).isLE = true → (cmp a c).isLE = true

/-- A chain whose first comparator is a preorder is one wherever the second is, at the points
the first does not tell apart. -/
lemma preorderAt_compareLex_iff [TransCmp front] :
    PreorderAt (compareLex front back) a b c ↔
      (front a b = .eq → back a b = (back b a).swap) ∧
        (front a b = .eq → front b c = .eq → (back a b).isLE = true → (back b c).isLE = true →
          (back a c).isLE = true) := by
  have hswap : front a b = (front b a).swap := OrientedCmp.eq_swap
  constructor
  · intro h
    have horiented := h.oriented
    have htrans := h.trans
    simp only [compareLex, Ordering.swap_then] at horiented
    simp only [compareLex, Ordering.isLE_then_iff_or] at htrans
    refine ⟨fun hab => ?_, fun hab hbc hleft hright => ?_⟩
    · rw [← hswap, hab] at horiented
      exact horiented
    · have hac : front a c = .eq := TransCmp.eq_trans hab hbc
      rcases htrans (.inr ⟨hab, hleft⟩) (.inr ⟨hbc, hright⟩) with hlt | ⟨-, hle⟩
      · rw [hac] at hlt
        cases hlt
      · exact hle
  · rintro ⟨horiented, htrans⟩
    constructor
    · simp only [compareLex, Ordering.swap_then, ← hswap]
      cases hab : front a b with
      | lt => rfl
      | gt => rfl
      | eq => exact horiented hab
    · simp only [compareLex, Ordering.isLE_then_iff_or]
      rintro (hab | ⟨hab, hleft⟩) (hbc | ⟨hbc, hright⟩)
      · exact .inl (TransCmp.lt_trans hab hbc)
      · exact .inl (TransCmp.lt_of_lt_of_eq hab hbc)
      · exact .inl (TransCmp.lt_of_eq_of_lt hab hbc)
      · exact .inr ⟨TransCmp.eq_trans hab hbc, htrans hab hbc hleft hright⟩

end Levels

/-! ## Differences in 32 bits -/

/-- `(int) ((unsigned) x - (unsigned) y)`. -/
def subAsInt (x y : ℤ) : ℤ := (x - y).bmod (2 ^ 32)

/-- The order such a difference reports. -/
def subOrd (x y : ℤ) : Ordering := ordOf (subAsInt x y)

/-- How far `y` lies ahead of `x`, counting upwards modulo `2 ^ 32`. -/
def ahead (x y : ℤ) : ℤ := (y - x) % 2 ^ 32

/-- Three numbers, each at most half a turn ahead of the one before, and the last more than
half a turn ahead of the first. -/
def Overshoots (x y z : ℤ) : Prop :=
  0 < ahead x y ∧ ahead x y ≤ 2 ^ 31 ∧ 0 < ahead y z ∧ ahead y z ≤ 2 ^ 31 ∧
    2 ^ 31 < ahead x y + ahead y z

instance (x y z : ℤ) : Decidable (Overshoots x y z) := by
  unfold Overshoots
  infer_instance

lemma ahead_range (x y : ℤ) : 0 ≤ ahead x y ∧ ahead x y < 2 ^ 32 := by
  simp only [ahead]
  omega

lemma ahead_self (x : ℤ) : ahead x x = 0 := by simp [ahead]

lemma ahead_swap {x y : ℤ} (h : ahead x y ≠ 0) : ahead y x = 2 ^ 32 - ahead x y := by
  simp only [ahead] at h ⊢
  omega

lemma ahead_swap_of_zero {x y : ℤ} (h : ahead x y = 0) : ahead y x = 0 := by
  simp only [ahead] at h ⊢
  omega

lemma ahead_trans (x y z : ℤ) :
    ahead x z = ahead x y + ahead y z ∨ ahead x z = ahead x y + ahead y z - 2 ^ 32 := by
  simp only [ahead]
  omega

/-- Up to half a turn ahead the difference is negative, beyond it is positive. -/
lemma subAsInt_of_le {x y : ℤ} (h : ahead x y ≤ 2 ^ 31) : subAsInt x y = -ahead x y := by
  simp only [subAsInt, ahead, Int.bmod] at h ⊢
  split <;> omega

lemma subAsInt_of_lt {x y : ℤ} (h : 2 ^ 31 < ahead x y) :
    subAsInt x y = 2 ^ 32 - ahead x y := by
  simp only [subAsInt, ahead, Int.bmod] at h ⊢
  split <;> omega

lemma subOrd_eq_eq {x y : ℤ} : subOrd x y = .eq ↔ ahead x y = 0 := by
  have hrange := ahead_range x y
  rw [subOrd, ordOf_eq_eq]
  rcases le_or_gt (ahead x y) (2 ^ 31) with h | h
  · rw [subAsInt_of_le h]
    omega
  · rw [subAsInt_of_lt h]
    omega

lemma subOrd_eq_lt {x y : ℤ} : subOrd x y = .lt ↔ 0 < ahead x y ∧ ahead x y ≤ 2 ^ 31 := by
  have hrange := ahead_range x y
  rw [subOrd, ordOf_eq_lt]
  rcases le_or_gt (ahead x y) (2 ^ 31) with h | h
  · rw [subAsInt_of_le h]
    omega
  · rw [subAsInt_of_lt h]
    omega

lemma subOrd_eq_gt {x y : ℤ} : subOrd x y = .gt ↔ 2 ^ 31 < ahead x y := by
  have hrange := ahead_range x y
  rw [subOrd, ordOf_eq_gt]
  rcases le_or_gt (ahead x y) (2 ^ 31) with h | h
  · rw [subAsInt_of_le h]
    omega
  · rw [subAsInt_of_lt h]
    omega

/-- Within the range of `int` the difference compares. -/
lemma subOrd_eq_compare {x y : ℤ} (h : |x - y| < 2 ^ 31) : subOrd x y = compare x y := by
  obtain ⟨hlow, hhigh⟩ := abs_lt.mp h
  rcases lt_trichotomy x y with hlt | rfl | hgt
  · rw [compare_lt_iff_lt.mpr hlt, subOrd_eq_lt]
    simp only [ahead]
    omega
  · rw [compare_eq_iff_eq.mpr rfl, subOrd_eq_eq, ahead_self]
  · rw [compare_gt_iff_gt.mpr hgt, subOrd_eq_gt]
    simp only [ahead]
    omega

section Chain

variable {α : Type*} {f : α → ℤ} {back : α → α → Ordering} {a b c : α}

/-- A chain that starts with a difference of the numbers `f`. -/
def subOn (f : α → ℤ) (back : α → α → Ordering) : α → α → Ordering :=
  compareLex (fun a b => subOrd (f a) (f b)) back

lemma subOn_of_turn (h : ahead (f a) (f b) = 2 ^ 31) : subOn f back a b = .lt := by
  have hlt : subOrd (f a) (f b) = .lt := subOrd_eq_lt.mpr (by omega)
  simp only [subOn, compareLex, hlt]
  rfl

/-- The chain is oriented unless the numbers lie half a turn apart. -/
lemma subOn_swap_iff [TransCmp back] :
    subOn f back a b = (subOn f back b a).swap ↔ ahead (f a) (f b) ≠ 2 ^ 31 := by
  have hback : back a b = (back b a).swap := OrientedCmp.eq_swap
  constructor
  · intro h hturn
    have hturn' : ahead (f b) (f a) = 2 ^ 31 := by
      rw [ahead_swap (by omega), hturn]
      norm_num
    rw [subOn_of_turn hturn, subOn_of_turn hturn'] at h
    cases h
  · intro h
    simp only [subOn, compareLex, Ordering.swap_then, ← hback]
    congr 1
    cases hab : subOrd (f a) (f b) with
    | lt =>
        rw [subOrd_eq_lt] at hab
        rw [subOrd_eq_gt.mpr (by rw [ahead_swap (by omega)]; omega)]
        rfl
    | eq =>
        rw [subOrd_eq_eq.mpr (ahead_swap_of_zero (subOrd_eq_eq.mp hab))]
        rfl
    | gt =>
        rw [subOrd_eq_gt] at hab
        have hrange := ahead_range (f a) (f b)
        have hahead := ahead_swap (x := f a) (y := f b) (by omega)
        rw [subOrd_eq_lt.mpr (by omega)]
        rfl

/-- Where the chain is oriented, it is transitive unless the numbers overshoot. -/
lemma subOn_trans_iff [TransCmp back] (hab : ahead (f a) (f b) ≠ 2 ^ 31) :
    ((subOn f back a b).isLE = true → (subOn f back b c).isLE = true →
      (subOn f back a c).isLE = true) ↔ ¬ Overshoots (f a) (f b) (f c) := by
  have hac := ahead_trans (f a) (f b) (f c)
  have hrangeab := ahead_range (f a) (f b)
  have hrangebc := ahead_range (f b) (f c)
  have hrangeac := ahead_range (f a) (f c)
  simp only [subOn, compareLex, Ordering.isLE_then_iff_or, subOrd_eq_lt, subOrd_eq_eq, Overshoots]
  constructor
  · rintro htrans ⟨h1, h2, h3, h4, h5⟩
    rcases htrans (.inl ⟨h1, h2⟩) (.inl ⟨h3, h4⟩) with h | h <;> omega
  · rintro hover (h1 | ⟨h1, hback1⟩) (h2 | ⟨h2, hback2⟩)
    · exact .inl (by omega)
    · exact .inl (by omega)
    · exact .inl (by omega)
    · exact .inr ⟨by omega, TransCmp.isLE_trans hback1 hback2⟩

/-- **The exact triples.**  A chain through a difference in 32 bits, behind a preorder, is a
preorder at three points unless two of them that the front does not tell apart lie half a turn
apart, or all three overshoot. -/
lemma preorderAt_subOn_iff {front : α → α → Ordering} [TransCmp front] [TransCmp back] :
    PreorderAt (compareLex front (subOn f back)) a b c ↔
      (front a b = .eq → ahead (f a) (f b) ≠ 2 ^ 31) ∧
        (front a b = .eq → front b c = .eq → ¬ Overshoots (f a) (f b) (f c)) := by
  rw [preorderAt_compareLex_iff]
  constructor
  · rintro ⟨hswap, htrans⟩
    have hturn := fun hab => subOn_swap_iff.mp (hswap hab)
    exact ⟨hturn, fun hab hbc => (subOn_trans_iff (hturn hab)).mp (htrans hab hbc)⟩
  · rintro ⟨hturn, hover⟩
    exact ⟨fun hab => subOn_swap_iff.mpr (hturn hab),
      fun hab hbc => (subOn_trans_iff (hturn hab)).mpr (hover hab hbc)⟩

end Chain

end TorOnion
