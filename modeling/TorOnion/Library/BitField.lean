import Mathlib.Data.List.Basic
import Mathlib.Data.Nat.Bitwise

/-!
# Fields of a word

A word of `w` bits that is shared by several fields: field `f` has the `f.width` bits from
`f.shift` on.  It is read by a shift and a mask, and written by clearing its bits and setting them
anew, as C and its successors do.  What is written is read back up to the width of the field, the
fields that share no bit do not notice, and where the fields cover the word it is what they say.
-/

namespace TorOnion

/-- The bits from `shift` to `shift + width`. -/
structure BitField (w : ℕ) where
  shift : ℕ
  width : ℕ
  fits : shift + width ≤ w

namespace BitField

variable {w : ℕ} (f g : BitField w) (b v : BitVec w)

/-- The mask, before it is shifted. -/
def mask : BitVec w := (BitVec.allOnes f.width).setWidth w

def get : BitVec w := (b >>> f.shift) &&& f.mask

def set : BitVec w := (b &&& ~~~(f.mask <<< f.shift)) ||| ((v &&& f.mask) <<< f.shift)

/-- No bit is in both fields. -/
def Apart : Prop := f.shift + f.width ≤ g.shift ∨ g.shift + g.width ≤ f.shift

instance : Decidable (f.Apart g) := inferInstanceAs (Decidable (_ ∨ _))

/-- Every bit of a word is in one of the fields. -/
def Cover (fields : List (BitField w)) : Prop :=
  ∀ i < w, ∃ f ∈ fields, f.shift ≤ i ∧ i < f.shift + f.width

variable {f g b v}

lemma getLsbD_mask (i : ℕ) : f.mask.getLsbD i = decide (i < f.width) := by
  have hfits := f.fits
  rw [mask, BitVec.getLsbD_setWidth, BitVec.getLsbD_allOnes]
  by_cases hi : i < f.width
  · simp only [hi, decide_true, Bool.and_true, decide_eq_true_eq]
    omega
  · simp only [hi, decide_false, Bool.and_false]

lemma getLsbD_get (i : ℕ) :
    (f.get b).getLsbD i = (b.getLsbD (f.shift + i) && decide (i < f.width)) := by
  rw [get, BitVec.getLsbD_and, BitVec.getLsbD_ushiftRight, getLsbD_mask]

/-- Inside the field the new bits stand, and outside of it the old ones. -/
lemma getLsbD_set {i : ℕ} (hi : i < w) : (f.set b v).getLsbD i =
    if f.shift ≤ i ∧ i < f.shift + f.width then v.getLsbD (i - f.shift) else b.getLsbD i := by
  simp only [set, BitVec.getLsbD_or, BitVec.getLsbD_and, BitVec.getLsbD_not,
    BitVec.getLsbD_shiftLeft, getLsbD_mask, hi, decide_true, Bool.true_and]
  by_cases hlow : i < f.shift
  · have hout : ¬ (f.shift ≤ i ∧ i < f.shift + f.width) := by omega
    rw [if_neg hout]
    simp only [hlow, decide_true, Bool.not_true, Bool.false_and, Bool.not_false, Bool.and_true,
      Bool.or_false]
  · by_cases hhigh : i < f.shift + f.width
    · have hin : i - f.shift < f.width := by omega
      rw [if_pos ⟨by omega, hhigh⟩]
      simp only [hlow, hin, decide_true, decide_false, Bool.not_false, Bool.not_true,
        Bool.true_and, Bool.and_false, Bool.and_true, Bool.false_or]
    · have hout : ¬ i - f.shift < f.width := by omega
      rw [if_neg (by omega)]
      simp only [hlow, hout, decide_false, Bool.not_false, Bool.and_false, Bool.and_true,
        Bool.or_false]

/-- A field has what was written to it, up to its width. -/
lemma get_set_self : f.get (f.set b v) = v &&& f.mask := by
  have hfits := f.fits
  refine BitVec.eq_of_getLsbD_eq fun i _ => ?_
  rw [getLsbD_get, BitVec.getLsbD_and, getLsbD_mask]
  by_cases hi : i < f.width
  · rw [getLsbD_set (by omega), if_pos (by omega), Nat.add_sub_cancel_left]
  · simp only [hi, decide_false, Bool.and_false]

/-- A field does not notice that another one is written. -/
lemma get_set_of_apart (h : f.Apart g) : g.get (f.set b v) = g.get b := by
  have hfits := g.fits
  refine BitVec.eq_of_getLsbD_eq fun i _ => ?_
  rw [getLsbD_get, getLsbD_get]
  by_cases hi : i < g.width
  · have hout : ¬ (f.shift ≤ g.shift + i ∧ g.shift + i < f.shift + f.width) := by
      rcases h with h | h <;> omega
    rw [getLsbD_set (by omega), if_neg hout]
  · simp only [hi, decide_false, Bool.and_false]

/-- Where a field is empty, its bits need not be cleared. -/
lemma or_eq_set (hzero : f.get b = 0) : b ||| ((v &&& f.mask) <<< f.shift) = f.set b v := by
  refine BitVec.eq_of_getLsbD_eq fun i hi => ?_
  simp only [set, BitVec.getLsbD_or, BitVec.getLsbD_and, BitVec.getLsbD_not,
    BitVec.getLsbD_shiftLeft, getLsbD_mask]
  by_cases hin : f.shift ≤ i ∧ i < f.shift + f.width
  · have hbit : (f.get b).getLsbD (i - f.shift) = false := by
      rw [hzero]
      exact BitVec.getLsbD_zero
    have hlt : i - f.shift < f.width := by omega
    rw [getLsbD_get, Nat.add_sub_cancel' hin.1, decide_eq_true hlt, Bool.and_true] at hbit
    rw [hbit, Bool.false_and]
  · have hout : (!decide (i < f.shift) && decide (i - f.shift < f.width)) = false := by
      simp only [Bool.and_eq_false_iff, Bool.not_eq_false', decide_eq_true_eq,
        decide_eq_false_iff_not]
      omega
    simp only [hi, decide_true, Bool.true_and, hout, Bool.not_false, Bool.and_true]

/-- A word is what its fields say. -/
lemma Cover.ext {fields : List (BitField w)} (h : Cover fields) {a b : BitVec w}
    (heq : ∀ f ∈ fields, f.get a = f.get b) : a = b := by
  refine BitVec.eq_of_getLsbD_eq fun i hi => ?_
  obtain ⟨f, hf, hle, hlt⟩ := h i hi
  have hbit := congrArg (BitVec.getLsbD · (i - f.shift)) (heq f hf)
  simp only [getLsbD_get, Nat.add_sub_cancel' hle] at hbit
  have hin : i - f.shift < f.width := by omega
  rwa [decide_eq_true hin, Bool.and_true, Bool.and_true] at hbit

/-- What is read from a field fits it. -/
lemma get_lt : (f.get b).toNat < 2 ^ f.width := by
  have hget : (f.get b).toNat ≤ f.mask.toNat := by
    rw [get, BitVec.toNat_and]
    exact Nat.and_le_right
  have hmask : f.mask.toNat ≤ 2 ^ f.width - 1 := by
    rw [mask, BitVec.toNat_setWidth, BitVec.toNat_allOnes]
    exact Nat.mod_le ..
  have hpos : 0 < 2 ^ f.width := Nat.two_pow_pos _
  omega

end BitField

end TorOnion
