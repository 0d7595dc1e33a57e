import Mathlib.Algebra.Ring.Int.Defs
import Mathlib.Data.Nat.Prime.Basic
import Mathlib.Tactic.Linarith
import Mathlib.Tactic.Ring

/-!
# Trial division and checked arithmetic

A number is prime when no smaller number divides it, and it is enough to try the divisors up to
its square root.  Past 2 and 3 a prime is a neighbour of a multiple of six, so the pairs
`5 + 6k`, `7 + 6k` hold every divisor that has to be tried (`exists_wheel_of_prime`).  The
criterion `prime_iff_wheel` bounds the smaller member of each pair only: that is what a loop over
the pairs tests.

In C and C++ an addition or a multiplication of two `int` whose result does not fit has no meaning.
Here such an operation has no result, and one that has a result is exact.
-/

namespace TorOnion

/-! ## Trial division on a wheel -/

/-- A prime other than 2 and 3 stands on the wheel. -/
lemma exists_wheel_of_prime {p : ℕ} (hp : p.Prime) (h2 : p ≠ 2) (h3 : p ≠ 3) :
    ∃ k, p = 5 + 6 * k ∨ p = 7 + 6 * k := by
  have hge : 2 ≤ p := hp.two_le
  have hmod2 : p % 2 ≠ 0 := fun h =>
    h2 ((Nat.prime_dvd_prime_iff_eq Nat.prime_two hp).mp (Nat.dvd_of_mod_eq_zero h)).symm
  have hmod3 : p % 3 ≠ 0 := fun h =>
    h3 ((Nat.prime_dvd_prime_iff_eq Nat.prime_three hp).mp (Nat.dvd_of_mod_eq_zero h)).symm
  have hmod6 : p % 6 = 1 ∨ p % 6 = 5 := by omega
  rcases hmod6 with h | h
  · exact ⟨(p - 7) / 6, Or.inr (by omega)⟩
  · exact ⟨(p - 5) / 6, Or.inl (by omega)⟩

/-- Past 3 no multiple of 2 or 3 is a prime. -/
lemma not_prime_of_two_dvd_or_three_dvd {n : ℕ} (hn : 3 < n) (h : 2 ∣ n ∨ 3 ∣ n) : ¬ n.Prime := by
  intro hprime
  rcases h with h | h
  · have := (Nat.prime_dvd_prime_iff_eq Nat.prime_two hprime).mp h
    omega
  · have := (Nat.prime_dvd_prime_iff_eq Nat.prime_three hprime).mp h
    omega

/-- No member of a pair whose smaller member squares to at most `n` is `n` itself. -/
lemma wheel_lt {n k : ℕ} (h : (5 + 6 * k) * (5 + 6 * k) ≤ n) : 7 + 6 * k < n := by
  nlinarith

/-- **The wheel decides primality** of a number that 2 and 3 do not divide. -/
theorem prime_iff_wheel {n : ℕ} (hn : 3 < n) (h2 : ¬ 2 ∣ n) (h3 : ¬ 3 ∣ n) :
    n.Prime ↔ ∀ k, (5 + 6 * k) * (5 + 6 * k) ≤ n → ¬ 5 + 6 * k ∣ n ∧ ¬ 7 + 6 * k ∣ n := by
  constructor
  · intro hprime k hk
    have hlt := wheel_lt hk
    constructor
    · intro hdvd
      rcases hprime.eq_one_or_self_of_dvd _ hdvd with h | h <;> omega
    · intro hdvd
      rcases hprime.eq_one_or_self_of_dvd _ hdvd with h | h <;> omega
  · intro hwheel
    by_contra hnot
    -- the least factor of a composite number is a prime up to its square root
    have hfactor : n.minFac.Prime := Nat.minFac_prime (by omega)
    have hdvd : n.minFac ∣ n := Nat.minFac_dvd n
    have hsq : n.minFac * n.minFac ≤ n := by
      simpa only [pow_two] using Nat.minFac_sq_le_self (by omega) hnot
    have hne2 : n.minFac ≠ 2 := fun h => h2 (h ▸ hdvd)
    have hne3 : n.minFac ≠ 3 := fun h => h3 (h ▸ hdvd)
    obtain ⟨k, hk | hk⟩ := exists_wheel_of_prime hfactor hne2 hne3
    · rw [hk] at hdvd hsq
      exact (hwheel k hsq).1 hdvd
    · rw [hk] at hdvd hsq
      have hsmall : (5 + 6 * k) * (5 + 6 * k) ≤ (7 + 6 * k) * (7 + 6 * k) :=
        Nat.mul_le_mul (by omega) (by omega)
      exact (hwheel k (hsmall.trans hsq)).2 hdvd

/-! ## Signed 32-bit arithmetic without overflow -/

section CheckedInt

/-- The integers that fit. -/
def FitsInt32 (z : ℤ) : Prop := -2 ^ 31 ≤ z ∧ z < 2 ^ 31

/-- `a + b`. -/
def checkedAdd (a b : Int32) : Option Int32 :=
  if a.toBitVec.saddOverflow b.toBitVec then none else some (a + b)

/-- `a * b`. -/
def checkedMul (a b : Int32) : Option Int32 :=
  if a.toBitVec.smulOverflow b.toBitVec then none else some (a * b)

variable {a b c : Int32}

lemma saddOverflow_iff : a.toBitVec.saddOverflow b.toBitVec = true ↔
    ¬ FitsInt32 (a.toInt + b.toInt) := by
  simp only [BitVec.saddOverflow, FitsInt32, Int32.toInt_toBitVec, Bool.or_eq_true,
    decide_eq_true_eq]
  omega

lemma smulOverflow_iff : a.toBitVec.smulOverflow b.toBitVec = true ↔
    ¬ FitsInt32 (a.toInt * b.toInt) := by
  simp only [BitVec.smulOverflow, FitsInt32, Int32.toInt_toBitVec, Bool.or_eq_true,
    decide_eq_true_eq]
  omega

lemma checkedAdd_eq_some (h : checkedAdd a b = some c) : c.toInt = a.toInt + b.toInt := by
  obtain ⟨hfits, hc⟩ := Option.ite_none_left_eq_some.mp h
  obtain rfl := Option.some.inj hc
  exact BitVec.toInt_add_of_not_saddOverflow hfits

/-- A sum that fits is computed. -/
lemma exists_checkedAdd (h : FitsInt32 (a.toInt + b.toInt)) :
    ∃ c, checkedAdd a b = some c ∧ c.toInt = a.toInt + b.toInt := by
  have hsome : checkedAdd a b = some (a + b) := if_neg fun h' => saddOverflow_iff.mp h' h
  exact ⟨_, hsome, checkedAdd_eq_some hsome⟩

/-- A product that fits is computed. -/
lemma exists_checkedMul (h : FitsInt32 (a.toInt * b.toInt)) :
    ∃ c, checkedMul a b = some c ∧ c.toInt = a.toInt * b.toInt := by
  have hfits : ¬ a.toBitVec.smulOverflow b.toBitVec := fun h' => smulOverflow_iff.mp h' h
  exact ⟨a * b, if_neg hfits, BitVec.toInt_mul_of_not_smulOverflow hfits⟩

lemma checkedMul_eq_none (h : ¬ FitsInt32 (a.toInt * b.toInt)) : checkedMul a b = none :=
  if_pos (smulOverflow_iff.mpr h)

end CheckedInt

end TorOnion
