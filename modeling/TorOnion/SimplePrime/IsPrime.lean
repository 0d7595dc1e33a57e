import Mathlib.NumberTheory.PrimeCounting
import TorOnion.Library.Arithmetic

/-!
# `simple_prime.cpp`

`isprime` and the count in `main`, with exact integers: an `int` is an integer, and `%` is the
division that truncates towards zero.  The loop over `i` ends because `i` grows while `i * i`
is at most `num`, so `isprime` is a function on all integers.

The divisors that the loop tries are the wheel of `Library/Arithmetic.lean`.  From `i = 5 + 6 * k` on
the loop tries the pairs from the `k`-th on (`isprimeLoop_iff`), and `isprime_natCast_iff` is the
criterion of the wheel after the tests for 2 and 3.
-/

namespace TorOnion

namespace SimplePrime

/-! ## The program -/

/-- `for(int i = 5; i * i <= num; i +=6)`, from the test of the condition on. -/
def isprimeLoop (num i : ℤ) : Bool :=
  if i * i ≤ num then
    if num.tmod i = 0 ∨ num.tmod (i + 2) = 0 then false else isprimeLoop num (i + 6)
  else true
termination_by (num + 1 - i).toNat
decreasing_by
  have : i ≤ i * i := by nlinarith
  omega

/-- `isprime`. -/
def isprime (num : ℤ) : Bool :=
  if num ≤ 1 then false
  else if num ≤ 3 then true
  else if num.tmod 2 = 0 ∨ num.tmod 3 = 0 then false
  else isprimeLoop num 5

/-- `for(int i = 2; i <= max; i++)` of `main`, which counts the primes from `i` on. -/
def countLoop (max i : ℤ) (count : ℕ) : ℕ :=
  if i ≤ max then countLoop max (i + 1) (if isprime i then count + 1 else count) else count
termination_by (max + 1 - i).toNat

/-- The number that `main` prints for the range up to `max`. -/
def countPrimes (max : ℤ) : ℕ := countLoop max 2 0

/-! ## `isprime` -/

lemma tmod_eq_zero_iff {n d : ℕ} : (n : ℤ).tmod d = 0 ↔ d ∣ n := by
  rw [← Int.dvd_iff_tmod_eq_zero, Int.natCast_dvd_natCast]

/-- A round of the loop tries a pair of the wheel. -/
lemma isprimeLoop_round (n k : ℕ) : isprimeLoop n (5 + 6 * k : ℕ) =
    if (5 + 6 * k) * (5 + 6 * k) ≤ n then
      if 5 + 6 * k ∣ n ∨ 7 + 6 * k ∣ n then false else isprimeLoop n (5 + 6 * (k + 1) : ℕ)
    else true := by
  have hcond : ((5 + 6 * k : ℕ) : ℤ) * (5 + 6 * k : ℕ) ≤ n ↔
      (5 + 6 * k) * (5 + 6 * k) ≤ n := by exact_mod_cast Iff.rfl
  have hsecond : ((5 + 6 * k : ℕ) : ℤ) + 2 = (7 + 6 * k : ℕ) := by push_cast; ring
  have hnext : ((5 + 6 * k : ℕ) : ℤ) + 6 = (5 + 6 * (k + 1) : ℕ) := by push_cast; ring
  rw [isprimeLoop]
  simp only [hsecond, hnext, tmod_eq_zero_iff, hcond]

/-- The loop tries every pair of the wheel from the `k`-th on. -/
lemma isprimeLoop_iff (n k : ℕ) : isprimeLoop n (5 + 6 * k : ℕ) = true ↔
    ∀ j, k ≤ j → (5 + 6 * j) * (5 + 6 * j) ≤ n → ¬ 5 + 6 * j ∣ n ∧ ¬ 7 + 6 * j ∣ n := by
  rw [isprimeLoop_round]
  by_cases hk : (5 + 6 * k) * (5 + 6 * k) ≤ n
  · have hlt := wheel_lt hk
    rw [if_pos hk]
    by_cases hdvd : 5 + 6 * k ∣ n ∨ 7 + 6 * k ∣ n
    · rw [if_pos hdvd]
      constructor
      · intro h
        cases h
      · intro h
        obtain ⟨hfirst, hother⟩ := h k le_rfl hk
        exact (hdvd.elim hfirst hother).elim
    · rw [if_neg hdvd, isprimeLoop_iff n (k + 1)]
      rw [not_or] at hdvd
      constructor
      · intro h j hj hsq
        rcases hj.eq_or_lt with rfl | hlater
        · exact hdvd
        · exact h j hlater hsq
      · exact fun h j hj hsq => h j (by omega) hsq
  · rw [if_neg hk]
    refine iff_of_true rfl fun j hj hsq => ?_
    exact absurd ((Nat.mul_le_mul (by omega) (by omega)).trans hsq) hk
termination_by n - k
decreasing_by omega

lemma isprime_natCast_iff (n : ℕ) : isprime n = true ↔ n.Prime := by
  unfold isprime
  split_ifs with hone hthree hsmall
  · refine iff_of_false (by simp) fun hn => ?_
    have := hn.two_le
    omega
  · refine iff_of_true rfl ?_
    have htwo : n = 2 ∨ n = 3 := by omega
    rcases htwo with rfl | rfl
    · exact Nat.prime_two
    · exact Nat.prime_three
  · have hdvd : 2 ∣ n ∨ 3 ∣ n := hsmall.imp tmod_eq_zero_iff.mp tmod_eq_zero_iff.mp
    exact iff_of_false (by simp) (not_prime_of_two_dvd_or_three_dvd (by omega) hdvd)
  · have hn : 3 < n := by omega
    rw [not_or] at hsmall
    have h2 : ¬ 2 ∣ n := fun h => hsmall.1 (tmod_eq_zero_iff.mpr h)
    have h3 : ¬ 3 ∣ n := fun h => hsmall.2 (tmod_eq_zero_iff.mpr h)
    have hloop := isprimeLoop_iff n 0
    have hwheel := prime_iff_wheel hn h2 h3
    simpa [hwheel] using hloop

lemma isprime_of_neg {num : ℤ} (h : num < 0) : isprime num = false := by
  rw [isprime, if_pos (by omega)]

/-- **`isprime` recognizes the primes** among all integers. -/
theorem isprime_iff (num : ℤ) : isprime num = true ↔ ∃ p : ℕ, p.Prime ∧ num = p := by
  rcases lt_or_ge num 0 with hneg | hpos
  · rw [isprime_of_neg hneg]
    refine iff_of_false Bool.false_ne_true ?_
    rintro ⟨p, -, rfl⟩
    omega
  · obtain ⟨n, rfl⟩ := Int.eq_ofNat_of_zero_le hpos
    calc isprime n = true ↔ n.Prime := isprime_natCast_iff n
      _ ↔ ∃ p : ℕ, p.Prime ∧ (n : ℤ) = p := by simp

/-! ## The count -/

/-- The counter of the loop is the number of primes below `i`. -/
lemma countLoop_count (n i : ℕ) (hi : i ≤ n + 1) :
    countLoop n i (Nat.count Nat.Prime i) = n.primeCounting := by
  rw [countLoop]
  by_cases hle : i ≤ n
  · have hstep : (i : ℤ) + 1 = (i + 1 : ℕ) := by push_cast; ring
    have hprime : isprime i = true ↔ i.Prime := isprime_natCast_iff i
    have hcount : (if isprime i = true then Nat.count Nat.Prime i + 1 else Nat.count Nat.Prime i) =
        Nat.count Nat.Prime (i + 1) := by
      rw [Nat.count_succ, if_congr hprime rfl rfl]
      split <;> rfl
    rw [if_pos (by exact_mod_cast hle), hcount, hstep]
    exact countLoop_count n (i + 1) (by omega)
  · obtain rfl : i = n + 1 := by omega
    rw [if_neg (by push_cast; omega)]
    rfl
termination_by n + 1 - i
decreasing_by omega

/-- **The number printed for a range is the number of its primes.** -/
theorem countPrimes_eq (n : ℕ) : countPrimes n = n.primeCounting := by
  have htwo : Nat.count Nat.Prime 2 = 0 := by decide
  rcases Nat.eq_zero_or_pos n with rfl | hn
  · rw [countPrimes, countLoop, if_neg (by norm_num), Nat.primeCounting_zero]
  · have hloop := countLoop_count n 2 (by omega)
    rwa [htwo] at hloop

end SimplePrime

end TorOnion
