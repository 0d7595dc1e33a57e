import Mathlib.NumberTheory.LucasLehmer
import TorOnion.Library.Arithmetic
import TorOnion.SimplePrime.IsPrime

/-!
# `simple_prime.cpp` on an `int`

`isprime` again, now with the `int` of the machine.  An operation that overflows has no result, and
neither has the call that reaches it.  The divisors are positive, so `%` does not overflow.

A call that does not overflow returns what `isprime` of `IsPrime.lean` returns, and the one
operation that can overflow is `i * i`: the last `i` whose square fits is 46337, and the loop goes
on to 46343 when the number is at least the square of 46337 and none of the divisors divides it.
Such a number is prime (`overflows_iff_prime`), as it has no divisor up to its square root.
-/

namespace TorOnion

namespace SimplePrime

/-! ## The program -/

/-- `for(int i = 5; i * i <= num; i +=6)`, from the test of the condition on. -/
def isprimeInt32Loop (num i : Int32) : Option Bool :=
  match checkedMul i i with
  | none => none
  | some square =>
      if square ≤ num then
        if num % i = 0 then some false
        else
          match checkedAdd i 2 with
          | none => none
          | some other =>
              if num % other = 0 then some false
              else
                match _h : checkedAdd i 6 with
                | none => none
                | some next => isprimeInt32Loop num next
      else some true
termination_by (2 ^ 31 - i.toInt).toNat
decreasing_by
  have hnext : next.toInt = i.toInt + 6 := checkedAdd_eq_some _h
  have hlt := next.toInt_lt
  omega

/-- `isprime`. -/
def isprimeInt32 (num : Int32) : Option Bool :=
  if num ≤ 1 then some false
  else if num ≤ 3 then some true
  else if num % 2 = 0 ∨ num % 3 = 0 then some false
  else isprimeInt32Loop num 5

/-! ## One round -/

variable {num i : Int32} {n k : ℕ}

lemma mod_eq_zero_iff {d : Int32} {m : ℕ} (hnum : num.toInt = n) (hd : d.toInt = m) :
    num % d = 0 ↔ m ∣ n := by
  rw [← Int32.toInt_inj, Int32.toInt_mod, hnum, hd]
  exact tmod_eq_zero_iff

/-- A round whose square fits does what the round with exact integers does. -/
lemma isprimeInt32Loop_round (hnum : num.toInt = n) (hi : i.toInt = (5 + 6 * k : ℕ))
    (hk : k ≤ 7722) :
    ∃ next : Int32, next.toInt = (5 + 6 * (k + 1) : ℕ) ∧
      isprimeInt32Loop num i =
        if (5 + 6 * k) * (5 + 6 * k) ≤ n then
          if 5 + 6 * k ∣ n ∨ 7 + 6 * k ∣ n then some false else isprimeInt32Loop num next
        else some true := by
  have hsquare : i.toInt * i.toInt = ((5 + 6 * k) * (5 + 6 * k) : ℕ) := by
    rw [hi]
    push_cast
    ring
  have hle : (5 + 6 * k) * (5 + 6 * k) ≤ 46337 * 46337 := Nat.mul_le_mul (by omega) (by omega)
  obtain ⟨square, hmul, hsq⟩ := exists_checkedMul (a := i) (b := i) ⟨by omega, by omega⟩
  have htwo : (2 : Int32).toInt = 2 := rfl
  have hsix : (6 : Int32).toInt = 6 := rfl
  obtain ⟨other, hadd, hother⟩ := exists_checkedAdd (a := i) (b := 2) ⟨by omega, by omega⟩
  obtain ⟨next, hstep, hnext⟩ := exists_checkedAdd (a := i) (b := 6) ⟨by omega, by omega⟩
  refine ⟨next, by omega, ?_⟩
  have hcond : square ≤ num ↔ (5 + 6 * k) * (5 + 6 * k) ≤ n := by
    rw [Int32.le_iff_toInt_le, hsq, hsquare, hnum]
    exact Int.ofNat_le
  have hfirst : num % i = 0 ↔ 5 + 6 * k ∣ n := mod_eq_zero_iff hnum hi
  have hsecond : num % other = 0 ↔ 7 + 6 * k ∣ n := mod_eq_zero_iff hnum (by omega)
  have htail : (match _h : checkedAdd i 6 with
      | none => none
      | some next => isprimeInt32Loop num next) = isprimeInt32Loop num next := by
    split
    next hnone => cases hstep.symm.trans hnone
    next next' hsome => rw [Option.some.inj (hstep.symm.trans hsome)]
  rw [isprimeInt32Loop, hmul, hadd, htail]
  simp only [hcond, hfirst, hsecond]
  by_cases hdvd : 5 + 6 * k ∣ n
  · rw [if_pos hdvd, if_pos (Or.inl hdvd)]
  · simp only [if_neg hdvd, or_iff_right hdvd]

/-- A round whose square does not fit has no result. -/
lemma isprimeInt32Loop_of_not_fits (h : ¬ FitsInt32 (i.toInt * i.toInt)) :
    isprimeInt32Loop num i = none := by
  rw [isprimeInt32Loop, checkedMul_eq_none h]

/-! ## The loop -/

/-- From the `k`-th pair on, no divisor is found before the square overflows. -/
def Overflows (n k : ℕ) : Prop :=
  46337 * 46337 ≤ n ∧ ∀ j, k ≤ j → j ≤ 7722 → ¬ 5 + 6 * j ∣ n ∧ ¬ 7 + 6 * j ∣ n

lemma overflows_succ (hk : ¬ (5 + 6 * k ∣ n ∨ 7 + 6 * k ∣ n)) :
    Overflows n (k + 1) ↔ Overflows n k := by
  refine and_congr_right fun _ => ⟨fun h j hj hlast => ?_, fun h j hj => h j (by omega)⟩
  rcases hj.eq_or_lt with rfl | hlater
  · exact not_or.mp hk
  · exact h j hlater hlast

/-- The loop overflows, or it does what the loop with exact integers does. -/
lemma isprimeInt32Loop_cases {i : Int32} {k : ℕ} (hnum : num.toInt = n)
    (hi : i.toInt = (5 + 6 * k : ℕ)) (hk : k ≤ 7722) :
    Overflows n k ∧ isprimeInt32Loop num i = none ∨
      ¬ Overflows n k ∧ isprimeInt32Loop num i = some (isprimeLoop n (5 + 6 * k : ℕ)) := by
  obtain ⟨next, hnext, hround⟩ := isprimeInt32Loop_round hnum hi hk
  rw [hround, isprimeLoop_round]
  by_cases hsq : (5 + 6 * k) * (5 + 6 * k) ≤ n
  · rw [if_pos hsq, if_pos hsq]
    by_cases hdvd : 5 + 6 * k ∣ n ∨ 7 + 6 * k ∣ n
    · rw [if_pos hdvd, if_pos hdvd]
      refine .inr ⟨fun h => ?_, rfl⟩
      obtain ⟨hfirst, hother⟩ := h.2 k le_rfl hk
      exact hdvd.elim hfirst hother
    · rw [if_neg hdvd, if_neg hdvd, ← overflows_succ hdvd]
      rcases hk.eq_or_lt with rfl | hlt
      · -- the next `i` is 46343
        have hlast : Overflows n (7722 + 1) := ⟨hsq, fun j hj hle => by omega⟩
        refine .inl ⟨hlast, isprimeInt32Loop_of_not_fits ?_⟩
        rw [hnext]
        exact fun h => absurd h.2 (by decide)
      · exact isprimeInt32Loop_cases hnum hnext hlt
  · rw [if_neg hsq, if_neg hsq]
    refine .inr ⟨fun h => hsq ?_, rfl⟩
    exact (Nat.mul_le_mul (by omega) (by omega)).trans h.1
termination_by 7722 - k

/-- The numbers that overflow are the primes from the square of 46337 on. -/
lemma overflows_iff_prime (hn : 3 < n) (hlt : n < 2 ^ 31) (h2 : ¬ 2 ∣ n) (h3 : ¬ 3 ∣ n) :
    Overflows n 0 ↔ 46337 * 46337 ≤ n ∧ n.Prime := by
  refine and_congr_right fun hle => ?_
  rw [prime_iff_wheel hn h2 h3]
  constructor
  · intro h k hk
    refine h k (Nat.zero_le k) ?_
    by_contra hlast
    have hsq : 46343 * 46343 ≤ (5 + 6 * k) * (5 + 6 * k) := Nat.mul_le_mul (by omega) (by omega)
    omega
  · intro h k _ hk
    exact h k ((Nat.mul_le_mul (by omega) (by omega)).trans hle)

/-! ## `isprime` -/

/-- A call overflows, or it returns what `isprime` returns with exact integers. -/
lemma isprimeInt32_cases (num : Int32) :
    (46337 ^ 2 ≤ num.toInt ∧ num.toInt.toNat.Prime) ∧ isprimeInt32 num = none ∨
      ¬ (46337 ^ 2 ≤ num.toInt ∧ num.toInt.toNat.Prime) ∧
        isprimeInt32 num = some (isprime num.toInt) := by
  have hone : num ≤ 1 ↔ num.toInt ≤ 1 := Int32.le_iff_toInt_le
  have hthree : num ≤ 3 ↔ num.toInt ≤ 3 := Int32.le_iff_toInt_le
  simp only [isprimeInt32, isprime, hone, hthree]
  by_cases hle : num.toInt ≤ 1
  · rw [if_pos hle, if_pos hle]
    exact .inr ⟨fun h => by omega, rfl⟩
  rw [if_neg hle, if_neg hle]
  by_cases hle' : num.toInt ≤ 3
  · rw [if_pos hle', if_pos hle']
    exact .inr ⟨fun h => by omega, rfl⟩
  rw [if_neg hle', if_neg hle']
  obtain ⟨n, hnum⟩ : ∃ n : ℕ, num.toInt = n := ⟨num.toInt.toNat, by omega⟩
  have hn : 3 < n := by omega
  have hlt : n < 2 ^ 31 := by
    have := num.toInt_lt
    omega
  have hmod2 : num % 2 = 0 ↔ 2 ∣ n := mod_eq_zero_iff hnum rfl
  have hmod3 : num % 3 = 0 ↔ 3 ∣ n := mod_eq_zero_iff hnum rfl
  have htmod2 : (n : ℤ).tmod 2 = 0 ↔ 2 ∣ n := tmod_eq_zero_iff
  have htmod3 : (n : ℤ).tmod 3 = 0 ↔ 3 ∣ n := tmod_eq_zero_iff
  rw [hnum]
  simp only [hmod2, hmod3, htmod2, htmod3, Int.toNat_natCast]
  by_cases hsmall : 2 ∣ n ∨ 3 ∣ n
  · rw [if_pos hsmall, if_pos hsmall]
    exact .inr ⟨fun h => not_prime_of_two_dvd_or_three_dvd hn hsmall h.2, rfl⟩
  · rw [if_neg hsmall, if_neg hsmall]
    obtain ⟨h2, h3⟩ := not_or.mp hsmall
    have hiff : 46337 ^ 2 ≤ (n : ℤ) ∧ n.Prime ↔ Overflows n 0 := by
      rw [overflows_iff_prime hn hlt h2 h3]
      exact and_congr_left fun _ => by omega
    rw [hiff]
    exact isprimeInt32Loop_cases hnum rfl (Nat.zero_le _)

/-- What is returned is what `isprime` returns with exact integers. -/
theorem isprimeInt32_exact {num : Int32} {b : Bool} (h : isprimeInt32 num = some b) :
    b = isprime num.toInt := by
  obtain ⟨-, hnone⟩ | ⟨-, hsome⟩ := isprimeInt32_cases num
  · cases hnone.symm.trans h
  · exact Option.some.inj (h.symm.trans hsome)

/-- **A call overflows exactly for the primes from the square of 46337 on.** -/
theorem isprimeInt32_isSome_iff (num : Int32) :
    (isprimeInt32 num).isSome = true ↔ num.toInt < 46337 ^ 2 ∨ ¬ num.toInt.toNat.Prime := by
  obtain ⟨hprime, hnone⟩ | ⟨hother, hsome⟩ := isprimeInt32_cases num
  · rw [hnone]
    refine iff_of_false Bool.false_ne_true ?_
    rintro (hlt | hnot)
    · omega
    · exact hnot hprime.2
  · rw [hsome]
    refine iff_of_true rfl ?_
    by_contra h
    rw [not_or, not_lt, not_not] at h
    exact hother h

/-- The largest `int` is a prime, and testing it overflows. -/
theorem isprimeInt32_overflows_intMax : ¬ ∀ num : Int32, (isprimeInt32 num).isSome = true := by
  intro h
  have hprime : (mersenne 31).Prime := lucas_lehmer_sufficiency 31 (by norm_num) (by norm_num)
  have hmax := h 2147483647
  obtain ⟨-, hnone⟩ | ⟨hother, -⟩ := isprimeInt32_cases 2147483647
  · rw [hnone] at hmax
    cases hmax
  · exact hother ⟨by decide, hprime⟩

end SimplePrime

end TorOnion
