import Mathlib

/-!
# C strings and numerals

The part of the C library that the C sources rest on, as pure functions on bytes.

A string is the list of its bytes before the terminator.  A `const char *` into a string is
the *suffix* it points at: the terminator is the empty suffix, `*p` is `peek p`, `p + n` is
`p.drop n`, and the distance of two pointers into one string is a difference of lengths.
`CStr` is a whole string, with the fact that no byte of it is NUL.

Numerals are read and printed in a radix, decimal or hexadecimal, the two that `%d`, `%x`,
`%u` and `strtol` use here.  The facts that carry the later proofs are the round trip
`numeral_value` with its converse `numeral_digitsValue`, the length bounds `numeral_length_le`
and `digitsValue_lt_pow`, and `strtol_hex`, which says what `strtol` reads from a run of digits.
-/

namespace TorOnion

/-- The bytes of a text written in ASCII. -/
def ascii (s : String) : List UInt8 := s.toList.map Char.toUInt8

/-- A NUL-terminated string: its bytes before the terminator, none of which is NUL. -/
structure CStr where
  bytes : List UInt8
  noNul : (0 : UInt8) ∉ bytes
  deriving DecidableEq

/-- `*p`.  The terminator reads as NUL. -/
def peek (p : List UInt8) : UInt8 := p.headD 0

@[simp] lemma peek_nil : peek [] = 0 := rfl

@[simp] lemma peek_cons (b : UInt8) (p : List UInt8) : peek (b :: p) = b := rfl

/-- `strlcpy`: the string left in a buffer of `size` bytes. -/
def strlcpy (buf : List UInt8) (src : List UInt8) (size : ℕ) : List UInt8 :=
  if size = 0 then buf else src.take (size - 1)

/-- `strcmp`: the difference of the first bytes that differ, the terminator counting as NUL. -/
def strcmp : List UInt8 → List UInt8 → ℤ
  | [], [] => 0
  | [], b :: _ => -b.toNat
  | a :: _, [] => a.toNat
  | a :: p, b :: q => if a = b then strcmp p q else (a.toNat : ℤ) - b.toNat

/-- `memcmp` of the first `n` bytes. -/
def memcmp : ℕ → List UInt8 → List UInt8 → ℤ
  | 0, _, _ => 0
  | n + 1, p, q =>
      if peek p = peek q then memcmp n p.tail q.tail else ((peek p).toNat : ℤ) - (peek q).toNat

lemma uint8_ext {a b : UInt8} (h : a.toNat = b.toNat) : a = b := UInt8.toNat_inj.mp h

/-! ## Character classes -/

/-- `isdigit` in the C locale. -/
def isDigit (b : UInt8) : Bool := 48 ≤ b.toNat && b.toNat ≤ 57

/-- `isxdigit` in the C locale. -/
def isXDigit (b : UInt8) : Bool :=
  isDigit b || (97 ≤ b.toNat && b.toNat ≤ 102) || (65 ≤ b.toNat && b.toNat ≤ 70)

/-- `isspace` in the C locale. -/
def isSpace (b : UInt8) : Bool := b.toNat == 32 || (9 ≤ b.toNat && b.toNat ≤ 13)

/-- The value of a digit, `a` to `f` and `A` to `F` counting from ten. -/
def digitVal (b : UInt8) : ℕ :=
  if isDigit b then b.toNat - 48
  else if 97 ≤ b.toNat then b.toNat - 87
  else b.toNat - 55

/-- The two radices numerals are written in. -/
inductive Radix
  | dec
  | hex
  deriving DecidableEq

namespace Radix

def toNat : Radix → ℕ
  | dec => 10
  | hex => 16

/-- The digits of the radix. -/
def isDigit : Radix → UInt8 → Bool
  | dec => TorOnion.isDigit
  | hex => TorOnion.isXDigit

lemma one_lt_toNat (r : Radix) : 1 < r.toNat := by cases r <;> decide

end Radix

lemma isXDigit_of_isDigit {b : UInt8} (h : isDigit b = true) : isXDigit b = true := by
  simp [isXDigit, h]

lemma digitVal_lt {r : Radix} {b : UInt8} (h : r.isDigit b = true) : digitVal b < r.toNat := by
  cases r
  · have h' : isDigit b = true := h
    simp only [isDigit, Bool.and_eq_true, decide_eq_true_eq] at h'
    simp only [digitVal, isDigit, h', Radix.toNat, decide_true, Bool.and_self, if_true]
    omega
  · have h' : isXDigit b = true := h
    simp only [isXDigit, isDigit, Bool.or_eq_true, Bool.and_eq_true, decide_eq_true_eq] at h'
    simp only [digitVal, isDigit, Bool.and_eq_true, decide_eq_true_eq, Radix.toNat]
    split
    · omega
    · split <;> omega

/-- A digit is none of the bytes a parser treats as punctuation: no byte outside the three
digit ranges. -/
lemma ne_of_isXDigit {b c : UInt8} (h : isXDigit b = true) (hc : isXDigit c = false) : b ≠ c := by
  rintro rfl
  simp [h] at hc

/-! ## Digits and their value -/

/-- The value of a run of digits read from the left. -/
def digitsValue (r : Radix) (ds : List UInt8) : ℕ :=
  ds.foldl (fun acc b => acc * r.toNat + digitVal b) 0

@[simp] lemma digitsValue_nil (r : Radix) : digitsValue r [] = 0 := rfl

lemma digitsValue_concat (r : Radix) (ds : List UInt8) (b : UInt8) :
    digitsValue r (ds ++ [b]) = digitsValue r ds * r.toNat + digitVal b := by
  simp [digitsValue]

/-- A run of `k` digits is below the radix to the `k`. -/
lemma digitsValue_lt_pow {r : Radix} {ds : List UInt8} (h : ∀ b ∈ ds, r.isDigit b = true) :
    digitsValue r ds < r.toNat ^ ds.length := by
  induction ds using List.reverseRecOn with
  | nil => simp
  | append_singleton ds b ih =>
      have hds := ih (fun c hc => h c (by simp [hc]))
      have hb : digitVal b < r.toNat := digitVal_lt (h b (by simp))
      rw [digitsValue_concat, List.length_append, List.length_singleton, pow_succ]
      calc digitsValue r ds * r.toNat + digitVal b
          < digitsValue r ds * r.toNat + r.toNat := by omega
        _ = (digitsValue r ds + 1) * r.toNat := by ring
        _ ≤ r.toNat ^ ds.length * r.toNat := Nat.mul_le_mul_right _ hds

/-- The digit that prints a value below sixteen, in lower case. -/
def digitChar (d : ℕ) : UInt8 := if d < 10 then UInt8.ofNat (48 + d) else UInt8.ofNat (87 + d)

lemma digitVal_digitChar {d : ℕ} (h : d < 16) : digitVal (digitChar d) = d := by
  interval_cases d <;> decide

lemma isDigit_digitChar {r : Radix} {d : ℕ} (h : d < r.toNat) :
    r.isDigit (digitChar d) = true := by
  cases r
  · have : d < 10 := h
    interval_cases d <;> decide
  · have : d < 16 := h
    interval_cases d <;> decide

/-- The digits `printf` writes for a natural number, without leading zeros and `0` for zero:
`%d` and `%u` in radix ten, `%x` in radix sixteen. -/
def numeral (r : Radix) (n : ℕ) : List UInt8 :=
  if n = 0 then [digitChar 0] else ((r.toNat.digits n).map digitChar).reverse

lemma numeral_ne_nil (r : Radix) (n : ℕ) : numeral r n ≠ [] := by
  unfold numeral
  split
  · simp
  · rename_i hn
    simp [Nat.digits_ne_nil_iff_ne_zero.mpr hn]

lemma isDigit_of_mem_numeral {r : Radix} {n : ℕ} {b : UInt8} (hb : b ∈ numeral r n) :
    r.isDigit b = true := by
  unfold numeral at hb
  split at hb
  · obtain rfl := List.mem_singleton.mp hb
    exact isDigit_digitChar (by have := r.one_lt_toNat; omega)
  · simp only [List.mem_reverse, List.mem_map] at hb
    obtain ⟨d, hd, rfl⟩ := hb
    exact isDigit_digitChar (Nat.digits_lt_base r.one_lt_toNat hd)

/-- Reading back what was printed. -/
lemma numeral_value (r : Radix) (n : ℕ) : digitsValue r (numeral r n) = n := by
  have hle : r.toNat ≤ 16 := by cases r <;> decide
  have hread : ∀ ds : List ℕ, (∀ d ∈ ds, d < r.toNat) →
      digitsValue r (ds.map digitChar).reverse = Nat.ofDigits r.toNat ds := by
    intro ds hds
    induction ds with
    | nil => rfl
    | cons d ds ih =>
        have hd : d < r.toNat := hds d (by simp)
        rw [List.map_cons, List.reverse_cons, digitsValue_concat,
          ih (fun e he => hds e (by simp [he])), digitVal_digitChar (by omega),
          Nat.ofDigits_cons]
        ring
  unfold numeral
  split
  · rename_i hn
    subst hn
    cases r <;> decide
  · rw [hread _ (fun d hd => Nat.digits_lt_base r.one_lt_toNat hd), Nat.ofDigits_digits]

lemma numeral_length_le {r : Radix} {n k : ℕ} (hk : 0 < k) (hn : n < r.toNat ^ k) :
    (numeral r n).length ≤ k := by
  unfold numeral
  split
  · exact hk
  · rw [List.length_reverse, List.length_map]
    exact (Nat.digits_length_le_iff r.one_lt_toNat n).mpr hn

lemma digitChar_digitVal {b : UInt8} (h : isDigit b = true) : digitChar (digitVal b) = b := by
  have hval : digitVal b = b.toNat - 48 := if_pos h
  simp only [isDigit, Bool.and_eq_true, decide_eq_true_eq] at h
  have hlt : digitVal b < 10 := by omega
  have hsum : 48 + (b.toNat - 48) = b.toNat := by omega
  rw [digitChar, if_pos hlt, hval, hsum, UInt8.ofNat_toNat]

lemma numeral_concat {n d : ℕ} (hn : 0 < n) (hd : d < 10) :
    numeral .dec (n * 10 + d) = numeral .dec n ++ [digitChar d] := by
  have hdigits : Radix.dec.toNat.digits (n * 10 + d) = d :: Radix.dec.toNat.digits n := by
    have hten : Radix.dec.toNat = 10 := rfl
    rw [hten, Nat.digits_def' (by decide) (by omega)]
    congr 1
    · omega
    · congr 1
      omega
  rw [numeral, if_neg (by omega), numeral, if_neg (by omega), hdigits]
  simp

/-- A run of decimal digits that does not start with `0` is not zero. -/
lemma digitsValue_pos {ds : List UInt8} (hne : ds ≠ []) (hdec : ∀ b ∈ ds, isDigit b = true)
    (hpeek : peek ds ≠ 48) : 0 < digitsValue .dec ds := by
  induction ds using List.reverseRecOn with
  | nil => exact absurd rfl hne
  | append_singleton ds b ih =>
      have hb := hdec b (List.mem_append_right _ List.mem_cons_self)
      rw [digitsValue_concat]
      by_cases hds : ds = []
      · subst hds
        have hval : digitVal b = b.toNat - 48 := if_pos hb
        simp only [isDigit, Bool.and_eq_true, decide_eq_true_eq] at hb
        have hne48 : b.toNat ≠ 48 := fun h => hpeek (uint8_ext h)
        rw [digitsValue_nil]
        omega
      · have hpeek' : peek ds ≠ 48 := by
          obtain ⟨c, cs, rfl⟩ := List.exists_cons_of_ne_nil hds
          exact hpeek
        have hpos := ih hds (fun c hc => hdec c (List.mem_append_left _ hc)) hpeek'
        have hten : Radix.dec.toNat = 10 := rfl
        rw [hten]
        omega

/-- Printing what was read gives the digits back, unless they start with a `0` that is not all of
them. -/
lemma numeral_digitsValue {ds : List UInt8} (hne : ds ≠ []) (hdec : ∀ b ∈ ds, isDigit b = true)
    (hzero : 1 < ds.length → peek ds ≠ 48) : numeral .dec (digitsValue .dec ds) = ds := by
  induction ds using List.reverseRecOn with
  | nil => exact absurd rfl hne
  | append_singleton ds b ih =>
      have hb := hdec b (List.mem_append_right _ List.mem_cons_self)
      have hbval : digitVal b < 10 := @digitVal_lt .dec b hb
      rw [digitsValue_concat]
      by_cases hds : ds = []
      · subst hds
        have hnum : numeral .dec (digitVal b) = [digitChar (digitVal b)] := by
          generalize digitVal b = d at hbval
          interval_cases d <;> decide
        rw [digitsValue_nil, zero_mul, zero_add, hnum, digitChar_digitVal hb]
        rfl
      · have hpeek : peek ds ≠ 48 := by
          have hlen : 1 < (ds ++ [b]).length := by
            have := List.length_pos_iff.mpr hds
            rw [List.length_append, List.length_singleton]
            omega
          obtain ⟨c, cs, rfl⟩ := List.exists_cons_of_ne_nil hds
          exact hzero hlen
        have hdec' : ∀ c ∈ ds, isDigit c = true := fun c hc => hdec c (List.mem_append_left _ hc)
        have hten : Radix.dec.toNat = 10 := rfl
        rw [hten, numeral_concat (digitsValue_pos hds hdec' hpeek) hbval,
          ih hds hdec' fun _ => hpeek, digitChar_digitVal hb]

/-- A printed number other than zero does not start with `0`. -/
lemma peek_numeral_ne {n : ℕ} (hn : 0 < n) : peek (numeral .dec n) ≠ 48 := by
  have hne : Radix.dec.toNat.digits n ≠ [] := Nat.digits_ne_nil_iff_ne_zero.mpr hn.ne'
  have hlast := Nat.getLast_digit_ne_zero Radix.dec.toNat hn.ne'
  have hlt : (Radix.dec.toNat.digits n).getLast hne < 10 :=
    Nat.digits_lt_base (by decide) (List.getLast_mem hne)
  have hpeek : peek (numeral .dec n) =
      digitChar ((Radix.dec.toNat.digits n).getLast hne) := by
    rw [numeral, if_neg hn.ne', peek, List.headD_eq_head?_getD, List.head?_reverse,
      List.getLast?_map, List.getLast?_eq_some_getLast hne]
    rfl
  rw [hpeek]
  generalize (Radix.dec.toNat.digits n).getLast hne = d at hlast hlt
  interval_cases d
  · exact absurd rfl hlast
  all_goals decide

/-! ## `strtol` -/

/-- `LONG_MAX` of a 64-bit `long`. -/
def longMax : ℤ := 2 ^ 63 - 1

/-- `LONG_MIN` of a 64-bit `long`. -/
def longMin : ℤ := -2 ^ 63

/-- The optional sign `strtol` accepts: whether the number is negated, and what follows. -/
def readSign : List UInt8 → Bool × List UInt8
  | b :: p => if b = 45 then (true, p) else if b = 43 then (false, p) else (false, b :: p)
  | [] => (false, [])

/-- In radix sixteen a `0x` or `0X` is skipped when a hexadecimal digit follows it. -/
def skipHexPrefix : List UInt8 → List UInt8
  | z :: x :: d :: p =>
      if z = 48 ∧ (x = 120 ∨ x = 88) ∧ isXDigit d = true then d :: p else z :: x :: d :: p
  | p => p

/-- The value `strtol` returns for a signed magnitude, saturating at the range of `long`. -/
def clampLong (negative : Bool) (n : ℕ) : ℤ :=
  if negative then max longMin (-(n : ℤ)) else min longMax n

/-- `strtol(p, &end, radix)`: the value and `end`.  Without a digit the value is zero and
`end` is `p` itself. -/
def strtol (r : Radix) (p : List UInt8) : ℤ × List UInt8 :=
  let signed := readSign (p.dropWhile isSpace)
  let body := if r = .hex then skipHexPrefix signed.2 else signed.2
  let ds := body.takeWhile r.isDigit
  if ds = [] then (0, p)
  else (clampLong signed.1 (digitsValue r ds), body.dropWhile r.isDigit)

lemma readSign_length_le (p : List UInt8) : (readSign p).2.length ≤ p.length := by
  unfold readSign
  split
  · split
    · simp
    · split <;> simp
  · simp

lemma skipHexPrefix_length_le (p : List UInt8) : (skipHexPrefix p).length ≤ p.length := by
  unfold skipHexPrefix
  split
  · split <;> simp
  · simp

/-- The end pointer never lies before the start. -/
lemma strtol_end_length_le (r : Radix) (p : List UInt8) : (strtol r p).2.length ≤ p.length := by
  have hsign : (readSign (p.dropWhile isSpace)).2.length ≤ p.length :=
    (readSign_length_le _).trans (List.length_dropWhile_le _ _)
  have hbody : (if r = .hex then skipHexPrefix (readSign (p.dropWhile isSpace)).2
      else (readSign (p.dropWhile isSpace)).2).length ≤ p.length := by
    split
    · exact (skipHexPrefix_length_le _).trans hsign
    · exact hsign
  simp only [strtol]
  generalize (if r = .hex then skipHexPrefix (readSign (p.dropWhile isSpace)).2
    else (readSign (p.dropWhile isSpace)).2) = body at hbody ⊢
  by_cases hds : body.takeWhile r.isDigit = []
  · simp [hds]
  · rw [if_neg hds]
    exact (List.length_dropWhile_le _ _).trans hbody

lemma isSpace_of_isXDigit {b : UInt8} (h : isXDigit b = true) : isSpace b = false := by
  simp only [isXDigit, isDigit, Bool.or_eq_true, Bool.and_eq_true, decide_eq_true_eq] at h
  simp only [isSpace, Bool.or_eq_false_iff, beq_eq_false_iff_ne, Bool.and_eq_false_iff,
    decide_eq_false_iff_not]
  omega

/-- A digit at the front is neither white space nor a sign, so `strtol` starts on it. -/
lemma readSign_of_isXDigit {b : UInt8} {p : List UInt8} (h : isXDigit b = true) :
    readSign ((b :: p).dropWhile isSpace) = (false, b :: p) := by
  have hminus : b ≠ 45 := ne_of_isXDigit h (by decide)
  have hplus : b ≠ 43 := ne_of_isXDigit h (by decide)
  simp [isSpace_of_isXDigit h, readSign, hminus, hplus]

/-- `0x` is read as a prefix only when an `x` follows the first byte. -/
lemma skipHexPrefix_eq_self {p : List UInt8}
    (h : ∀ z x q, p = z :: x :: q → x ≠ 120 ∧ x ≠ 88) : skipHexPrefix p = p := by
  match p with
  | [] => rfl
  | [_] => rfl
  | [_, _] => rfl
  | z :: x :: d :: q =>
      obtain ⟨h1, h2⟩ := h z x (d :: q) rfl
      simp [skipHexPrefix, h1, h2]

/-- A maximal run splits off exactly. -/
lemma span_run {q : UInt8 → Bool} {ds rest : List UInt8} (hds : ∀ b ∈ ds, q b = true)
    (hrest : ∀ b ∈ rest.head?, q b = false) :
    (ds ++ rest).takeWhile q = ds ∧ (ds ++ rest).dropWhile q = rest := by
  have hstop : rest.takeWhile q = [] ∧ rest.dropWhile q = rest := by
    cases rest with
    | nil => simp
    | cons b rest => simp [hrest b (by simp)]
  constructor
  · rw [List.takeWhile_append_of_pos hds, hstop.1, List.append_nil]
  · rw [List.dropWhile_append_of_pos hds, hstop.2]

/-- A value within the range of `long` is not clamped. -/
lemma clampLong_of_lt {n : ℕ} (h : n < 2 ^ 63) : clampLong false n = n := by
  simp only [clampLong, longMax, Bool.false_eq_true, if_false]
  omega

/-- `strtol` in radix sixteen on a digit, without the prefix: the maximal run of digits. -/
lemma strtol_hex {ds rest : List UInt8} (hne : ds ≠ []) (hds : ∀ b ∈ ds, isXDigit b = true)
    (hrest : ∀ b ∈ rest.head?, isXDigit b = false)
    (hskip : skipHexPrefix (ds ++ rest) = ds ++ rest) :
    strtol .hex (ds ++ rest) = (clampLong false (digitsValue .hex ds), rest) := by
  obtain ⟨htake, hdrop⟩ := span_run hds hrest
  have hsign : readSign ((ds ++ rest).dropWhile isSpace) = (false, ds ++ rest) := by
    cases ds with
    | nil => exact absurd rfl hne
    | cons b ds => exact readSign_of_isXDigit (hds b (by simp))
  have hdigit : Radix.hex.isDigit = isXDigit := rfl
  simp only [strtol, hsign, if_true, hskip, hdigit, htake, hdrop, hne, if_false]

/-- `strtol` in radix sixteen on `0x` and a digit ends after the digits. -/
lemma strtol_hex_prefixed {x d : UInt8} {q : List UInt8} (hx : x = 120 ∨ x = 88)
    (hd : isXDigit d = true) : (strtol .hex (48 :: x :: d :: q)).2 = q.dropWhile isXDigit := by
  have hsign : readSign ((48 :: x :: d :: q).dropWhile isSpace) = (false, 48 :: x :: d :: q) :=
    readSign_of_isXDigit (by decide)
  have hskip : skipHexPrefix (48 :: x :: d :: q) = d :: q := by
    simp only [skipHexPrefix, true_and, if_pos (show (x = 120 ∨ x = 88) ∧ _ from ⟨hx, hd⟩)]
  have hdigit : Radix.hex.isDigit = isXDigit := rfl
  simp [strtol, hsign, hskip, hdigit, hd]

end TorOnion
