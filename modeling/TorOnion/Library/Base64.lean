import TorOnion.Library.CString

/-!
# Base64

Three bytes are four sextets, the last group filled up with zero bits, and each sextet is written
as its character of an alphabet of 64, padded to whole groups of four.  An alphabet that repeats no
character and has no padding character can be read back (`decode_encode`).  The encodings of the
same bytes in two alphabets are equal exactly when the alphabets agree on its sextets
(`encode_eq_encode_iff`), which for `standard` and `urlSafe` excludes two sextets
(`standard_encode_eq_urlSafe_iff`).
-/

namespace TorOnion

namespace Base64

/-- `=`. -/
def pad : UInt8 := 61

/-- The characters of the 64 sextets. -/
structure Alphabet where
  chars : List UInt8
  length_chars : chars.length = 64
  nodup_chars : chars.Nodup
  pad_notMem : pad ∉ chars

/-- The characters that both alphabets begin with. -/
def commonChars : List UInt8 :=
  ascii "ABCDEFGHIJKLMNOPQRSTUVWXYZabcdefghijklmnopqrstuvwxyz0123456789"

/-- `std.base64.standard`. -/
def standard : Alphabet where
  chars := commonChars ++ ascii "+/"
  length_chars := by decide +kernel
  nodup_chars := by decide +kernel
  pad_notMem := by decide +kernel

/-- `std.base64.url_safe`. -/
def urlSafe : Alphabet where
  chars := commonChars ++ ascii "-_"
  length_chars := by decide +kernel
  nodup_chars := by decide +kernel
  pad_notMem := by decide +kernel

/-- The sextets of a text, the last one filled up with zero bits. -/
def sextets : List UInt8 → List ℕ
  | [] => []
  | [a] => [a.toNat / 4, a.toNat % 4 * 16]
  | [a, b] => [a.toNat / 4, a.toNat % 4 * 16 + b.toNat / 16, b.toNat % 16 * 4]
  | a :: b :: c :: source =>
      a.toNat / 4 :: (a.toNat % 4 * 16 + b.toNat / 16) :: (b.toNat % 16 * 4 + c.toNat / 64) ::
        c.toNat % 64 :: sextets source

/-- The three bytes of four sextets. -/
def firstByte (i j : ℕ) : UInt8 := UInt8.ofNat (i * 4 + j / 16)

def secondByte (j k : ℕ) : UInt8 := UInt8.ofNat (j % 16 * 16 + k / 4)

def thirdByte (k l : ℕ) : UInt8 := UInt8.ofNat (k % 4 * 64 + l)

/-- How many padding characters complete the last group. -/
def padding (n : ℕ) : ℕ := (3 - n % 3) % 3

/-- `calcSize`, with padding. -/
def calcSize (n : ℕ) : ℕ := (n + 2) / 3 * 4

namespace Alphabet

variable (α : Alphabet)

/-- The character of a sextet. -/
def char (d : ℕ) : UInt8 := α.chars.getD d 0

/-- The sextet of a character. -/
def value (b : UInt8) : Option ℕ := α.chars.idxOf? b

def encode (source : List UInt8) : List UInt8 :=
  (sextets source).map α.char ++ List.replicate (padding source.length) pad

/-- Reads a padded text.  Only the last group is padded, and the bits that are left over in it have
to be zero. -/
def decode : List UInt8 → Option (List UInt8)
  | [] => some []
  | w :: x :: y :: z :: rest => do
      let i ← α.value w
      let j ← α.value x
      if z = pad ∧ rest = [] then
        if y = pad then
          guard (j % 16 = 0)
          return [firstByte i j]
        let k ← α.value y
        guard (k % 4 = 0)
        return [firstByte i j, secondByte j k]
      let k ← α.value y
      let l ← α.value z
      let source ← decode rest
      return firstByte i j :: secondByte j k :: thirdByte k l :: source
  | _ => none

end Alphabet

/-! ## Sextets -/

lemma sextet_lt {source : List UInt8} {d : ℕ} (h : d ∈ sextets source) : d < 64 := by
  induction source using sextets.induct with
  | case1 => simp [sextets] at h
  | case2 a =>
      have := a.toNat_lt
      simp only [sextets, List.mem_cons, List.not_mem_nil, or_false] at h
      omega
  | case3 a b =>
      have := a.toNat_lt
      have := b.toNat_lt
      simp only [sextets, List.mem_cons, List.not_mem_nil, or_false] at h
      omega
  | case4 a b c source ih =>
      have := a.toNat_lt
      have := b.toNat_lt
      have := c.toNat_lt
      simp only [sextets, List.mem_cons] at h
      rcases h with h | h | h | h | h
      · omega
      · omega
      · omega
      · omega
      · exact ih h

lemma firstByte_sextets (a : UInt8) (x : ℕ) (hx : x < 16) :
    firstByte (a.toNat / 4) (a.toNat % 4 * 16 + x) = a := by
  have ha := a.toNat_lt
  refine uint8_ext ?_
  rw [firstByte, UInt8.toNat_ofNat']
  omega

lemma secondByte_sextets (i : ℕ) (b : UInt8) (x : ℕ) (hx : x < 4) :
    secondByte (i * 16 + b.toNat / 16) (b.toNat % 16 * 4 + x) = b := by
  have hb := b.toNat_lt
  refine uint8_ext ?_
  rw [secondByte, UInt8.toNat_ofNat']
  omega

lemma thirdByte_sextets (i : ℕ) (c : UInt8) :
    thirdByte (i * 4 + c.toNat / 64) (c.toNat % 64) = c := by
  have hc := c.toNat_lt
  refine uint8_ext ?_
  rw [thirdByte, UInt8.toNat_ofNat']
  omega

lemma padding_add_three (n : ℕ) : padding (n + 3) = padding n := by simp [padding]

/-- The sextets and the padding fill whole groups. -/
lemma length_sextets (source : List UInt8) :
    (sextets source).length + padding source.length = calcSize source.length := by
  induction source using sextets.induct with
  | case1 => rfl
  | case2 a => simp [sextets, padding, calcSize]
  | case3 a b => simp [sextets, padding, calcSize]
  | case4 a b c source ih =>
      have hsize : calcSize (source.length + 3) = calcSize source.length + 4 := by
        simp only [calcSize]
        omega
      simp only [sextets, List.length_cons, padding_add_three, hsize, Nat.add_assoc] at ih ⊢
      omega

/-! ## One alphabet -/

namespace Alphabet

variable {α : Alphabet}

lemma length_encode (source : List UInt8) :
    (α.encode source).length = calcSize source.length := by
  simp [encode, length_sextets]

lemma char_mem {d : ℕ} (hd : d < 64) : α.char d ∈ α.chars := by
  rw [char, List.getD_eq_getElem _ _ (α.length_chars.symm ▸ hd)]
  exact List.getElem_mem _

lemma char_ne_pad {d : ℕ} (hd : d < 64) : α.char d ≠ pad := fun h =>
  α.pad_notMem (h ▸ char_mem hd)

/-- A character stands for one sextet only. -/
lemma value_char (α : Alphabet) (d : ℕ) (hd : d < 64) : α.value (α.char d) = some d := by
  have hlen : d < α.chars.length := α.length_chars.symm ▸ hd
  rw [value, List.idxOf?_eq_some_iff]
  refine ⟨hlen, ?_, fun j hj h => ?_⟩
  · simp [char, hlen]
  · have hd' : α.char d = α.chars[d] := by simp [char, hlen]
    have hij := α.nodup_chars.getElem_inj_iff.mp (h.trans hd')
    omega

lemma encode_cons (a b c : UInt8) (source : List UInt8) :
    α.encode (a :: b :: c :: source) =
      α.char (a.toNat / 4) :: α.char (a.toNat % 4 * 16 + b.toNat / 16) ::
        α.char (b.toNat % 16 * 4 + c.toNat / 64) :: α.char (c.toNat % 64) :: α.encode source := by
  simp [encode, sextets, padding_add_three]

/-- **Decoding inverts encoding**, in every alphabet. -/
theorem decode_encode (source : List UInt8) : α.decode (α.encode source) = some source := by
  induction source using sextets.induct with
  | case1 => rfl
  | case2 a =>
      have ha := a.toNat_lt
      have hi := α.value_char (a.toNat / 4) (by omega)
      have hj := α.value_char (a.toNat % 4 * 16) (by omega)
      have hfirst : firstByte (a.toNat / 4) (a.toNat % 4 * 16) = a :=
        firstByte_sextets a 0 (by omega)
      simp [encode, sextets, padding, decode, List.replicate, hi, hj, hfirst]
  | case3 a b =>
      have ha := a.toNat_lt
      have hb := b.toNat_lt
      have hi := α.value_char (a.toNat / 4) (by omega)
      have hj := α.value_char (a.toNat % 4 * 16 + b.toNat / 16) (by omega)
      have hk := α.value_char (b.toNat % 16 * 4) (by omega)
      have hy : α.char (b.toNat % 16 * 4) ≠ pad := char_ne_pad (by omega)
      have hleft : b.toNat % 16 * 4 % 4 = 0 := by omega
      have hfirst := firstByte_sextets a (b.toNat / 16) (by omega)
      have hsecond : secondByte (a.toNat % 4 * 16 + b.toNat / 16) (b.toNat % 16 * 4) = b :=
        secondByte_sextets (a.toNat % 4) b 0 (by omega)
      simp [encode, sextets, padding, decode, hi, hj, hk, hy, hleft, hfirst, hsecond]
  | case4 a b c source ih =>
      have ha := a.toNat_lt
      have hb := b.toNat_lt
      have hc := c.toNat_lt
      have hi := α.value_char (a.toNat / 4) (by omega)
      have hj := α.value_char (a.toNat % 4 * 16 + b.toNat / 16) (by omega)
      have hk := α.value_char (b.toNat % 16 * 4 + c.toNat / 64) (by omega)
      have hl := α.value_char (c.toNat % 64) (by omega)
      have hz : α.char (c.toNat % 64) ≠ pad := char_ne_pad (by omega)
      have hfirst := firstByte_sextets a (b.toNat / 16) (by omega)
      have hsecond := secondByte_sextets (a.toNat % 4) b (c.toNat / 64) (by omega)
      have hthird := thirdByte_sextets (b.toNat % 16) c
      simp [encode_cons, decode, hi, hj, hk, hl, hz, ih, hfirst, hsecond, hthird]

end Alphabet

/-! ## Two alphabets -/

/-- The encodings are equal when the alphabets agree on every sextet, and only then. -/
theorem encode_eq_encode_iff (α β : Alphabet) (source : List UInt8) :
    α.encode source = β.encode source ↔ ∀ d ∈ sextets source, α.char d = β.char d := by
  rw [Alphabet.encode, Alphabet.encode, List.append_left_inj]
  exact List.map_inj_left

lemma standard_char_eq_iff {d : ℕ} (hd : d < 64) :
    standard.char d = urlSafe.char d ↔ d ≠ 62 ∧ d ≠ 63 := by
  have hlen : commonChars.length = 62 := by decide +kernel
  rcases lt_or_ge d 62 with hlt | hge
  · have heq : standard.char d = urlSafe.char d := by
      rw [Alphabet.char, Alphabet.char, standard, urlSafe,
        List.getD_append _ _ _ _ (hlen ▸ hlt), List.getD_append _ _ _ _ (hlen ▸ hlt)]
    simp only [heq, true_iff]
    omega
  · obtain rfl | rfl : d = 62 ∨ d = 63 := by omega
    · decide
    · decide

theorem standard_encode_eq_urlSafe_iff (source : List UInt8) :
    standard.encode source = urlSafe.encode source ↔
      ∀ d ∈ sextets source, d ≠ 62 ∧ d ≠ 63 := by
  rw [encode_eq_encode_iff]
  exact forall₂_congr fun _ hd => standard_char_eq_iff (sextet_lt hd)

end Base64

end TorOnion
