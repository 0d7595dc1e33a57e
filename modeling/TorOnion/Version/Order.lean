import TorOnion.Library.Comparator
import TorOnion.Version.Parse

/-!
# The order of versions: `networking/lib/version.c`, the comparators

`tor_version_compare` and `compare_tor_version_str_ptr_`, which `sort_version_list` hands to
`smartlist_sort` and `smartlist_uniq`, and the exact triples of strings on which the latter is a
preorder.

Of the eight fields that `tor_version_compare` chains, seven compare as integers or strings:
their differences stay within the range of `int`, which `TorVersion.InBounds` records of every
result of the parser.  `svn_revision` covers all of `int`, so its difference is one in 32 bits.
The comparator is therefore the chain `stringFront`, a preorder, then that difference, then the
git tag, and `Library/Comparator.lean` says where such a chain is a preorder.
-/

namespace TorOnion

open Std (TransCmp OrientedCmp)

/-! ## The comparators of the source -/

/-- `CMP(field)`: the value the macro returns, or zero when it falls through. -/
def cmpField (a b : ℤ) : ℤ :=
  let result := subAsInt a b
  if result < 0 then -1 else if result > 0 then 1 else 0

/-- `tor_version_compare`. -/
def torVersionCompare (a b : TorVersion) : ℤ :=
  orElse (cmpField a.major b.major) <|
  orElse (cmpField a.minor b.minor) <|
  orElse (cmpField a.micro b.micro) <|
  orElse (cmpField a.status.toInt b.status.toInt) <|
  orElse (cmpField a.patchlevel b.patchlevel) <|
  orElse (strcmp a.statusTag b.statusTag) <|
  orElse (cmpField a.svnRevision b.svnRevision) <|
  orElse (cmpField a.gitTagLen b.gitTagLen) <|
  if a.gitTagLen ≠ 0 then memcmp a.gitTagLen.toNat a.gitTag b.gitTag else 0

/-- `compare_tor_version_str_ptr_`. -/
def compareTorVersionStrPtr (tagSize : ℕ) (a b : CStr) : ℤ :=
  let ca := torVersionParse tagSize a
  let cb := torVersionParse tagSize b
  if ca.1 = 0 ∧ cb.1 = 0 then torVersionCompare ca.2 cb.2
  else if ca.1 = 0 ∧ cb.1 ≠ 0 then -1
  else if ca.1 ≠ 0 ∧ cb.1 = 0 then 1
  else strcmp a.bytes b.bytes

/-! ## What the parser fills in -/

/-- The bounds of the fields: numbers up to `INT32_MAX`, a tag that is a string, and a git tag
within its array. -/
structure TorVersion.InBounds (v : TorVersion) : Prop where
  major : 0 ≤ v.major ∧ v.major ≤ int32Max
  minor : 0 ≤ v.minor ∧ v.minor ≤ int32Max
  micro : 0 ≤ v.micro ∧ v.micro ≤ int32Max
  patchlevel : 0 ≤ v.patchlevel ∧ v.patchlevel ≤ int32Max
  statusTag : (0 : UInt8) ∉ v.statusTag
  gitTagLen : 0 ≤ v.gitTagLen ∧ v.gitTagLen ≤ digestLen
  gitTag : v.gitTag.length = digestLen

lemma TorVersion.zero_inBounds : TorVersion.zero.InBounds := by
  constructor <;> simp [TorVersion.zero]

lemma parseNumber_spec {cp rest : List UInt8} {n : ℤ} (h : parseNumber cp = some (n, rest)) :
    (0 ≤ n ∧ n ≤ int32Max) ∧ rest <:+ cp := by
  simp only [parseNumber, torParseUint64] at h
  split at h
  · split at h
    · cases h
    · rename_i n' eos hparse
      split at hparse
      · cases hparse
      · rename_i hrun
        simp only [Option.some.injEq, Prod.mk.injEq] at hparse
        obtain ⟨rfl, rfl⟩ := hparse
        split at h
        · cases h
        · simp only [Option.some.injEq, Prod.mk.injEq] at h
          obtain ⟨rfl, rfl⟩ := h
          rw [not_or, not_lt] at hrun
          exact ⟨⟨by omega, by omega⟩, List.dropWhile_suffix _⟩
  · cases h

lemma base16Decode_length {p digest : List UInt8} (h : base16Decode p = some digest) :
    2 * digest.length = p.length := by
  induction p using base16Decode.induct generalizing digest with
  | case1 =>
      obtain rfl := Option.some.inj h
      rfl
  | case2 => cases h
  | case3 a b p hx ih =>
      simp only [base16Decode, hx, if_true, Option.map_eq_some_iff] at h
      obtain ⟨tail, htail, rfl⟩ := h
      have := ih htail
      simp only [List.length_cons]
      omega
  | case4 a b p hx => simp [base16Decode, hx] at h

section Bounds

variable {tagSize : ℕ} {cp : List UInt8} {out : TorVersion}

lemma parseGitTag_inBounds (hout : out.InBounds) : (parseGitTag cp out).2.InBounds := by
  unfold parseGitTag
  split
  · exact hout
  · rename_i closeParen _
    simp only
    split_ifs with hlong hodd
    · exact hout
    · exact hout
    · split
      · exact hout
      · rename_i digest hdigest
        have hlen := base16Decode_length hdigest
        have hmax : hexDigestLen = 40 ∧ digestLen = 20 := ⟨rfl, rfl⟩
        have htake : ((cp.drop 5).take (closeParen - 5)).length ≤ closeParen - 5 :=
          List.length_take_le _ _
        have hgit := hout.gitTag
        refine { hout with gitTagLen := ⟨by simp only; omega, by simp only; omega⟩,
                           gitTag := ?_ }
        simp only [List.length_append, List.length_drop]
        omega

lemma parseStatusTag_inBounds (hout : out.InBounds) (hcp : (0 : UInt8) ∉ cp) :
    (parseStatusTag tagSize cp out).2.InBounds := by
  have hdrop : (0 : UInt8) ∉ (if peek cp = 45 ∨ peek cp = 46 then cp.drop 1 else cp) := by
    split
    · exact fun h => hcp (List.mem_of_mem_drop h)
    · exact hcp
  simp only [parseStatusTag]
  generalize (if peek cp = 45 ∨ peek cp = 46 then cp.drop 1 else cp) = cp' at hdrop ⊢
  have htag : (0 : UInt8) ∉ (if cp'.length - (findWhitespace cp').length ≥ tagSize then
      strlcpy out.statusTag cp' tagSize
      else cp'.take (cp'.length - (findWhitespace cp').length)) := by
    unfold strlcpy
    split_ifs
    · exact hout.statusTag
    · exact fun h => hdrop (List.mem_of_mem_take h)
    · exact fun h => hdrop (List.mem_of_mem_take h)
  generalize (if cp'.length - (findWhitespace cp').length ≥ tagSize then
      strlcpy out.statusTag cp' tagSize
      else cp'.take (cp'.length - (findWhitespace cp').length)) = tag at htag ⊢
  split_ifs
  · exact { hout with statusTag := htag }
  · exact parseGitTag_inBounds { hout with statusTag := htag }
  · exact { hout with statusTag := htag }

lemma parsePatchlevel_inBounds (hout : out.InBounds) (hcp : (0 : UInt8) ∉ cp) :
    (parsePatchlevel tagSize cp out).2.InBounds := by
  unfold parsePatchlevel
  split
  · exact hout
  · rename_i n rest hnumber
    obtain ⟨hn, hsuffix⟩ := parseNumber_spec hnumber
    exact parseStatusTag_inBounds { hout with patchlevel := hn }
      fun h => hcp (hsuffix.mem h)

lemma parseMicro_inBounds (hout : out.InBounds) (hcp : (0 : UInt8) ∉ cp) :
    (parseMicro tagSize cp out).2.InBounds := by
  unfold parseMicro
  split
  · exact hout
  · rename_i n rest hnumber
    obtain ⟨hn, hsuffix⟩ := parseNumber_spec hnumber
    have hrest : (0 : UInt8) ∉ rest := fun h => hcp (hsuffix.mem h)
    have hskip : ∀ k, (0 : UInt8) ∉ rest.drop k := fun k h => hrest (List.mem_of_mem_drop h)
    simp only
    split_ifs
    · exact { hout with micro := hn }
    · exact parsePatchlevel_inBounds { hout with micro := hn } (hskip 1)
    · exact parseStatusTag_inBounds { hout with micro := hn } hrest
    · exact parsePatchlevel_inBounds { hout with micro := hn } (hskip 3)
    · exact parsePatchlevel_inBounds { hout with micro := hn } (hskip 2)
    · exact { hout with micro := hn }

end Bounds

/-- Every field of a version the parser has filled is within its bounds. -/
lemma torVersionParse_inBounds (tagSize : ℕ) (s : CStr) :
    (torVersionParse tagSize s).2.InBounds := by
  have hstart : (0 : UInt8) ∉
      (if strcasecmpstart s.bytes (ascii "Tor ") then s.bytes.drop 4 else s.bytes) := by
    split
    · exact fun h => s.noNul (List.mem_of_mem_drop h)
    · exact s.noNul
  have hzero := TorVersion.zero_inBounds
  simp only [torVersionParse]
  generalize (if strcasecmpstart s.bytes (ascii "Tor ") then s.bytes.drop 4 else s.bytes) = cp
    at hstart ⊢
  split
  · exact hzero
  · rename_i major rest hmajor
    obtain ⟨hn, hsuffix⟩ := parseNumber_spec hmajor
    split_ifs with hdot
    · exact { hzero with major := hn }
    · split
      · exact { hzero with major := hn }
      · rename_i minor rest' hminor
        obtain ⟨hm, hsuffix'⟩ := parseNumber_spec hminor
        have hrest : (0 : UInt8) ∉ rest' := fun h =>
          hstart (hsuffix.mem (List.mem_of_mem_drop (hsuffix'.mem h)))
        split_ifs
        · exact { hzero with major := hn, minor := hm }
        · exact parseStatusTag_inBounds { hzero with major := hn, minor := hm } hrest
        · exact { hzero with major := hn, minor := hm }
        · exact parseMicro_inBounds { hzero with major := hn, minor := hm }
            fun h => hrest (List.mem_of_mem_drop h)

/-! ## The fields as orders -/

lemma ordOf_cmpField (a b : ℤ) : ordOf (cmpField a b) = subOrd a b := by
  rw [cmpField, subOrd]
  rcases lt_trichotomy (subAsInt a b) 0 with h | h | h
  · rw [if_pos h, ordOf_eq_lt.mpr h]
    rfl
  · rw [h]
    rfl
  · rw [if_neg (by omega), if_pos h, ordOf_eq_gt.mpr h]
    rfl

/-- A field that holds no negative number is compared as the integer it is. -/
lemma ordOf_cmpField_of_nonneg {a b : ℤ} (ha : 0 ≤ a ∧ a ≤ int32Max)
    (hb : 0 ≤ b ∧ b ≤ int32Max) : ordOf (cmpField a b) = compare a b := by
  have hmax : (int32Max : ℤ) = 2 ^ 31 - 1 := rfl
  rw [ordOf_cmpField, subOrd_eq_compare]
  rw [abs_lt]
  omega

lemma ordOf_byte_sub (a b : UInt8) : ordOf ((a.toNat : ℤ) - b.toNat) = compare a b := by
  rcases lt_trichotomy a.toNat b.toNat with h | h | h
  · rw [ordOf_eq_lt.mpr (by omega), Std.compare_eq_lt.mpr (UInt8.lt_iff_toNat_lt.mpr h)]
  · rw [ordOf_eq_eq.mpr (by omega), Std.compare_eq_iff_eq.mpr (uint8_ext h)]
  · rw [ordOf_eq_gt.mpr (by omega), Std.compare_eq_gt.mpr (UInt8.lt_iff_toNat_lt.mpr h)]

lemma byte_pos {b : UInt8} (h : b ≠ 0) : 0 < b.toNat := by
  rw [Nat.pos_iff_ne_zero]
  exact fun h' => h (uint8_ext h')

/-- `strcmp` compares strings byte by byte. -/
lemma ordOf_strcmp {p q : List UInt8} (hp : (0 : UInt8) ∉ p) (hq : (0 : UInt8) ∉ q) :
    ordOf (strcmp p q) = compare p q := by
  induction p, q using strcmp.induct with
  | case1 => rfl
  | case2 b q =>
      have hb := byte_pos (b := b) (by rintro rfl; simp at hq)
      rw [strcmp, ordOf_eq_lt.mpr (by omega)]
      rfl
  | case3 a p =>
      have ha := byte_pos (b := a) (by rintro rfl; simp at hp)
      rw [strcmp, ordOf_eq_gt.mpr (by omega)]
      rfl
  | case4 a p q ih =>
      rw [strcmp, if_pos rfl, ih (fun h => hp (.tail _ h)) (fun h => hq (.tail _ h)),
        List.compare_cons_cons, Std.compare_self]
      rfl
  | case5 a p b q hne =>
      rw [strcmp, if_neg hne, ordOf_byte_sub, List.compare_cons_cons]
      cases hab : compare a b with
      | lt => rfl
      | eq => exact absurd (Std.compare_eq_iff_eq.mp hab) hne
      | gt => rfl

lemma ordOf_memcmp {n : ℕ} {p q : List UInt8} (hp : n ≤ p.length) (hq : n ≤ q.length) :
    ordOf (memcmp n p q) = compare (p.take n) (q.take n) := by
  induction n generalizing p q with
  | zero => simp [memcmp, ordOf]
  | succ n ih =>
      cases p with
      | nil => simp at hp
      | cons a p =>
          cases q with
          | nil => simp at hq
          | cons b q =>
              simp only [List.length_cons] at hp hq
              have hstep : memcmp (n + 1) (a :: p) (b :: q) =
                  if a = b then memcmp n p q else (a.toNat : ℤ) - b.toNat := rfl
              rw [hstep, List.take_succ_cons, List.take_succ_cons, List.compare_cons_cons]
              by_cases hab : a = b
              · rw [if_pos hab, ih (by omega) (by omega), hab, Std.compare_self]
                rfl
              · rw [if_neg hab, ordOf_byte_sub]
                cases hord : compare a b with
                | lt => rfl
                | eq => exact absurd (Std.compare_eq_iff_eq.mp hord) hab
                | gt => rfl

/-! ## The comparator as a chain -/

section Chain

variable {α : Type*} (f : α → TorVersion)

/-- The fields before `svn_revision`. -/
def versionFront : α → α → Ordering :=
  compareLex (compareOn fun x => (f x).major) <|
  compareLex (compareOn fun x => (f x).minor) <|
  compareLex (compareOn fun x => (f x).micro) <|
  compareLex (compareOn fun x => (f x).status.toInt) <|
  compareLex (compareOn fun x => (f x).patchlevel) (compareOn fun x => (f x).statusTag)

/-- The fields after it. -/
def versionBack : α → α → Ordering :=
  compareLex (compareOn fun x => (f x).gitTagLen)
    (compareOn fun x => (f x).gitTag.take (f x).gitTagLen.toNat)

instance : TransCmp (versionFront f) := by
  unfold versionFront
  infer_instance

instance : TransCmp (versionBack f) := by
  unfold versionBack
  infer_instance

/-- Two versions that agree up to the status tag. -/
def SameUpToTag (u v : TorVersion) : Prop :=
  u.major = v.major ∧ u.minor = v.minor ∧ u.micro = v.micro ∧ u.status = v.status ∧
    u.patchlevel = v.patchlevel ∧ u.statusTag = v.statusTag

instance (u v : TorVersion) : Decidable (SameUpToTag u v) := by
  unfold SameUpToTag
  infer_instance

variable {f}

lemma versionFront_eq_eq {x y : α} : versionFront f x y = .eq ↔ SameUpToTag (f x) (f y) := by
  have hstatus : (f x).status.toInt = (f y).status.toInt ↔ (f x).status = (f y).status := by
    cases (f x).status <;> cases (f y).status <;> decide
  simp only [versionFront, compareLex_eq_eq, compareOn, Std.compare_eq_iff_eq, hstatus,
    SameUpToTag]

/-- `tor_version_compare` on versions within bounds. -/
lemma ordOf_torVersionCompare {x y : α} (hx : (f x).InBounds) (hy : (f y).InBounds) :
    ordOf (torVersionCompare (f x) (f y)) =
      compareLex (versionFront f) (subOn (fun x => (f x).svnRevision) (versionBack f)) x y := by
  have hstatus : ordOf (cmpField (f x).status.toInt (f y).status.toInt) =
      compare (f x).status.toInt (f y).status.toInt := by
    cases (f x).status <;> cases (f y).status <;> decide
  have hdigest : (digestLen : ℤ) ≤ int32Max := by decide
  have hgit : ordOf (cmpField (f x).gitTagLen (f y).gitTagLen) =
      compare (f x).gitTagLen (f y).gitTagLen :=
    ordOf_cmpField_of_nonneg ⟨hx.gitTagLen.1, hx.gitTagLen.2.trans hdigest⟩
      ⟨hy.gitTagLen.1, hy.gitTagLen.2.trans hdigest⟩
  -- the bytes are compared only when the lengths agree
  have hback : (ordOf (cmpField (f x).gitTagLen (f y).gitTagLen)).then
      (ordOf (if (f x).gitTagLen ≠ 0 then
        memcmp (f x).gitTagLen.toNat (f x).gitTag (f y).gitTag else 0)) =
      versionBack f x y := by
    rw [hgit]
    by_cases hlen : (f x).gitTagLen = (f y).gitTagLen
    · have hmem : ordOf (if (f x).gitTagLen ≠ 0 then
          memcmp (f x).gitTagLen.toNat (f x).gitTag (f y).gitTag else 0) =
          compare ((f x).gitTag.take (f x).gitTagLen.toNat)
            ((f y).gitTag.take (f y).gitTagLen.toNat) := by
        have hx' := hx.gitTagLen
        have hgx := hx.gitTag
        have hgy := hy.gitTag
        rw [← hlen]
        by_cases hzero : (f x).gitTagLen = 0
        · simp [hzero, ordOf]
        · rw [if_pos hzero, ordOf_memcmp (by omega) (by omega)]
      simp only [versionBack, compareLex, compareOn, hmem]
    · cases hord : compare (f x).gitTagLen (f y).gitTagLen with
      | lt => simp [versionBack, compareLex, compareOn, hord]
      | eq => exact absurd (Std.compare_eq_iff_eq.mp hord) hlen
      | gt => simp [versionBack, compareLex, compareOn, hord]
  simp only [torVersionCompare, ordOf_orElse, ordOf_cmpField_of_nonneg hx.major hy.major,
    ordOf_cmpField_of_nonneg hx.minor hy.minor, ordOf_cmpField_of_nonneg hx.micro hy.micro,
    hstatus, ordOf_cmpField_of_nonneg hx.patchlevel hy.patchlevel,
    ordOf_strcmp hx.statusTag hy.statusTag, ordOf_cmpField]
  simp only [compareLex, versionFront, compareOn, subOn, Ordering.then_assoc]
  rw [← hback, ordOf_cmpField]

end Chain

/-! ## The comparator of strings -/

section Strings

variable (tagSize : ℕ)

/-- Whether `tor_version_parse` refuses a string. -/
def refused (s : CStr) : Bool := decide ((torVersionParse tagSize s).1 ≠ 0)

/-- The comparisons before `svn_revision`: refused strings last and among themselves by
`strcmp`. -/
def stringFront : CStr → CStr → Ordering :=
  compareLex (compareOn (refused tagSize)) <|
  compareLex (compareOn fun s => if refused tagSize s then s.bytes else [])
    (versionFront fun s => (torVersionParse tagSize s).2)

instance : TransCmp (stringFront tagSize) := by
  unfold stringFront
  infer_instance

/-- The `svn_revision` of a string. -/
def revision (s : CStr) : ℤ := (torVersionParse tagSize s).2.svnRevision

/-- Both strings parse, and the versions agree up to the status tag. -/
def Tied (a b : CStr) : Prop :=
  (torVersionParse tagSize a).1 = 0 ∧ (torVersionParse tagSize b).1 = 0 ∧
    SameUpToTag (torVersionParse tagSize a).2 (torVersionParse tagSize b).2

instance (a b : CStr) : Decidable (Tied tagSize a b) := by
  unfold Tied
  infer_instance

variable {tagSize} {a b c : CStr}

lemma refused_eq_false {s : CStr} :
    refused tagSize s = false ↔ (torVersionParse tagSize s).1 = 0 := by
  simp [refused]

lemma refused_eq_true {s : CStr} :
    refused tagSize s = true ↔ (torVersionParse tagSize s).1 ≠ 0 := by
  simp [refused]

/-- Strings the front does not tell apart are tied, or they are one refused string. -/
lemma stringFront_eq_eq : stringFront tagSize a b = .eq ↔
    Tied tagSize a b ∨ (refused tagSize a = true ∧ a = b) := by
  simp only [stringFront, compareLex_eq_eq, compareOn, Std.compare_eq_iff_eq,
    versionFront_eq_eq, Tied]
  constructor
  · rintro ⟨hsame, htext, hfields⟩
    cases ha : refused tagSize a with
    | true =>
        rw [ha] at hsame
        rw [ha, ← hsame, if_pos rfl, if_pos rfl] at htext
        obtain ⟨bytes, hbytes⟩ := a
        obtain ⟨bytes', hbytes'⟩ := b
        exact .inr ⟨rfl, by simpa using htext⟩
    | false =>
        rw [ha] at hsame
        exact .inl ⟨refused_eq_false.mp ha, refused_eq_false.mp hsame.symm, hfields⟩
  · rintro (⟨ha, hb, hfields⟩ | ⟨-, rfl⟩)
    · rw [← refused_eq_false] at ha hb
      exact ⟨ha.trans hb.symm, by simp [ha, hb], hfields⟩
    · exact ⟨rfl, rfl, rfl, rfl, rfl, rfl, rfl, rfl⟩

/-- `compare_tor_version_str_ptr_` as a chain. -/
lemma ordOf_compareTorVersionStrPtr (a b : CStr) :
    ordOf (compareTorVersionStrPtr tagSize a b) =
      compareLex (stringFront tagSize)
        (subOn (revision tagSize) (versionBack fun s => (torVersionParse tagSize s).2)) a b := by
  cases ha : refused tagSize a with
  | false =>
      have hpa := refused_eq_false.mp ha
      cases hb : refused tagSize b with
      | false =>
          have hpb := refused_eq_false.mp hb
          have hversions := ordOf_torVersionCompare (f := fun s => (torVersionParse tagSize s).2)
            (torVersionParse_inBounds tagSize a) (torVersionParse_inBounds tagSize b)
          rw [compareTorVersionStrPtr, if_pos ⟨hpa, hpb⟩, hversions]
          simp only [compareLex, stringFront, compareOn, ha, hb, Std.compare_self,
            Ordering.eq_then, Bool.false_eq_true, if_false]
          rfl
      | true =>
          have hpb := refused_eq_true.mp hb
          rw [compareTorVersionStrPtr, if_neg (fun h => hpb h.2), if_pos ⟨hpa, hpb⟩]
          simp only [compareLex, stringFront, compareOn, ha, hb]
          rfl
  | true =>
      have hpa := refused_eq_true.mp ha
      cases hb : refused tagSize b with
      | false =>
          have hpb := refused_eq_false.mp hb
          rw [compareTorVersionStrPtr, if_neg (fun h => hpa h.1), if_neg (fun h => hpa h.1),
            if_pos ⟨hpa, hpb⟩]
          simp only [compareLex, stringFront, compareOn, ha, hb]
          rfl
      | true =>
          have hpb := refused_eq_true.mp hb
          rw [compareTorVersionStrPtr, if_neg (fun h => hpa h.1), if_neg (fun h => hpa h.1),
            if_neg (fun h => hpb h.2), ordOf_strcmp a.noNul b.noNul]
          cases hord : compare a.bytes b.bytes with
          | eq =>
              obtain ⟨bytes, hbytes⟩ := a
              obtain ⟨bytes', hbytes'⟩ := b
              obtain rfl : bytes = bytes' := Std.compare_eq_iff_eq.mp hord
              have hfront : stringFront tagSize ⟨bytes, hbytes⟩ ⟨bytes, hbytes⟩ = .eq :=
                Std.ReflCmp.compare_self
              have hback : versionBack (fun s => (torVersionParse tagSize s).2)
                  (⟨bytes, hbytes⟩ : CStr) ⟨bytes, hbytes⟩ = .eq := Std.ReflCmp.compare_self
              simp only [compareLex, subOn, hfront, hback, subOrd_eq_eq.mpr (ahead_self _),
                Ordering.eq_then]
          | lt =>
              simp only [compareLex, stringFront, compareOn, ha, hb, Std.compare_self,
                Ordering.eq_then, if_true, hord]
              rfl
          | gt =>
              simp only [compareLex, stringFront, compareOn, ha, hb, Std.compare_self,
                Ordering.eq_then, if_true, hord]
              rfl

/-- Where the comparator is a preorder, as orders. -/
lemma preorderAt_compareTorVersionStrPtr_iff :
    PreorderAt (fun a b => ordOf (compareTorVersionStrPtr tagSize a b)) a b c ↔
      (Tied tagSize a b → ahead (revision tagSize a) (revision tagSize b) ≠ 2 ^ 31) ∧
        (Tied tagSize a b → Tied tagSize b c →
          ¬ Overshoots (revision tagSize a) (revision tagSize b) (revision tagSize c)) := by
  have hchain : (fun a b => ordOf (compareTorVersionStrPtr tagSize a b)) =
      compareLex (stringFront tagSize) (subOn (revision tagSize)
        (versionBack fun s => (torVersionParse tagSize s).2)) := by
    funext x y
    exact ordOf_compareTorVersionStrPtr x y
  rw [hchain, preorderAt_subOn_iff]
  simp only [stringFront_eq_eq]
  constructor
  · rintro ⟨hturn, hover⟩
    exact ⟨fun hab => hturn (.inl hab), fun hab hbc => hover (.inl hab) (.inl hbc)⟩
  · -- a refused string has no distance from itself
    rintro ⟨hturn, hover⟩
    refine ⟨?_, ?_⟩
    · rintro (hab | ⟨-, rfl⟩)
      · exact hturn hab
      · rw [ahead_self]
        norm_num
    · rintro (hab | ⟨-, rfl⟩) (hbc | ⟨-, rfl⟩)
      · exact hover hab hbc
      · rintro ⟨-, -, hpos, -⟩
        rw [ahead_self] at hpos
        exact absurd hpos (lt_irrefl 0)
      all_goals
        rintro ⟨hpos, -⟩
        rw [ahead_self] at hpos
        exact absurd hpos (lt_irrefl 0)

/-- **Where the comparator is a preorder.**  The laws hold of three strings unless the first
two agree up to the status tag with revisions half a turn apart, or all three agree up to it
and their revisions overshoot. -/
theorem compareTorVersionStrPtr_laws_iff :
    ((compareTorVersionStrPtr tagSize a b).sign = -(compareTorVersionStrPtr tagSize b a).sign ∧
      (compareTorVersionStrPtr tagSize a b ≤ 0 → compareTorVersionStrPtr tagSize b c ≤ 0 →
        compareTorVersionStrPtr tagSize a c ≤ 0)) ↔
      (Tied tagSize a b → ahead (revision tagSize a) (revision tagSize b) ≠ 2 ^ 31) ∧
        (Tied tagSize a b → Tied tagSize b c →
          ¬ Overshoots (revision tagSize a) (revision tagSize b) (revision tagSize c)) := by
  rw [← preorderAt_compareTorVersionStrPtr_iff]
  constructor
  · rintro ⟨hsign, htrans⟩
    refine ⟨sign_eq_neg_iff.mp hsign, ?_⟩
    simpa only [isLE_ordOf] using htrans
  · rintro ⟨horiented, htrans⟩
    refine ⟨sign_eq_neg_iff.mpr horiented, ?_⟩
    simpa only [isLE_ordOf] using htrans

end Strings

/-- The strings of a version with revision `2 ^ 31`, which `int` wraps to the least number, and
with revision zero: each is reported to come before the other. -/
theorem compareTorVersionStrPtr_half_turn :
    ¬ (compareTorVersionStrPtr 32 ⟨ascii "0.1.2.3 (r2147483648)", by decide⟩
          ⟨ascii "0.1.2.3", by decide⟩).sign =
        -(compareTorVersionStrPtr 32 ⟨ascii "0.1.2.3", by decide⟩
          ⟨ascii "0.1.2.3 (r2147483648)", by decide⟩).sign := by
  decide

end TorOnion
