import TorOnion.Version.Order

/-!
# Version text is ordered by its numbers: `networking/lib/version.c`

A version such as `0.4.8.10`, or `0.1.2rc3`, is four numbers and a separator that says whether it
is a release.  `VersionSpelling` is such a text, with any number of leading zeros and with or
without `Tor ` in front.  The parser reads the four numbers when they fit an `int32_t`
(`torVersionParse_toCStr`), and the comparator orders what it has read by the numbers, with the
status between the third and the fourth (`torVersionCompare_spelling`).
-/

namespace TorOnion

/-! ## Spellings -/

/-- A number in decimal with leading zeros. -/
structure DecimalText where
  zeros : ℕ
  value : ℕ

def DecimalText.text (d : DecimalText) : List UInt8 :=
  List.replicate d.zeros 48 ++ numeral .dec d.value

/-- What stands between the third number and the fourth. -/
inductive VersionSeparator
  | dot
  | pre
  | rc
  deriving DecidableEq

def VersionSeparator.text : VersionSeparator → List UInt8
  | dot => ascii "."
  | pre => ascii "pre"
  | rc => ascii "rc"

def VersionSeparator.status : VersionSeparator → VerStatus
  | dot => .release
  | pre => .pre
  | rc => .rc

/-- The text of a version.  `torPrefix` is `Tor ` in any case, or absent. -/
structure VersionSpelling where
  torPrefix : List UInt8
  torPrefix_eq : torPrefix = [] ∨ torPrefix.map toLower = ascii "tor "
  major : DecimalText
  minor : DecimalText
  micro : DecimalText
  separator : VersionSeparator
  patchlevel : DecimalText

namespace VersionSpelling

variable (v : VersionSpelling)

/-- The text after the prefix. -/
def body : List UInt8 :=
  v.major.text ++ 46 :: (v.minor.text ++ 46 :: (v.micro.text ++
    (v.separator.text ++ v.patchlevel.text)))

/-- All four numbers are at most `INT32_MAX`. -/
def Fits : Prop :=
  v.major.value ≤ int32Max ∧ v.minor.value ≤ int32Max ∧ v.micro.value ≤ int32Max ∧
    v.patchlevel.value ≤ int32Max

instance : Decidable v.Fits := by
  unfold Fits
  infer_instance

/-- The version that is spelled. -/
def version : TorVersion := { TorVersion.zero with
  major := v.major.value
  minor := v.minor.value
  micro := v.micro.value
  status := v.separator.status
  patchlevel := v.patchlevel.value }

/-- The lexicographic order of the numbers, with the status before the last. -/
def order (w : VersionSpelling) : Ordering :=
  (compare v.major.value w.major.value).then <|
  (compare v.minor.value w.minor.value).then <|
  (compare v.micro.value w.micro.value).then <|
  (compare v.separator.status.toInt w.separator.status.toInt).then
  (compare v.patchlevel.value w.patchlevel.value)

end VersionSpelling

/-! ## Numbers -/

/-- Leading zeros do not change the value. -/
lemma digitsValue_zeros (k : ℕ) (ds : List UInt8) :
    digitsValue .dec (List.replicate k 48 ++ ds) = digitsValue .dec ds := by
  induction k with
  | zero => rfl
  | succ k ih =>
      rw [List.replicate_succ, List.cons_append, ← ih]
      rfl

lemma compare_natCast (a b : ℕ) : compare (a : ℤ) b = compare a b := by
  rcases lt_trichotomy a b with h | rfl | h
  · rw [Std.compare_eq_lt.mpr h, Std.compare_eq_lt.mpr (by exact_mod_cast h)]
  · rw [Std.compare_self, Std.compare_self]
  · rw [Std.compare_eq_gt.mpr h, Std.compare_eq_gt.mpr (by exact_mod_cast h)]

namespace DecimalText

variable (d : DecimalText)

lemma isDigit_of_mem {b : UInt8} (hb : b ∈ d.text) : isDigit b = true := by
  rcases List.mem_append.mp hb with h | h
  · rw [List.eq_of_mem_replicate h]
    rfl
  · exact isDigit_of_mem_numeral h

lemma text_ne_nil : d.text ≠ [] := by
  intro h
  exact numeral_ne_nil .dec d.value (List.append_eq_nil_iff.mp h).2

lemma digitsValue_text : digitsValue .dec d.text = d.value := by
  rw [text, digitsValue_zeros, numeral_value]

/-- The text starts with a digit, whatever follows it. -/
lemma isDigit_peek (rest : List UInt8) : isDigit (peek (d.text ++ rest)) = true := by
  obtain ⟨b, ds, h⟩ := List.exists_cons_of_ne_nil d.text_ne_nil
  have hb : b ∈ d.text := h ▸ List.mem_cons_self
  rw [h]
  exact d.isDigit_of_mem hb

/-- `NUMBER` reads the number in front of anything that is no digit. -/
lemma parseNumber_text {rest : List UInt8} (hrest : ∀ b ∈ rest.head?, isDigit b = false) :
    parseNumber (d.text ++ rest) =
      if d.value ≤ int32Max then some ((d.value : ℤ), rest) else none := by
  obtain ⟨htake, hdrop⟩ := span_run (fun _ => d.isDigit_of_mem) hrest
  have hmoved : rest ≠ d.text ++ rest := by
    intro h
    have := congrArg List.length h
    have := List.length_pos_iff.mpr d.text_ne_nil
    rw [List.length_append] at *
    omega
  simp only [parseNumber, torParseUint64, d.isDigit_peek, htake, hdrop, d.digitsValue_text,
    d.text_ne_nil, false_or, if_true]
  by_cases hfits : d.value ≤ int32Max
  · simp only [not_lt.mpr hfits, if_false, hmoved, if_pos hfits]
  · simp only [not_le.mp hfits, if_true, if_neg hfits]

end DecimalText

/-! ## The parser on a spelling -/

section Parser

variable {tagSize : ℕ} {out : TorVersion}

/-- At the end of the text there is no tag and no revision. -/
lemma parseStatusTag_nil (hout : out.statusTag = []) :
    parseStatusTag tagSize [] out = (0, out) := by
  have htag : strlcpy out.statusTag [] tagSize = [] := by
    rw [strlcpy, hout]
    split <;> simp
  have hout' : { out with statusTag := [] } = out := by rw [← hout]
  have hstart : strcmpstart [] (ascii "(r") = false ∧ strcmpstart [] (ascii "(git-") = false := by
    decide
  simp [parseStatusTag, findWhitespace, eatWhitespace, eatWhitespaceFrom, htag, hstart, hout']

/-- From the fourth number on. -/
lemma parsePatchlevel_text (tagSize : ℕ) (out : TorVersion) (d : DecimalText)
    (hout : out.statusTag = []) :
    parsePatchlevel tagSize d.text out =
      if d.value ≤ int32Max then (0, { out with patchlevel := d.value }) else (-1, out) := by
  have hnumber : parseNumber (d.text ++ []) = _ := d.parseNumber_text (by simp)
  rw [List.append_nil] at hnumber
  rw [parsePatchlevel, hnumber]
  by_cases hfits : d.value ≤ int32Max
  · rw [if_pos hfits, if_pos hfits]
    exact parseStatusTag_nil hout
  · rw [if_neg hfits, if_neg hfits]

/-- From the third number on. -/
lemma parseMicro_text (u p : DecimalText) (sep : VersionSeparator) (hout : out.statusTag = [])
    (hrelease : out.status = .release) :
    parseMicro tagSize (u.text ++ (sep.text ++ p.text)) out =
      if u.value ≤ int32Max then
        if p.value ≤ int32Max then
          (0, { out with micro := u.value, status := sep.status, patchlevel := p.value })
        else (-1, { out with micro := u.value, status := sep.status })
      else (-1, out) := by
  have hrest : ∀ b ∈ (sep.text ++ p.text).head?, isDigit b = false := by
    cases sep <;> simp [VersionSeparator.text, ascii] <;> decide
  rw [parseMicro, u.parseNumber_text hrest]
  by_cases hfits : u.value ≤ int32Max
  · rw [if_pos hfits, if_pos hfits]
    cases sep with
    | dot =>
        have hsep : VersionSeparator.dot.text = [46] := rfl
        have hpatch := parsePatchlevel_text tagSize { out with micro := u.value } p hout
        simpa [hsep, VersionSeparator.status, ← hrelease] using hpatch
    | pre =>
        have hsep : VersionSeparator.pre.text = [112, 114, 101] := rfl
        have hpatch := parsePatchlevel_text tagSize
          { out with micro := u.value, status := .pre } p hout
        have hpre : ascii "pre" = [112, 114, 101] := by decide
        have hstart : strcmpstart (112 :: 114 :: 101 :: p.text) (ascii "pre") = true := by
          simp [strcmpstart, hpre]
        simpa [hsep, VersionSeparator.status, hstart] using hpatch
    | rc =>
        have hsep : VersionSeparator.rc.text = [114, 99] := rfl
        have hpatch := parsePatchlevel_text tagSize
          { out with micro := u.value, status := .rc } p hout
        have hpre : ascii "pre" = [112, 114, 101] := by decide
        have hrc : ascii "rc" = [114, 99] := by decide
        have hstart : strcmpstart (114 :: 99 :: p.text) (ascii "pre") = false ∧
            strcmpstart (114 :: 99 :: p.text) (ascii "rc") = true := by
          simp [strcmpstart, hpre, hrc, List.isPrefixOf_cons_cons]
        simpa [hsep, VersionSeparator.status, hstart] using hpatch
  · rw [if_neg hfits, if_neg hfits]

end Parser

/-! ## Parsing and comparing spellings -/

namespace VersionSpelling

variable {tagSize : ℕ} (v : VersionSpelling)

/-- A number does not start with the `T` of the prefix. -/
lemma strcasecmpstart_body : strcasecmpstart v.body (ascii "Tor ") = false := by
  obtain ⟨b, ds, h⟩ := List.exists_cons_of_ne_nil v.major.text_ne_nil
  have hb : isDigit b = true := v.major.isDigit_of_mem (h ▸ List.mem_cons_self)
  have hlower : (ascii "Tor ").map toLower = 116 :: ascii "or " := by decide
  have hne : (116 : UInt8) ≠ toLower b := by
    simp only [isDigit, Bool.and_eq_true, decide_eq_true_eq] at hb
    rw [toLower, if_neg (by omega)]
    rintro rfl
    exact absurd hb.2 (by decide)
  simp [strcasecmpstart, body, h, hlower, hne, List.isPrefixOf_cons_cons]

lemma noNul : (0 : UInt8) ∉ v.torPrefix ++ v.body := by
  have hdecimal : ∀ d : DecimalText, (0 : UInt8) ∉ d.text := fun d h =>
    absurd (d.isDigit_of_mem h) (by decide)
  have hprefix : (0 : UInt8) ∉ v.torPrefix := by
    rcases v.torPrefix_eq with h | h
    · simp [h]
    · intro hmem
      have hlower : toLower 0 ∈ ascii "tor " := h ▸ List.mem_map_of_mem hmem
      exact absurd hlower (by decide)
  have hseparator : (0 : UInt8) ∉ v.separator.text := by
    cases v.separator <;> decide
  simp [body, hprefix, hseparator, hdecimal]

/-- The string of a spelling. -/
def toCStr : CStr := ⟨v.torPrefix ++ v.body, v.noNul⟩

/-- The spelling without a prefix. -/
def plain : VersionSpelling := { v with torPrefix := [], torPrefix_eq := .inl rfl }

/-- The prefix is skipped. -/
lemma skip_torPrefix :
    (if strcasecmpstart v.toCStr.bytes (ascii "Tor ") then v.toCStr.bytes.drop 4
      else v.toCStr.bytes) = v.body := by
  have hbytes : v.toCStr.bytes = v.torPrefix ++ v.body := rfl
  rcases v.torPrefix_eq with h | h
  · simp [hbytes, h, v.strcasecmpstart_body]
  · have hlength : v.torPrefix.length = 4 := by
      rw [← List.length_map, h]
      rfl
    have hstart : strcasecmpstart v.toCStr.bytes (ascii "Tor ") = true := by
      have hlower : (ascii "Tor ").map toLower = ascii "tor " := by decide
      simp [strcasecmpstart, hbytes, hlower, h]
    rw [if_pos hstart, hbytes, ← hlength, List.drop_left]

/-- The parser reads a spelling whose numbers fit, and refuses any other. -/
lemma torVersionParse_toCStr :
    (v.Fits → torVersionParse tagSize v.toCStr = (0, v.version)) ∧
      (¬ v.Fits → (torVersionParse tagSize v.toCStr).1 = -1) := by
  have hdot : ∀ rest : List UInt8, ∀ b ∈ (46 :: rest).head?, isDigit b = false := by
    intro rest b hb
    obtain rfl : 46 = b := by simpa using hb
    rfl
  have hparse : torVersionParse tagSize v.toCStr =
      if v.major.value ≤ int32Max then
        if v.minor.value ≤ int32Max then
          parseMicro tagSize (v.micro.text ++ (v.separator.text ++ v.patchlevel.text))
            { TorVersion.zero with major := v.major.value, minor := v.minor.value }
        else (-1, { TorVersion.zero with major := v.major.value })
      else (-1, TorVersion.zero) := by
    simp only [torVersionParse, v.skip_torPrefix]
    simp only [body, v.major.parseNumber_text (hdot _)]
    by_cases hmajor : v.major.value ≤ int32Max
    · simp only [if_pos hmajor, peek_cons, List.drop_succ_cons, List.drop_zero,
        v.minor.parseNumber_text (hdot _)]
      by_cases hminor : v.minor.value ≤ int32Max
      · simp [if_pos hminor]
      · simp [if_neg hminor]
    · simp only [if_neg hmajor]
  rw [hparse]
  constructor
  · rintro ⟨hmajor, hminor, hmicro, hpatch⟩
    rw [if_pos hmajor, if_pos hminor, parseMicro_text _ _ _ rfl rfl, if_pos hmicro, if_pos hpatch]
    rfl
  · intro hnot
    split_ifs with hmajor hminor
    · rw [parseMicro_text _ _ _ rfl rfl]
      split_ifs with hmicro hpatch
      · exact absurd ⟨hmajor, hminor, hmicro, hpatch⟩ hnot
      · rfl
      · rfl
    · rfl
    · rfl

/-- The comparator orders two versions by their numbers. -/
lemma ordOf_torVersionCompare_version {v w : VersionSpelling} (hv : v.Fits) (hw : w.Fits) :
    ordOf (torVersionCompare v.version w.version) = v.order w := by
  obtain ⟨hv₁, hv₂, hv₃, hv₄⟩ := hv
  obtain ⟨hw₁, hw₂, hw₃, hw₄⟩ := hw
  have hfield : ∀ {a b : ℕ}, a ≤ int32Max → b ≤ int32Max →
      ordOf (cmpField a b) = compare a b := by
    intro a b ha hb
    rw [ordOf_cmpField_of_nonneg ⟨by omega, by exact_mod_cast ha⟩ ⟨by omega, by exact_mod_cast hb⟩,
      compare_natCast]
  have hstatus : ordOf (cmpField v.separator.status.toInt w.separator.status.toInt) =
      compare v.separator.status.toInt w.separator.status.toInt := by
    cases v.separator <;> cases w.separator <;> decide
  -- neither version has a tag or a revision, so nothing follows the fourth number
  have hnumbers : torVersionCompare v.version w.version =
      (orElse (cmpField v.major.value w.major.value) <|
      orElse (cmpField v.minor.value w.minor.value) <|
      orElse (cmpField v.micro.value w.micro.value) <|
      orElse (cmpField v.separator.status.toInt w.separator.status.toInt) <|
      orElse (cmpField v.patchlevel.value w.patchlevel.value) 0) := rfl
  have hzero : ordOf 0 = .eq := rfl
  rw [hnumbers, ordOf_orElse, ordOf_orElse, ordOf_orElse, ordOf_orElse, ordOf_orElse, hzero,
    hfield hv₁ hw₁, hfield hv₂ hw₂, hfield hv₃ hw₃, hstatus, hfield hv₄ hw₄, Ordering.then_eq]
  rfl

/-- The prefix changes nothing. -/
lemma torVersionParse_plain :
    torVersionParse tagSize v.toCStr = torVersionParse tagSize v.plain.toCStr := by
  have hbody : v.plain.body = v.body := rfl
  simp only [torVersionParse, skip_torPrefix, hbody]

/-- **The text order of versions is the order of their numbers.**  A spelling is accepted exactly
when its numbers fit an `int32_t`, and is read as the version it spells, with or without the prefix;
two accepted spellings are compared as their numbers are. -/
theorem torVersionCompare_spelling (tagSize : ℕ) :
    (∀ v : VersionSpelling,
      ((torVersionParse tagSize v.toCStr).1 = 0 ↔ v.Fits) ∧
        (v.Fits → (torVersionParse tagSize v.toCStr).2 = v.version) ∧
        torVersionParse tagSize v.toCStr = torVersionParse tagSize v.plain.toCStr) ∧
      ∀ v w : VersionSpelling, v.Fits → w.Fits →
        ordOf (torVersionCompare (torVersionParse tagSize v.toCStr).2
          (torVersionParse tagSize w.toCStr).2) = v.order w := by
  refine ⟨fun v => ⟨⟨fun hzero => ?_, fun hfits => ?_⟩, fun hfits => ?_, ?_⟩,
    fun v w hv hw => ?_⟩
  · by_contra hnot
    rw [v.torVersionParse_toCStr.2 hnot] at hzero
    cases hzero
  · rw [v.torVersionParse_toCStr.1 hfits]
  · rw [v.torVersionParse_toCStr.1 hfits]
  · exact v.torVersionParse_plain
  · rw [v.torVersionParse_toCStr.1 hv, w.torVersionParse_toCStr.1 hw]
    exact ordOf_torVersionCompare_version hv hw

end VersionSpelling

end TorOnion
