import TorOnion.Version.Order

/-!
# Platform strings: `networking/lib/version.c`, `tor_version_as_new_as`

A relay names the software it runs in a platform string, such as `Tor 0.4.8.10 on Linux`.
`tor_version_parse_platform` cuts the version out of it, into a buffer of 128 bytes, and
`tor_version_as_new_as` compares that version with a cutoff.  A platform that is no Tor, or whose
version cannot be parsed, counts as new enough.

After `Tor ` a platform string holds a version and then anything at all, the name of the operating
system as a rule.  The version is one token, or two when the second is a revision, `(r...)` or
`(git-...)`.

`VersionText` says what the version of a text is without the pointers of the source: white space is
skipped (`Skips`), a token ends where white space begins (`Token`).  Every text has one answer
(`exists_versionText`), and `versionGate` is all that `tor_version_parse_platform` makes of it, so
nothing that stands behind the version can change the outcome.

Logging is left out: nothing reads it.  Nor is `tor_assert(platform)` here, since a string is
given.  The version that `tor_version_parse_platform` writes is `none` on the paths that return
before writing it.
-/

namespace TorOnion

/-! ## The source -/

/-- A buffer read as a string: the bytes before its first NUL. -/
def CStr.ofBuffer (buf : List UInt8) : CStr where
  bytes := buf.takeWhile (· != 0)
  noNul h := by simpa using List.mem_takeWhile_imp h

/-- `sizeof(tmp)` in `tor_version_parse_platform`. -/
def platformTmpSize : ℕ := 128

/-- `tor_version_parse_platform`: the return value and `*router_version`. -/
def torVersionParsePlatform (tagSize : ℕ) (platform : CStr) (strict : Bool) :
    ℤ × Option TorVersion :=
  if !strcmpstart platform.bytes (ascii "Tor ") then (0, none)
  else
    let start := eatWhitespace (platform.bytes.drop 3)
    if peek start = 0 then (-1, none)
    else
      let s := findWhitespace start
      let s2 := eatWhitespace s
      -- the revision stands after a blank and still belongs to the version
      let s := if strcmpstart s2 (ascii "(r") || strcmpstart s2 (ascii "(git-") then
          findWhitespace s2
        else s
      let len := start.length - s.length
      if len + 1 ≥ platformTmpSize then (-1, none)
      else
        let tmp := CStr.ofBuffer (strlcpy [] start (len + 1))
        let (status, routerVersion) := torVersionParse tagSize tmp
        if status < 0 then (-1, some routerVersion)
        else if strict && (routerVersion.major < 0 || routerVersion.minor < 0 ||
            routerVersion.micro < 0 || routerVersion.patchlevel < 0 ||
            routerVersion.svnRevision < 0) then (-1, some routerVersion)
        else (1, some routerVersion)

/-- `tor_version_as_new_as`. -/
def torVersionAsNewAs (tagSize : ℕ) (platform cutoff : CStr) : Bool :=
  let (status, cutoffVersion) := torVersionParse tagSize cutoff
  if status < 0 then false
  else
    match torVersionParsePlatform tagSize platform false with
    | (1, some routerVersion) => decide (torVersionCompare routerVersion cutoffVersion ≥ 0)
    -- no Tor, or a version that cannot be parsed
    | _ => true

/-! ## The version of a text -/

/-- A byte that ends a token: a blank, or the start of a comment. -/
def endsToken (b : UInt8) : Bool := isBlank b || b == 35

/-- `Skips text rest`: white space and comments stand before `rest`, and `rest` starts with neither.
A comment runs to the end of its line. -/
inductive Skips : List UInt8 → List UInt8 → Prop
  | nil : Skips [] []
  | stop {b : UInt8} (p : List UInt8) (h : endsToken b = false) : Skips (b :: p) (b :: p)
  | blank {b : UInt8} {p rest : List UInt8} (h : isBlank b = true) :
      Skips p rest → Skips (b :: p) rest
  | comment {c p rest : List UInt8} (h : (10 : UInt8) ∉ c) :
      Skips p rest → Skips (35 :: (c ++ 10 :: p)) rest
  | unfinished {c : List UInt8} (h : (10 : UInt8) ∉ c) : Skips (35 :: c) []

/-- A maximal run without white space, in front of `rest`. -/
structure Token (tok rest : List UInt8) : Prop where
  nonempty : tok ≠ []
  noBlank : ∀ b ∈ tok, endsToken b = false
  maximal : ∀ b ∈ rest.head?, endsToken b = true

/-- The token at the front begins with `(r` or `(git-`.  Neither holds a blank, so the text begins
with it when its first token does. -/
def StartsRevision (text : List UInt8) : Prop :=
  ascii "(r" <+: text ∨ ascii "(git-" <+: text

/-- The version of a text, if there is one. -/
inductive VersionText (text : List UInt8) : Option CStr → Prop
  | missing (h : Skips text []) : VersionText text none
  | plain {v : CStr} {rest next : List UInt8} (hstart : Skips text (v.bytes ++ rest))
      (htok : Token v.bytes rest) (hnext : Skips rest next) (hplain : ¬ StartsRevision next) :
      VersionText text (some v)
  | revised {v : CStr} {tok separator revision rest : List UInt8}
      (hstart : Skips text (tok ++ (separator ++ (revision ++ rest))))
      (htok : Token tok (separator ++ (revision ++ rest)))
      (hnext : Skips (separator ++ (revision ++ rest)) (revision ++ rest))
      (hrevised : StartsRevision (revision ++ rest)) (hrev : Token revision rest)
      (hv : v.bytes = tok ++ (separator ++ revision)) : VersionText text (some v)

/-- The version of a platform string that begins with `Tor `. -/
def PlatformVersion (platform : CStr) (v : Option CStr) : Prop :=
  ∃ text, platform.bytes = ascii "Tor " ++ text ∧ VersionText text v

/-- A version is refused when `strict` finds a negative number in it. -/
def refusedByStrict (strict : Bool) (version : TorVersion) : Prop :=
  strict = true ∧ (version.major < 0 ∨ version.minor < 0 ∨ version.micro < 0 ∨
    version.patchlevel < 0 ∨ version.svnRevision < 0)

instance (strict : Bool) (version : TorVersion) : Decidable (refusedByStrict strict version) := by
  unfold refusedByStrict
  infer_instance

/-- The return value and the version that is written, by the version of the text alone. -/
def versionGate (tagSize : ℕ) (strict : Bool) : Option CStr → ℤ × Option TorVersion
  | none => (-1, none)
  | some v =>
      if 127 ≤ v.bytes.length then (-1, none)
      else if (torVersionParse tagSize v).1 < 0 then (-1, some (torVersionParse tagSize v).2)
      else if refusedByStrict strict (torVersionParse tagSize v).2 then
        (-1, some (torVersionParse tagSize v).2)
      else (1, some (torVersionParse tagSize v).2)

/-! ## White space and tokens -/

/-- A comment goes on until a newline. -/
lemma eatWhitespaceFrom_append {c : List UInt8} (h : (10 : UInt8) ∉ c) (p : List UInt8) :
    eatWhitespaceFrom true (c ++ p) = eatWhitespaceFrom true p := by
  induction c with
  | nil => rfl
  | cons b c ih =>
      have hb : (b != 10) = true := by
        simp only [bne_iff_ne]
        rintro rfl
        exact h List.mem_cons_self
      rw [List.cons_append, eatWhitespaceFrom, hb]
      exact ih fun hc => h (List.mem_cons_of_mem _ hc)

namespace Skips

variable {text rest : List UInt8}

/-- `eat_whitespace` skips. -/
lemma eatWhitespace_eq (h : Skips text rest) : eatWhitespace text = rest := by
  have hblank : isBlank 35 = false := by decide
  induction h with
  | nil => rfl
  | stop p h =>
      simp only [endsToken, Bool.or_eq_false_iff, beq_eq_false_iff_ne] at h
      simp [eatWhitespace, eatWhitespaceFrom, h]
  | blank h _ ih => simpa [eatWhitespace, eatWhitespaceFrom, h] using ih
  | comment h _ ih =>
      simpa [eatWhitespace, eatWhitespaceFrom, hblank, eatWhitespaceFrom_append h] using ih
  | unfinished h =>
      simpa [eatWhitespace, eatWhitespaceFrom, hblank] using eatWhitespaceFrom_append h []

lemma suffix (h : Skips text rest) : rest <:+ text := by
  induction h with
  | nil => exact List.suffix_rfl
  | stop p _ => exact List.suffix_rfl
  | blank _ _ ih => exact ih.trans (List.suffix_cons _ _)
  | @comment c p _ _ _ ih =>
      refine ih.trans ⟨35 :: (c ++ [10]), ?_⟩
      simp
  | unfinished => exact List.nil_suffix

/-- What is left starts with a token, if there is anything left. -/
lemma head_rest (h : Skips text rest) : ∀ b ∈ rest.head?, endsToken b = false := by
  induction h with
  | nil => simp
  | stop p h => simpa using h
  | blank _ _ ih => exact ih
  | comment _ _ ih => exact ih
  | unfinished => simp

end Skips

/-- Every text can be skipped. -/
lemma exists_skips (text : List UInt8) : ∃ rest, Skips text rest := by
  match text with
  | [] => exact ⟨[], .nil⟩
  | b :: p =>
      by_cases hblank : isBlank b = true
      · obtain ⟨rest, h⟩ := exists_skips p
        exact ⟨rest, .blank hblank h⟩
      · by_cases hcomment : b = 35
        · subst hcomment
          by_cases hnewline : (10 : UInt8) ∈ p
          · obtain ⟨c, q, hp, hc⟩ := List.eq_append_cons_of_mem hnewline
            obtain ⟨rest, h⟩ := exists_skips q
            exact ⟨rest, hp ▸ .comment hc h⟩
          · exact ⟨[], .unfinished hnewline⟩
        · exact ⟨b :: p, .stop p (by simp [endsToken, hblank, hcomment])⟩
termination_by text.length
decreasing_by
  · exact Nat.lt_succ_self _
  · simp only [hp, List.length_cons, List.length_append]
    omega

/-- `find_whitespace` on a token finds its end. -/
lemma Token.findWhitespace_eq {tok rest : List UInt8} (h : Token tok rest) :
    findWhitespace (tok ++ rest) = rest := by
  have hinside : ∀ b ∈ tok, (!endsToken b) = true := fun b hb => by rw [h.noBlank b hb]; rfl
  have hend : ∀ b ∈ rest.head?, (!endsToken b) = false := fun b hb => by rw [h.maximal b hb]; rfl
  exact (span_run hinside hend).2

/-- A text that does not start with white space starts with a token. -/
lemma exists_token {text : List UInt8} (hne : text ≠ [])
    (hstart : ∀ b ∈ text.head?, endsToken b = false) :
    ∃ tok rest, text = tok ++ rest ∧ Token tok rest := by
  refine ⟨text.takeWhile fun b => !endsToken b, text.dropWhile fun b => !endsToken b,
    List.takeWhile_append_dropWhile.symm, ?_, ?_, ?_⟩
  · obtain ⟨b, p, rfl⟩ := List.exists_cons_of_ne_nil hne
    have hb : endsToken b = false := hstart b rfl
    simp [hb]
  · intro b hb
    simpa using List.mem_takeWhile_imp hb
  · intro b hb
    have hnot := List.head?_dropWhile_not (fun b => !endsToken b) text
    rw [Option.mem_def.mp hb] at hnot
    simpa using hnot

/-! ## The version of a platform string -/

/-- Every text has a version, or none. -/
lemma exists_versionText {text : List UInt8} (hnul : (0 : UInt8) ∉ text) :
    ∃ v, VersionText text v := by
  obtain ⟨start, hstart⟩ := exists_skips text
  by_cases hne : start = []
  · subst hne
    exact ⟨none, .missing hstart⟩
  · obtain ⟨tok, rest, rfl, htok⟩ := exists_token hne hstart.head_rest
    obtain ⟨next, hnext⟩ := exists_skips rest
    have hnul' : (0 : UInt8) ∉ tok ++ rest := fun h => hnul (hstart.suffix.mem h)
    by_cases hrevised : StartsRevision next
    · obtain ⟨separator, rfl⟩ := hnext.suffix
      have hnext' : next ≠ [] := by
        rintro rfl
        rcases hrevised with h | h <;> exact absurd (List.prefix_nil.mp h) (by decide)
      obtain ⟨revision, rest, rfl, hrev⟩ := exists_token hnext' hnext.head_rest
      have hv : (0 : UInt8) ∉ tok ++ (separator ++ revision) := by
        simp only [List.mem_append, not_or] at hnul' ⊢
        exact ⟨hnul'.1, hnul'.2.1, hnul'.2.2.1⟩
      exact ⟨some ⟨_, hv⟩, .revised hstart htok hnext hrevised hrev rfl⟩
    · exact ⟨some ⟨tok, fun h => hnul' (List.mem_append_left _ h)⟩,
        .plain hstart htok hnext hrevised⟩

lemma CStr.ofBuffer_bytes (v : CStr) : CStr.ofBuffer v.bytes = v := by
  have hrun : v.bytes.takeWhile (· != 0) = v.bytes := by
    rw [List.takeWhile_eq_self_iff]
    intro b hb
    simp only [bne_iff_ne]
    rintro rfl
    exact v.noNul hb
  obtain ⟨bytes, noNul⟩ := v
  simp only [CStr.ofBuffer] at hrun ⊢
  simp only [hrun]

/-- A version that is there is seen. -/
lemma peek_version_ne {v : CStr} (rest : List UInt8) (hne : v.bytes ≠ []) :
    peek (v.bytes ++ rest) ≠ 0 := by
  obtain ⟨b, p, h⟩ := List.exists_cons_of_ne_nil hne
  have hmem : b ∈ v.bytes := h ▸ List.mem_cons_self
  rw [h, List.cons_append, peek_cons]
  rintro rfl
  exact v.noNul hmem

/-- What is copied into the buffer is the version, if it fits. -/
lemma strlcpy_version (v : CStr) (rest : List UInt8) :
    CStr.ofBuffer (strlcpy [] (v.bytes ++ rest)
      ((v.bytes ++ rest).length - rest.length + 1)) = v := by
  have hlength : (v.bytes ++ rest).length - rest.length + 1 = v.bytes.length + 1 := by
    rw [List.length_append]
    omega
  rw [hlength, strlcpy, if_neg (Nat.succ_ne_zero _), Nat.add_sub_cancel, List.take_left,
    CStr.ofBuffer_bytes]

/-- The end of `tor_version_parse_platform`, from the length of the version on. -/
lemma parsePlatform_copied {tagSize : ℕ} {strict : Bool} (v : CStr) (rest : List UInt8) :
    (if (v.bytes ++ rest).length - rest.length + 1 ≥ platformTmpSize then
        ((-1 : ℤ), (none : Option TorVersion))
      else
        let (status, routerVersion) := torVersionParse tagSize (CStr.ofBuffer
          (strlcpy [] (v.bytes ++ rest) ((v.bytes ++ rest).length - rest.length + 1)))
        if status < 0 then (-1, some routerVersion)
        else if strict && (routerVersion.major < 0 || routerVersion.minor < 0 ||
            routerVersion.micro < 0 || routerVersion.patchlevel < 0 ||
            routerVersion.svnRevision < 0) then (-1, some routerVersion)
        else (1, some routerVersion)) = versionGate tagSize strict (some v) := by
  have hsize : (v.bytes ++ rest).length - rest.length + 1 ≥ platformTmpSize ↔
      127 ≤ v.bytes.length := by
    have : platformTmpSize = 128 := rfl
    rw [List.length_append]
    omega
  simp only [strlcpy_version, versionGate, hsize, refusedByStrict]
  simp only [Bool.and_eq_true, Bool.or_eq_true, decide_eq_true_eq, or_assoc]

/-- `tor_version_parse_platform` sees the version only. -/
lemma PlatformVersion.parsePlatform_eq {tagSize : ℕ} {platform : CStr} {v : Option CStr}
    (h : PlatformVersion platform v) (strict : Bool) :
    torVersionParsePlatform tagSize platform strict = versionGate tagSize strict v := by
  obtain ⟨text, hbytes, hversion⟩ := h
  have htor : strcmpstart platform.bytes (ascii "Tor ") = true := by
    rw [hbytes, strcmpstart, List.isPrefixOf_iff_prefix]
    exact List.prefix_append _ _
  have hskip : eatWhitespace (platform.bytes.drop 3) = eatWhitespace text := by
    rw [hbytes]
    rfl
  have hrevision : ∀ p, (strcmpstart p (ascii "(r") || strcmpstart p (ascii "(git-")) = true ↔
      StartsRevision p := by
    intro p
    simp only [strcmpstart, Bool.or_eq_true, List.isPrefixOf_iff_prefix, StartsRevision]
  simp only [torVersionParsePlatform, htor, hskip, Bool.not_true, Bool.false_eq_true, if_false]
  cases hversion with
  | missing h =>
      rw [h.eatWhitespace_eq]
      rfl
  | @plain v rest next hstart htok hnext hplain =>
      rw [hstart.eatWhitespace_eq, htok.findWhitespace_eq, hnext.eatWhitespace_eq,
        if_neg (peek_version_ne rest htok.nonempty), if_neg (mt (hrevision next).mp hplain)]
      exact parsePlatform_copied v rest
  | @revised v tok separator revision rest hstart htok hnext hrevised hrev hv =>
      have hbytes : tok ++ (separator ++ (revision ++ rest)) = v.bytes ++ rest := by
        simp [hv]
      have hne : v.bytes ≠ [] := by
        rw [hv]
        exact List.append_ne_nil_of_left_ne_nil htok.nonempty _
      rw [hstart.eatWhitespace_eq, htok.findWhitespace_eq, hnext.eatWhitespace_eq,
        if_pos ((hrevision _).mpr hrevised), hrev.findWhitespace_eq, hbytes,
        if_neg (peek_version_ne rest hne)]
      exact parsePlatform_copied v rest

/-- **The tail of a platform string changes nothing.**  Every platform string of a Tor has one
version or none, the answer and the version that is written are those of that version, and two
platform strings with the same version compare alike with every cutoff. -/
theorem torVersionParsePlatform_tail (tagSize : ℕ) :
    (∀ platform : CStr, ascii "Tor " <+: platform.bytes → ∃ v, PlatformVersion platform v) ∧
      (∀ platform v, PlatformVersion platform v → ∀ strict,
        torVersionParsePlatform tagSize platform strict = versionGate tagSize strict v) ∧
      ∀ platform platform' v, PlatformVersion platform v → PlatformVersion platform' v →
        ∀ cutoff, torVersionAsNewAs tagSize platform cutoff =
          torVersionAsNewAs tagSize platform' cutoff := by
  refine ⟨?_, fun platform v h strict => h.parsePlatform_eq strict, ?_⟩
  · rintro platform ⟨text, htext⟩
    have hnul : (0 : UInt8) ∉ text := fun h =>
      platform.noNul (htext ▸ List.mem_append_right _ h)
    obtain ⟨v, hv⟩ := exists_versionText hnul
    exact ⟨v, text, htext.symm, hv⟩
  · intro platform platform' v h h' cutoff
    simp only [torVersionAsNewAs, h.parsePlatform_eq, h'.parsePlatform_eq]

end TorOnion
