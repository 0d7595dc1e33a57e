import TorOnion.Library.CString

/-!
# Version text: `networking/lib/version.c`, the parser

`tor_version_parse` as the source computes it.  The macros `NUMBER` and `DOT` are `parseNumber`
and a test, and what follows the label `status_tag` is `parseStatusTag`, which two branches
enter.  A branch that returns early answers `-1` with the fields it has filled so far: `out` is
written in place, and a caller can see it.

The arms for `pre` and `rc` are read as the blocks their layout shows.  The header with
`tor_version_t` is not part of the repository: the size of `status_tag` is the parameter
`tagSize`, and `ver_status_t` orders `VER_PRE`, `VER_RC`, `VER_RELEASE`.  Of the library
functions of Tor, `tor_parse_uint64`, `find_whitespace`, `eat_whitespace` and `base16_decode`
follow their documentation; white space includes comments, which `#` starts.
-/

namespace TorOnion

/-! ## Library functions of Tor -/

def int32Max : ℕ := 2147483647

/-- `DIGEST_LEN`, the length of a SHA-1 digest. -/
def digestLen : ℕ := 20

/-- `HEX_DIGEST_LEN`. -/
def hexDigestLen : ℕ := 40

/-- `tolower` in the C locale. -/
def toLower (b : UInt8) : UInt8 := if 65 ≤ b.toNat ∧ b.toNat ≤ 90 then b + 32 else b

/-- `!strcmpstart(s, prefix)`. -/
def strcmpstart (s start : List UInt8) : Bool := start.isPrefixOf s

/-- `!strcasecmpstart(s, prefix)`. -/
def strcasecmpstart (s start : List UInt8) : Bool :=
  (start.map toLower).isPrefixOf (s.map toLower)

/-- `tor_parse_uint64(p, 10, 0, max, &ok, &next)` on a digit: the maximal decimal run and
`next`, or nothing when the value exceeds `max`. -/
def torParseUint64 (p : List UInt8) (max : ℕ) : Option (ℕ × List UInt8) :=
  let ds := p.takeWhile isDigit
  if ds = [] ∨ digitsValue .dec ds > max then none
  else some (digitsValue .dec ds, p.dropWhile isDigit)

/-- The blanks of `find_whitespace` and `eat_whitespace`. -/
def isBlank (b : UInt8) : Bool := b == 32 || b == 9 || b == 10 || b == 13

/-- `find_whitespace`: the first blank or comment, or the end of the string. -/
def findWhitespace (p : List UInt8) : List UInt8 := p.dropWhile fun b => !(isBlank b || b == 35)

/-- `eat_whitespace` from inside a comment, which ends at a newline, or from outside. -/
def eatWhitespaceFrom : Bool → List UInt8 → List UInt8
  | _, [] => []
  | true, b :: p => eatWhitespaceFrom (b != 10) p
  | false, b :: p =>
      if isBlank b then eatWhitespaceFrom false p
      else if b = 35 then eatWhitespaceFrom true p
      else b :: p

/-- `eat_whitespace`. -/
def eatWhitespace (p : List UInt8) : List UInt8 := eatWhitespaceFrom false p

/-- `base16_decode` of a whole string, with a buffer that is large enough. -/
def base16Decode : List UInt8 → Option (List UInt8)
  | [] => some []
  | [_] => none
  | a :: b :: p =>
      if isXDigit a && isXDigit b then
        (base16Decode p).map (UInt8.ofNat (digitVal a * 16 + digitVal b) :: ·)
      else none

/-! ## The data -/

/-- The field `status`: a pre-release, a release candidate, or a release. -/
inductive VerStatus
  | pre
  | rc
  | release
  deriving DecidableEq

/-- `VER_PRE`, `VER_RC` and `VER_RELEASE` as integers. -/
def VerStatus.toInt : VerStatus → ℤ
  | pre => 0
  | rc => 1
  | release => 2

/-- `tor_version_t`.  `statusTag` is the string in its array, and `gitTag` the whole array. -/
structure TorVersion where
  major : ℤ
  minor : ℤ
  micro : ℤ
  status : VerStatus
  patchlevel : ℤ
  statusTag : List UInt8
  svnRevision : ℤ
  gitTagLen : ℤ
  gitTag : List UInt8
  deriving DecidableEq

/-- `memset(out, 0, sizeof(tor_version_t))` and `out->status = VER_RELEASE`. -/
def TorVersion.zero : TorVersion where
  major := 0
  minor := 0
  micro := 0
  status := .release
  patchlevel := 0
  statusTag := []
  svnRevision := 0
  gitTagLen := 0
  gitTag := List.replicate digestLen 0

/-! ## The parser -/

/-- `NUMBER`: the number and the rest of the string, unless the macro returns. -/
def parseNumber (cp : List UInt8) : Option (ℤ × List UInt8) :=
  if isDigit (peek cp) then
    match torParseUint64 cp int32Max with
    | none => none
    | some (n, eos) => if eos = cp then none else some (n, eos)
  else none

/-- The `(git-...)` block, with `cp` on its parenthesis. -/
def parseGitTag (cp : List UInt8) (out : TorVersion) : ℤ × TorVersion :=
  match cp.idxOf? 41 with
  | none => (-1, out)
  | some closeParen =>
      let hexlen := closeParen - 5
      if hexlen > hexDigestLen then (-1, out)
      else if hexlen = 0 ∨ hexlen % 2 = 1 then (-1, out)
      else
        match base16Decode ((cp.drop 5).take hexlen) with
        | none => (-1, out)
        | some digest =>
            (0, { out with gitTag := digest ++ out.gitTag.drop digest.length,
                           gitTagLen := ((hexlen / 2 : ℕ) : ℤ) })

/-- From the label `status_tag` on.  `(int) strtol` is a conversion modulo `2 ^ 32`. -/
def parseStatusTag (tagSize : ℕ) (cp : List UInt8) (out : TorVersion) : ℤ × TorVersion :=
  let cp := if peek cp = 45 ∨ peek cp = 46 then cp.drop 1 else cp
  let eos := findWhitespace cp
  let tagLen := cp.length - eos.length
  let out := { out with
    statusTag := if tagLen ≥ tagSize then strlcpy out.statusTag cp tagSize else cp.take tagLen }
  let cp := eatWhitespace eos
  if strcmpstart cp (ascii "(r") then
    (0, { out with svnRevision := ((strtol .dec (cp.drop 2)).1).bmod (2 ^ 32) })
  else if strcmpstart cp (ascii "(git-") then parseGitTag cp out
  else (0, out)

/-- `NUMBER(patchlevel)` and what follows. -/
def parsePatchlevel (tagSize : ℕ) (cp : List UInt8) (out : TorVersion) : ℤ × TorVersion :=
  match parseNumber cp with
  | none => (-1, out)
  | some (patchlevel, cp) => parseStatusTag tagSize cp { out with patchlevel := patchlevel }

/-- `NUMBER(micro)` and what follows. -/
def parseMicro (tagSize : ℕ) (cp : List UInt8) (out : TorVersion) : ℤ × TorVersion :=
  match parseNumber cp with
  | none => (-1, out)
  | some (micro, cp) =>
      let out := { out with micro := micro }
      if peek cp = 0 then (0, out)
      else if peek cp = 46 then parsePatchlevel tagSize (cp.drop 1) out
      else if peek cp = 45 then parseStatusTag tagSize cp out
      else if strcmpstart cp (ascii "pre") then
        parsePatchlevel tagSize (cp.drop 3) { out with status := .pre }
      else if strcmpstart cp (ascii "rc") then
        parsePatchlevel tagSize (cp.drop 2) { out with status := .rc }
      else (-1, out)

/-- `tor_version_parse`: the return value and `*out`. -/
def torVersionParse (tagSize : ℕ) (s : CStr) : ℤ × TorVersion :=
  let cp := if strcasecmpstart s.bytes (ascii "Tor ") then s.bytes.drop 4 else s.bytes
  let out := TorVersion.zero
  match parseNumber cp with
  | none => (-1, out)
  | some (major, cp) =>
      let out := { out with major := major }
      if peek cp ≠ 46 then (-1, out)
      else
        match parseNumber (cp.drop 1) with
        | none => (-1, out)
        | some (minor, cp) =>
            let out := { out with minor := minor }
            if peek cp = 0 then (0, out)
            else if peek cp = 45 then parseStatusTag tagSize cp out
            else if peek cp ≠ 46 then (-1, out)
            else parseMicro tagSize (cp.drop 1) out

end TorOnion
