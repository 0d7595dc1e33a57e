import TorOnion.Library.CString

/-!
# Address text: `networking/add.c`

`tor_inet_aton`, `tor_inet_ntoa`, `tor_inet_ntop` and `tor_inet_pton`, as the source computes
them.

A `char *` is the suffix it points at (`Library/CString.lean`).  The memory at the `void *` of
`tor_inet_ntop` and `tor_inet_pton` is `AddrBuf`, the sixteen bytes of a `struct in6_addr`, of
which an `in_addr` is the first four.  An index that the source starts at `-1` is an
`Option ℕ`, with `none` for `-1`.  A failing `tor_assert` ends a run of the parser as
`PtonExit.assertFailed`, so that "no assertion can fail" is a statement about the model.

Of the library functions of Tor that the file calls, `tor_sscanf`, `tor_snprintf` and
`smartlist_split_string` follow their documentation.
-/

namespace TorOnion

/-! ## Library functions of Tor -/

/-- The directives of the format strings in `add.c`: `%<width>u`, a literal byte and `%c`. -/
inductive ScanDirective
  | u (width : ℕ)
  | lit (b : UInt8)
  | c
  deriving DecidableEq

/-- `tor_sscanf`: the values stored before the first directive that does not match.  The
number the C function returns is the length of this list. -/
def torSscanf : List ScanDirective → List UInt8 → List ℕ
  | [], _ => []
  | .u width :: fs, p =>
      let ds := (p.take width).takeWhile isDigit
      if ds = [] then [] else digitsValue .dec ds :: torSscanf fs (p.drop ds.length)
  | .lit b :: fs, p => if p.head? = some b then torSscanf fs p.tail else []
  | .c :: _, [] => []
  | .c :: fs, b :: p => b.toNat :: torSscanf fs p

/-- `tor_snprintf` of a text into a buffer of `size` bytes: the return value, negative when
the text was cut, and the string left in the buffer. -/
def torSnprintf (buf : List UInt8) (size : ℕ) (text : List UInt8) : ℤ × List UInt8 :=
  if size = 0 then (-1, buf)
  else if size ≤ text.length then (-1, text.take (size - 1))
  else (text.length, text)

/-! ## The data -/

/-- The constants `AF_INET` and `AF_INET6`, and every other address family. -/
inductive AddressFamily
  | inet
  | inet6
  | other
  deriving DecidableEq

/-- The sixteen bytes a `void *` of these functions points at. -/
abbrev AddrBuf := Fin 16 → UInt8

/-- `htonl` of an address: its four bytes in memory, most significant first. -/
def htonl (a : UInt32) : List UInt8 :=
  [(a >>> 24).toUInt8, (a >>> 16).toUInt8, (a >>> 8).toUInt8, a.toUInt8]

/-- `*addr = a`, where `addr` points at the start of the buffer. -/
def storeInAddr (buf : AddrBuf) (a : UInt32) : AddrBuf :=
  fun k => if k.val < 4 then (htonl a).getD k 0 else buf k

def dot : UInt8 := 46
def colon : UInt8 := 58

/-- `"%3u.%3u.%3u.%3u%c"`. -/
def dottedQuadFormat : List ScanDirective :=
  [.u 3, .lit dot, .u 3, .lit dot, .u 3, .lit dot, .u 3, .c]

/-- The text `"%d.%d.%d.%d"` of four bytes. -/
def dottedQuadText (a b c d : UInt8) : List UInt8 :=
  numeral .dec a.toNat ++ [dot] ++ numeral .dec b.toNat ++ [dot] ++ numeral .dec c.toNat ++ [dot]
    ++ numeral .dec d.toNat

/-! ## IPv4 -/

/-- `tor_inet_aton`: the return value and the memory at `addr` afterwards.  Only a call that
returns 1 writes it. -/
def torInetAton (str : CStr) (addr : AddrBuf) : ℤ × AddrBuf :=
  match torSscanf dottedQuadFormat str.bytes with
  | [a, b, c, d] =>
      let octets := str.bytes.splitOn dot
      let isOctal := octets.any fun octet => 1 < octet.length && peek octet == 48
      if isOctal then (0, addr)
      else if a > 255 then (0, addr)
      else if b > 255 then (0, addr)
      else if c > 255 then (0, addr)
      else if d > 255 then (0, addr)
      else
        (1, storeInAddr addr (UInt32.ofNat a <<< 24 ||| UInt32.ofNat b <<< 16 |||
          UInt32.ofNat c <<< 8 ||| UInt32.ofNat d))
  | _ => (0, addr)

/-- `tor_inet_ntoa`: the return value of `tor_snprintf` and the string in `buf`.  The four
bytes are those of `ntohl(in->s_addr)`, most significant first. -/
def torInetNtoa (addr : AddrBuf) (buf : List UInt8) (bufLen : ℕ) : ℤ × List UInt8 :=
  torSnprintf buf bufLen (dottedQuadText (addr 0) (addr 1) (addr 2) (addr 3))

/-! ## Printing an IPv6 address -/

/-- `words[i]`: two bytes of the address, most significant first. -/
def addrWord (addr : AddrBuf) (i : Fin 8) : UInt16 :=
  ((addr ⟨2 * i, by omega⟩).toUInt16 <<< 8) + (addr ⟨2 * i + 1, by omega⟩).toUInt16

/-- The eight words of an address. -/
def addrWords (addr : AddrBuf) : List UInt16 := List.ofFn (addrWord addr)

/-- The number of zero words at the front of the list. -/
def zeroRun (words : List UInt16) : ℕ := (words.takeWhile (· == 0)).length

/-- The loop that looks for the longest gap, from word `i` on: `longestGapLen` and
`longestGapPos`.  A later run replaces the best one only when it is strictly longer. -/
def findGap (words : List UInt16) (i : ℕ) (longestGapLen : ℕ) (longestGapPos : Option ℕ) :
    ℕ × Option ℕ :=
  if h : i < words.length then
    if words[i] = 0 then
      let curGapLen := 1 + zeroRun (words.drop (i + 1))
      if curGapLen > longestGapLen then findGap words (i + curGapLen) curGapLen (some i)
      else findGap words (i + curGapLen) longestGapLen longestGapPos
    else findGap words (i + 1) longestGapLen longestGapPos
  else (longestGapLen, longestGapPos)
termination_by words.length - i

/-- `longestGapPos` after the loop; a run of one zero is not compressed. -/
def gapPosition (words : List UInt16) : Option ℕ :=
  let found := findGap words 0 0 none
  if found.1 ≤ 1 then none else found.2

/-- The size of the local buffer of `tor_inet_ntop`. -/
def ntopBufSize : ℕ := 64

/-- The printing loop from word `i` on, `buf` holding the text written so far.  The gap is
left by the inner `while`; `--i` and the loop's `++i` cancel. -/
def printWords (words : List UInt16) (gapPos : Option ℕ) (i : ℕ) (buf : List UInt8) :
    List UInt8 :=
  if h : i < words.length then
    if words[i] = 0 ∧ gapPos = some i then
      let buf := if i = 0 then buf ++ [colon] else buf
      printWords words gapPos (i + (1 + zeroRun (words.drop (i + 1)))) (buf ++ [colon])
    else
      let text := (torSnprintf [] (ntopBufSize - buf.length) (numeral .hex words[i].toNat)).2
      let buf := buf ++ text
      printWords words gapPos (i + 1) (if i ≠ 7 then buf ++ [colon] else buf)
  else buf
termination_by words.length - i

/-- The two forms that end in a dotted quad: five zero words, and then a zero word with two
non-zero ones, or `ffff`. -/
def isEmbeddedIpv4 (words : List UInt16) : Bool :=
  words.getD 0 0 == 0 && words.getD 1 0 == 0 && words.getD 2 0 == 0 && words.getD 3 0 == 0 &&
    words.getD 4 0 == 0 &&
    ((words.getD 5 0 == 0 && words.getD 6 0 != 0 && words.getD 7 0 != 0) ||
      words.getD 5 0 == 0xffff)

/-- The string in the local buffer of `tor_inet_ntop` when it returns from the `AF_INET6`
branch. -/
def ntopIpv6Text (addr : AddrBuf) : List UInt8 :=
  let words := addrWords addr
  let quad := dottedQuadText (addr 12) (addr 13) (addr 14) (addr 15)
  if isEmbeddedIpv4 words then
    if words.getD 5 0 = 0 then (torSnprintf [] ntopBufSize ([colon, colon] ++ quad)).2
    else
      (torSnprintf [] ntopBufSize
        ([colon, colon] ++ numeral .hex (words.getD 5 0).toNat ++ [colon] ++ quad)).2
  else printWords words (gapPosition words) 0 []

/-- `tor_inet_ntop`: whether it returns `dst` rather than `NULL`, and the string in `dst`. -/
def torInetNtop (af : AddressFamily) (src : AddrBuf) (dst : List UInt8) (len : ℕ) :
    Bool × List UInt8 :=
  match af with
  | .inet =>
      let written := torInetNtoa src dst len
      (decide (0 ≤ written.1), written.2)
  | .inet6 =>
      let buf := ntopIpv6Text src
      if buf.length + 1 > len then (false, dst) else (true, strlcpy dst buf len)
  | .other => (false, dst)

/-! ## Parsing an IPv6 address -/

/-- How a run of the parser ends before the words are complete: `return 0`, or a `tor_assert`
that failed. -/
inductive PtonExit
  | returnZero
  | assertFailed
  deriving DecidableEq

/-- The local variables of the parsing loop. -/
structure PtonState where
  src : List UInt8
  i : ℕ
  gapPos : Option ℕ
  setWords : ℕ
  words : List UInt16

/-- `for (eow = dot-1; eow > src && TOR_ISDIGIT(*eow); --eow)`, on offsets into the string. -/
def backToNonDigit (s : List UInt8) : ℕ → ℕ
  | 0 => 0
  | eow + 1 => if isDigit (peek (s.drop (eow + 1))) then backToNonDigit s eow else eow + 1

/-- The words `words[6]` and `words[7]` of a dotted tail and the position `eow` it starts at,
for a string with a dot at offset `dotPos > 0`. -/
def dottedTail (s : List UInt8) (dotPos : ℕ) : Option (ℕ × UInt16 × UInt16) :=
  let eow := backToNonDigit s (dotPos - 1)
  if peek (s.drop eow) ≠ colon then none
  else
    match torSscanf dottedQuadFormat (s.drop (eow + 1)) with
    | [byte1, byte2, byte3, byte4] =>
        if byte1 > 255 ∨ byte2 > 255 ∨ byte3 > 255 ∨ byte4 > 255 then none
        else
          some (eow + 1, UInt16.ofNat byte1 <<< 8 ||| UInt16.ofNat byte2,
            UInt16.ofNat byte3 <<< 8 ||| UInt16.ofNat byte4)
    | _ => none

/-- `len = *next == '\0' ? eow - src : next - src`. -/
def groupLen (eow src next : List UInt8) : ℕ :=
  if peek next = 0 then src.length - eow.length else src.length - next.length

/-- The branch of the parsing loop for a hexadecimal digit at `src`: one group of words.  `eow`
is the end of the words, the end of the string or the start of the dotted tail. -/
def ptonGroup (eow : List UInt8) (st : PtonState) : Except PtonExit PtonState :=
  let r := (strtol .hex st.src).1
  let next := (strtol .hex st.src).2
  if next = st.src then .error .returnZero
  else
    let len := groupLen eow st.src next
    if len > 4 then .error .returnZero
    -- `0x` is not valid
    else if len > 1 ∧ isXDigit (peek (st.src.drop 1)) = false then .error .returnZero
    else if ¬ 0 ≤ r then .error .assertFailed
    else if ¬ r < 65536 then .error .assertFailed
    else if peek next ≠ colon ∧ next ≠ eow then .error .returnZero
    else
      .ok { src := next.drop 1, i := st.i + 1, gapPos := st.gapPos,
            setWords := st.setWords + 1, words := st.words.set st.i (UInt16.ofInt r) }

/-- One pass through the parsing loop. -/
def ptonStep (eow : List UInt8) (st : PtonState) : Except PtonExit PtonState :=
  if st.i > 7 then .error .returnZero
  else if isXDigit (peek st.src) then ptonGroup eow st
  else if peek st.src = colon ∧ st.i > 0 ∧ st.gapPos = none then
    .ok { st with gapPos := some st.i, src := st.src.drop 1 }
  else if peek st.src = colon ∧ st.i = 0 ∧ (st.src.drop 1).length > eow.length ∧
      peek (st.src.drop 1) = colon ∧ st.gapPos = none then
    .ok { st with gapPos := some st.i, src := st.src.drop 2 }
  else .error .returnZero

lemma ptonGroup_length_lt {eow : List UInt8} {st st' : PtonState}
    (h : ptonGroup eow st = .ok st') : st'.src.length < st.src.length := by
  have hend := strtol_end_length_le .hex st.src
  simp only [ptonGroup] at h
  split_ifs at h with hmoved
  obtain rfl := Except.ok.inj h
  by_cases hnil : (strtol .hex st.src).2 = []
  · have : st.src ≠ [] := fun hsrc => hmoved (by rw [hnil, hsrc])
    simpa [hnil] using List.length_pos_iff.mpr this
  · have := List.length_pos_iff.mpr hnil
    simp only [List.length_drop]
    omega

/-- Every pass moves `src` forward. -/
lemma ptonStep_length_lt {eow : List UInt8} {st st' : PtonState}
    (h : ptonStep eow st = .ok st') (hne : st.src ≠ []) : st'.src.length < st.src.length := by
  have hpos : 0 < st.src.length := List.length_pos_iff.mpr hne
  unfold ptonStep at h
  split_ifs at h
  · exact ptonGroup_length_lt h
  all_goals
    obtain rfl := Except.ok.inj h
    simp only [List.length_drop]
    omega

/-- `while (src < eow)`. -/
def ptonLoop (eow : List UInt8) (st : PtonState) : Except PtonExit PtonState :=
  if _hsrc : eow.length < st.src.length then
    match _hstep : ptonStep eow st with
    | .error e => .error e
    | .ok st' => ptonLoop eow st'
  else .ok st
termination_by st.src.length
decreasing_by
  exact ptonStep_length_lt _hstep (List.length_pos_iff.mp (by omega))

/-- `memmove(&words[dest], &words[src], sizeof(uint16_t)*n)`. -/
def memmoveWords (words : List UInt16) (dest src n : ℕ) : List UInt16 :=
  words.take dest ++ (words.drop src).take n ++ words.drop (dest + n)

/-- `memset(&words[dest], 0, sizeof(uint16_t)*n)`. -/
def zeroWords (words : List UInt16) (dest n : ℕ) : List UInt16 :=
  words.take dest ++ List.replicate n 0 ++ words.drop (dest + n)

/-- The checks after the loop and the opening of the gap: the eight words.  `nToMove` is
computed in `ℤ` because its sign is asserted. -/
def ptonFinish (hasDot : Bool) (st : PtonState) : Except PtonExit (List UInt16) :=
  if st.setWords > 8 ∨ (st.setWords = 8 ∧ st.gapPos ≠ none) ∨
      (st.setWords < 8 ∧ st.gapPos = none) then .error .returnZero
  else
    match st.gapPos with
    | none => .ok st.words
    | some gapPos =>
        let nToMove : ℤ := st.setWords - (if hasDot then 2 else 0) - gapPos
        let gapLen := 8 - st.setWords
        if ¬ 0 ≤ nToMove then .error .assertFailed
        else
          .ok (zeroWords (memmoveWords st.words (gapPos + gapLen) gapPos nToMove.toNat) gapPos
            gapLen)

/-- The bytes `out->s6_addr` receives from the words. -/
def wordsToAddr (words : List UInt16) : AddrBuf := fun k =>
  if k.val % 2 = 0 then (words.getD (k / 2) 0 >>> 8).toUInt8 else (words.getD (k / 2) 0).toUInt8

/-- `len > 2 && src[len - 1] == ':' && src[len - 2] != ':'`. -/
def endsInSingleColon (s : List UInt8) : Bool :=
  decide (s.length > 2) && peek (s.drop (s.length - 1)) == colon &&
    peek (s.drop (s.length - 2)) != colon

/-- `words` after `memset(words, 0xf8, sizeof(words))`. -/
def filledWords : List UInt16 := List.replicate 8 0xf8f8

/-- The `AF_INET6` branch of `tor_inet_pton`, up to the words it stores. -/
def ptonIpv6Words (s : List UInt8) : Except PtonExit (List UInt16) :=
  if endsInSingleColon s then .error .returnZero
  else
    match s.idxOf? dot with
    | some 0 => .error .returnZero
    | none => do
        let st ← ptonLoop [] { src := s, i := 0, gapPos := none, setWords := 0,
                               words := filledWords }
        ptonFinish false st
    | some (dotPos + 1) =>
        match dottedTail s (dotPos + 1) with
        | none => .error .returnZero
        | some (eow, word6, word7) => do
            let st ← ptonLoop (s.drop eow)
              { src := s, i := 0, gapPos := none, setWords := 2,
                words := (filledWords.set 6 word6).set 7 word7 }
            ptonFinish true st

/-- `tor_inet_pton`: the return value and the memory at `dst` afterwards, or `none` when a
`tor_assert` fails. -/
def torInetPton (af : AddressFamily) (src : CStr) (dst : AddrBuf) : Option (ℤ × AddrBuf) :=
  match af with
  | .inet => some (torInetAton src dst)
  | .inet6 =>
      match ptonIpv6Words src.bytes with
      | .ok words => some (1, wordsToAddr words)
      | .error .returnZero => some (0, dst)
      | .error .assertFailed => none
  | .other => some (-1, dst)

end TorOnion
