import TorOnion.Address.InAddr

/-!
# `std::net::IpAddr`

The addresses of the Rust standard library, as `networking/t_host.rs` parses and prints them: the
parser of `core::net` on the bytes of a text, and `Display`.

Two facts are used of them.  What is printed for an IPv4 address is parsed as that address
(`parseIpv4_display`), and what is printed for an IPv6 address contains a colon
(`colon_mem_display`).
-/

namespace TorOnion

/-- `Ipv4Addr`. -/
structure Ipv4Addr where
  a : UInt8
  b : UInt8
  c : UInt8
  d : UInt8
  deriving DecidableEq

/-- `Ipv6Addr`, by its segments. -/
structure Ipv6Addr where
  segments : List UInt16
  length_segments : segments.length = 8
  deriving DecidableEq

inductive IpAddr
  | v4 (addr : Ipv4Addr)
  | v6 (addr : Ipv6Addr)
  deriving DecidableEq

namespace IpAddr

/-! ## Parsing -/

/-- What a parser returns: a value and the rest of the text. -/
abbrev Parser (α : Type) := List UInt8 → Option (α × List UInt8)

variable {α : Type}

/-- `read_given_char`. -/
def readGivenChar (target : UInt8) : Parser Unit
  | b :: p => if b = target then some ((), p) else none
  | [] => none

/-- `read_separator`. -/
def readSeparator (sep : UInt8) (index : ℕ) (inner : Parser α) : Parser α := fun p =>
  if 0 < index then
    match readGivenChar sep p with
    | some (_, p) => inner p
    | none => none
  else inner p

/-- `read_number`, for numbers below `size`. -/
def readNumber (r : Radix) (maxDigits size : ℕ) (allowZeroPrefix : Bool) : Parser ℕ := fun p =>
  let digits := p.takeWhile r.isDigit
  if maxDigits < digits.length then none
  else if digits.length = 0 then none
  else if !allowZeroPrefix && peek p == 48 && decide (1 < digits.length) then none
  else if digitsValue r digits < size then some (digitsValue r digits, p.dropWhile r.isDigit)
  else none

/-- A number of an IPv4 address.  A leading zero is not allowed, as it could mean octal. -/
def readOctet : Parser UInt8 := fun p =>
  (readNumber .dec 3 256 false p).map fun (n, p) => (UInt8.ofNat n, p)

/-- A group of an IPv6 address. -/
def readSegment : Parser UInt16 := fun p =>
  (readNumber .hex 4 65536 true p).map fun (n, p) => (UInt16.ofNat n, p)

/-- `read_ipv4_addr`. -/
def readIpv4Addr : Parser Ipv4Addr := fun p => do
  let (a, p) ← readSeparator dot 0 readOctet p
  let (b, p) ← readSeparator dot 1 readOctet p
  let (c, p) ← readSeparator dot 2 readOctet p
  let (d, p) ← readSeparator dot 3 readOctet p
  return (⟨a, b, c, d⟩, p)

/-- `u16::from_be_bytes`. -/
def fromBeBytes (hi lo : UInt8) : UInt16 := hi.toUInt16 <<< 8 ||| lo.toUInt16

/-- `read_groups` from group `i` on, when `left` more groups fit: the groups, whether the last two
of them are an IPv4 address, and the rest of the text. -/
def readGroups : (left i : ℕ) → List UInt8 → List UInt16 × Bool × List UInt8
  | 0, _, p => ([], false, p)
  | left + 1, i, p =>
      match if 0 < left then readSeparator colon i readIpv4Addr p else none with
      | some (addr, p) => ([fromBeBytes addr.a addr.b, fromBeBytes addr.c addr.d], true, p)
      | none =>
          match readSeparator colon i readSegment p with
          | some (g, p) =>
              let (groups, ipv4, p) := readGroups left (i + 1) p
              (g :: groups, ipv4, p)
          | none => ([], false, p)

lemma length_readGroups_le (left i : ℕ) (p : List UInt8) :
    (readGroups left i p).1.length ≤ left := by
  induction left generalizing i p with
  | zero => simp [readGroups]
  | succ left ih =>
      rw [readGroups]
      split
      · rename_i h
        split at h
        · simp only [List.length_cons, List.length_nil]
          omega
        · cases h
      · split
        · rename_i g p _
          have := ih (i + 1) p
          simp only [List.length_cons]
          omega
        · simp

/-- `head`, then as many zeros as there is room for, then `tail`. -/
def joinGroups (head tail : List UInt16) (h : head.length + tail.length ≤ 8) : Ipv6Addr where
  segments := head ++ List.replicate (8 - (head.length + tail.length)) 0 ++ tail
  length_segments := by
    simp only [List.length_append, List.length_replicate]
    omega

/-- `read_ipv6_addr`. -/
def readIpv6Addr : Parser Ipv6Addr := fun p =>
  let head := readGroups 8 0 p
  if h : head.1.length = 8 then some (⟨head.1, h⟩, head.2.2)
  else if head.2.1 then none
  else
    match head.2.2 with
    | c₁ :: c₂ :: p =>
        if c₁ = colon ∧ c₂ = colon then
          let tail := readGroups (8 - (head.1.length + 1)) 0 p
          some (joinGroups head.1 tail.1 (by
            have hhead : head.1.length ≤ 8 := length_readGroups_le 8 0 _
            have htail : tail.1.length ≤ 8 - (head.1.length + 1) := length_readGroups_le _ 0 p
            omega), tail.2.2)
        else none
    | _ => none

/-- `read_ip_addr`. -/
def readIpAddr : Parser IpAddr := fun p =>
  match readIpv4Addr p with
  | some (addr, p) => some (.v4 addr, p)
  | none => (readIpv6Addr p).map fun (addr, p) => (.v6 addr, p)

/-- `parse_with`: the whole text has to be read. -/
def parseWith (inner : Parser α) (p : List UInt8) : Option α :=
  match inner p with
  | some (x, []) => some x
  | _ => none

/-- The bytes of a `str`. -/
def asBytes (text : List Char) : List UInt8 := text.flatMap String.utf8EncodeChar

/-- `Ipv4Addr::from_str`. -/
def parseIpv4 (text : List Char) : Option Ipv4Addr :=
  let p := asBytes text
  if 15 < p.length then none else parseWith readIpv4Addr p

/-- `IpAddr::from_str`. -/
def parse (text : List Char) : Option IpAddr := parseWith readIpAddr (asBytes text)

/-! ## Printing -/

/-- The text of ASCII bytes. -/
def asciiText (p : List UInt8) : List Char := p.map fun b => Char.ofNat b.toNat

/-- `Display` of an `Ipv4Addr`. -/
def displayIpv4 (addr : Ipv4Addr) : List UInt8 := dottedQuadText addr.a addr.b addr.c addr.d

/-- `to_ipv4_mapped`: the address after `::ffff:`. -/
def toIpv4Mapped (addr : Ipv6Addr) : Option Ipv4Addr :=
  match addr.segments with
  | [0, 0, 0, 0, 0, 0xffff, ab, cd] =>
      some ⟨(ab >>> 8).toUInt8, ab.toUInt8, (cd >>> 8).toUInt8, cd.toUInt8⟩
  | _ => none

/-- A run of segments. -/
structure Span where
  start : ℕ
  len : ℕ

/-- The loop over the segments, from index `i` on. -/
def longestZeroes (i : ℕ) (longest current : Span) : List UInt16 → Span
  | [] => longest
  | segment :: segments =>
      if segment = 0 then
        let current : Span :=
          ⟨if current.len = 0 then i else current.start, current.len + 1⟩
        let longest := if longest.len < current.len then current else longest
        longestZeroes (i + 1) longest current segments
      else longestZeroes (i + 1) longest ⟨0, 0⟩ segments

/-- `fmt_subslice`. -/
def fmtSubslice : List UInt16 → List UInt8
  | [] => []
  | first :: tail =>
      numeral .hex first.toNat ++ tail.flatMap fun segment => colon :: numeral .hex segment.toNat

/-- `Display` of an `Ipv6Addr`. -/
def displayIpv6 (addr : Ipv6Addr) : List UInt8 :=
  match toIpv4Mapped addr with
  | some ipv4 => ascii "::ffff:" ++ displayIpv4 ipv4
  | none =>
      let zeroes := longestZeroes 0 ⟨0, 0⟩ ⟨0, 0⟩ addr.segments
      if 1 < zeroes.len then
        fmtSubslice (addr.segments.take zeroes.start) ++ ascii "::" ++
          fmtSubslice (addr.segments.drop (zeroes.start + zeroes.len))
      else fmtSubslice addr.segments

/-- `to_string`. -/
def display : IpAddr → List Char
  | .v4 addr => asciiText (displayIpv4 addr)
  | .v6 addr => asciiText (displayIpv6 addr)

/-! ## ASCII -/

lemma utf8EncodeChar_ofNat {b : UInt8} (h : b.toNat < 128) :
    String.utf8EncodeChar (Char.ofNat b.toNat) = [b] := by
  have hvalid : b.toNat.isValidChar := Or.inl (by omega)
  have hval : (Char.ofNat b.toNat).toNat = b.toNat := by
    rw [Char.toNat_ofNat, if_pos hvalid]
  simp [String.utf8EncodeChar, hval, show b.toNat ≤ 127 by omega]

lemma asBytes_asciiText {p : List UInt8} (h : ∀ b ∈ p, b.toNat < 128) :
    asBytes (asciiText p) = p := by
  induction p with
  | nil => rfl
  | cons b p ih =>
      have hb := h b List.mem_cons_self
      have hp := ih fun c hc => h c (List.mem_cons_of_mem b hc)
      rw [asciiText, asBytes] at hp ⊢
      rw [List.map_cons, List.flatMap_cons, hp, utf8EncodeChar_ofNat hb, List.singleton_append]

/-! ## IPv4 -/

/-- The only printed number with a zero in front is zero. -/
lemma peek_numeral_append (n : ℕ) (rest : List UInt8) :
    peek (numeral .dec n ++ rest) ≠ 48 ∨ (numeral .dec n).length = 1 := by
  rcases Nat.eq_zero_or_pos n with rfl | hpos
  · exact Or.inr rfl
  · obtain ⟨b, p, hp⟩ := List.exists_cons_of_ne_nil (numeral_ne_nil .dec n)
    have hpeek := peek_numeral_ne hpos
    rw [hp] at hpeek ⊢
    exact Or.inl hpeek

/-- A printed octet is read up to a byte that is no digit. -/
lemma readOctet_numeral (n : UInt8) {rest : List UInt8}
    (hrest : ∀ b ∈ rest.head?, isDigit b = false) :
    readOctet (numeral .dec n.toNat ++ rest) = some (n, rest) := by
  have hlt : n.toNat < 256 := n.toNat_lt
  have hdigits : ∀ b ∈ numeral .dec n.toNat, Radix.dec.isDigit b = true := fun b hb =>
    isDigit_of_mem_numeral hb
  obtain ⟨htake, hdrop⟩ := span_run hdigits hrest
  have hlen : (numeral .dec n.toNat).length ≤ 3 :=
    numeral_length_le (by decide) (by simp only [Radix.toNat]; omega)
  have hpos : (numeral .dec n.toNat).length ≠ 0 := by simpa using numeral_ne_nil .dec n.toNat
  have hzero : (peek (numeral .dec n.toNat ++ rest) == 48 &&
      decide (1 < (numeral .dec n.toNat).length)) = false := by
    rcases peek_numeral_append n.toNat rest with hpeek | hone
    · simp [hpeek]
    · simp [hone]
  simp [readOctet, readNumber, htake, hdrop, hlen, hpos, hzero, numeral_value, hlt]

@[simp] lemma readSeparator_zero {sep : UInt8} {inner : Parser α} (p : List UInt8) :
    readSeparator sep 0 inner p = inner p := rfl

lemma readSeparator_cons {sep : UInt8} {i : ℕ} {inner : Parser α} (hi : 0 < i) (p : List UInt8) :
    readSeparator sep i inner (sep :: p) = inner p := by
  simp [readSeparator, hi, readGivenChar]

lemma readIpv4Addr_displayIpv4 (addr : Ipv4Addr) :
    readIpv4Addr (displayIpv4 addr) = some (addr, []) := by
  have hdot : ∀ p : List UInt8, ∀ b ∈ (dot :: p).head?, isDigit b = false := by
    intro p b hb
    obtain rfl : dot = b := Option.some.inj hb
    decide
  have hlast : readOctet (numeral .dec addr.d.toNat) = some (addr.d, []) := by
    simpa using @readOctet_numeral addr.d [] (by simp)
  simp [displayIpv4, dottedQuadText, readIpv4Addr, readSeparator_cons,
    readOctet_numeral _ (hdot _), hlast]

lemma length_displayIpv4_le (addr : Ipv4Addr) : (displayIpv4 addr).length ≤ 15 := by
  have hlen : ∀ n : UInt8, (numeral .dec n.toNat).length ≤ 3 := fun n =>
    numeral_length_le (by decide) (n.toNat_lt.trans (by decide))
  have ha := hlen addr.a
  have hb := hlen addr.b
  have hc := hlen addr.c
  have hd := hlen addr.d
  simp only [displayIpv4, dottedQuadText, List.length_append, List.length_singleton]
  omega

lemma lt_of_mem_displayIpv4 {addr : Ipv4Addr} {b : UInt8} (hb : b ∈ displayIpv4 addr) :
    b.toNat < 128 := by
  have hnumeral : ∀ n, b ∈ numeral .dec n → b.toNat < 128 := by
    intro n h
    have hdigit : isDigit b = true := isDigit_of_mem_numeral h
    simp only [isDigit, Bool.and_eq_true, decide_eq_true_eq] at hdigit
    omega
  have hdot : b ∈ [dot] → b.toNat < 128 := by
    intro h
    obtain rfl := List.mem_singleton.mp h
    decide
  simp only [displayIpv4, dottedQuadText, List.mem_append] at hb
  rcases hb with ((((((h | h) | h) | h) | h) | h) | h)
  all_goals first | exact hnumeral _ h | exact hdot h

/-- An IPv4 address is parsed from its own text. -/
theorem parseIpv4_display (addr : Ipv4Addr) : parseIpv4 (display (.v4 addr)) = some addr := by
  have hlen := length_displayIpv4_le addr
  rw [parseIpv4, display, asBytes_asciiText fun b hb => lt_of_mem_displayIpv4 hb,
    if_neg (by omega), parseWith, readIpv4Addr_displayIpv4]

/-! ## IPv6 -/

lemma colon_mem_fmtSubslice {segments : List UInt16} (h : 1 < segments.length) :
    colon ∈ fmtSubslice segments := by
  match segments, h with
  | first :: second :: tail, _ => simp [fmtSubslice]

lemma colon_mem_displayIpv6 (addr : Ipv6Addr) : colon ∈ displayIpv6 addr := by
  unfold displayIpv6
  cases toIpv4Mapped addr with
  | some ipv4 => exact List.mem_append_left _ (by decide)
  | none =>
      dsimp only
      split
      · have hmem : colon ∈ ascii "::" := by decide
        exact List.mem_append_left _ (List.mem_append_right _ hmem)
      · exact colon_mem_fmtSubslice (by simp [addr.length_segments])

/-- A printed IPv6 address contains a colon. -/
theorem colon_mem_display (addr : Ipv6Addr) : ':' ∈ display (.v6 addr) :=
  List.mem_map_of_mem (colon_mem_displayIpv6 addr)

end IpAddr

end TorOnion
