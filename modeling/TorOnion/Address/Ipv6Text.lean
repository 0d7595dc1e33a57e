import TorOnion.Address.InAddr

/-!
# The grammar of IPv6 text

What an IPv6 address looks like as text, and what such a text means, stated without reference
to the parser: `Ipv6Text` is a derivation of the grammar, `Ipv6Text.text` the text it derives
and `Ipv6Text.words` the eight words it denotes.

A derivation is eight groups joined by `:`, or two lists of groups on either side of `::`, at
most seven together; in both forms the last two groups may be one dotted quad.  The shapes
carry their own bounds: a `Group` has one to four hexadecimal digits, an `Octet` one to three
decimal digits with a value of at most 255, and the counts are fields of `Ipv6Text`.

The second half relates the text to the way a parser meets it, group by group from the left:
`Body gs b` says that `b` is the groups `gs`, each followed by `:` except possibly the last.
-/

namespace TorOnion

/-! ## Groups and dotted quads -/

/-- One to four hexadecimal digits. -/
structure Group where
  digits : List UInt8
  nonempty : digits ≠ []
  length_le : digits.length ≤ 4
  hex : ∀ b ∈ digits, isXDigit b = true

/-- One to three decimal digits with a value that fits a byte. -/
structure Octet where
  digits : List UInt8
  nonempty : digits ≠ []
  length_le : digits.length ≤ 3
  dec : ∀ b ∈ digits, isDigit b = true
  value_le : digitsValue .dec digits ≤ 255

/-- Four octets separated by dots. -/
structure Quad where
  a : Octet
  b : Octet
  c : Octet
  d : Octet

def Group.value (g : Group) : UInt16 := UInt16.ofNat (digitsValue .hex g.digits)

def Octet.value (o : Octet) : ℕ := digitsValue .dec o.digits

def Quad.text (q : Quad) : List UInt8 :=
  q.a.digits ++ dot :: (q.b.digits ++ dot :: (q.c.digits ++ dot :: q.d.digits))

/-- The two words a dotted quad stands for. -/
def Quad.words (q : Quad) : List UInt16 :=
  [UInt16.ofNat (q.a.value * 256 + q.b.value), UInt16.ofNat (q.c.value * 256 + q.d.value)]

/-! ## Addresses -/

/-- The number of words an optional dotted quad takes. -/
def quadWidth (q : Option Quad) : ℕ := if q.isSome then 2 else 0

/-- The words of an optional dotted quad. -/
def quadWords (q : Option Quad) : List UInt16 := q.elim [] Quad.words

/-- A derivation of the grammar.  `right` is the list after `::`, absent in the full form. -/
structure Ipv6Text where
  left : List Group
  right : Option (List Group)
  quad : Option Quad
  count : match right with
    | none => left.length + quadWidth quad = 8
    | some r => left.length + r.length + quadWidth quad ≤ 7

/-- Texts joined by `:`. -/
def joinColon (ps : List (List UInt8)) : List UInt8 := [colon].intercalate ps

/-- The texts of a list of groups and of the dotted quad after it. -/
def pieces (gs : List Group) (q : Option Quad) : List (List UInt8) :=
  gs.map Group.digits ++ q.toList.map Quad.text

namespace Ipv6Text

/-- The text a derivation derives. -/
def text (t : Ipv6Text) : List UInt8 :=
  match t.right with
  | none => joinColon (pieces t.left t.quad)
  | some r => joinColon (pieces t.left none) ++ [colon, colon] ++ joinColon (pieces r t.quad)

/-- The eight words a derivation denotes, `::` standing for the zeros that are missing. -/
def words (t : Ipv6Text) : List UInt16 :=
  match t.right with
  | none => t.left.map Group.value ++ quadWords t.quad
  | some r =>
      t.left.map Group.value ++
        List.replicate (8 - (t.left.length + r.length + quadWidth t.quad)) 0 ++
        r.map Group.value ++ quadWords t.quad

/-- The sixteen bytes a derivation denotes, each word most significant byte first. -/
def value (t : Ipv6Text) : AddrBuf := fun k =>
  let word := (t.words.getD (k / 2) 0).toNat
  UInt8.ofNat (if k.val % 2 = 0 then word / 256 else word % 256)

end Ipv6Text

/-- The bytes the parser stores for the words of a derivation are its value. -/
lemma wordsToAddr_words (t : Ipv6Text) : wordsToAddr t.words = t.value := by
  funext k
  apply uint8_ext
  simp only [wordsToAddr, Ipv6Text.value]
  generalize t.words.getD (k / 2) 0 = w
  have hw : w.toNat < 65536 := w.toNat_lt
  split
  · simp only [UInt16.toNat_toUInt8, UInt16.toNat_shiftRight, UInt8.toNat_ofNat']
    simp [Nat.shiftRight_eq_div_pow]
  · simp

/-! ## Texts met from the left -/

/-- The groups, each followed by a colon. -/
def closed (gs : List Group) : List UInt8 := gs.flatMap fun g => g.digits ++ [colon]

/-- `Body gs b`: the bytes `b` are the groups `gs`, each followed by a colon, which the last
one may lack. -/
inductive Body : List Group → List UInt8 → Prop
  | nil : Body [] []
  | last (g : Group) : Body [g] g.digits
  | cons (g : Group) {gs : List Group} {b : List UInt8} :
      Body gs b → Body (g :: gs) (g.digits ++ colon :: b)

@[simp] lemma closed_nil : closed [] = [] := rfl

lemma closed_cons (g : Group) (gs : List Group) :
    closed (g :: gs) = g.digits ++ colon :: closed gs := by
  simp [closed]

lemma closed_append (gs hs : List Group) : closed (gs ++ hs) = closed gs ++ closed hs := by
  simp [closed]

lemma body_closed (gs : List Group) : Body gs (closed gs) := by
  induction gs with
  | nil => exact .nil
  | cons g gs ih => exact closed_cons g gs ▸ .cons g ih

lemma joinColon_cons (p : List UInt8) {ps : List (List UInt8)} (h : ps ≠ []) :
    joinColon (p :: ps) = p ++ colon :: joinColon ps := by
  cases ps with
  | nil => exact absurd rfl h
  | cons q ps => simp [joinColon, List.intercalate, List.intersperse]

@[simp] lemma joinColon_nil : joinColon [] = [] := rfl

@[simp] lemma joinColon_singleton (p : List UInt8) : joinColon [p] = p := by
  simp [joinColon, List.intercalate]

lemma joinColon_pieces_cons (g h : Group) (gs : List Group) :
    joinColon (pieces (g :: h :: gs) none) =
      g.digits ++ colon :: joinColon (pieces (h :: gs) none) :=
  joinColon_cons _ (by simp)

lemma body_joinColon (gs : List Group) : Body gs (joinColon (pieces gs none)) := by
  induction gs with
  | nil => exact .nil
  | cons g gs ih =>
      cases gs with
      | nil => simpa [pieces] using Body.last g
      | cons h gs => exact joinColon_pieces_cons g h gs ▸ .cons g ih

/-- A dotted quad ends a list of groups that are all followed by a colon. -/
lemma joinColon_pieces_some (gs : List Group) (q : Quad) :
    joinColon (pieces gs (some q)) = closed gs ++ q.text := by
  induction gs with
  | nil => simp [pieces]
  | cons g gs ih =>
      have hjoin : joinColon (pieces (g :: gs) (some q)) =
          g.digits ++ colon :: joinColon (pieces gs (some q)) :=
        joinColon_cons _ (by simp)
      rw [hjoin, ih, closed_cons]
      simp

/-- The two spellings of a body: closed, or joined. -/
lemma Body.eq_closed_or_joinColon {gs : List Group} {b : List UInt8} (h : Body gs b) :
    b = closed gs ∨ b = joinColon (pieces gs none) := by
  induction h with
  | nil => exact .inl rfl
  | last g => exact .inr (by simp [pieces])
  | @cons g gs b hb ih =>
      rcases ih with rfl | rfl
      · exact .inl (closed_cons g gs).symm
      · cases gs with
        | nil => exact .inl (by simp [closed, pieces])
        | cons h gs => exact .inr (joinColon_pieces_cons g h gs).symm

lemma closed_eq_joinColon {gs : List Group} (hgs : gs ≠ []) :
    closed gs = joinColon (pieces gs none) ++ [colon] := by
  induction gs with
  | nil => exact absurd rfl hgs
  | cons g gs ih =>
      cases gs with
      | nil => simp [closed, pieces]
      | cons h gs =>
          rw [closed_cons, ih (by simp), joinColon_pieces_cons]
          simp

/-! ## The bytes of a text -/

lemma mem_closed {gs : List Group} {b : UInt8} (h : b ∈ closed gs) :
    isXDigit b = true ∨ b = colon := by
  simp only [closed, List.mem_flatMap, List.mem_append, List.mem_singleton] at h
  obtain ⟨g, -, hd | hd⟩ := h
  · exact .inl (g.hex _ hd)
  · exact .inr hd

lemma mem_joinColon {gs : List Group} {b : UInt8} (h : b ∈ joinColon (pieces gs none)) :
    isXDigit b = true ∨ b = colon := by
  by_cases hgs : gs = []
  · simp [hgs, pieces] at h
  · exact mem_closed (closed_eq_joinColon hgs ▸ List.mem_append_left _ h)

lemma Quad.mem_text {q : Quad} {b : UInt8} (h : b ∈ q.text) : isDigit b = true ∨ b = dot := by
  simp only [Quad.text, List.mem_append, List.mem_cons] at h
  rcases h with h | h | h | h | h | h | h
  · exact .inl (q.a.dec b h)
  · exact .inr h
  · exact .inl (q.b.dec b h)
  · exact .inr h
  · exact .inl (q.c.dec b h)
  · exact .inr h
  · exact .inl (q.d.dec b h)

end TorOnion
