import TorOnion.Address.Ntoa

/-!
# The port in Zig: `pipe.zig`

`inetAton` of `pipe.zig` against `tor_inet_aton`, and `inetNtoa` against `tor_inet_ntoa`.

The port splits the string at the dots and reads each part with `std.fmt.parseInt`, which also
takes a sign in front and `_` between digits.  `IsOctetText` is the language that it accepts for a
part, with the checks of `inetAton` (`parseOctet_of_isOctetText`).  A part that consists of digits is
an `Octet` that does not look octal, and so the two parsers agree on a string unless it is four such
parts of which one has another byte than a digit (`atonAgrees_iff`).

`inetNtoa` prints what `tor_inet_ntoa` prints, so both parsers read it back.  The two printers part
where the buffer is too small for the text: the port then has an error, and it needs no room for a
terminator.
-/

namespace TorOnion

namespace Pipe

/-! ## The standard library -/

/-- The errors of `std.fmt.parseInt`. -/
inductive ParseIntError
  | overflow
  | invalidCharacter
  deriving DecidableEq

def plus : UInt8 := 43
def minus : UInt8 := 45
def underscore : UInt8 := 95

/-- `std.fmt.charToDigit` in radix ten. -/
def charToDigit (c : UInt8) : Except ParseIntError ℕ :=
  if isDigit c then .ok (digitVal c) else .error .invalidCharacter

/-- `std.math.add`, `std.math.sub` and `std.math.mul` of `u8` fail outside of its range; here the
result is given as an integer. -/
def checkU8 (n : ℤ) : Except ParseIntError ℕ :=
  if 0 ≤ n ∧ n ≤ 255 then .ok n.toNat else .error .overflow

/-- The loop of `parseIntWithSign` for `u8`. -/
def parseIntLoop (negative : Bool) : List UInt8 → ℕ → Except ParseIntError ℕ
  | [], accumulate => .ok accumulate
  | c :: buf, accumulate =>
      if c = underscore then parseIntLoop negative buf accumulate
      else do
        let digit ← charToDigit c
        if accumulate ≠ 0 then
          let accumulate ← checkU8 (accumulate * 10)
          let accumulate ← checkU8 (if negative then accumulate - digit else accumulate + digit)
          parseIntLoop negative buf accumulate
        else if negative then
          -- the first digit of a negative number
          let accumulate ← checkU8 (-digit)
          parseIntLoop negative buf accumulate
        else
          let accumulate ← checkU8 (accumulate + digit)
          parseIntLoop negative buf accumulate

/-- `parseIntWithSign(u8, buf, 10, sign)`. -/
def parseIntWithSign (negative : Bool) (buf : List UInt8) : Except ParseIntError ℕ :=
  if buf = [] then .error .invalidCharacter
  else if buf.head? = some underscore ∨ buf.getLast? = some underscore then
    .error .invalidCharacter
  else parseIntLoop negative buf 0

/-- `std.fmt.parseInt(u8, buf, 10)`. -/
def parseInt : List UInt8 → Except ParseIntError ℕ
  | [] => .error .invalidCharacter
  | c :: buf =>
      if c = plus then parseIntWithSign false buf
      else if c = minus then parseIntWithSign true buf
      else parseIntWithSign false (c :: buf)

/-! ## The source -/

/-- `ParseError`. -/
inductive ParseError
  | invalidAddress
  | bufferTooSmall
  deriving DecidableEq

/-- One pass of the loop of `inetAton`: the value of an octet. -/
def parseOctet (octet : List UInt8) : Except ParseError ℕ :=
  if octet.length > 1 ∧ octet.head? = some 48 then .error .invalidAddress
  else
    match parseInt octet with
    | .ok value => .ok value
    | .error _ => .error .invalidAddress

/-- The loop of `inetAton`, with the octets that `iter` has left and `parts[0..i]`. -/
def inetAtonLoop : List (List UInt8) → List ℕ → Except ParseError (List ℕ)
  | [], parts => .ok parts
  | octet :: iter, parts =>
      if parts.length ≥ 4 then .error .invalidAddress
      else
        match parseOctet octet with
        | .ok value => inetAtonLoop iter (parts ++ [value])
        | .error e => .error e

/-- `inetAton`. -/
def inetAton (str : List UInt8) : Except ParseError UInt32 :=
  match inetAtonLoop (str.splitOn dot) [] with
  | .ok [a, b, c, d] =>
      .ok (UInt32.ofNat a <<< 24 ||| UInt32.ofNat b <<< 16 ||| UInt32.ofNat c <<< 8 |||
        UInt32.ofNat d)
  | .ok _ => .error .invalidAddress
  | .error e => .error e

/-! ## The language of an octet -/

/-- What `parseInt` accepts as a `u8`: a sign that may be left out, and decimal digits with `_`
between them.  The value is at most 255, and zero behind a `-`. -/
structure IsIntText (sign body : List UInt8) : Prop where
  signed : sign = [] ∨ sign = [plus] ∨ sign = [minus]
  nonempty : body ≠ []
  first : body.head? ≠ some underscore
  last : body.getLast? ≠ some underscore
  digits : ∀ b ∈ body, isDigit b = true ∨ b = underscore
  bound : digitsValue .dec (body.filter (· ≠ underscore)) ≤ if sign = [minus] then 0 else 255

/-! ## `parseInt` accepts this language -/

section Loop

variable {c : UInt8} {buf : List UInt8} {accumulate v : ℕ}

lemma checkU8_natCast (n : ℕ) :
    checkU8 n = if n ≤ 255 then .ok n else .error .overflow := by
  simp [checkU8]

/-- A digit in a number without a sign or with `+`. -/
lemma parseIntLoop_digit (hc : isDigit c = true) :
    parseIntLoop false (c :: buf) accumulate =
      if accumulate * 10 + digitVal c ≤ 255 then
        parseIntLoop false buf (accumulate * 10 + digitVal c)
      else .error .overflow := by
  have hne : c ≠ underscore := by
    rintro rfl
    exact absurd hc (by decide)
  have hmul : ((accumulate : ℤ) * 10) = ((accumulate * 10 : ℕ) : ℤ) := by push_cast; rfl
  rw [parseIntLoop, if_neg hne, charToDigit, if_pos hc]
  simp only [bind, Except.bind, Bool.false_eq_true, if_false]
  by_cases hzero : accumulate = 0
  · subst hzero
    have hadd : ((0 : ℕ) : ℤ) + digitVal c = ((0 * 10 + digitVal c : ℕ) : ℤ) := by push_cast; ring
    rw [if_neg (by simp), hadd, checkU8_natCast]
    split_ifs <;> rfl
  · rw [if_pos hzero, hmul, checkU8_natCast]
    by_cases hmul255 : accumulate * 10 ≤ 255
    · have hadd : (((accumulate * 10 : ℕ) : ℤ) + digitVal c) =
          ((accumulate * 10 + digitVal c : ℕ) : ℤ) := by push_cast; rfl
      rw [if_pos hmul255]
      simp only [hadd, checkU8_natCast]
      split_ifs <;> rfl
    · rw [if_neg hmul255, if_neg (by omega)]

/-- A digit behind `-`. -/
lemma parseIntLoop_negative_digit (hc : isDigit c = true) :
    parseIntLoop true (c :: buf) 0 =
      if digitVal c = 0 then parseIntLoop true buf 0 else .error .overflow := by
  have hne : c ≠ underscore := by
    rintro rfl
    exact absurd hc (by decide)
  rw [parseIntLoop, if_neg hne, charToDigit, if_pos hc]
  simp only [bind, Except.bind, ne_eq, not_true, if_false, if_true]
  by_cases hzero : digitVal c = 0
  · rw [if_pos hzero, hzero]
    rfl
  · have hneg : ¬ (0 ≤ -(digitVal c : ℤ) ∧ -(digitVal c : ℤ) ≤ 255) := by omega
    rw [if_neg hzero, checkU8, if_neg hneg]

/-- What is neither a digit nor `_` ends the loop. -/
lemma parseIntLoop_other {negative : Bool} (hne : c ≠ underscore) (hc : isDigit c = false) :
    parseIntLoop negative (c :: buf) accumulate = .error .invalidCharacter := by
  rw [parseIntLoop, if_neg hne, charToDigit, hc]
  rfl

/-- The number that digits make behind those read before. -/
def readDigits (accumulate : ℕ) (ds : List UInt8) : ℕ :=
  ds.foldl (fun acc b => acc * 10 + digitVal b) accumulate

lemma le_readDigits (accumulate : ℕ) (ds : List UInt8) :
    accumulate ≤ readDigits accumulate ds := by
  induction ds generalizing accumulate with
  | nil => exact le_rfl
  | cons b ds ih =>
      calc accumulate ≤ accumulate * 10 + digitVal b := by omega
        _ ≤ readDigits accumulate (b :: ds) := ih _

lemma filter_cons_digit (hne : c ≠ underscore) :
    (c :: buf).filter (· ≠ underscore) = c :: buf.filter (· ≠ underscore) :=
  List.filter_cons_of_pos (by simpa using hne)

lemma filter_cons_underscore :
    (underscore :: buf).filter (· ≠ underscore) = buf.filter (· ≠ underscore) :=
  List.filter_cons_of_neg (by simp)

lemma parseIntLoop_ok_iff (hacc : accumulate ≤ 255) :
    parseIntLoop false buf accumulate = .ok v ↔
      (∀ b ∈ buf, isDigit b = true ∨ b = underscore) ∧
        readDigits accumulate (buf.filter (· ≠ underscore)) ≤ 255 ∧
        v = readDigits accumulate (buf.filter (· ≠ underscore)) := by
  induction buf generalizing accumulate with
  | nil =>
      rw [parseIntLoop, Except.ok.injEq]
      exact ⟨fun h => ⟨fun _ => nofun, hacc, h.symm⟩, fun h => h.2.2.symm⟩
  | cons c buf ih =>
      by_cases hunder : c = underscore
      · subst hunder
        rw [parseIntLoop, if_pos rfl, ih hacc, filter_cons_underscore, List.forall_mem_cons]
        simp only [or_true, true_and]
      · cases hc : isDigit c with
        | false =>
            rw [parseIntLoop_other hunder hc, List.forall_mem_cons]
            simp only [hc, hunder, Bool.false_eq_true, or_self, false_and, iff_false]
            exact nofun
        | true =>
            rw [parseIntLoop_digit hc, filter_cons_digit hunder]
            have hread : ∀ ds, readDigits accumulate (c :: ds) =
                readDigits (accumulate * 10 + digitVal c) ds := fun _ => rfl
            rw [hread]
            by_cases hle : accumulate * 10 + digitVal c ≤ 255
            · rw [if_pos hle, ih hle, List.forall_mem_cons]
              simp only [hc, true_or, true_and]
            · rw [if_neg hle]
              have hlarge := le_readDigits (accumulate * 10 + digitVal c)
                (buf.filter (· ≠ underscore))
              refine ⟨nofun, fun h => ?_⟩
              omega

lemma parseIntLoop_negative_ok_iff :
    parseIntLoop true buf 0 = .ok v ↔
      (∀ b ∈ buf, isDigit b = true ∨ b = underscore) ∧
        readDigits 0 (buf.filter (· ≠ underscore)) ≤ 0 ∧
        v = readDigits 0 (buf.filter (· ≠ underscore)) := by
  induction buf with
  | nil =>
      rw [parseIntLoop, Except.ok.injEq]
      exact ⟨fun h => ⟨fun _ => nofun, le_rfl, h.symm⟩, fun h => h.2.2.symm⟩
  | cons c buf ih =>
      by_cases hunder : c = underscore
      · subst hunder
        rw [parseIntLoop, if_pos rfl, ih, filter_cons_underscore, List.forall_mem_cons]
        simp only [or_true, true_and]
      · cases hc : isDigit c with
        | false =>
            rw [parseIntLoop_other hunder hc, List.forall_mem_cons]
            simp only [hc, hunder, Bool.false_eq_true, or_self, false_and, iff_false]
            exact nofun
        | true =>
            rw [parseIntLoop_negative_digit hc, filter_cons_digit hunder]
            have hread : ∀ ds, readDigits 0 (c :: ds) = readDigits (digitVal c) ds := by
              intro ds
              rw [readDigits, List.foldl_cons, zero_mul, zero_add]
              rfl
            rw [hread]
            by_cases hzero : digitVal c = 0
            · rw [if_pos hzero, ih, hzero, List.forall_mem_cons]
              simp only [hc, true_or, true_and]
            · rw [if_neg hzero]
              have hlarge := le_readDigits (digitVal c) (buf.filter (· ≠ underscore))
              refine ⟨nofun, fun h => ?_⟩
              omega

end Loop

/-- The value of the digits between the `_`. -/
def intValue (body : List UInt8) : ℕ := digitsValue .dec (body.filter (· ≠ underscore))

lemma parseIntWithSign_ok_iff {negative : Bool} {body : List UInt8} {v : ℕ} :
    parseIntWithSign negative body = .ok v ↔
      IsIntText (if negative then [minus] else []) body ∧ v = intValue body := by
  have hloop : parseIntLoop negative body 0 = .ok v ↔
      (∀ b ∈ body, isDigit b = true ∨ b = underscore) ∧
        intValue body ≤ (if negative then 0 else 255) ∧ v = intValue body := by
    cases negative with
    | false => exact parseIntLoop_ok_iff (Nat.zero_le _)
    | true => exact parseIntLoop_negative_ok_iff
  have hbound : (if (if negative then [minus] else []) = [minus] then 0 else 255) =
      if negative then 0 else 255 := by
    cases negative <;> rfl
  rw [parseIntWithSign]
  by_cases hnil : body = []
  · rw [if_pos hnil]
    exact ⟨nofun, fun h => (h.1.nonempty hnil).elim⟩
  · rw [if_neg hnil]
    by_cases hends : body.head? = some underscore ∨ body.getLast? = some underscore
    · rw [if_pos hends]
      exact ⟨nofun, fun h => (hends.elim h.1.first h.1.last).elim⟩
    · rw [if_neg hends, hloop]
      rw [not_or] at hends
      constructor
      · rintro ⟨hdigits, hle, hv⟩
        refine ⟨⟨?_, hnil, hends.1, hends.2, hdigits, hbound.symm ▸ hle⟩, hv⟩
        cases negative <;> simp
      · rintro ⟨h, hv⟩
        exact ⟨h.digits, hbound ▸ h.bound, hv⟩

/-- A text that starts with a digit has no sign. -/
lemma IsIntText.body_head {sign body : List UInt8} (h : IsIntText sign body) :
    ∃ b bs, body = b :: bs ∧ b ≠ plus ∧ b ≠ minus := by
  obtain ⟨b, bs, rfl⟩ := List.exists_cons_of_ne_nil h.nonempty
  refine ⟨b, bs, rfl, ?_, ?_⟩
  · rintro rfl
    exact absurd (h.digits plus List.mem_cons_self) (by decide)
  · rintro rfl
    exact absurd (h.digits minus List.mem_cons_self) (by decide)

lemma parseInt_ok_iff {buf : List UInt8} {v : ℕ} :
    parseInt buf = .ok v ↔
      ∃ sign body, buf = sign ++ body ∧ IsIntText sign body ∧ v = intValue body := by
  constructor
  · intro h
    cases buf with
    | nil => cases h
    | cons c buf =>
        rw [parseInt] at h
        split_ifs at h with hplus hminus
        · obtain ⟨htext, hv⟩ := parseIntWithSign_ok_iff.mp h
          exact ⟨[plus], buf, by rw [hplus]; rfl,
            ⟨.inr (.inl rfl), htext.nonempty, htext.first, htext.last, htext.digits, htext.bound⟩,
            hv⟩
        · obtain ⟨htext, hv⟩ := parseIntWithSign_ok_iff.mp h
          exact ⟨[minus], buf, by rw [hminus]; rfl, htext, hv⟩
        · obtain ⟨htext, hv⟩ := parseIntWithSign_ok_iff.mp h
          exact ⟨[], c :: buf, rfl, htext, hv⟩
  · rintro ⟨sign, body, rfl, h, rfl⟩
    rcases h.signed with rfl | rfl | rfl
    · obtain ⟨b, bs, rfl, hplus, hminus⟩ := h.body_head
      rw [List.nil_append, parseInt, if_neg hplus, if_neg hminus]
      exact parseIntWithSign_ok_iff.mpr ⟨h, rfl⟩
    · refine (@parseIntWithSign_ok_iff false _ _).mpr ⟨?_, rfl⟩
      exact ⟨.inl rfl, h.nonempty, h.first, h.last, h.digits, h.bound⟩
    · exact (@parseIntWithSign_ok_iff true _ _).mpr ⟨h, rfl⟩

/-! ## Octets -/

/-- The language of the parts that `inetAton` accepts. -/
structure IsOctetText (octet : List UInt8) : Prop where
  notOctal : 1 < octet.length → octet.head? ≠ some 48
  int : ∃ sign body, octet = sign ++ body ∧ IsIntText sign body

lemma parseOctet_ok {octet : List UInt8} {v : ℕ} (h : parseOctet octet = .ok v) :
    IsOctetText octet ∧ parseInt octet = .ok v := by
  rw [parseOctet] at h
  by_cases hoctal : octet.length > 1 ∧ octet.head? = some 48
  · rw [if_pos hoctal] at h
    cases h
  · rw [if_neg hoctal] at h
    cases hint : parseInt octet with
    | error e =>
        rw [hint] at h
        cases h
    | ok value =>
        rw [hint] at h
        obtain rfl := Except.ok.inj h
        obtain ⟨sign, body, hoctet, htext, -⟩ := parseInt_ok_iff.mp hint
        exact ⟨⟨fun hlen hhead => hoctal ⟨hlen, hhead⟩, sign, body, hoctet, htext⟩, rfl⟩

lemma parseOctet_of_isOctetText {octet : List UInt8} (h : IsOctetText octet) :
    ∃ v, parseOctet octet = .ok v := by
  obtain ⟨sign, body, hoctet, htext⟩ := h.int
  have hint : parseInt octet = .ok (intValue body) :=
    parseInt_ok_iff.mpr ⟨sign, body, hoctet, htext, rfl⟩
  refine ⟨intValue body, ?_⟩
  rw [parseOctet, if_neg fun hoctal => h.notOctal hoctal.1 hoctal.2, hint]

/-- A part of digits that is accepted is an octet that does not look octal. -/
lemma exists_octet_of_digits {octet : List UInt8} {v : ℕ} (h : parseOctet octet = .ok v)
    (hdec : ∀ b ∈ octet, isDigit b = true) :
    ∃ o : Octet, o.digits = octet ∧ o.isOctal = false ∧ o.value = v := by
  obtain ⟨htext, hint⟩ := parseOctet_ok h
  obtain ⟨sign, body, rfl, hbody, rfl⟩ := parseInt_ok_iff.mp hint
  have hsign : sign = [] := by
    rcases hbody.signed with rfl | rfl | rfl
    · rfl
    · exact absurd (hdec plus List.mem_cons_self) (by decide)
    · exact absurd (hdec minus List.mem_cons_self) (by decide)
  subst hsign
  rw [List.nil_append] at hdec htext ⊢
  have hfilter : body.filter (· ≠ underscore) = body := by
    refine List.filter_eq_self.mpr fun b hb => ?_
    have hne : b ≠ underscore := by
      rintro rfl
      exact absurd (hdec underscore hb) (by decide)
    simpa using hne
  have hvalue : intValue body = digitsValue .dec body := by rw [intValue, hfilter]
  have hle : digitsValue .dec body ≤ 255 := hvalue ▸ hbody.bound
  have hpeek : 1 < body.length → peek body ≠ 48 := by
    intro hlen hpeek
    obtain ⟨b, bs, rfl⟩ := List.exists_cons_of_ne_nil hbody.nonempty
    exact htext.notOctal hlen (congrArg some hpeek)
  have hlength : body.length ≤ 3 := by
    rw [← numeral_digitsValue hbody.nonempty hdec hpeek]
    refine numeral_length_le (by decide) (lt_of_le_of_lt hle (by decide))
  refine ⟨⟨body, hbody.nonempty, hlength, hdec, hle⟩, rfl, ?_, hvalue.symm⟩
  rw [Octet.isOctal]
  by_cases hlen : 1 < body.length
  · rw [beq_eq_false_iff_ne.mpr (hpeek hlen), Bool.and_false]
  · rw [decide_eq_false hlen, Bool.false_and]

/-- Such an octet is accepted, with its value. -/
lemma parseOctet_octet {o : Octet} (h : o.isOctal = false) :
    parseOctet o.digits = .ok o.value := by
  have hnotUnderscore : ∀ b ∈ o.digits, b ≠ underscore := by
    rintro b hb rfl
    exact absurd (o.dec underscore hb) (by decide)
  have hfilter : o.digits.filter (· ≠ underscore) = o.digits :=
    List.filter_eq_self.mpr fun b hb => by simpa using hnotUnderscore b hb
  have hvalue : intValue o.digits = o.value := by
    rw [intValue, hfilter]
    rfl
  have hint : IsIntText [] o.digits :=
    ⟨.inl rfl, o.nonempty, fun hhead => hnotUnderscore _ (List.mem_of_head? hhead) rfl,
      fun hlast => hnotUnderscore _ (List.mem_of_getLast? hlast) rfl,
      fun b hb => .inl (o.dec b hb), by
        rw [hfilter]
        exact o.value_le⟩
  have hoctal : ¬ (o.digits.length > 1 ∧ o.digits.head? = some 48) := by
    rintro ⟨hlen, hhead⟩
    have hpeek : peek o.digits = 48 := by
      rw [peek, List.headD_eq_head?_getD, hhead]
      rfl
    rw [Octet.isOctal, decide_eq_true hlen, hpeek] at h
    cases h
  have hparse : parseInt o.digits = .ok o.value :=
    parseInt_ok_iff.mpr ⟨[], o.digits, rfl, hint, hvalue.symm⟩
  rw [parseOctet, if_neg hoctal, hparse]

/-! ## Addresses -/

/-- The loop reads one octet after the other, up to four of them. -/
lemma inetAtonLoop_ok_iff {iter : List (List UInt8)} {parts values : List ℕ} :
    inetAtonLoop iter parts = .ok values ↔
      (iter ≠ [] → parts.length + iter.length ≤ 4) ∧
        ∃ read, List.Forall₂ (fun octet value => parseOctet octet = .ok value) iter read ∧
          values = parts ++ read := by
  induction iter generalizing parts with
  | nil =>
      rw [inetAtonLoop, Except.ok.injEq]
      constructor
      · rintro rfl
        exact ⟨fun h => (h rfl).elim, [], .nil, (List.append_nil _).symm⟩
      · rintro ⟨-, read, hread, rfl⟩
        rw [List.forall₂_nil_left_iff.mp hread, List.append_nil]
  | cons octet iter ih =>
      rw [inetAtonLoop]
      by_cases hfull : parts.length ≥ 4
      · rw [if_pos hfull]
        refine ⟨nofun, fun h => ?_⟩
        have hlen := h.1 (List.cons_ne_nil _ _)
        rw [List.length_cons] at hlen
        omega
      · rw [if_neg hfull]
        cases hoctet : parseOctet octet with
        | error e =>
            refine ⟨nofun, ?_⟩
            rintro ⟨-, read, hread, -⟩
            cases hread with
            | cons hvalue _ =>
                rw [hoctet] at hvalue
                cases hvalue
        | ok value =>
            simp only
            rw [ih]
            constructor
            · rintro ⟨hlen, read, hread, rfl⟩
              refine ⟨fun _ => ?_, value :: read, .cons hoctet hread, List.append_assoc _ _ _⟩
              by_cases hnil : iter = []
              · subst hnil
                simp only [List.length_cons, List.length_nil]
                omega
              · have hle := hlen hnil
                simp only [List.length_append, List.length_cons, List.length_nil] at hle ⊢
                omega
            · rintro ⟨hlen, read, hread, rfl⟩
              have hle := hlen (List.cons_ne_nil _ _)
              rw [List.length_cons] at hle
              cases hread with
              | cons hvalue hrest =>
                  rw [hoctet] at hvalue
                  obtain rfl := Except.ok.inj hvalue
                  refine ⟨fun _ => ?_, _, hrest, List.append_cons _ _ _⟩
                  rw [List.length_append, List.length_singleton]
                  omega

/-- What `inetAton` accepts: four parts, each an octet. -/
lemma inetAton_ok_iff {str : List UInt8} {v : UInt32} :
    inetAton str = .ok v ↔
      ∃ oa ob oc od a b c d, str.splitOn dot = [oa, ob, oc, od] ∧
        parseOctet oa = .ok a ∧ parseOctet ob = .ok b ∧ parseOctet oc = .ok c ∧
        parseOctet od = .ok d ∧
        v = (UInt32.ofNat a <<< 24 ||| UInt32.ofNat b <<< 16 ||| UInt32.ofNat c <<< 8 |||
          UInt32.ofNat d) := by
  constructor
  · intro h
    rw [inetAton] at h
    split at h
    · next a b c d hloop =>
        obtain ⟨-, read, hread, hvalues⟩ := inetAtonLoop_ok_iff.mp hloop
        rw [List.nil_append] at hvalues
        subst hvalues
        generalize hsplit : str.splitOn dot = octets at hread
        obtain _ | ⟨ha, hread⟩ := hread
        obtain _ | ⟨hb, hread⟩ := hread
        obtain _ | ⟨hc, hread⟩ := hread
        obtain _ | ⟨hd, hread⟩ := hread
        obtain _ | _ := hread
        exact ⟨_, _, _, _, a, b, c, d, rfl, ha, hb, hc, hd, (Except.ok.inj h).symm⟩
    · cases h
    · cases h
  · rintro ⟨oa, ob, oc, od, a, b, c, d, hsplit, ha, hb, hc, hd, rfl⟩
    have hloop : inetAtonLoop [oa, ob, oc, od] [] = .ok [a, b, c, d] :=
      inetAtonLoop_ok_iff.mpr ⟨fun _ => le_rfl, _, .cons ha (.cons hb (.cons hc (.cons hd .nil))),
        rfl⟩
    rw [inetAton, hsplit, hloop]

/-- No other error than `InvalidAddress` is returned. -/
lemma inetAton_error {str : List UInt8} {e : ParseError} (h : inetAton str = .error e) :
    e = .invalidAddress := by
  have hloop : ∀ {iter parts}, inetAtonLoop iter parts = .error e → e = .invalidAddress := by
    intro iter
    induction iter with
    | nil => intro parts h; cases h
    | cons octet iter ih =>
        intro parts h
        rw [inetAtonLoop] at h
        split_ifs at h
        · exact (Except.error.inj h).symm
        · cases hoctet : parseOctet octet with
          | ok value =>
              rw [hoctet] at h
              exact ih h
          | error e' =>
              rw [hoctet] at h
              obtain rfl := Except.error.inj h
              rw [parseOctet] at hoctet
              split_ifs at hoctet
              · exact (Except.error.inj hoctet).symm
              · split at hoctet
                · cases hoctet
                · exact (Except.error.inj hoctet).symm
  rw [inetAton] at h
  split at h
  · cases h
  · exact (Except.error.inj h).symm
  · next e' heq =>
      obtain rfl := Except.error.inj h
      exact hloop heq

/-- A quad without an octet that looks octal is accepted, with its address. -/
lemma inetAton_text {q : Quad} (h : q.isOctal = false) : inetAton q.text = .ok q.addr := by
  simp only [Quad.isOctal, Bool.or_eq_false_iff] at h
  obtain ⟨⟨⟨ha, hb⟩, hc⟩, hd⟩ := h
  exact inetAton_ok_iff.mpr ⟨_, _, _, _, _, _, _, _, q.splitOn_text, parseOctet_octet ha,
    parseOctet_octet hb, parseOctet_octet hc, parseOctet_octet hd, rfl⟩

/-! ## The two parsers -/

/-- The port and the original accept a string for the same addresses, and refuse it together. -/
def AtonAgrees (s : CStr) (addr : AddrBuf) : Prop :=
  (∀ v, inetAton s.bytes = .ok v ↔ torInetAton s addr = (1, storeInAddr addr v)) ∧
    (inetAton s.bytes = .error .invalidAddress ↔ (torInetAton s addr).1 = 0)

/-- Of four octets that the port accepts, all are decimal digits. -/
def DigitsOnly (s : CStr) : Prop :=
  ∀ oa ob oc od, s.bytes.splitOn dot = [oa, ob, oc, od] →
    (∀ octet ∈ [oa, ob, oc, od], IsOctetText octet) →
      ∀ octet ∈ [oa, ob, oc, od], ∀ b ∈ octet, isDigit b = true

lemma exists_quad_of_inetAton {s : CStr} (hdigits : DigitsOnly s) {v : UInt32}
    (h : inetAton s.bytes = .ok v) :
    ∃ q : Quad, s.bytes = q.text ∧ q.isOctal = false ∧ q.addr = v := by
  obtain ⟨oa, ob, oc, od, a, b, c, d, hsplit, ha, hb, hc, hd, rfl⟩ := inetAton_ok_iff.mp h
  have hdec := hdigits oa ob oc od hsplit (by
    simp only [List.forall_mem_cons, List.not_mem_nil, false_imp_iff, implies_true, and_true]
    exact ⟨(parseOctet_ok ha).1, (parseOctet_ok hb).1, (parseOctet_ok hc).1,
      (parseOctet_ok hd).1⟩)
  simp only [List.forall_mem_cons, List.not_mem_nil, false_imp_iff, implies_true, and_true] at hdec
  obtain ⟨hda, hdb, hdc, hdd⟩ := hdec
  obtain ⟨qa, rfl, hqa, rfl⟩ := exists_octet_of_digits ha hda
  obtain ⟨qb, rfl, hqb, rfl⟩ := exists_octet_of_digits hb hdb
  obtain ⟨qc, rfl, hqc, rfl⟩ := exists_octet_of_digits hc hdc
  obtain ⟨qd, rfl, hqd, rfl⟩ := exists_octet_of_digits hd hdd
  refine ⟨⟨qa, qb, qc, qd⟩, ?_, ?_, rfl⟩
  · have hjoin : [dot].intercalate (s.bytes.splitOn dot) = s.bytes := List.intercalate_splitOn dot
    rw [← hjoin, hsplit]
    simp [Quad.text, List.intercalate]
  · rw [Quad.isOctal, hqa, hqb, hqc, hqd]
    rfl

/-- **The port and the original.**  `inetAton` of `pipe.zig` and `tor_inet_aton` agree on a string
exactly when it is not four octets that the port accepts with a sign or `_` in one of them. -/
theorem atonAgrees_iff (s : CStr) (addr : AddrBuf) : AtonAgrees s addr ↔ DigitsOnly s := by
  constructor
  · rintro ⟨hagrees, -⟩ oa ob oc od hsplit htexts
    simp only [List.forall_mem_cons, List.not_mem_nil, false_imp_iff, implies_true,
      and_true] at htexts
    obtain ⟨hta, htb, htc, htd⟩ := htexts
    obtain ⟨a, ha⟩ := parseOctet_of_isOctetText hta
    obtain ⟨b, hb⟩ := parseOctet_of_isOctetText htb
    obtain ⟨c, hc⟩ := parseOctet_of_isOctetText htc
    obtain ⟨d, hd⟩ := parseOctet_of_isOctetText htd
    have hport := inetAton_ok_iff.mpr ⟨oa, ob, oc, od, a, b, c, d, hsplit, ha, hb, hc, hd, rfl⟩
    obtain ⟨q, hq, -, -⟩ := torInetAton_iff.mp (congrArg some ((hagrees _).mp hport))
    rw [hq, q.splitOn_text] at hsplit
    rw [← hsplit]
    simp only [List.forall_mem_cons, List.not_mem_nil, false_imp_iff, implies_true, and_true]
    exact ⟨q.a.dec, q.b.dec, q.c.dec, q.d.dec⟩
  · intro hdigits
    have hagrees : ∀ v, inetAton s.bytes = .ok v ↔
        torInetAton s addr = (1, storeInAddr addr v) := by
      intro v
      constructor
      · intro h
        obtain ⟨q, hq, hoctal, rfl⟩ := exists_quad_of_inetAton hdigits h
        rw [torInetAton_text addr hq, hoctal]
        rfl
      · intro h
        obtain ⟨q, hq, hoctal, rfl⟩ := torInetAton_iff.mp (congrArg some h)
        rw [hq, inetAton_text hoctal]
    refine ⟨hagrees, fun herror => ?_, fun hzero => ?_⟩
    · rcases torInetAton_cases s addr with ⟨q, hoctal, hq, -⟩ | ⟨-, hread⟩
      · rw [hq, inetAton_text hoctal] at herror
        cases herror
      · rw [hread]
    · cases hport : inetAton s.bytes with
      | ok v =>
          rw [(hagrees v).mp hport] at hzero
          exact absurd hzero one_ne_zero
      | error e => rw [inetAton_error hport]

/-- `+1.2.3.4`. -/
def signedText : CStr := ⟨ascii "+1.2.3.4", by decide +kernel⟩

/-- `+1.2.3.4` is accepted by the port and refused by the original. -/
theorem atonAgrees_signed :
    inetAton signedText.bytes = .ok 0x01020304 ∧ (torInetAton signedText fun _ => 0).1 = 0 ∧
      ¬ AtonAgrees signedText fun _ => 0 := by
  have hport : inetAton signedText.bytes = .ok 0x01020304 := by decide +kernel
  have horiginal : (torInetAton signedText fun _ => 0).1 = 0 := by decide +kernel
  refine ⟨hport, horiginal, fun hagrees => ?_⟩
  rw [(hagrees.1 _).mp hport] at horiginal
  exact one_ne_zero horiginal

/-! ## Printing -/

/-- `std.fmt.bufPrint`: the slice that is returned, and the buffer.  What an error leaves in the
buffer is left out. -/
def bufPrint (buf text : List UInt8) : Option (List UInt8 × List UInt8) :=
  if text.length ≤ buf.length then some (text, text ++ buf.drop text.length) else none

/-- `inetNtoa`: the slice that is returned, and the buffer. -/
def inetNtoa (addr : UInt32) (buf : List UInt8) : Except ParseError (List UInt8 × List UInt8) :=
  match bufPrint buf (numeral .dec (addr >>> 24 &&& 0xff).toNat ++ [dot] ++
      numeral .dec (addr >>> 16 &&& 0xff).toNat ++ [dot] ++
      numeral .dec (addr >>> 8 &&& 0xff).toNat ++ [dot] ++
      numeral .dec (addr &&& 0xff).toNat) with
  | some printed => .ok printed
  | none => .error .bufferTooSmall

lemma toNat_and_byte (v : UInt32) : (v &&& 0xff).toNat = v.toUInt8.toNat := by
  rw [UInt32.toNat_and, UInt32.toNat_toUInt8]
  exact Nat.and_two_pow_sub_one_eq_mod _ 8

/-- It is the text of `tor_inet_ntoa`. -/
lemma inetNtoa_eq (v : UInt32) (buf : List UInt8) :
    inetNtoa v buf =
      if (addrQuad v).text.length ≤ buf.length then
        .ok ((addrQuad v).text, (addrQuad v).text ++ buf.drop (addrQuad v).text.length)
      else .error .bufferTooSmall := by
  have htext := dottedQuadText_eq (v >>> 24).toUInt8 (v >>> 16).toUInt8 (v >>> 8).toUInt8 v.toUInt8
  rw [inetNtoa, toNat_and_byte, toNat_and_byte, toNat_and_byte, toNat_and_byte, ← dottedQuadText,
    htext, ← addrQuad, bufPrint]
  by_cases hfits : (addrQuad v).text.length ≤ buf.length
  · rw [if_pos hfits, if_pos hfits]
  · rw [if_neg hfits, if_neg hfits]

/-- A text of digits and dots that `inetAton` reads is the text that is printed. -/
lemma text_of_inetAton {t : CStr} {v : UInt32} (hdigits : DigitsOnly t)
    (h : inetAton t.bytes = .ok v) : t.bytes = (addrQuad v).text := by
  obtain ⟨q, htext, hoctal, rfl⟩ := exists_quad_of_inetAton hdigits h
  rw [text_addrQuad hoctal, htext]

/-- **`inetNtoa` and `inetAton` are inverse, and agree with the originals.**  Every address has one
text, of at most 15 bytes.  `inetNtoa` writes it at the start of any buffer that has room for it,
leaves the rest of the buffer as it was, and has an error if there is no room; `tor_inet_ntoa`
prints the same text; both parsers read it as the address; and no other text of digits and dots is
read as the address. -/
theorem inetNtoa_round_trip (v : UInt32) (dst : AddrBuf) :
    ∃ s : CStr, s.bytes.length ≤ 15 ∧
      (∀ buf, inetNtoa v buf =
        if s.bytes.length ≤ buf.length then
          .ok (s.bytes, s.bytes ++ buf.drop s.bytes.length)
        else .error .bufferTooSmall) ∧
      (∀ buf bufLen, inetNtoaBufLen ≤ bufLen →
        torInetNtoa (storeInAddr dst v) buf bufLen = ((s.bytes.length : ℤ), s.bytes)) ∧
      inetAton s.bytes = .ok v ∧ torInetAton s dst = (1, storeInAddr dst v) ∧
      ∀ t : CStr, DigitsOnly t → inetAton t.bytes = .ok v → t.bytes = s.bytes := by
  have hoctal : (addrQuad v).isOctal = false := byteQuad_isOctal _ _ _ _
  refine ⟨⟨(addrQuad v).text, (addrQuad v).noNul⟩, byteQuad_text_length _ _ _ _, inetNtoa_eq v,
    fun buf bufLen hlen => torInetNtoa_storeInAddr dst v buf hlen, ?_, ?_,
    fun t hdigits h => text_of_inetAton hdigits h⟩
  · have hread := inetAton_text hoctal
    rwa [addrQuad_addr] at hread
  · rw [torInetAton_text dst rfl, hoctal, addrQuad_addr]
    rfl

example : inetNtoa 0x7f000001 (List.replicate 8 0) = .error .bufferTooSmall := by decide +kernel

end Pipe

end TorOnion
