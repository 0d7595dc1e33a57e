import TorOnion.Address.DottedQuad

/-!
# What `tor_inet_pton` accepts

The parser of `add.c` against the grammar of `Address/Ipv6Text.lean`.

The parsing loop is followed on the text between `src` and `eow`, the *body*.  `Ahead` is the
invariant: the body is what is left before `eow`, and when a dotted tail follows, the body is
empty or ends in a colon, so that no group runs into the tail.  Under it `ptonGroup_eq` says
what one group does to the state, with `strtol` and its `0x` prefix out of the way, and the
loop is characterised by two equivalences: `ptonLoop_gapped`, once `::` has been read, and
`ptonLoop_ungapped` before.  The counts checked after the loop then leave exactly the texts of
the grammar.
-/

namespace TorOnion

/-! ## One group -/

/-- What is left to read: the body, then the text from `eow` on. -/
structure Ahead (eow body src : List UInt8) : Prop where
  src_eq : src = body ++ eow
  noNul : (0 : UInt8) ∉ src
  closed : eow = [] ∨ body = [] ∨ body.getLast? = some colon

lemma colon_not_xdigit : isXDigit colon = false := by decide

lemma dot_not_xdigit : isXDigit dot = false := by decide

/-- With a dotted tail ahead, a non-empty body holds a colon. -/
lemma Ahead.colon_mem {eow body src : List UInt8} (h : Ahead eow body src) (hbody : body ≠ [])
    (heow : eow ≠ []) : colon ∈ body := by
  rcases h.closed with h' | h' | h'
  · exact absurd h' heow
  · exact absurd h' hbody
  · exact List.mem_of_getLast? h'

/-- A run of digits that reaches the end of the string leaves no room for a dotted tail. -/
lemma Ahead.eow_eq_nil {eow body src : List UInt8} (h : Ahead eow body src) (hbody : body ≠ [])
    (hno : colon ∉ src) : eow = [] := by
  by_contra heow
  exact hno (h.src_eq ▸ List.mem_append_left _ (h.colon_mem hbody heow))

lemma eq_nil_of_peek_eq_zero {p : List UInt8} (hp : (0 : UInt8) ∉ p) (h : peek p = 0) :
    p = [] := by
  cases p with
  | nil => rfl
  | cons b p => exact absurd (h ▸ List.mem_cons_self) hp

/-- A run of digits that ends at `eow` ends the string. -/
lemma Ahead.eow_eq_nil_of_append {eow body ds : List UInt8} (h : Ahead eow body (ds ++ eow))
    (hbody : body ≠ []) (hds : colon ∉ ds) : eow = [] := by
  by_contra heow
  have hbd : body = ds := List.append_cancel_right h.src_eq.symm
  exact hds (hbd ▸ h.colon_mem hbody heow)

lemma colon_not_mem {ds : List UInt8} (hds : ∀ b ∈ ds, isXDigit b = true) : colon ∉ ds :=
  fun hmem => by simpa [colon_not_xdigit] using hds _ hmem

/-- `groupLen` is the length of the group, also when the group ends the string. -/
lemma groupLen_eq {eow body ds rest : List UInt8} (h : Ahead eow body (ds ++ rest))
    (hbody : body ≠ []) (hds : colon ∉ ds) : groupLen eow (ds ++ rest) rest = ds.length := by
  unfold groupLen
  split
  · rename_i hrest
    have hnil : rest = [] :=
      eq_nil_of_peek_eq_zero (fun hmem => h.noNul (List.mem_append_right _ hmem)) hrest
    have heow : eow = [] := h.eow_eq_nil hbody (by simpa [hnil] using hds)
    simp [hnil, heow]
  · simp

lemma clampLong_bounds {n : ℕ} (h : n < 65536) :
    0 ≤ clampLong false n ∧ clampLong false n < 65536 := by
  rw [clampLong_of_lt (by omega)]
  omega

/-- After an `x` the group is refused, whether `strtol` took the `0x` as a prefix or not. -/
lemma ptonGroup_of_x {eow body q : List UInt8} {st : PtonState} {z x : UInt8}
    (h : Ahead eow body st.src) (hbody : body ≠ []) (hsrc : st.src = z :: x :: q)
    (hz : isXDigit z = true) (hx : x = 120 ∨ x = 88) :
    ptonGroup eow st = .error .returnZero := by
  have hxdigit : isXDigit x = false := by rcases hx with rfl | rfl <;> decide
  have hxcolon : x ≠ colon := by rcases hx with rfl | rfl <;> decide
  have hzcolon : colon ≠ z := (ne_of_isXDigit hz colon_not_xdigit).symm
  have hsecond : isXDigit (peek (st.src.drop 1)) = false := by rw [hsrc]; exact hxdigit
  by_cases hpre : ∃ d q', st.src = 48 :: x :: d :: q' ∧ isXDigit d = true
  · -- the prefix is skipped: at least three bytes are read, and the second is no digit
    obtain ⟨d, q', hsrc', hd⟩ := hpre
    have hnext : (strtol .hex st.src).2 = q'.dropWhile isXDigit := by
      rw [hsrc', strtol_hex_prefixed hx hd]
    have hle := List.length_dropWhile_le isXDigit q'
    have hlen : 1 < groupLen eow st.src (strtol .hex st.src).2 := by
      rw [hnext]
      unfold groupLen
      split
      · rename_i hpeek
        have hnil : q'.dropWhile isXDigit = [] :=
          eq_nil_of_peek_eq_zero (fun hmem => h.noNul (by
            rw [hsrc']
            exact List.mem_cons_of_mem _ (List.mem_cons_of_mem _ (List.mem_cons_of_mem _
              ((List.dropWhile_suffix _).mem hmem))))) hpeek
        have hall : ∀ b ∈ q', isXDigit b = true := List.dropWhile_eq_nil_iff.mp hnil
        have hno : colon ∉ st.src := by
          rw [hsrc']
          simp only [List.mem_cons, not_or]
          refine ⟨by decide, hxcolon.symm, (ne_of_isXDigit hd colon_not_xdigit).symm, ?_⟩
          exact colon_not_mem hall
        rw [h.eow_eq_nil hbody hno, hsrc']
        simp
      · rw [hsrc']
        simp only [List.length_cons]
        omega
    simp only [ptonGroup]
    split_ifs <;> first | rfl | (exfalso; simp_all)
  · -- no prefix: one digit is read, and what follows is neither a colon nor `eow`
    have hskip : skipHexPrefix ([z] ++ x :: q) = [z] ++ x :: q := by
      cases q with
      | nil => rfl
      | cons d q =>
          have hnot : ¬ (z = 48 ∧ (x = 120 ∨ x = 88) ∧ isXDigit d = true) := by
            rintro ⟨rfl, -, hd⟩
            exact hpre ⟨d, q, hsrc, hd⟩
          simp only [List.cons_append, List.nil_append, skipHexPrefix, hnot, if_false]
    have hread : strtol .hex st.src = (clampLong false (digitsValue .hex [z]), x :: q) := by
      rw [hsrc]
      exact strtol_hex (by simp) (by simpa using hz) (by simpa using hxdigit) hskip
    have hrest : x :: q ≠ eow := by
      rintro rfl
      rw [hsrc] at h
      have := @Ahead.eow_eq_nil_of_append _ _ [z] h hbody (by simpa using hzcolon)
      simp at this
    have hval : digitsValue .hex [z] < 65536 := by
      have := @digitsValue_lt_pow .hex [z] (by simpa [Radix.isDigit] using hz)
      exact this.trans (by simp [Radix.toNat])
    obtain ⟨hr0, hr1⟩ := clampLong_bounds hval
    simp only [ptonGroup, hread]
    split_ifs <;> first | rfl | (exfalso; simp_all)

/-- **One group.**  On a hexadecimal digit the maximal run of digits is read; it is a group when
it has at most four digits and a colon or the end of the words follows. -/
lemma ptonGroup_eq {eow body : List UInt8} {st : PtonState} (h : Ahead eow body st.src)
    (hbody : body ≠ []) {ds rest : List UInt8} (hsrc : st.src = ds ++ rest) (hne : ds ≠ [])
    (hds : ∀ b ∈ ds, isXDigit b = true) (hrest : ∀ b ∈ rest.head?, isXDigit b = false) :
    ptonGroup eow st =
      if ds.length ≤ 4 ∧ (peek rest = colon ∨ rest = eow) then
        .ok { src := rest.drop 1, i := st.i + 1, gapPos := st.gapPos,
              setWords := st.setWords + 1,
              words := st.words.set st.i (UInt16.ofNat (digitsValue .hex ds)) }
      else .error .returnZero := by
  by_cases hx : ∃ z x q, st.src = z :: x :: q ∧ (x = 120 ∨ x = 88)
  · obtain ⟨z, x, q, hzx, hx⟩ := hx
    have hxdigit : isXDigit x = false := by rcases hx with rfl | rfl <;> decide
    have hxcolon : x ≠ colon := by rcases hx with rfl | rfl <;> decide
    -- the run of digits is the one byte before the `x`
    obtain ⟨rfl, rfl⟩ : ds = [z] ∧ rest = x :: q := by
      rw [hzx] at hsrc
      match ds, hne, hds, hsrc with
      | [_], _, _, hsrc => simpa [eq_comm] using hsrc
      | _ :: y :: _, _, hds, hsrc =>
          simp only [List.cons_append, List.cons.injEq] at hsrc
          have := hds y (by simp)
          rw [← hsrc.2.1, hxdigit] at this
          exact absurd this (by decide)
    have hz : isXDigit z = true := hds z (by simp)
    have heow : x :: q ≠ eow := by
      rintro rfl
      rw [hsrc] at h
      have := h.eow_eq_nil_of_append hbody (colon_not_mem hds)
      simp at this
    rw [ptonGroup_of_x h hbody hzx hz hx, if_neg]
    rintro ⟨-, hcolon | hend⟩
    · exact hxcolon hcolon
    · exact heow hend
  · have hskip : skipHexPrefix (ds ++ rest) = ds ++ rest :=
      skipHexPrefix_eq_self fun z x q hzx => by
        by_contra hcon
        exact hx ⟨z, x, q, hsrc.trans hzx, by tauto⟩
    have hread : strtol .hex st.src = (clampLong false (digitsValue .hex ds), rest) := by
      rw [hsrc, strtol_hex hne hds hrest hskip]
    have hlen : groupLen eow st.src rest = ds.length := by
      rw [hsrc] at h ⊢
      exact groupLen_eq h hbody (colon_not_mem hds)
    have hmoved : rest ≠ st.src := by
      intro heq
      have := congrArg List.length (heq.trans hsrc)
      simp only [List.length_append] at this
      exact hne (List.length_eq_zero_iff.mp (by omega))
    have hsecond : ¬ (ds.length > 1 ∧ isXDigit (peek (st.src.drop 1)) = false) := by
      rintro ⟨hlong, hdigit⟩
      match ds, hlong, hds, hsrc with
      | _ :: y :: _, _, hds, hsrc =>
          rw [hsrc] at hdigit
          simp [hds y (by simp)] at hdigit
    by_cases hshort : ds.length ≤ 4
    · have hval : digitsValue .hex ds < 65536 := by
        calc digitsValue .hex ds < 16 ^ ds.length := digitsValue_lt_pow (r := .hex) hds
          _ ≤ 16 ^ 4 := Nat.pow_le_pow_right (by decide) hshort
      obtain ⟨hr0, hr1⟩ := clampLong_bounds hval
      have hof : UInt16.ofInt (clampLong false (digitsValue .hex ds)) =
          UInt16.ofNat (digitsValue .hex ds) := by
        rw [clampLong_of_lt (by omega)]
        show UInt16.ofNat ((digitsValue .hex ds : ℤ) % 2 ^ 16).toNat = _
        congr 1
        omega
      simp only [ptonGroup, hread, hlen, hmoved, if_false, hsecond, hr0, hr1, not_true,
        show ¬ ds.length > 4 by omega, hof, hshort, true_and]
      by_cases hend : peek rest = colon ∨ rest = eow
      · rw [if_pos hend, if_neg (by tauto)]
      · rw [if_neg hend, if_pos (by tauto)]
    · simp only [ptonGroup, hread, hlen, hmoved, if_false, show ds.length > 4 by omega, if_true,
        hshort, false_and]

/-! ## The state after some groups -/

/-- The values written to `words[i]`, `words[i+1]` and so on. -/
def writeFrom (words : List UInt16) (i : ℕ) : List UInt16 → List UInt16
  | [] => words
  | v :: vs => writeFrom (words.set i v) (i + 1) vs

/-- The state after one group, `src` standing behind it. -/
def PtonState.pushOne (st : PtonState) (g : Group) (src : List UInt8) : PtonState :=
  { src := src, i := st.i + 1, gapPos := st.gapPos, setWords := st.setWords + 1,
    words := st.words.set st.i g.value }

/-- The state after the groups `gs`, with the body read to its end. -/
def PtonState.push (st : PtonState) (eow : List UInt8) (gs : List Group) : PtonState :=
  { src := eow, i := st.i + gs.length, gapPos := st.gapPos, setWords := st.setWords + gs.length,
    words := writeFrom st.words st.i (gs.map Group.value) }

/-- The state after the groups `ls`, the gap and the groups `gs`. -/
def PtonState.pushGap (st : PtonState) (eow : List UInt8) (ls gs : List Group) : PtonState :=
  { st.push eow (ls ++ gs) with gapPos := some (st.i + ls.length) }

lemma push_nil {st : PtonState} {eow : List UInt8} (h : st.src = eow) : st.push eow [] = st := by
  subst h
  rfl

lemma push_cons (st : PtonState) (eow src : List UInt8) (g : Group) (gs : List Group) :
    (st.pushOne g src).push eow gs = st.push eow (g :: gs) := by
  simp [PtonState.push, PtonState.pushOne, writeFrom, Nat.add_assoc, Nat.add_comm 1]

lemma pushGap_cons (st : PtonState) (eow src : List UInt8) (g : Group) (ls gs : List Group) :
    (st.pushOne g src).pushGap eow ls gs = st.pushGap eow (g :: ls) gs := by
  simp only [PtonState.pushGap, push_cons, List.cons_append, List.length_cons]
  simp [PtonState.pushOne, Nat.add_assoc, Nat.add_comm 1]

lemma pushGap_nil (st : PtonState) (eow src : List UInt8) (gs : List Group) :
    ({ st with gapPos := some st.i, src := src } : PtonState).push eow gs =
      st.pushGap eow [] gs := rfl

/-! ## Splitting a text into groups -/

@[ext] lemma Group.ext {g h : Group} (hd : g.digits = h.digits) : g = h := by
  cases g
  cases h
  simpa using hd

lemma Group.digits_peek (g : Group) (p : List UInt8) : isXDigit (peek (g.digits ++ p)) = true := by
  obtain ⟨ds, hne, -, hds⟩ := g
  cases ds with
  | nil => exact absurd rfl hne
  | cons b ds => exact hds b (by simp)

/-- A group that a colon follows is the maximal run of digits. -/
lemma Group.append_colon_inj {g h : Group} {p q : List UInt8}
    (heq : g.digits ++ colon :: p = h.digits ++ colon :: q) : g = h ∧ p = q := by
  have hstop : ∀ r : List UInt8, ∀ b ∈ (colon :: r).head?, isXDigit b = false := by
    intro r b hb
    obtain rfl : colon = b := by simpa using hb
    exact colon_not_xdigit
  have hg := span_run g.hex (hstop p)
  have hh := span_run h.hex (hstop q)
  rw [heq] at hg
  refine ⟨Group.ext (hg.1.symm.trans hh.1), ?_⟩
  exact List.tail_eq_of_cons_eq (hg.2.symm.trans hh.2)

lemma Group.digits_ne_append_colon (g : Group) (p q : List UInt8) :
    g.digits ≠ p ++ colon :: q := by
  intro heq
  exact colon_not_mem g.hex (heq ▸ by simp)

lemma Body.nil_inv {gs : List Group} (h : Body gs []) : gs = [] := by
  generalize hb : ([] : List UInt8) = b at h
  cases h with
  | nil => rfl
  | last g => exact absurd hb.symm g.nonempty
  | cons g _ => simp at hb

/-- The first group of a body that starts with a group and a colon. -/
lemma Body.cons_inv {gs : List Group} {g : Group} {b : List UInt8}
    (h : Body gs (g.digits ++ colon :: b)) : ∃ gs', gs = g :: gs' ∧ Body gs' b := by
  generalize hb : g.digits ++ colon :: b = body at h
  cases h with
  | nil => simp at hb
  | last g' => exact absurd hb.symm (g'.digits_ne_append_colon _ _)
  | cons g' h' =>
      obtain ⟨rfl, rfl⟩ := Group.append_colon_inj hb
      exact ⟨_, rfl, h'⟩

lemma Body.last_inv {gs : List Group} {g : Group} (h : Body gs g.digits) : gs = [g] := by
  generalize hb : g.digits = body at h
  cases h with
  | nil => exact absurd hb g.nonempty
  | last g' => rw [Group.ext hb]
  | cons g' h' => exact absurd hb (g.digits_ne_append_colon _ _)

/-- A body is empty or starts with a digit. -/
lemma Body.peek_isXDigit {gs : List Group} {b : List UInt8} (h : Body gs b) (hb : b ≠ []) :
    isXDigit (peek b) = true := by
  cases h with
  | nil => exact absurd rfl hb
  | last g => simpa using g.digits_peek []
  | cons g h => exact g.digits_peek _

/-! ## The loop -/

lemma ptonLoop_of_ok {eow : List UInt8} {st st' : PtonState} (hlt : eow.length < st.src.length)
    (hstep : ptonStep eow st = .ok st') : ptonLoop eow st = ptonLoop eow st' := by
  rw [ptonLoop, dif_pos hlt]
  split
  · rename_i heq
    rw [hstep] at heq
    cases heq
  · rename_i heq
    rw [hstep] at heq
    rw [Except.ok.inj heq]

lemma ptonLoop_of_error {eow : List UInt8} {st : PtonState} {e : PtonExit}
    (hlt : eow.length < st.src.length) (hstep : ptonStep eow st = .error e) :
    ptonLoop eow st = .error e := by
  rw [ptonLoop, dif_pos hlt]
  split
  · rename_i heq
    rw [hstep] at heq
    rw [Except.error.inj heq]
  · rename_i heq
    rw [hstep] at heq
    cases heq

lemma ptonLoop_end {eow : List UInt8} {st : PtonState} (h : st.src.length ≤ eow.length) :
    ptonLoop eow st = .ok st := by
  rw [ptonLoop, dif_neg (by omega)]

namespace Ahead

variable {eow body src : List UInt8}

lemma length_lt (h : Ahead eow body src) (hbody : body ≠ []) : eow.length < src.length := by
  have := List.length_pos_iff.mpr hbody
  rw [h.src_eq, List.length_append]
  omega

lemma peek_src (h : Ahead eow body src) (hbody : body ≠ []) : peek src = peek body := by
  rw [h.src_eq]
  cases body with
  | nil => exact absurd rfl hbody
  | cons b body => rfl

/-- Dropping the front of the body keeps the invariant. -/
lemma drop {front b : List UInt8} (h : Ahead eow (front ++ b) src) : Ahead eow b (b ++ eow) := by
  refine ⟨rfl, ?_, ?_⟩
  · have := h.noNul
    rw [h.src_eq] at this
    exact fun hmem => this (by
      rw [List.append_assoc]
      exact List.mem_append_right _ hmem)
  · rcases h.closed with h' | h' | h'
    · exact .inl h'
    · exact .inr (.inl (List.append_eq_nil_iff.mp h').2)
    · by_cases hb : b = []
      · exact .inr (.inl hb)
      · rw [List.getLast?_append_of_ne_nil _ hb] at h'
        exact .inr (.inr h')

end Ahead

/-- A text that starts with a hexadecimal digit starts with the maximal run of them. -/
lemma exists_xdigit_run {body : List UInt8} (hbody : body ≠ [])
    (hx : isXDigit (peek body) = true) :
    ∃ ds tail, body = ds ++ tail ∧ ds ≠ [] ∧ (∀ b ∈ ds, isXDigit b = true) ∧
      ∀ b ∈ tail.head?, isXDigit b = false := by
  refine ⟨body.takeWhile isXDigit, body.dropWhile isXDigit,
    List.takeWhile_append_dropWhile.symm, ?_, fun b hb => List.mem_takeWhile_imp hb, ?_⟩
  · cases body with
    | nil => exact absurd rfl hbody
    | cons c b =>
        have hc : isXDigit c = true := hx
        rw [List.takeWhile_cons_of_pos hc]
        exact List.cons_ne_nil _ _
  · intro b hb
    have hne : body.dropWhile isXDigit ≠ [] := by
      rintro hnil
      simp [hnil] at hb
    have := List.head_dropWhile_not isXDigit hne
    rw [List.head?_eq_some_head hne, Option.mem_some_iff] at hb
    rwa [← hb]

/-- **What the loop does on a digit.**  Either a group and a colon are read, or a group that
ends the string, or the run of the parser ends because no group starts here. -/
lemma ptonLoop_digit_cases {eow body : List UInt8} {st : PtonState} (h : Ahead eow body st.src)
    (hbody : body ≠ []) (hx : isXDigit (peek st.src) = true) (hi : st.i ≤ 7) :
    (∃ g b, body = Group.digits g ++ colon :: b ∧
        ptonLoop eow st = ptonLoop eow (st.pushOne g (b ++ eow))) ∨
      (∃ g, body = Group.digits g ∧ ptonLoop eow st = .ok (st.push eow [g])) ∨
      ((∀ g b, body ≠ Group.digits g ++ colon :: b) ∧ (∀ g, body ≠ Group.digits g) ∧
        ptonLoop eow st = .error .returnZero) := by
  have hlt := h.length_lt hbody
  have hstep : ptonStep eow st = ptonGroup eow st := by
    rw [ptonStep, if_neg (by omega), if_pos hx]
  rw [h.peek_src hbody] at hx
  obtain ⟨ds, tail, rfl, hne, hds, htail⟩ := exists_xdigit_run hbody hx
  have hsrc : st.src = ds ++ (tail ++ eow) := by rw [h.src_eq, List.append_assoc]
  cases tail with
  | nil =>
      -- the body is one run of digits, so nothing follows it
      have heow : eow = [] := by
        by_contra heow
        exact colon_not_mem hds (by simpa using h.colon_mem hbody heow)
      subst heow
      rw [ptonGroup_eq h hbody hsrc hne hds (by simp)] at hstep
      by_cases hshort : ds.length ≤ 4
      · let g : Group := ⟨ds, hne, hshort, hds⟩
        refine .inr (.inl ⟨g, by simp [g], ?_⟩)
        rw [if_pos ⟨hshort, .inr rfl⟩] at hstep
        rw [ptonLoop_of_ok hlt hstep, ptonLoop_end (by simp)]
        rfl
      · refine .inr (.inr ⟨fun g b heq => ?_, fun g heq => ?_, ?_⟩)
        · rw [List.append_nil] at heq
          exact colon_not_mem hds (heq ▸ by simp)
        · rw [List.append_nil] at heq
          exact hshort (heq ▸ g.length_le)
        · rw [if_neg (fun hc => hshort hc.1)] at hstep
          exact ptonLoop_of_error hlt hstep
  | cons c b =>
      have hc : isXDigit c = false := htail c (by simp)
      have hrest : (c :: b) ++ eow ≠ eow := by
        intro heq
        have := congrArg List.length heq
        simp only [List.length_append, List.length_cons] at this
        omega
      rw [ptonGroup_eq h hbody hsrc hne hds (by simpa using hc)] at hstep
      by_cases hok : ds.length ≤ 4 ∧ c = colon
      · obtain ⟨hshort, rfl⟩ := hok
        let g : Group := ⟨ds, hne, hshort, hds⟩
        refine .inl ⟨g, b, rfl, ?_⟩
        rw [if_pos ⟨hshort, .inl rfl⟩] at hstep
        rw [ptonLoop_of_ok hlt hstep]
        rfl
      · refine .inr (.inr ⟨fun g b' heq => ?_, fun g heq => ?_, ?_⟩)
        · have hg := @span_run _ _ (colon :: b') g.hex (by simp [colon_not_xdigit])
          have hd := @span_run _ _ (c :: b) hds (by simpa using hc)
          rw [heq] at hd
          have hlen : ds = g.digits := hd.1.symm.trans hg.1
          have hcolon := hd.2.symm.trans hg.2
          exact hok ⟨hlen ▸ g.length_le, (List.cons.inj hcolon).1⟩
        · exact absurd (g.hex c (heq ▸ by simp)) (by simp [hc])
        · rw [if_neg (fun hcond => hok ⟨hcond.1, hcond.2.resolve_right hrest⟩)] at hstep
          exact ptonLoop_of_error hlt hstep

lemma ptonLoop_full {eow body : List UInt8} {st : PtonState} (h : Ahead eow body st.src)
    (hbody : body ≠ []) (hi : 7 < st.i) : ptonLoop eow st = .error .returnZero :=
  ptonLoop_of_error (h.length_lt hbody) (by rw [ptonStep, if_pos hi])

lemma Body.length_pos {gs : List Group} {b : List UInt8} (h : Body gs b) (hb : b ≠ []) :
    0 < gs.length := by
  cases h with
  | nil => exact absurd rfl hb
  | last g => simp
  | cons g h => simp

/-- A body that neither is a group nor starts with a group and a colon has no derivation. -/
lemma not_body {gs : List Group} {b : List UInt8} (hb : b ≠ [])
    (hcons : ∀ g b', b ≠ Group.digits g ++ colon :: b') (hlast : ∀ g, b ≠ Group.digits g) :
    ¬ Body gs b := by
  intro h
  cases h with
  | nil => exact hb rfl
  | last g => exact hlast g rfl
  | cons g h => exact hcons g _ rfl

/-- **After the gap.**  The loop ends with the groups of the body written, or refuses the text
when the body is no list of groups or has too many of them. -/
lemma ptonLoop_gapped {eow : List UInt8} (body : List UInt8) (st : PtonState)
    (h : Ahead eow body st.src) (hgap : st.gapPos ≠ none) (hi : st.i ≤ 8) :
    (∃ gs, Body gs body ∧ st.i + gs.length ≤ 8 ∧ ptonLoop eow st = .ok (st.push eow gs)) ∨
      ((∀ gs, Body gs body → 8 < st.i + gs.length) ∧
        ptonLoop eow st = .error .returnZero) := by
  induction hn : body.length using Nat.strong_induction_on generalizing body st with
  | _ n ih =>
  subst hn
  by_cases hbody : body = []
  · subst hbody
    have hsrc : st.src = eow := h.src_eq
    exact .inl ⟨[], .nil, hi, by rw [push_nil hsrc, ptonLoop_end (hsrc ▸ le_rfl)]⟩
  by_cases hfull : 7 < st.i
  · refine .inr ⟨fun gs hgs => ?_, ptonLoop_full h hbody hfull⟩
    have := hgs.length_pos hbody
    omega
  by_cases hx : isXDigit (peek st.src) = true
  · rcases ptonLoop_digit_cases h hbody hx (by omega) with
      ⟨g, b, rfl, hloop⟩ | ⟨g, rfl, hloop⟩ | ⟨hcons, hlast, hloop⟩
    · -- a group and a colon: the rest of the body is shorter
      have hsplit : g.digits ++ colon :: b = (g.digits ++ [colon]) ++ b := by simp
      have hrest : Ahead eow b (st.pushOne g (b ++ eow)).src := (hsplit ▸ h).drop
      have hi' : (st.pushOne g (b ++ eow)).i = st.i + 1 := rfl
      rcases ih b.length (by simp; omega) b _ hrest hgap (by omega) rfl with
        ⟨gs, hgs, hcount, hok⟩ | ⟨hno, herr⟩
      · refine .inl ⟨g :: gs, .cons g hgs, ?_, ?_⟩
        · rw [hi'] at hcount
          simp only [List.length_cons]
          omega
        · rw [hloop, hok, push_cons]
      · refine .inr ⟨fun gs hgs => ?_, by rw [hloop, herr]⟩
        obtain ⟨gs', rfl, hgs'⟩ := hgs.cons_inv
        have := hno gs' hgs'
        rw [hi'] at this
        simp only [List.length_cons]
        omega
    · exact .inl ⟨[g], .last g, by simp; omega, hloop⟩
    · exact .inr ⟨fun gs hgs => absurd hgs (not_body hbody hcons hlast), hloop⟩
  · refine .inr ⟨fun gs hgs => ?_, ptonLoop_of_error (h.length_lt hbody) ?_⟩
    · exact absurd (h.peek_src hbody ▸ hgs.peek_isXDigit hbody) hx
    · rw [ptonStep, if_neg hfull, if_neg hx, if_neg (fun hc => hgap hc.2.2),
        if_neg (fun hc => hgap hc.2.2.2.2)]

/-- How the loop may end before a gap has been read: all groups written, the groups on both
sides of a gap written, or the text refused.  `before` is the text of the groups in front of
the gap. -/
def LoopEnd (eow body : List UInt8) (st : PtonState) (before : List Group → List UInt8) : Prop :=
  (∃ gs, Body gs body ∧ st.i + gs.length ≤ 8 ∧ ptonLoop eow st = .ok (st.push eow gs)) ∨
  (∃ ls gs b, body = before ls ++ colon :: b ∧ Body gs b ∧ st.i + ls.length ≤ 7 ∧
    st.i + ls.length + gs.length ≤ 8 ∧ ptonLoop eow st = .ok (st.pushGap eow ls gs)) ∨
  ((∀ gs, Body gs body → 8 < st.i + gs.length) ∧
    (∀ ls gs b, body = before ls ++ colon :: b → Body gs b →
      7 < st.i + ls.length ∨ 8 < st.i + ls.length + gs.length) ∧
    ptonLoop eow st = .error .returnZero)

lemma closed_cons_append (g : Group) (ls : List Group) (b : List UInt8) :
    closed (g :: ls) ++ colon :: b = g.digits ++ colon :: (closed ls ++ colon :: b) := by
  simp [closed_cons]

/-- A text that starts with neither a digit nor a colon has groups neither alone nor in front
of a gap. -/
lemma loopEnd_of_no_start {eow body : List UInt8} {st : PtonState}
    {before : List Group → List UInt8} (hbody : body ≠ [])
    (hx : ¬ isXDigit (peek body) = true)
    (hno : ∀ ls gs b, body = before ls ++ colon :: b → Body gs b →
      7 < st.i + ls.length ∨ 8 < st.i + ls.length + gs.length)
    (hloop : ptonLoop eow st = .error .returnZero) : LoopEnd eow body st before :=
  .inr (.inr ⟨fun _ hgs => absurd (hgs.peek_isXDigit hbody) hx, hno, hloop⟩)

/-- A digit in front of the gap: what follows the first group decides how the loop ends.
`before` writes groups as `closed` does and starts with a colon when there is none. -/
lemma loopEnd_of_digit {eow body : List UInt8} {st : PtonState}
    {before : List Group → List UInt8} (hcons : ∀ g ls, before (g :: ls) = closed (g :: ls))
    (hnil : ∀ b, peek (before [] ++ colon :: b) = colon) (h : Ahead eow body st.src)
    (hbody : body ≠ []) (hx : isXDigit (peek st.src) = true) (hi : st.i ≤ 7)
    (hrest : ∀ g b, body = Group.digits g ++ colon :: b →
      LoopEnd eow b (st.pushOne g (b ++ eow)) closed) : LoopEnd eow body st before := by
  have hls : ∀ ls b, body = before ls ++ colon :: b →
      ∃ g ls', ls = g :: ls' ∧ body = g.digits ++ colon :: (closed ls' ++ colon :: b) := by
    intro ls b heq
    cases ls with
    | nil =>
        rw [h.peek_src hbody, heq, hnil] at hx
        exact absurd hx (by simp [colon_not_xdigit])
    | cons g ls => exact ⟨g, ls, rfl, by rw [heq, hcons, closed_cons_append]⟩
  rcases ptonLoop_digit_cases h hbody hx hi with
    ⟨g, b, rfl, hloop⟩ | ⟨g, rfl, hloop⟩ | ⟨hno, hlast, hloop⟩
  · have hi' : (st.pushOne g (b ++ eow)).i = st.i + 1 := rfl
    rcases hrest g b rfl with
      ⟨gs, hgs, hcount, hok⟩ | ⟨ls, gs, b', rfl, hgs, hbound, hcount, hok⟩ | ⟨hno, hnogap, herr⟩
    · refine .inl ⟨g :: gs, .cons g hgs, ?_, by rw [hloop, hok, push_cons]⟩
      simp only [List.length_cons]
      omega
    · refine .inr (.inl ⟨g :: ls, gs, b', by rw [hcons, closed_cons_append], hgs, ?_, ?_,
        by rw [hloop, hok, pushGap_cons]⟩)
      all_goals
        simp only [List.length_cons]
        omega
    · refine .inr (.inr ⟨fun gs hgs => ?_, fun ls gs b' heq hgs => ?_, by rw [hloop, herr]⟩)
      · obtain ⟨gs', rfl, hgs'⟩ := hgs.cons_inv
        have := hno gs' hgs'
        simp only [List.length_cons]
        omega
      · obtain ⟨g', ls', rfl, heq'⟩ := hls ls b' heq
        obtain ⟨rfl, hb⟩ := Group.append_colon_inj heq'
        have := hnogap ls' gs b' hb hgs
        simp only [List.length_cons]
        omega
  · refine .inl ⟨[g], .last g, ?_, hloop⟩
    simp only [List.length_singleton]
    omega
  · refine .inr (.inr ⟨fun gs hgs => absurd hgs (not_body hbody hno hlast),
      fun ls gs b heq _ => ?_, hloop⟩)
    obtain ⟨g, ls', -, heq'⟩ := hls ls b heq
    exact absurd heq' (hno _ _)

/-- Where the loop reads a gap, the groups after it decide how the loop ends.  `before []` is what
stands in front of the last colon of the gap. -/
lemma loopEnd_of_gap {eow body b : List UInt8} {st : PtonState}
    {before : List Group → List UInt8} (h : Ahead eow body st.src) (hbody : body ≠ [])
    (hx : ¬ isXDigit (peek body) = true) (hrest : Ahead eow b (b ++ eow)) (hi : st.i ≤ 7)
    (hstep : ptonStep eow st = .ok { st with gapPos := some st.i, src := b ++ eow })
    (hgap : body = before [] ++ colon :: b)
    (hls : ∀ ls b', body = before ls ++ colon :: b' → ls = [] ∧ b' = b) :
    LoopEnd eow body st before := by
  have hloop := ptonLoop_of_ok (h.length_lt hbody) hstep
  rcases ptonLoop_gapped b { st with gapPos := some st.i, src := b ++ eow } hrest (by simp)
    (Nat.le_succ_of_le hi) with ⟨gs, hgs, hcount, hok⟩ | ⟨hno, herr⟩
  · refine .inr (.inl ⟨[], gs, b, hgap, hgs, ?_, ?_, by rw [hloop, hok, pushGap_nil]⟩)
    · simpa using hi
    · simpa using hcount
  · refine loopEnd_of_no_start hbody hx (fun ls gs b' heq hgs => ?_) (by rw [hloop, herr])
    obtain ⟨rfl, rfl⟩ := hls ls b' heq
    exact .inr (by simpa using hno gs hgs)

/-- **Before the gap, with a group read.**  The next colon is the second one of `::`. -/
lemma ptonLoop_ungapped {eow : List UInt8} (body : List UInt8) (st : PtonState)
    (h : Ahead eow body st.src) (hgap : st.gapPos = none) (hi : st.i ≤ 8) (hpos : 0 < st.i) :
    LoopEnd eow body st closed := by
  induction hn : body.length using Nat.strong_induction_on generalizing body st with
  | _ n ih =>
  subst hn
  by_cases hbody : body = []
  · subst hbody
    have hsrc : st.src = eow := h.src_eq
    exact .inl ⟨[], .nil, hi, by rw [push_nil hsrc, ptonLoop_end (hsrc ▸ le_rfl)]⟩
  by_cases hfull : 7 < st.i
  · refine .inr (.inr ⟨fun gs hgs => ?_, fun ls gs b _ _ => .inl (by omega),
      ptonLoop_full h hbody hfull⟩)
    have := hgs.length_pos hbody
    omega
  by_cases hx : isXDigit (peek st.src) = true
  · refine loopEnd_of_digit (fun _ _ => rfl) (fun _ => rfl) h hbody hx (by omega) ?_
    rintro g b rfl
    have hsplit : g.digits ++ colon :: b = (g.digits ++ [colon]) ++ b := by simp
    have hi' : (st.pushOne g (b ++ eow)).i = st.i + 1 := rfl
    exact ih b.length (by simp; omega) b _ (hsplit ▸ h).drop hgap (by omega) (by omega) rfl
  have hx' : ¬ isXDigit (peek body) = true := h.peek_src hbody ▸ hx
  have hls : ∀ ls b, body = closed ls ++ colon :: b → ls = [] ∧ body = colon :: b := by
    intro ls b heq
    cases ls with
    | nil => exact ⟨rfl, heq⟩
    | cons g ls =>
        rw [closed_cons_append] at heq
        exact absurd (heq ▸ g.digits_peek _) hx'
  by_cases hcolon : ∃ b, body = colon :: b
  · -- the second colon: the gap is here
    obtain ⟨b, rfl⟩ := hcolon
    have hsrc : st.src = colon :: (b ++ eow) := h.src_eq
    have hstep : ptonStep eow st = .ok { st with gapPos := some st.i, src := b ++ eow } := by
      rw [ptonStep, if_neg hfull, if_neg hx, if_pos ⟨by rw [hsrc]; rfl, hpos, hgap⟩, hsrc]
      rfl
    have hrest : Ahead eow b (b ++ eow) := @Ahead.drop _ _ [colon] _ h
    refine loopEnd_of_gap h hbody hx' hrest (not_lt.mp hfull) hstep rfl fun ls b' heq => ?_
    obtain ⟨hnil, hb⟩ := hls ls b' heq
    exact ⟨hnil, (List.cons.inj hb).2.symm⟩
  · refine loopEnd_of_no_start hbody hx' (fun ls gs b heq _ => ?_) ?_
    · exact absurd ⟨b, (hls ls b heq).2⟩ hcolon
    · have hpeek : peek st.src ≠ colon := by
        rw [h.peek_src hbody]
        intro hp
        cases body with
        | nil => exact hbody rfl
        | cons c b => exact hcolon ⟨b, by rw [← hp]; rfl⟩
      refine ptonLoop_of_error (h.length_lt hbody) ?_
      rw [ptonStep, if_neg hfull, if_neg hx, if_neg (fun hc => hpeek hc.1),
        if_neg (fun hc => hpeek hc.1)]

/-- The text of the groups in front of a gap, with the first colon of `::`. -/
def beforeGap (ls : List Group) : List UInt8 := joinColon (pieces ls none) ++ [colon]

lemma beforeGap_cons (g : Group) (ls : List Group) : beforeGap (g :: ls) = closed (g :: ls) :=
  (closed_eq_joinColon (by simp)).symm

/-- **The whole loop.**  It starts with no group read, where a gap needs both its colons. -/
lemma ptonLoop_start {eow : List UInt8} (body : List UInt8) (st : PtonState)
    (h : Ahead eow body st.src) (hgap : st.gapPos = none) (hi : st.i = 0) :
    LoopEnd eow body st beforeGap := by
  by_cases hbody : body = []
  · subst hbody
    have hsrc : st.src = eow := h.src_eq
    exact .inl ⟨[], .nil, by simp [hi], by rw [push_nil hsrc, ptonLoop_end (hsrc ▸ le_rfl)]⟩
  by_cases hx : isXDigit (peek st.src) = true
  · refine loopEnd_of_digit beforeGap_cons (fun _ => rfl) h hbody hx (by omega) ?_
    rintro g b rfl
    have hsplit : g.digits ++ colon :: b = (g.digits ++ [colon]) ++ b := by simp
    have hi' : (st.pushOne g (b ++ eow)).i = st.i + 1 := rfl
    exact ptonLoop_ungapped b _ (hsplit ▸ h).drop hgap (by omega) (by omega)
  have hx' : ¬ isXDigit (peek body) = true := h.peek_src hbody ▸ hx
  have hls : ∀ ls b, body = beforeGap ls ++ colon :: b → ls = [] ∧ body = colon :: colon :: b := by
    intro ls b heq
    cases ls with
    | nil => exact ⟨rfl, heq⟩
    | cons g ls =>
        rw [beforeGap_cons, closed_cons_append] at heq
        exact absurd (heq ▸ g.digits_peek _) hx'
  have hfull : ¬ 7 < st.i := by omega
  have hpos : ¬ 0 < st.i := by omega
  by_cases hcolon : ∃ b, body = colon :: colon :: b
  · -- `::` at the start of the text
    obtain ⟨b, rfl⟩ := hcolon
    have hsrc : st.src = colon :: colon :: (b ++ eow) := h.src_eq
    have hlong : (st.src.drop 1).length > eow.length := by
      rw [hsrc]
      simp only [List.drop_succ_cons, List.drop_zero, List.length_cons, List.length_append]
      omega
    have hstep : ptonStep eow st = .ok { st with gapPos := some st.i, src := b ++ eow } := by
      rw [ptonStep, if_neg hfull, if_neg hx, if_neg (fun hc => hpos hc.2.1),
        if_pos ⟨by rw [hsrc]; rfl, hi, hlong, by rw [hsrc]; rfl, hgap⟩, hsrc]
      rfl
    have hrest : Ahead eow b (b ++ eow) := @Ahead.drop _ _ [colon, colon] _ h
    refine loopEnd_of_gap h hbody hx' hrest (not_lt.mp hfull) hstep rfl fun ls b' heq => ?_
    obtain ⟨hnil, hb⟩ := hls ls b' heq
    exact ⟨hnil, (List.cons.inj (List.cons.inj hb).2).2.symm⟩
  · refine loopEnd_of_no_start hbody hx' (fun ls gs b heq _ => ?_) ?_
    · exact absurd ⟨b, (hls ls b heq).2⟩ hcolon
    · refine ptonLoop_of_error (h.length_lt hbody) ?_
      rw [ptonStep, if_neg hfull, if_neg hx, if_neg (fun hc => hpos hc.2.1), if_neg]
      rintro ⟨hfirst, -, hlong, hsecond, -⟩
      -- both colons lie in front of `eow`, so the body starts with them
      rw [h.src_eq] at hfirst hlong hsecond
      match body, hbody, hcolon with
      | [c], _, _ => simp at hlong
      | c :: d :: b, _, hcolon =>
          refine hcolon ⟨b, ?_⟩
          simp only [List.cons_append, peek_cons] at hfirst
          simp only [List.cons_append, peek_cons, List.drop_succ_cons, List.drop_zero] at hsecond
          rw [hfirst, hsecond]

/-! ## Unambiguity

A text has one derivation at most, so that the groups the loop has written are those of every
derivation. -/

lemma Body.unique {gs hs : List Group} {b : List UInt8} (h : Body gs b) (h' : Body hs b) :
    gs = hs := by
  induction h generalizing hs with
  | nil => exact h'.nil_inv.symm
  | last g => exact h'.last_inv.symm
  | cons g _ ih =>
      obtain ⟨hs', rfl, h''⟩ := h'.cons_inv
      rw [ih h'']

/-- A list of groups holds no `::`. -/
lemma not_body_closed_append (ls : List Group) (b : List UInt8) {gs : List Group} :
    ¬ Body gs (closed ls ++ colon :: b) := by
  induction ls generalizing gs with
  | nil =>
      intro h
      exact absurd (h.peek_isXDigit (by simp)) (by simp [colon_not_xdigit])
  | cons g ls ih =>
      intro h
      rw [closed_cons_append] at h
      obtain ⟨gs', -, h'⟩ := h.cons_inv
      exact ih h'

lemma not_body_beforeGap (ls : List Group) (b : List UInt8) {gs : List Group} :
    ¬ Body gs (beforeGap ls ++ colon :: b) := by
  cases ls with
  | nil =>
      intro h
      exact absurd (h.peek_isXDigit (by simp [beforeGap]))
        (by simp [beforeGap, pieces, colon_not_xdigit])
  | cons g ls => exact beforeGap_cons g ls ▸ not_body_closed_append (g :: ls) b

lemma closed_append_inj {ls ms : List Group} {b c : List UInt8}
    (h : closed ls ++ colon :: b = closed ms ++ colon :: c) : ls = ms ∧ b = c := by
  induction ls generalizing ms with
  | nil =>
      cases ms with
      | nil => exact ⟨rfl, (List.cons.inj h).2⟩
      | cons m ms =>
          rw [closed_cons_append] at h
          exact absurd (h ▸ m.digits_peek _) (by simp [colon_not_xdigit])
  | cons l ls ih =>
      cases ms with
      | nil =>
          rw [closed_cons_append] at h
          exact absurd (h ▸ l.digits_peek _) (by simp [colon_not_xdigit])
      | cons m ms =>
          rw [closed_cons_append, closed_cons_append] at h
          obtain ⟨rfl, h'⟩ := Group.append_colon_inj h
          obtain ⟨rfl, rfl⟩ := ih h'
          exact ⟨rfl, rfl⟩

lemma beforeGap_append_inj {ls ms : List Group} {b c : List UInt8}
    (h : beforeGap ls ++ colon :: b = beforeGap ms ++ colon :: c) : ls = ms ∧ b = c := by
  cases ls with
  | nil =>
      cases ms with
      | nil => exact ⟨rfl, (List.cons.inj (List.cons.inj h).2).2⟩
      | cons m ms =>
          rw [beforeGap_cons, closed_cons_append] at h
          exact absurd (h ▸ m.digits_peek _) (by simp [beforeGap, pieces, colon_not_xdigit])
  | cons l ls =>
      cases ms with
      | nil =>
          rw [beforeGap_cons, closed_cons_append] at h
          exact absurd (h ▸ l.digits_peek _) (by simp [beforeGap, pieces, colon_not_xdigit])
      | cons m ms =>
          rw [beforeGap_cons, beforeGap_cons] at h
          exact closed_append_inj h

/-! ## The words after the loop -/

/-- The words before the loop: filled, with the dotted tail at the end. -/
def initWords (q : Option Quad) : List UInt16 :=
  List.replicate (8 - quadWidth q) 0xf8f8 ++ quadWords q

/-- The state the loop starts from. -/
def initState (s : List UInt8) (q : Option Quad) : PtonState :=
  { src := s, i := 0, gapPos := none, setWords := quadWidth q, words := initWords q }

/-- Writing replaces the words from `i` on, one for one. -/
lemma writeFrom_append {vs old : List UInt16} (done rest : List UInt16)
    (h : old.length = vs.length) :
    writeFrom (done ++ old ++ rest) done.length vs = done ++ vs ++ rest := by
  induction vs generalizing done old with
  | nil =>
      obtain rfl := List.length_eq_zero_iff.mp h
      rfl
  | cons v vs ih =>
      cases old with
      | nil => simp at h
      | cons o old =>
          have hset : (done ++ o :: old ++ rest).set done.length v =
              (done ++ [v]) ++ old ++ rest := by simp
          have hlen : done.length + 1 = (done ++ [v]).length := by simp
          rw [writeFrom, hset, hlen, ih (done ++ [v]) (by simpa using h)]
          simp

/-- The words after the groups `gs`: their values, what is left of the filling, the tail. -/
lemma writeFrom_initWords {q : Option Quad} {vs : List UInt16}
    (h : vs.length + quadWidth q ≤ 8) :
    writeFrom (initWords q) 0 vs =
      vs ++ List.replicate (8 - quadWidth q - vs.length) 0xf8f8 ++ quadWords q := by
  have hsplit : initWords q = [] ++ List.replicate vs.length 0xf8f8 ++
      (List.replicate (8 - quadWidth q - vs.length) 0xf8f8 ++ quadWords q) := by
    rw [initWords, List.nil_append, ← List.append_assoc, ← List.replicate_add,
      show vs.length + (8 - quadWidth q - vs.length) = 8 - quadWidth q by omega]
  rw [hsplit]
  simpa using @writeFrom_append vs (List.replicate vs.length 0xf8f8) []
    (List.replicate (8 - quadWidth q - vs.length) 0xf8f8 ++ quadWords q) (by simp)

/-- `if hasDot then 2 else 0`, the width of the tail. -/
lemma quadWidth_eq (q : Option Quad) : (if q.isSome then (2 : ℤ) else 0) = quadWidth q := by
  cases q <;> rfl

/-- Without a gap the words are complete exactly when there are eight. -/
lemma ptonFinish_push (s eow : List UInt8) (q : Option Quad) (gs : List Group) :
    ptonFinish q.isSome ((initState s q).push eow gs) =
      if gs.length + quadWidth q = 8 then .ok (gs.map Group.value ++ quadWords q)
      else .error .returnZero := by
  have hset : ((initState s q).push eow gs).setWords = quadWidth q + gs.length := rfl
  have hgap : ((initState s q).push eow gs).gapPos = none := rfl
  have hwords : ((initState s q).push eow gs).words =
      writeFrom (initWords q) 0 (gs.map Group.value) := rfl
  by_cases h : gs.length + quadWidth q = 8
  · rw [ptonFinish, hset, hgap, if_neg (by simp; omega), if_pos h, hwords,
      writeFrom_initWords (by simpa using h.le)]
    simp [show 8 - quadWidth q - gs.length = 0 by omega]
  · rw [ptonFinish, hset, hgap, if_pos (by simp; omega), if_neg h]

/-- Opening the gap moves the words behind it to the end and leaves zeros. -/
lemma zeroWords_memmoveWords (as bs fill ws : List UInt16) :
    zeroWords (memmoveWords (as ++ bs ++ fill ++ ws) (as.length + fill.length) as.length bs.length)
      as.length fill.length = as ++ List.replicate fill.length 0 ++ bs ++ ws := by
  set words := as ++ bs ++ fill ++ ws with hwords
  set mid := (bs ++ fill ++ ws).take fill.length with hmid
  have hmidlen : mid.length = fill.length := by
    rw [hmid, List.length_take, min_eq_left (by simp; omega)]
  have hfront : words.take (as.length + fill.length) = as ++ mid := by
    rw [hwords, hmid, List.append_assoc, List.append_assoc, List.take_length_add_append,
      List.append_assoc]
  have hback : words.drop (as.length + fill.length + bs.length) = ws := by
    rw [hwords, List.drop_left' (by simp; omega)]
  have hmoved : (words.drop as.length).take bs.length = bs := by
    rw [hwords, List.append_assoc, List.append_assoc, List.drop_left, List.take_left]
  have hmem : memmoveWords words (as.length + fill.length) as.length bs.length =
      as ++ (mid ++ (bs ++ ws)) := by
    simp only [memmoveWords, hfront, hmoved, hback, List.append_assoc]
  have hrest : (as ++ (mid ++ (bs ++ ws))).drop (as.length + fill.length) = bs ++ ws := by
    rw [← List.append_assoc, List.drop_left' (by rw [List.length_append, hmidlen])]
  rw [hmem]
  simp only [zeroWords, List.take_left, hrest, List.append_assoc]

/-- With a gap the words are complete when there are fewer than eight. -/
lemma ptonFinish_pushGap (s eow : List UInt8) (q : Option Quad) (ls gs : List Group) :
    ptonFinish q.isSome ((initState s q).pushGap eow ls gs) =
      if ls.length + gs.length + quadWidth q ≤ 7 then
        .ok (ls.map Group.value ++
          List.replicate (8 - (ls.length + gs.length + quadWidth q)) 0 ++
          gs.map Group.value ++ quadWords q)
      else .error .returnZero := by
  have hset : ((initState s q).pushGap eow ls gs).setWords =
      quadWidth q + (ls ++ gs).length := rfl
  have hgap : ((initState s q).pushGap eow ls gs).gapPos = some ls.length := by
    simp [PtonState.pushGap, initState]
  have hwords : ((initState s q).pushGap eow ls gs).words =
      writeFrom (initWords q) 0 ((ls ++ gs).map Group.value) := rfl
  by_cases h : ls.length + gs.length + quadWidth q ≤ 7
  · have hmove : ((quadWidth q + (ls ++ gs).length : ℕ) : ℤ) - quadWidth q - ls.length =
        gs.length := by simp
    have hlen : 8 - (quadWidth q + (ls ++ gs).length) =
        8 - quadWidth q - ((ls ++ gs).map Group.value).length := by
      rw [List.length_map]
      omega
    have hopen := zeroWords_memmoveWords (ls.map Group.value) (gs.map Group.value)
      (List.replicate (8 - quadWidth q - ((ls ++ gs).map Group.value).length) 0xf8f8)
      (quadWords q)
    rw [ptonFinish, hset, hgap, if_neg (by simp; omega), if_pos h, hwords,
      writeFrom_initWords (by simpa using by omega)]
    simp only [quadWidth_eq, hmove, hlen]
    rw [if_neg (by omega)]
    simp only [List.map_append, List.length_map, List.length_replicate, List.length_append,
      Int.toNat_natCast] at hopen ⊢
    rw [hopen, show 8 - quadWidth q - (ls.length + gs.length) =
      8 - (ls.length + gs.length + quadWidth q) by omega]
  · rw [ptonFinish, hset, hgap, if_pos (by simp; omega), if_neg h]

/-! ## The text in front of the tail -/

/-- The text from `eow` on for an optional tail. -/
def quadText (q : Option Quad) : List UInt8 := q.elim [] Quad.text

/-- The groups behind the last colons of a text: joined at the end of the string, closed in
front of a tail. -/
def spell (q : Option Quad) (gs : List Group) : List UInt8 :=
  if q.isSome then closed gs else joinColon (pieces gs none)

lemma joinColon_pieces (gs : List Group) (q : Option Quad) :
    joinColon (pieces gs q) = spell q gs ++ quadText q := by
  cases q with
  | none => simp [spell, quadText]
  | some q => simpa [spell, quadText] using joinColon_pieces_some gs q

/-- The text of a derivation, cut at `eow`. -/
lemma Ipv6Text.text_eq (t : Ipv6Text) :
    t.text = (match t.right with
      | none => spell t.quad t.left
      | some r => beforeGap t.left ++ colon :: spell t.quad r) ++ quadText t.quad := by
  obtain ⟨l, r, q, count⟩ := t
  cases r with
  | none => exact joinColon_pieces l q
  | some r => simp [Ipv6Text.text, joinColon_pieces, beforeGap]

lemma body_spell (q : Option Quad) (gs : List Group) : Body gs (spell q gs) := by
  unfold spell
  split
  · exact body_closed gs
  · exact body_joinColon gs

/-- A joined list of groups ends in a digit, so it is not followed by `eow` with a tail. -/
lemma getLast?_joinColon {gs : List Group} (h : gs ≠ []) :
    ∃ b ∈ (joinColon (pieces gs none)).getLast?, isXDigit b = true := by
  induction gs with
  | nil => exact absurd rfl h
  | cons g gs ih =>
      cases gs with
      | nil =>
          refine ⟨g.digits.getLast g.nonempty, ?_, g.hex _ (List.getLast_mem _)⟩
          simp [pieces, List.getLast?_eq_some_getLast g.nonempty]
      | cons k gs =>
          obtain ⟨b, hb, hx⟩ := ih (by simp)
          refine ⟨b, ?_, hx⟩
          have hne : joinColon (pieces (k :: gs) none) ≠ [] := by
            rintro hnil
            simp [hnil] at hb
          rw [joinColon_pieces_cons, List.getLast?_append_of_ne_nil _ (by simp),
            List.getLast?_cons_of_ne_nil hne]
          exact hb

/-- The text behind the last colons is spelled as the grammar has it, unless the string ends in
a colon behind a group. -/
lemma Body.eq_spell {q : Option Quad} {gs : List Group} {front b : List UInt8}
    (h : Body gs b) (hahead : Ahead (quadText q) (front ++ b) (front ++ b ++ quadText q))
    (hend : q = none → gs ≠ [] → ¬ ∃ p g, front ++ b = p ++ Group.digits g ++ [colon]) :
    b = spell q gs := by
  by_cases hgs : gs = []
  · subst hgs
    cases h
    simp [spell, pieces]
  cases q with
  | none =>
      rcases h.eq_closed_or_joinColon with hb | hb
      · -- closed at the end of the string
        exfalso
        obtain ⟨gs', g, rfl⟩ := (List.eq_nil_or_concat gs).resolve_left hgs
        refine hend rfl hgs ⟨front ++ closed gs', g, ?_⟩
        rw [hb, List.concat_eq_append, closed_append]
        simp [closed]
      · simpa [spell] using hb
  | some q =>
      rcases h.eq_closed_or_joinColon with hb | hb
      · simpa [spell] using hb
      · -- joined in front of a tail: the body would have to end in a colon
        exfalso
        obtain ⟨c, hc, hx⟩ := getLast?_joinColon hgs
        have hne : b ≠ [] := by
          rintro rfl
          rw [← hb] at hc
          simp at hc
        rcases hahead.closed with hq | hq | hq
        · exact q.text_ne_nil hq
        · exact hne (List.append_eq_nil_iff.mp hq).2
        · rw [List.getLast?_append_of_ne_nil _ hne, hb] at hq
          rw [hq, Option.mem_some_iff] at hc
          exact absurd hx (by rw [← hc]; simp [colon_not_xdigit])

lemma Body.length_le {gs : List Group} {b : List UInt8} (h : Body gs b) :
    gs.length ≤ b.length := by
  induction h with
  | nil => simp
  | last g => exact List.length_pos_iff.mpr g.nonempty
  | cons g _ ih =>
      simp only [List.length_cons, List.length_append]
      omega

/-- The check before the loop sees a colon behind a group at the end of a string. -/
lemma endsInSingleColon_of_group {s p : List UInt8} {g : Group}
    (h : s = p ++ g.digits ++ [colon]) (hlen : 2 < s.length) : endsInSingleColon s = true := by
  obtain ⟨ds, d, hg⟩ := (List.eq_nil_or_concat g.digits).resolve_left g.nonempty
  have hd : d ≠ colon := ne_of_isXDigit (g.hex d (hg ▸ by simp)) colon_not_xdigit
  obtain rfl : s = (p ++ ds) ++ [d, colon] := by rw [h, hg]; simp
  have h1 : ((p ++ ds) ++ [d, colon]).drop ((p ++ ds ++ [d, colon]).length - 1) = [colon] := by
    rw [show (p ++ ds) ++ [d, colon] = (p ++ ds ++ [d]) ++ [colon] by simp,
      List.drop_left' (by simp)]
  have h2 : ((p ++ ds) ++ [d, colon]).drop ((p ++ ds ++ [d, colon]).length - 2) =
      [d, colon] := List.drop_left' (by simp; omega)
  simp only [endsInSingleColon, hlen, h1, h2, peek_cons, decide_true, beq_self_eq_true,
    Bool.and_self, Bool.true_and, bne_iff_ne]
  exact hd

lemma quadWidth_eq_of_quadText {q q' : Option Quad} (h : quadText q = quadText q') :
    quadWidth q = quadWidth q' := by
  cases q with
  | none =>
      cases q' with
      | none => rfl
      | some q' => exact absurd h.symm q'.text_ne_nil
  | some q =>
      cases q' with
      | none => exact absurd h q.text_ne_nil
      | some q' => rfl

/-- With the check before the loop, the text behind the last colons is spelled as the grammar has
it: as many groups as there are words leave no room for a colon at the end. -/
lemma Body.eq_spell_of_check {q : Option Quad} {gs : List Group} (front : List UInt8)
    {b : List UInt8} (h : Body gs b)
    (hahead : Ahead (quadText q) (front ++ b) (front ++ b ++ quadText q))
    (hend : q = none → endsInSingleColon (front ++ b ++ quadText q) = false)
    (hlen : q = none → gs ≠ [] → 2 < (front ++ b).length) : b = spell q gs := by
  refine h.eq_spell hahead fun hq hne => ?_
  rintro ⟨p, g, heq⟩
  subst hq
  have hsingle := endsInSingleColon_of_group heq (hlen rfl hne)
  have hcheck : endsInSingleColon (front ++ b ++ []) = false := hend rfl
  rw [List.append_nil, hsingle] at hcheck
  cases hcheck

/-- A derivation with this tail, read off in front of the tail. -/
lemma Ipv6Text.body_eq {t : Ipv6Text} {q : Option Quad} {body : List UInt8}
    (hq : quadText t.quad = quadText q) (ht : t.text = body ++ quadText q) :
    quadWidth t.quad = quadWidth q ∧ body = match t.right with
      | none => spell t.quad t.left
      | some r => beforeGap t.left ++ colon :: spell t.quad r := by
  rw [t.text_eq, hq] at ht
  exact ⟨quadWidth_eq_of_quadText hq, (List.append_cancel_right ht).symm⟩

/-- Where there is no gap, a derivation has the groups that are there, so they are enough. -/
lemma Body.count_of_text {q : Option Quad} {gs : List Group} {body : List UInt8}
    (h : Body gs body) {t : Ipv6Text} (hq : quadText t.quad = quadText q)
    (ht : t.text = body ++ quadText q) : gs.length + quadWidth q = 8 := by
  obtain ⟨hwidth, hbody⟩ := t.body_eq hq ht
  obtain ⟨l, r, tq, count⟩ := t
  cases r with
  | none =>
      have hl : body = spell tq l := hbody
      have hgl : gs = l := h.unique (hl ▸ body_spell tq l)
      rw [hgl, ← hwidth]
      exact count
  | some r =>
      have hl : body = beforeGap l ++ colon :: spell tq r := hbody
      exact absurd (hl ▸ h) (not_body_beforeGap l _)

/-- Where there is a gap, a derivation has it at the same place, with the groups that are there on
both sides. -/
lemma Body.count_of_text_gap {q : Option Quad} {ls gs : List Group} {b : List UInt8}
    (h : Body gs b) {t : Ipv6Text} (hq : quadText t.quad = quadText q)
    (ht : t.text = beforeGap ls ++ colon :: b ++ quadText q) :
    ls.length + gs.length + quadWidth q ≤ 7 := by
  obtain ⟨hwidth, hbody⟩ := t.body_eq hq ht
  obtain ⟨l, r, tq, count⟩ := t
  cases r with
  | none =>
      have hl : beforeGap ls ++ colon :: b = spell tq l := hbody
      exact absurd (hl ▸ body_spell tq l) (not_body_beforeGap ls b)
  | some r =>
      obtain ⟨hl, hr⟩ := beforeGap_append_inj hbody
      have hgr : gs = r := h.unique (hr ▸ body_spell tq r)
      rw [hl, hgr, ← hwidth]
      exact count

/-- **The parser behind its first tests.**  With the tail found, the loop and the checks after
it accept exactly the texts of the grammar with that tail, and store what they denote. -/
lemma ptonLoop_finish {s body : List UInt8} {q : Option Quad} (hsrc : s = body ++ quadText q)
    (h : Ahead (quadText q) body s) (hend : q = none → endsInSingleColon s = false) :
    (∃ t : Ipv6Text, t.text = s ∧
        ptonLoop (quadText q) (initState s q) >>= ptonFinish q.isSome = .ok t.words) ∨
      ((∀ t : Ipv6Text, quadText t.quad = quadText q → t.text ≠ s) ∧
        ptonLoop (quadText q) (initState s q) >>= ptonFinish q.isSome =
          .error .returnZero) := by
  subst hsrc
  rcases ptonLoop_start body (initState (body ++ quadText q) q) h rfl rfl with
    ⟨gs, hgs, -, hloop⟩ | ⟨ls, gs, b, rfl, hgs, -, -, hloop⟩ | ⟨hno, hnogap, hloop⟩
  · -- no gap
    have hfinish := ptonFinish_push (body ++ quadText q) (quadText q) q gs
    rw [hloop]
    by_cases hcount : gs.length + quadWidth q = 8
    · have hspell : body = spell q gs := by
        refine hgs.eq_spell_of_check [] h hend fun hq _ => ?_
        have hlen := hgs.length_le
        have hwidth : quadWidth q = 0 := by rw [hq]; rfl
        rw [List.nil_append]
        omega
      let t : Ipv6Text := ⟨gs, none, q, hcount⟩
      refine .inl ⟨t, ?_, ?_⟩
      · rw [t.text_eq, hspell]
      · rw [if_pos hcount] at hfinish
        exact hfinish
    · refine .inr ⟨fun t hq ht => hcount (hgs.count_of_text hq ht), ?_⟩
      rw [if_neg hcount] at hfinish
      exact hfinish
  · -- a gap
    have hfinish := ptonFinish_pushGap (beforeGap ls ++ colon :: b ++ quadText q) (quadText q) q
      ls gs
    rw [hloop]
    by_cases hcount : ls.length + gs.length + quadWidth q ≤ 7
    · have hspell : b = spell q gs := by
        rw [List.append_cons] at h hend
        refine hgs.eq_spell_of_check (beforeGap ls ++ [colon]) h hend fun _ hne => ?_
        have hlen := hgs.length_le
        have hpos := List.length_pos_iff.mpr hne
        simp only [beforeGap, List.length_append, List.length_singleton]
        omega
      let t : Ipv6Text := ⟨ls, some gs, q, hcount⟩
      refine .inl ⟨t, ?_, ?_⟩
      · rw [t.text_eq, hspell]
      · rw [if_pos hcount] at hfinish
        exact hfinish
    · refine .inr ⟨fun t hq ht => hcount (hgs.count_of_text_gap hq ht), ?_⟩
      rw [if_neg hcount] at hfinish
      exact hfinish
  · -- refused inside the loop
    refine .inr ⟨fun t hq ht => ?_, by rw [hloop]; rfl⟩
    obtain ⟨hwidth, hbody⟩ := t.body_eq hq ht
    obtain ⟨l, r, tq, count⟩ := t
    cases r with
    | none =>
        have hl : body = spell tq l := hbody
        have hbig := hno l (hl ▸ body_spell tq l)
        have hcount : l.length + quadWidth tq = 8 := count
        simp only [initState] at hbig
        omega
    | some r =>
        have hbig := hnogap l r _ hbody (body_spell tq r)
        have hcount : l.length + r.length + quadWidth tq ≤ 7 := count
        simp only [initState] at hbig
        omega

/-! ## The texts of the grammar under the first tests -/

lemma dot_not_mem_joinColon (gs : List Group) : dot ∉ joinColon (pieces gs none) := by
  intro hmem
  rcases mem_joinColon hmem with h | h
  · simp [dot_not_xdigit] at h
  · exact absurd h (by decide)

lemma dot_not_mem_beforeGap (gs : List Group) : dot ∉ beforeGap gs := by
  intro hmem
  rcases List.mem_append.mp hmem with h | h
  · exact dot_not_mem_joinColon gs h
  · exact absurd (List.mem_singleton.mp h) (by decide)

lemma Quad.dot_mem_text (q : Quad) : dot ∈ q.text := by simp [Quad.text]

/-- A text without a dotted tail holds no dot. -/
lemma Ipv6Text.dot_not_mem {t : Ipv6Text} (h : t.quad = none) : dot ∉ t.text := by
  obtain ⟨l, r, q, count⟩ := t
  obtain rfl : q = none := h
  rw [Ipv6Text.text_eq]
  cases r with
  | none => simpa [spell, quadText] using dot_not_mem_joinColon l
  | some r =>
      have hdc : dot ≠ colon := by decide
      simpa [spell, quadText, hdc] using ⟨dot_not_mem_beforeGap l, dot_not_mem_joinColon r⟩

/-- A closed list of groups ends in a colon. -/
lemma exists_closed_eq {gs : List Group} (h : gs ≠ []) :
    ∃ p, closed gs = p ++ [colon] ∧ dot ∉ p :=
  ⟨_, closed_eq_joinColon h, dot_not_mem_joinColon gs⟩

/-- A text with a dotted tail is a colon and the tail behind a text without dots. -/
lemma Ipv6Text.exists_pre {t : Ipv6Text} {q : Quad} (h : t.quad = some q) :
    ∃ pre, t.text = pre ++ colon :: q.text ∧ dot ∉ pre := by
  obtain ⟨l, r, tq, count⟩ := t
  obtain rfl : tq = some q := h
  rw [Ipv6Text.text_eq]
  cases r with
  | none =>
      have hne : l ≠ [] := by
        rintro rfl
        simp [quadWidth] at count
      obtain ⟨p, hp, hdot⟩ := exists_closed_eq hne
      exact ⟨p, by simp [spell, quadText, hp], hdot⟩
  | some r =>
      by_cases hr : r = []
      · subst hr
        exact ⟨beforeGap l, by simp [spell, quadText], dot_not_mem_beforeGap l⟩
      · obtain ⟨p, hp, hdot⟩ := exists_closed_eq hr
        refine ⟨beforeGap l ++ colon :: p, by simp [spell, quadText, hp], ?_⟩
        have hdc : dot ≠ colon := by decide
        simpa [hdc] using ⟨dot_not_mem_beforeGap l, hdot⟩

/-- The walk back from the first dot finds the tail of a derivation. -/
lemma Ipv6Text.dottedTail_text {t : Ipv6Text} {q : Quad} (h : t.quad = some q) :
    ∃ pre w6 w7, q.words = [w6, w7] ∧ t.text = pre ++ colon :: q.text ∧
      t.text.idxOf? dot = some (pre.length + 1 + q.a.digits.length) ∧
      dottedTail t.text (pre.length + 1 + q.a.digits.length) = some (pre.length + 1, w6, w7) := by
  obtain ⟨pre, hpre, hdot⟩ := t.exists_pre h
  obtain ⟨w6, w7, hwords, htail⟩ := dottedTail_of_quad pre q
  have hidx := @idxOf?_dot_quad (pre ++ [colon]) q (by simpa using ⟨hdot, by decide⟩)
  refine ⟨pre, w6, w7, hwords, hpre, ?_, hpre ▸ htail⟩
  rw [hpre, List.append_cons, hidx]
  simp

/-- Two derivations of one text have the same tail. -/
lemma Ipv6Text.quad_eq_of_text_eq {t t' : Ipv6Text} (h : t.text = t'.text) :
    quadText t.quad = quadText t'.quad ∧ quadWords t.quad = quadWords t'.quad := by
  have hmixed : ∀ {u u' : Ipv6Text} {q : Quad}, u.text = u'.text → u.quad = none →
      ¬ u'.quad = some q := by
    intro u u' q htext hu hu'
    obtain ⟨pre, hpre, -⟩ := u'.exists_pre hu'
    refine u.dot_not_mem hu (htext ▸ hpre ▸ ?_)
    exact List.mem_append_right _ (List.mem_cons_of_mem _ q.dot_mem_text)
  cases hq : t.quad with
  | none =>
      cases hq' : t'.quad with
      | none => exact ⟨rfl, rfl⟩
      | some q' => exact absurd hq' (hmixed h hq)
  | some q =>
      cases hq' : t'.quad with
      | none => exact absurd hq (hmixed h.symm hq')
      | some q' =>
          obtain ⟨pre, w6, w7, hwords, hpre, hidx, htail⟩ := t.dottedTail_text hq
          obtain ⟨pre', w6', w7', hwords', hpre', hidx', htail'⟩ := t'.dottedTail_text hq'
          rw [h, hidx', Option.some.injEq] at hidx
          rw [h, ← hidx, htail'] at htail
          obtain ⟨hlen, rfl, rfl⟩ : pre'.length = pre.length ∧ w6' = w6 ∧ w7' = w7 := by
            simpa using htail
          have htexts := (List.append_inj (hpre'.symm.trans (h ▸ hpre)) hlen).2
          exact ⟨(List.cons.inj htexts).2.symm, hwords.trans hwords'.symm⟩

/-- **The grammar is unambiguous**: what a text denotes does not depend on the derivation. -/
lemma Ipv6Text.words_eq_of_text_eq {t t' : Ipv6Text} (h : t.text = t'.text) :
    t.words = t'.words := by
  obtain ⟨hquad, hwords⟩ := Ipv6Text.quad_eq_of_text_eq h
  have hwidth := quadWidth_eq_of_quadText hquad
  rw [t.text_eq, t'.text_eq, hquad] at h
  have hcut := List.append_cancel_right h
  obtain ⟨l, r, q, count⟩ := t
  obtain ⟨l', r', q', count'⟩ := t'
  cases r with
  | none =>
      cases r' with
      | none =>
          have hl : spell q l = spell q' l' := hcut
          obtain rfl : l = l' := (body_spell q l).unique (hl ▸ body_spell q' l')
          exact congrArg (l.map Group.value ++ ·) hwords
      | some r' =>
          have hl : spell q l = beforeGap l' ++ colon :: spell q' r' := hcut
          exact absurd (hl ▸ body_spell q l) (not_body_beforeGap _ _)
  | some r =>
      cases r' with
      | none =>
          have hl : beforeGap l ++ colon :: spell q r = spell q' l' := hcut
          exact absurd (hl ▸ body_spell q' l') (not_body_beforeGap _ _)
      | some r' =>
          obtain ⟨rfl, hr⟩ := beforeGap_append_inj hcut
          obtain rfl : r = r' := (body_spell q r).unique (hr ▸ body_spell q' r')
          simp only at hwidth hwords
          simp only [Ipv6Text.words, hwidth, hwords]

lemma endsInSingleColon_eq_false {s : List UInt8} {b : UInt8} (h : s.getLast? = some b)
    (hb : b ≠ colon) : endsInSingleColon s = false := by
  obtain ⟨p, rfl⟩ := List.getLast?_eq_some_iff.mp h
  simp [endsInSingleColon, hb]

lemma endsInSingleColon_double (p : List UInt8) :
    endsInSingleColon (p ++ [colon, colon]) = false := by
  have hdrop : (p ++ [colon, colon]).drop ((p ++ [colon, colon]).length - 2) =
      [colon, colon] := List.drop_left' (by simp)
  simp only [endsInSingleColon, hdrop, peek_cons, bne_self_eq_false, Bool.and_false]

/-- No text of the grammar ends in a single colon. -/
lemma Ipv6Text.not_endsInSingleColon (t : Ipv6Text) : endsInSingleColon t.text = false := by
  obtain ⟨l, r, q, count⟩ := t
  rw [Ipv6Text.text_eq]
  have hjoin : ∀ (p : List UInt8) (gs : List Group), gs ≠ [] →
      endsInSingleColon (p ++ joinColon (pieces gs none)) = false := by
    intro p gs hgs
    obtain ⟨b, hb, hx⟩ := getLast?_joinColon hgs
    have hne : joinColon (pieces gs none) ≠ [] := by
      rintro hnil
      simp [hnil] at hb
    refine endsInSingleColon_eq_false (b := b) ?_ (ne_of_isXDigit hx colon_not_xdigit)
    rw [List.getLast?_append_of_ne_nil _ hne]
    exact hb
  cases q with
  | some q =>
      have hlast : q.text.getLast? = some (q.d.digits.getLast q.d.nonempty) := by
        simp [Quad.text, q.d.nonempty, List.getLast?_eq_some_getLast]
      have hdigit := isXDigit_of_isDigit (q.d.dec _ (List.getLast_mem q.d.nonempty))
      refine endsInSingleColon_eq_false (b := q.d.digits.getLast q.d.nonempty) ?_
        (ne_of_isXDigit hdigit colon_not_xdigit)
      show (_ ++ q.text).getLast? = _
      rw [List.getLast?_append_of_ne_nil _ q.text_ne_nil]
      exact hlast
  | none =>
      simp only [spell, quadText, Option.isSome_none, Bool.false_eq_true, if_false,
        Option.elim_none, List.append_nil]
      cases r with
      | none =>
          have hne : l ≠ [] := by
            rintro rfl
            exact absurd count (by decide)
          simpa using hjoin [] l hne
      | some r =>
          by_cases hr : r = []
          · simpa [hr, beforeGap, pieces] using endsInSingleColon_double _
          · simpa using hjoin (beforeGap l ++ [colon]) r hr

/-! ## The whole parser -/

/-- A derivation of a string with a dot ends in a quad, and the walk back finds it. -/
lemma Ipv6Text.dottedTail_of_dot (t : Ipv6Text) {s : List UInt8} {k : ℕ}
    (hidx : s.idxOf? dot = some k) (ht : t.text = s) :
    ∃ pre q w6 w7, t.quad = some q ∧ s = pre ++ colon :: Quad.text q ∧
      k = pre.length + 1 + q.a.digits.length ∧
      dottedTail s k = some (pre.length + 1, w6, w7) := by
  subst ht
  cases hq : t.quad with
  | none =>
      have hno := List.idxOf?_eq_none_iff.mpr (t.dot_not_mem hq)
      rw [hno] at hidx
      cases hidx
  | some q =>
      obtain ⟨pre, w6, w7, -, hpre, hk, htail⟩ := t.dottedTail_text hq
      obtain rfl : k = _ := Option.some.inj (hidx.symm.trans hk)
      exact ⟨pre, q, w6, w7, rfl, hpre, rfl, htail⟩

/-- **The parser decides the grammar.**  On a string without NUL the `AF_INET6` branch either
stores the words of a derivation of the string, or refuses a string without derivation; no
assertion fails. -/
theorem ptonIpv6Words_cases {s : List UInt8} (hs : (0 : UInt8) ∉ s) :
    (∃ t : Ipv6Text, t.text = s ∧ ptonIpv6Words s = .ok t.words) ∨
      ((∀ t : Ipv6Text, t.text ≠ s) ∧ ptonIpv6Words s = .error .returnZero) := by
  by_cases hend : endsInSingleColon s = true
  · refine .inr ⟨fun t ht => ?_, by rw [ptonIpv6Words, if_pos hend]⟩
    rw [← ht, t.not_endsInSingleColon] at hend
    exact absurd hend (by decide)
  rw [ptonIpv6Words, if_neg hend]
  cases hidx : s.idxOf? dot with
  | none =>
      have hdot : dot ∉ s := List.idxOf?_eq_none_iff.mp hidx
      have h := @ptonLoop_finish s s none (by simp [quadText])
        ⟨by simp [quadText], hs, .inl rfl⟩ (fun _ => by simpa using hend)
      rcases h with h | ⟨hno, herr⟩
      · exact .inl h
      · refine .inr ⟨fun t ht => ?_, herr⟩
        cases hq : t.quad with
        | none => exact hno t (by rw [hq]) ht
        | some q =>
            obtain ⟨pre, hpre, -⟩ := t.exists_pre hq
            refine hdot (ht ▸ hpre ▸ ?_)
            exact List.mem_append_right _ (List.mem_cons_of_mem _ q.dot_mem_text)
  | some k =>
      have hquad := fun (t : Ipv6Text) => t.dottedTail_of_dot hidx
      cases k with
      | zero =>
          refine .inr ⟨fun t ht => ?_, rfl⟩
          obtain ⟨pre, q, -, -, -, -, hk, -⟩ := hquad t ht
          omega
      | succ k =>
          cases htail : dottedTail s (k + 1) with
          | none =>
              refine .inr ⟨fun t ht => ?_, by simp only [htail]⟩
              obtain ⟨pre, q, w6, w7, -, -, -, h⟩ := hquad t ht
              rw [htail] at h
              cases h
          | some found =>
              obtain ⟨eow, w6, w7⟩ := found
              obtain ⟨pre, q, hpre, rfl, hwords⟩ := dottedTail_some htail
              have hsplit : s = (pre ++ [colon]) ++ quadText (some q) := by
                rw [hpre]
                simp [quadText]
              have hdrop : s.drop (pre.length + 1) = quadText (some q) := by
                rw [hsplit, List.drop_left' (by simp)]
              have hinit : (filledWords.set 6 w6).set 7 w7 = initWords (some q) := by
                simp only [initWords, quadWords, Option.elim_some, hwords]
                rfl
              have h := @ptonLoop_finish s (pre ++ [colon]) (some q) hsplit
                ⟨hsplit, hs, .inr (.inr (by simp))⟩ (fun hq => by cases hq)
              simp only [htail, hdrop, hinit]
              rcases h with h | ⟨hno, herr⟩
              · exact .inl h
              · refine .inr ⟨fun t ht => ?_, herr⟩
                obtain ⟨pre', q', w6', w7', hq', hpre', -, h'⟩ := hquad t ht
                rw [htail] at h'
                obtain ⟨hlen, -, -⟩ : pre.length = pre'.length ∧ w6 = w6' ∧ w7 = w7' := by
                  simpa using h'
                refine hno t ?_ ht
                have htexts := (List.append_inj (hpre.symm.trans hpre') hlen).2
                rw [hq']
                exact (List.cons.inj htexts).2.symm

/-- A text of the grammar is parsed into the words it denotes. -/
lemma ptonIpv6Words_text {s : List UInt8} (hs : (0 : UInt8) ∉ s) {t : Ipv6Text}
    (ht : t.text = s) : ptonIpv6Words s = .ok t.words := by
  rcases ptonIpv6Words_cases hs with ⟨t', ht', hok⟩ | ⟨hno, -⟩
  · rw [hok, Ipv6Text.words_eq_of_text_eq (ht.trans ht'.symm)]
  · exact absurd ht (hno t)

/-- **`tor_inet_pton` on IPv6 text.**  On every string the call returns: 1 with the value of the
text when the string is in the grammar, and 0 with `dst` untouched when it is not.  In
particular no assertion fails. -/
theorem torInetPton_inet6 (s : CStr) (dst : AddrBuf) :
    ∃ ret buf, torInetPton .inet6 s dst = some (ret, buf) ∧
      (ret = 1 ↔ ∃ t : Ipv6Text, t.text = s.bytes) ∧
      (∀ t : Ipv6Text, t.text = s.bytes → buf = t.value) ∧
      (ret ≠ 1 → ret = 0 ∧ buf = dst) := by
  rcases ptonIpv6Words_cases s.noNul with ⟨t, ht, hok⟩ | ⟨hno, herr⟩
  · refine ⟨1, wordsToAddr t.words, by simp only [torInetPton, hok], ?_, fun t' ht' => ?_, ?_⟩
    · exact ⟨fun _ => ⟨t, ht⟩, fun _ => rfl⟩
    · rw [Ipv6Text.words_eq_of_text_eq (ht.trans ht'.symm), wordsToAddr_words]
    · exact fun h => absurd rfl h
  · refine ⟨0, dst, by simp only [torInetPton, herr], ⟨fun h => ?_, fun ⟨t, ht⟩ => ?_⟩, ?_, ?_⟩
    · exact absurd h (by decide)
    · exact absurd ht (hno t)
    · exact fun t ht => absurd ht (hno t)
    · exact fun _ => ⟨rfl, rfl⟩

end TorOnion
