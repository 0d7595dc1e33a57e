import TorOnion.Address.Pton

/-!
# What `tor_inet_ntop` prints

The printer of `add.c` against the grammar of `Address/Ipv6Text.lean`: what it prints for an
address is a text of the grammar that denotes the words of the address, so that the parser
reads the address back.

A printed word is a `Group` and a printed byte an `Octet`.  Of the search for the longest gap
only one fact matters to the round trip, `gapPosition_spec`: the gap starts on a zero word.
The printing loop is followed from the back: the words after the gap, the gap, and the words
before it.  The buffer never fills, which `printWords` needs at every word: before word `i` it
holds at most `5 * i` bytes.
-/

namespace TorOnion

/-! ## Words and bytes as text -/

/-- The group `"%x"` prints for a word. -/
def hexGroup (w : UInt16) : Group where
  digits := numeral .hex w.toNat
  nonempty := numeral_ne_nil _ _
  length_le := numeral_length_le (by decide) w.toNat_lt
  hex := fun _ hb => isDigit_of_mem_numeral hb

/-- The octet `"%d"` prints for a byte. -/
def byteOctet (b : UInt8) : Octet where
  digits := numeral .dec b.toNat
  nonempty := numeral_ne_nil _ _
  length_le := numeral_length_le (by decide) (lt_trans b.toNat_lt (by decide))
  dec := fun _ hb => isDigit_of_mem_numeral hb
  value_le := by
    rw [numeral_value]
    have := b.toNat_lt
    omega

/-- The dotted quad of four bytes. -/
def byteQuad (a b c d : UInt8) : Quad := ⟨byteOctet a, byteOctet b, byteOctet c, byteOctet d⟩

@[simp] lemma hexGroup_value (w : UInt16) : (hexGroup w).value = w := by
  simp [Group.value, hexGroup, numeral_value]

@[simp] lemma value_comp_hexGroup : Group.value ∘ hexGroup = id := funext hexGroup_value

lemma byteOctet_value (b : UInt8) : (byteOctet b).value = b.toNat := numeral_value _ _

lemma dottedQuadText_eq (a b c d : UInt8) : dottedQuadText a b c d = (byteQuad a b c d).text := by
  simp [dottedQuadText, byteQuad, Quad.text, byteOctet]

lemma two_mul_lt (i : Fin 8) : 2 * i.val < 16 := by omega

lemma two_mul_add_one_lt (i : Fin 8) : 2 * i.val + 1 < 16 := by omega

lemma addrWord_toNat (addr : AddrBuf) (i : Fin 8) :
    (addrWord addr i).toNat =
      (addr ⟨2 * i, two_mul_lt i⟩).toNat * 256 +
        (addr ⟨2 * i + 1, two_mul_add_one_lt i⟩).toNat := by
  have hhi := (addr ⟨2 * i, by omega⟩).toNat_lt
  have hlo := (addr ⟨2 * i + 1, by omega⟩).toNat_lt
  simp only [addrWord, UInt16.toNat_add, UInt16.toNat_shiftLeft, UInt8.toNat_toUInt16]
  simp only [UInt16.reduceToNat, Nat.reduceMod, Nat.shiftLeft_eq]
  omega

/-- The words hold the bytes of the address. -/
lemma wordsToAddr_addrWords (addr : AddrBuf) : wordsToAddr (addrWords addr) = addr := by
  funext k
  have hk : k.val / 2 < 8 := by omega
  have hget : (addrWords addr).getD (k / 2) 0 = addrWord addr ⟨k / 2, hk⟩ := by
    rw [addrWords, List.getD_eq_getElem _ _ (by simpa using hk), List.getElem_ofFn]
  have hword := addrWord_toNat addr ⟨k / 2, hk⟩
  have hhi := (addr ⟨2 * (k / 2), by omega⟩).toNat_lt
  have hlo := (addr ⟨2 * (k / 2) + 1, by omega⟩).toNat_lt
  apply uint8_ext
  simp only [wordsToAddr, hget]
  by_cases heven : k.val % 2 = 0
  · have hidx : (⟨2 * (k / 2), by omega⟩ : Fin 16) = k := Fin.ext (by simp only; omega)
    simp only [hidx] at hword hhi
    simp only [heven, if_true, UInt16.toNat_toUInt8, UInt16.toNat_shiftRight, hword]
    simp only [UInt16.reduceToNat, Nat.reduceMod, Nat.shiftRight_eq_div_pow]
    omega
  · have hidx : (⟨2 * (k / 2) + 1, by omega⟩ : Fin 16) = k := Fin.ext (by simp only; omega)
    simp only [hidx] at hword hlo
    simp only [heven, if_false, UInt16.toNat_toUInt8, hword]
    omega

/-! ## The gap -/

/-- Wherever the search finds a gap, the word there is zero. -/
lemma findGap_spec (words : List UInt16) (i longestGapLen : ℕ) (longestGapPos : Option ℕ)
    (h : ∀ g, longestGapPos = some g → words[g]? = some 0) :
    ∀ g, (findGap words i longestGapLen longestGapPos).2 = some g → words[g]? = some 0 := by
  induction i, longestGapLen, longestGapPos using findGap.induct words with
  | case1 i len pos hi hzero curGapLen hlonger ih =>
      rw [findGap, dif_pos hi, if_pos hzero, if_pos hlonger]
      refine ih fun g hg => ?_
      obtain rfl := Option.some.inj hg
      rw [List.getElem?_eq_getElem hi, hzero]
  | case2 i len pos hi hzero curGapLen hshorter ih =>
      rw [findGap, dif_pos hi, if_pos hzero, if_neg hshorter]
      exact ih h
  | case3 i len pos hi hzero ih =>
      rw [findGap, dif_pos hi, if_neg hzero]
      exact ih h
  | case4 i len pos hi =>
      rw [findGap, dif_neg hi]
      exact h

lemma gapPosition_spec {words : List UInt16} {g : ℕ} (h : gapPosition words = some g) :
    words[g]? = some 0 := by
  simp only [gapPosition] at h
  split at h
  · cases h
  · exact findGap_spec words 0 0 none (by simp) g h

/-- The length of the run of zeros at a zero word. -/
def gapLength (words : List UInt16) (g : ℕ) : ℕ := 1 + zeroRun (words.drop (g + 1))

/-- The words around the gap, and the zeros in it. -/
lemma words_eq_around_gap {words : List UInt16} {g : ℕ} (h : words[g]? = some 0) :
    words = words.take g ++ List.replicate (gapLength words g) 0 ++
      words.drop (g + gapLength words g) := by
  obtain ⟨hg, hzero⟩ := List.getElem?_eq_some_iff.mp h
  have hrun : (words.drop (g + 1)).takeWhile (· == 0) =
      List.replicate (zeroRun (words.drop (g + 1))) 0 := by
    rw [zeroRun, List.eq_replicate_iff]
    exact ⟨rfl, fun w hw => by simpa using List.mem_takeWhile_imp hw⟩
  have hrest : words.drop (g + gapLength words g) =
      (words.drop (g + 1)).dropWhile (· == 0) := by
    rw [gapLength, ← add_assoc, ← List.drop_drop, zeroRun]
    generalize words.drop (g + 1) = ws
    calc ws.drop (ws.takeWhile (· == 0)).length
        = (ws.takeWhile (· == 0) ++ ws.dropWhile (· == 0)).drop
            (ws.takeWhile (· == 0)).length := by rw [List.takeWhile_append_dropWhile]
      _ = ws.dropWhile (· == 0) := List.drop_left
  calc words = words.take g ++ words.drop g := (List.take_append_drop g words).symm
    _ = words.take g ++ 0 :: words.drop (g + 1) := by
        rw [List.drop_eq_getElem_cons hg, hzero]
    _ = words.take g ++ 0 :: (List.replicate (zeroRun (words.drop (g + 1))) 0 ++
          words.drop (g + gapLength words g)) := by
        rw [hrest, ← hrun, List.takeWhile_append_dropWhile]
    _ = _ := by
        rw [gapLength, Nat.add_comm 1, List.replicate_succ]
        simp

/-! ## The printing loop -/

/-- A text that fits the buffer with its terminator is written whole. -/
lemma torSnprintf_fits {buf text : List UInt8} {size : ℕ} (h : text.length < size) :
    (torSnprintf buf size text).2 = text := by
  rw [torSnprintf, if_neg (by omega), if_neg (by omega)]

/-- A word is printed whole while the buffer holds at most `5 * i` bytes. -/
lemma torSnprintf_word {buf : List UInt8} {i : ℕ} (w : UInt16) (hi : i < 8)
    (hbuf : buf.length ≤ 5 * i) :
    (torSnprintf [] (ntopBufSize - buf.length) (numeral .hex w.toNat)).2 =
      (hexGroup w).digits := by
  have hlen : (numeral .hex w.toNat).length ≤ 4 := (hexGroup w).length_le
  have hsize : ntopBufSize = 64 := rfl
  exact torSnprintf_fits (by omega)

/-- From a word behind the gap on, the loop prints what is left of the words. -/
lemma printWords_after {words : List UInt16} (hwords : words.length = 8) (gapPos : Option ℕ)
    (i : ℕ) (buf : List UInt8) (hbuf : buf.length ≤ 5 * i)
    (hgap : ∀ g, gapPos = some g → g < i) :
    printWords words gapPos i buf =
      buf ++ joinColon (pieces ((words.drop i).map hexGroup) none) := by
  rw [printWords]
  by_cases hi : i < words.length
  · have hno : ¬ (words[i] = 0 ∧ gapPos = some i) := fun h => lt_irrefl i (hgap i h.2)
    have hword := torSnprintf_word words[i] (by omega) hbuf
    have hlen := (hexGroup words[i]).length_le
    rw [dif_pos hi, if_neg hno, List.drop_eq_getElem_cons hi]
    simp only [hword]
    by_cases hlast : i = 7
    · have hdone : words.drop (i + 1) = [] := List.drop_eq_nil_of_le (by omega)
      rw [if_neg (by omega), printWords, dif_neg (by omega), hdone]
      simp [pieces]
    · have hbuf' : (buf ++ (hexGroup words[i]).digits ++ [colon]).length ≤ 5 * (i + 1) := by
        simp only [List.length_append, List.length_singleton]
        omega
      have hnext : (words.drop (i + 1)).map hexGroup ≠ [] := by
        simp only [ne_eq, List.map_eq_nil_iff, List.drop_eq_nil_iff]
        omega
      rw [if_pos hlast, printWords_after hwords gapPos (i + 1) _ hbuf'
        (fun g hg => (hgap g hg).trans (by omega)), List.map_cons]
      have hjoin : joinColon (pieces (hexGroup words[i] :: (words.drop (i + 1)).map hexGroup) none)
          = (hexGroup words[i]).digits ++
            colon :: joinColon (pieces ((words.drop (i + 1)).map hexGroup) none) :=
        joinColon_cons _ (by simpa [pieces] using hnext)
      rw [hjoin]
      simp
  · have hdone : words.drop i = [] := List.drop_eq_nil_of_le (by omega)
    rw [dif_neg hi, hdone]
    simp [pieces]
termination_by words.length - i

/-- At the gap the loop prints its colons and goes on behind it. -/
lemma printWords_at {words : List UInt16} (hwords : words.length = 8) {g : ℕ}
    (hzero : words[g]? = some 0) (buf : List UInt8) (hbuf : buf.length ≤ 5 * g) :
    printWords words (some g) g buf =
      (if g = 0 then buf ++ [colon] else buf) ++ colon ::
        joinColon (pieces ((words.drop (g + gapLength words g)).map hexGroup) none) := by
  obtain ⟨hg, hzero'⟩ := List.getElem?_eq_some_iff.mp hzero
  have hbuf' : ((if g = 0 then buf ++ [colon] else buf) ++ [colon]).length ≤
      5 * (g + gapLength words g) := by
    have hpos : 1 ≤ gapLength words g := Nat.le_add_right 1 _
    split <;> simp only [List.length_append, List.length_singleton] <;> omega
  have hbehind : ∀ g', some g = some g' → g' < g + gapLength words g := by
    intro g' h
    obtain rfl := Option.some.inj h
    simp only [gapLength]
    omega
  rw [printWords, dif_pos hg, if_pos ⟨hzero', rfl⟩]
  have hafter := printWords_after hwords (some g) (g + gapLength words g) _ hbuf' hbehind
  simp only [gapLength] at hafter ⊢
  rw [hafter]
  simp

/-- Before the gap the loop prints the words, each with its colon. -/
lemma printWords_before {words : List UInt16} (hwords : words.length = 8) {g : ℕ}
    (hg : g < 8) (i : ℕ) (buf : List UInt8) (hi : i ≤ g) (hbuf : buf.length ≤ 5 * i) :
    ∃ buf', buf'.length ≤ 5 * g ∧ buf' = buf ++ closed (((words.take g).drop i).map hexGroup) ∧
      printWords words (some g) i buf = printWords words (some g) g buf' := by
  by_cases hlt : i < g
  · have hi' : i < words.length := by omega
    have hword := torSnprintf_word words[i] (by omega) hbuf
    have hlen := (hexGroup words[i]).length_le
    have hno : ¬ (words[i] = 0 ∧ some g = some i) := by
      rintro ⟨-, h⟩
      have := Option.some.inj h
      omega
    have hstep : printWords words (some g) i buf =
        printWords words (some g) (i + 1) (buf ++ (hexGroup words[i]).digits ++ [colon]) := by
      rw [printWords, dif_pos hi', if_neg hno]
      simp only [hword]
      rw [if_pos (by omega)]
    obtain ⟨buf', hbuf', heq, hrest⟩ := printWords_before hwords hg (i + 1)
      (buf ++ (hexGroup words[i]).digits ++ [colon]) hlt (by
        simp only [List.length_append, List.length_singleton]
        omega)
    refine ⟨buf', hbuf', ?_, hstep.trans hrest⟩
    have hcons : (words.take g).drop i = words[i] :: (words.take g).drop (i + 1) := by
      rw [List.drop_eq_getElem_cons (by simpa using ⟨hlt, hi'⟩), List.getElem_take]
    rw [heq, hcons, List.map_cons, closed_cons]
    simp
  · obtain rfl : i = g := by omega
    exact ⟨buf, hbuf, by simp, rfl⟩
termination_by g - i

/-- Without a gap the loop prints all words. -/
lemma printWords_none {words : List UInt16} (hwords : words.length = 8) :
    printWords words none 0 [] = joinColon (pieces (words.map hexGroup) none) := by
  simpa using printWords_after hwords none 0 [] (by simp) (by simp)

/-- With a gap the loop prints the words before it, `::`, and the words after it. -/
lemma printWords_some {words : List UInt16} (hwords : words.length = 8) {g : ℕ}
    (hzero : words[g]? = some 0) :
    printWords words (some g) 0 [] =
      joinColon (pieces ((words.take g).map hexGroup) none) ++ [colon, colon] ++
        joinColon (pieces ((words.drop (g + gapLength words g)).map hexGroup) none) := by
  have hg : g < 8 := hwords ▸ (List.getElem?_eq_some_iff.mp hzero).1
  obtain ⟨buf, hbuf, rfl, hprint⟩ :=
    printWords_before hwords hg 0 [] (Nat.zero_le g) (by simp)
  set left := (words.take g).map hexGroup with hleft
  have hbefore : (if g = 0 then closed left ++ [colon] else closed left) = beforeGap left := by
    cases g with
    | zero => simp [hleft, beforeGap, pieces]
    | succ g =>
        have hne : left ≠ [] := by
          simp only [hleft, ne_eq, List.map_eq_nil_iff, List.take_eq_nil_iff]
          rintro (h | rfl)
          · cases h
          · cases hwords
        rw [if_neg (by simp), closed_eq_joinColon hne, beforeGap]
  have hat := printWords_at hwords hzero _ hbuf
  simp only [List.nil_append, List.drop_zero] at hprint hat
  rw [hprint, hat, hbefore]
  simp [beforeGap]

/-- The general form: the words, with the gap as `::`. -/
lemma exists_text_printWords {words : List UInt16} (hwords : words.length = 8)
    {gapPos : Option ℕ} (hgap : ∀ g, gapPos = some g → words[g]? = some 0) :
    ∃ t : Ipv6Text, t.text = printWords words gapPos 0 [] ∧ t.words = words := by
  cases gapPos with
  | none =>
      refine ⟨⟨words.map hexGroup, none, none, by simpa [quadWidth] using hwords⟩, ?_, ?_⟩
      · exact (printWords_none hwords).symm
      · simp [Ipv6Text.words, quadWords]
  | some g =>
      have hzero := hgap g rfl
      have hpos : 1 ≤ gapLength words g := Nat.le_add_right 1 _
      have hsplit := words_eq_around_gap hzero
      set left := (words.take g).map hexGroup with hleft
      set right := (words.drop (g + gapLength words g)).map hexGroup with hright
      have hlength : left.length + gapLength words g + right.length = 8 := by
        have := congrArg List.length hsplit
        simp only [List.length_append, List.length_replicate, hwords] at this
        simpa only [hleft, hright, List.length_map] using this.symm
      have hcount : left.length + right.length + quadWidth none ≤ 7 := by
        rw [show quadWidth none = 0 from rfl]
        omega
      refine ⟨⟨left, some right, none, hcount⟩, ?_, ?_⟩
      · exact (printWords_some hwords hzero).symm
      · have hfill : 8 - (left.length + right.length + quadWidth none) = gapLength words g := by
          rw [show quadWidth none = 0 from rfl]
          omega
        simp only [Ipv6Text.words, hfill, quadWords, Option.elim_none, List.append_nil]
        simpa [hleft, hright] using hsplit.symm

/-! ## The text of an address -/

/-- The last two words of an address as the words of its dotted quad. -/
lemma byteQuad_words (addr : AddrBuf) :
    (byteQuad (addr 12) (addr 13) (addr 14) (addr 15)).words =
      [addrWord addr 6, addrWord addr 7] := by
  have hword : ∀ i : Fin 8, UInt16.ofNat ((addr ⟨2 * i, by omega⟩).toNat * 256 +
      (addr ⟨2 * i + 1, by omega⟩).toNat) = addrWord addr i := by
    intro i
    rw [← addrWord_toNat, UInt16.ofNat_toNat]
  simp only [Quad.words, byteQuad, byteOctet_value]
  exact congrArg₂ (fun a b => [a, b]) (hword 6) (hword 7)

/-- A printed quad has at most fifteen bytes. -/
lemma byteQuad_text_length (a b c d : UInt8) : (byteQuad a b c d).text.length ≤ 15 := by
  have ha := (byteOctet a).length_le
  have hb := (byteOctet b).length_le
  have hc := (byteOctet c).length_le
  have hd := (byteOctet d).length_le
  simp only [Quad.text, byteQuad, List.length_append, List.length_cons]
  omega

/-- **What is printed is a text of the grammar**, and it denotes the words of the address. -/
lemma exists_text_ntopIpv6Text (addr : AddrBuf) :
    ∃ t : Ipv6Text, t.text = ntopIpv6Text addr ∧ t.words = addrWords addr := by
  set q := byteQuad (addr 12) (addr 13) (addr 14) (addr 15) with hq
  have hlen : q.text.length ≤ 15 := byteQuad_text_length _ _ _ _
  have hsize : ntopBufSize = 64 := rfl
  by_cases hembedded : isEmbeddedIpv4 (addrWords addr) = true
  · have hlist : addrWords addr = [addrWord addr 0, addrWord addr 1, addrWord addr 2,
        addrWord addr 3, addrWord addr 4, addrWord addr 5, addrWord addr 6, addrWord addr 7] := by
      simp [addrWords]
    have hzeros : addrWords addr =
        List.replicate 5 0 ++ [addrWord addr 5] ++ [addrWord addr 6, addrWord addr 7] := by
      simp only [isEmbeddedIpv4, hlist, Bool.and_eq_true, beq_iff_eq] at hembedded
      obtain ⟨⟨⟨⟨⟨h0, h1⟩, h2⟩, h3⟩, h4⟩, -⟩ := hembedded
      simp only [List.getD_cons_zero, List.getD_cons_succ] at h0 h1 h2 h3 h4
      rw [hlist, h0, h1, h2, h3, h4]
      rfl
    have h5 : (addrWords addr).getD 5 0 = addrWord addr 5 := by rw [hlist]; rfl
    by_cases hword5 : addrWord addr 5 = 0
    · -- `::a.b.c.d`
      refine ⟨⟨[], some [], some q, by simp [quadWidth]⟩, ?_, ?_⟩
      · simp only [ntopIpv6Text, hembedded, if_true, h5, hword5, dottedQuadText_eq, ← hq]
        rw [torSnprintf_fits (by simp; omega)]
        simp [Ipv6Text.text, pieces]
      · rw [hzeros, hword5]
        simp [Ipv6Text.words, quadWords, quadWidth, hq, byteQuad_words, List.replicate]
    · -- `::ffff:a.b.c.d`
      have hlen5 := (hexGroup (addrWord addr 5)).length_le
      refine ⟨⟨[], some [hexGroup (addrWord addr 5)], some q, by simp [quadWidth]⟩, ?_, ?_⟩
      · simp only [ntopIpv6Text, hembedded, if_true, h5, if_neg hword5, dottedQuadText_eq, ← hq]
        rw [torSnprintf_fits (by
          simp only [hexGroup] at hlen5
          simp only [List.length_append, List.length_cons, List.length_nil]
          omega)]
        simp [Ipv6Text.text, pieces, joinColon_cons, hexGroup]
      · rw [hzeros]
        simp [Ipv6Text.words, quadWords, quadWidth, hq, byteQuad_words, List.replicate]
  · have hwords : (addrWords addr).length = 8 := by simp [addrWords]
    have hprint : ntopIpv6Text addr =
        printWords (addrWords addr) (gapPosition (addrWords addr)) 0 [] := by
      simp only [ntopIpv6Text, if_neg hembedded]
    rw [hprint]
    exact exists_text_printWords hwords fun g hg => gapPosition_spec hg

/-- No text of the grammar holds a NUL. -/
lemma Ipv6Text.noNul (t : Ipv6Text) : (0 : UInt8) ∉ t.text := by
  have hpart : ∀ gs q, (0 : UInt8) ∉ joinColon (pieces gs q) := by
    intro gs q hmem
    cases q with
    | none =>
        rcases mem_joinColon hmem with h | h <;> exact absurd h (by decide)
    | some q =>
        rw [joinColon_pieces_some] at hmem
        rcases List.mem_append.mp hmem with h | h
        · rcases mem_closed h with h | h <;> exact absurd h (by decide)
        · rcases Quad.mem_text h with h | h <;> exact absurd h (by decide)
  have hcolon : (0 : UInt8) ≠ colon := by decide
  obtain ⟨l, r, q, count⟩ := t
  cases r with
  | none => exact hpart l q
  | some r => simpa [Ipv6Text.text, hcolon] using ⟨hpart l none, hpart r q⟩

/-- **Printing and parsing an IPv6 address.**  The text `tor_inet_ntop` writes into a buffer
that holds it is read by `tor_inet_pton` as the sixteen bytes that were printed. -/
theorem torInetPton_torInetNtop (addr : AddrBuf) :
    ∃ s : CStr,
      (∀ dst len, s.bytes.length < len → torInetNtop .inet6 addr dst len = (true, s.bytes)) ∧
        ∀ dst, torInetPton .inet6 s dst = some (1, addr) := by
  obtain ⟨t, htext, hwords⟩ := exists_text_ntopIpv6Text addr
  refine ⟨⟨t.text, t.noNul⟩, fun dst len hlen => ?_, fun dst => ?_⟩
  · have hfits : (ntopIpv6Text addr).length < len := htext ▸ hlen
    have hcopy : (ntopIpv6Text addr).take (len - 1) = ntopIpv6Text addr :=
      List.take_of_length_le (by omega)
    simp only [torInetNtop, strlcpy, htext, hcopy]
    rw [if_neg (by omega), if_neg (by omega)]
  · have hparse : ptonIpv6Words t.text = .ok t.words := ptonIpv6Words_text t.noNul rfl
    simp only [torInetPton, hparse, hwords, wordsToAddr_addrWords]

end TorOnion
