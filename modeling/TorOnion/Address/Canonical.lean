import TorOnion.Address.Ntop

/-!
# What `tor_inet_ntop` prints is canonical

Of the spellings that an IPv6 address has, `tor_inet_ntop` prints one: every word in lower case
without leading zeros, and `::` for the leftmost of the longest runs of two or more zero words.
`Canonical` states this of the words alone: a `ZeroRun` is any place where zeros stand in a row,
and the run that is replaced is compared with all the others.

The search of the source goes from run to run.  `findGap_longest` is its invariant: the length it
has found bounds every run that starts before the word it is at, and strictly every run that
starts before the place it has found.
-/

namespace TorOnion

/-! ## The canonical text -/

/-- The words in hexadecimal, joined by `:`. -/
def hexJoined (words : List UInt16) : List UInt8 :=
  joinColon (words.map fun w => numeral .hex w.toNat)

/-- Zeros in a row among the words, with what stands on either side. -/
structure ZeroRun (words : List UInt16) where
  left : List UInt16
  length : ℕ
  right : List UInt16
  words_eq : words = left ++ List.replicate length 0 ++ right

/-- No run is longer, and none of the same length starts further to the left. -/
def ZeroRun.IsLeftmostLongest {words : List UInt16} (run : ZeroRun words) : Prop :=
  ∀ other : ZeroRun words, other.length ≤ run.length ∧
    (other.length = run.length → run.left.length ≤ other.left.length)

/-- The canonical text of eight words. -/
inductive Canonical (words : List UInt16) : List UInt8 → Prop
  | plain (h : ∀ run : ZeroRun words, run.length ≤ 1) : Canonical words (hexJoined words)
  | gap (run : ZeroRun words) (hlong : 2 ≤ run.length) (hbest : run.IsLeftmostLongest) :
      Canonical words (hexJoined run.left ++ [colon, colon] ++ hexJoined run.right)

lemma joinColon_hexGroup (words : List UInt16) :
    joinColon (pieces (words.map hexGroup) none) = hexJoined words := by
  simp only [pieces, hexJoined, Option.toList_none, List.map_nil, List.append_nil, List.map_map]
  rfl

/-! ## Runs of zeros -/

variable {words : List UInt16}

lemma zeroRun_cons_zero (ws : List UInt16) : zeroRun (0 :: ws) = 1 + zeroRun ws := by
  simp [zeroRun, Nat.add_comm]

lemma zeroRun_cons_ne {w : UInt16} (h : w ≠ 0) (ws : List UInt16) : zeroRun (w :: ws) = 0 := by
  simp [zeroRun, h]

lemma zeroRun_drop_of_zero {i : ℕ} (hi : i < words.length) (hzero : words[i] = 0) :
    zeroRun (words.drop i) = 1 + zeroRun (words.drop (i + 1)) := by
  rw [List.drop_eq_getElem_cons hi, hzero, zeroRun_cons_zero]

lemma zeroRun_drop_of_ne {i : ℕ} (hi : i < words.length) (hne : words[i] ≠ 0) :
    zeroRun (words.drop i) = 0 := by
  rw [List.drop_eq_getElem_cons hi, zeroRun_cons_ne hne]

/-- Inside a run, what is left of it has become shorter. -/
lemma zeroRun_drop_le (ws : List UInt16) (k : ℕ) (hk : k ≤ zeroRun ws) :
    zeroRun (ws.drop k) ≤ zeroRun ws - k := by
  induction k generalizing ws with
  | zero => simp
  | succ k ih =>
      cases ws with
      | nil => simp [zeroRun]
      | cons w ws =>
          by_cases hw : w = 0
          · subst hw
            rw [zeroRun_cons_zero] at hk ⊢
            have := ih ws (by omega)
            rw [List.drop_succ_cons]
            omega
          · rw [zeroRun_cons_ne hw] at hk
            omega

/-- A run is no longer than the zeros that stand from its start on. -/
lemma ZeroRun.length_le (run : ZeroRun words) :
    run.length ≤ zeroRun (words.drop run.left.length) := by
  obtain ⟨left, n, right, rfl⟩ := run
  have hdrop : (left ++ List.replicate n 0 ++ right).drop left.length =
      List.replicate n 0 ++ right := by
    rw [List.append_assoc, List.drop_left]
  simp only [hdrop]
  clear hdrop
  induction n with
  | zero => exact Nat.zero_le _
  | succ n ih =>
      rw [List.replicate_succ, List.cons_append, zeroRun_cons_zero]
      omega

lemma gapLength_eq {g : ℕ} (hzero : words[g]? = some 0) :
    gapLength words g = zeroRun (words.drop g) := by
  obtain ⟨hg, hzero'⟩ := List.getElem?_eq_some_iff.mp hzero
  exact (zeroRun_drop_of_zero hg hzero').symm

/-! ## The search -/

/-- What the search has found before it looks at word `i`. -/
structure GapFound (words : List UInt16) (i longestGapLen : ℕ) (longestGapPos : Option ℕ) :
    Prop where
  le : ∀ j < i, zeroRun (words.drop j) ≤ longestGapLen
  none : longestGapPos = none → longestGapLen = 0
  some : ∀ g, longestGapPos = some g → zeroRun (words.drop g) = longestGapLen ∧
    ∀ j < g, zeroRun (words.drop j) < longestGapLen

/-- From word `i` on the search finds the leftmost of the longest runs. -/
lemma findGap_longest {i longestGapLen : ℕ} {longestGapPos : Option ℕ}
    (h : GapFound words i longestGapLen longestGapPos) :
    ∀ n, GapFound words n (findGap words i longestGapLen longestGapPos).1
      (findGap words i longestGapLen longestGapPos).2 := by
  induction i, longestGapLen, longestGapPos using findGap.induct words with
  | case1 i len pos hi hzero curGapLen hlonger ih =>
      rw [findGap, dif_pos hi, if_pos hzero, if_pos hlonger]
      have hcur : zeroRun (words.drop i) = curGapLen := zeroRun_drop_of_zero hi hzero
      refine ih ⟨fun j hj => ?_, fun hnone => ?_, fun g hg => ?_⟩
      · by_cases hbefore : j < i
        · exact (h.le j hbefore).trans hlonger.le
        · have hinside := zeroRun_drop_le (words.drop i) (j - i) (by omega)
          rw [List.drop_drop, show i + (j - i) = j by omega] at hinside
          omega
      · cases hnone
      · obtain rfl := Option.some.inj hg
        exact ⟨hcur, fun j hj => (h.le j hj).trans_lt hlonger⟩
  | case2 i len pos hi hzero curGapLen hshorter ih =>
      rw [findGap, dif_pos hi, if_pos hzero, if_neg hshorter]
      have hcur : zeroRun (words.drop i) = curGapLen := zeroRun_drop_of_zero hi hzero
      refine ih ⟨fun j hj => ?_, h.none, h.some⟩
      by_cases hbefore : j < i
      · exact h.le j hbefore
      · have hinside := zeroRun_drop_le (words.drop i) (j - i) (by omega)
        rw [List.drop_drop, show i + (j - i) = j by omega] at hinside
        omega
  | case3 i len pos hi hne ih =>
      rw [findGap, dif_pos hi, if_neg hne]
      refine ih ⟨fun j hj => ?_, h.none, h.some⟩
      rcases Nat.lt_succ_iff_lt_or_eq.mp hj with hbefore | rfl
      · exact h.le j hbefore
      · rw [zeroRun_drop_of_ne hi hne]
        exact Nat.zero_le _
  | case4 i len pos hi =>
      rw [findGap, dif_neg hi]
      refine fun n => ⟨fun j _ => ?_, h.none, h.some⟩
      by_cases hbefore : j < i
      · exact h.le j hbefore
      · rw [List.drop_eq_nil_of_le (by omega)]
        exact Nat.zero_le _

lemma findGap_start (words : List UInt16) (n : ℕ) :
    GapFound words n (findGap words 0 0 none).1 (findGap words 0 0 none).2 :=
  findGap_longest ⟨fun _ hj => absurd hj (Nat.not_lt_zero _), fun _ => rfl,
    fun _ hg => by cases hg⟩ n

/-- Without a gap to compress, every run is a single zero. -/
lemma gapPosition_eq_none (h : gapPosition words = none) (run : ZeroRun words) :
    run.length ≤ 1 := by
  have hfound := findGap_start words (run.left.length + 1)
  have hle := run.length_le.trans (hfound.le _ (Nat.lt_succ_self _))
  simp only [gapPosition] at h
  split at h
  · omega
  · have := hfound.none h
    omega

/-- The gap that is compressed is the leftmost of the longest runs. -/
lemma gapPosition_eq_some {g : ℕ} (h : gapPosition words = some g) :
    2 ≤ zeroRun (words.drop g) ∧ ∀ run : ZeroRun words,
      run.length ≤ zeroRun (words.drop g) ∧
        (run.length = zeroRun (words.drop g) → g ≤ run.left.length) := by
  simp only [gapPosition] at h
  split at h
  · cases h
  · rename_i hlong
    have hat : ∀ n, _ := fun n => findGap_start words n
    obtain ⟨hlen, hleft⟩ := (hat 0).some g h
    refine ⟨by omega, fun run => ⟨?_, fun heq => ?_⟩⟩
    · have := (hat (run.left.length + 1)).le _ (Nat.lt_succ_self _)
      exact hlen ▸ run.length_le.trans this
    · by_contra hbefore
      have := hleft _ (not_le.mp hbefore)
      have := run.length_le
      omega

/-- The loop prints the canonical text. -/
lemma canonical_printWords (hwords : words.length = 8) :
    Canonical words (printWords words (gapPosition words) 0 []) := by
  cases hgap : gapPosition words with
  | none =>
      rw [printWords_none hwords, joinColon_hexGroup]
      exact .plain (gapPosition_eq_none hgap)
  | some g =>
      have hzero := gapPosition_spec hgap
      have hg : g < words.length := (List.getElem?_eq_some_iff.mp hzero).1
      obtain ⟨hlong, hbest⟩ := gapPosition_eq_some hgap
      rw [printWords_some hwords hzero, joinColon_hexGroup, joinColon_hexGroup]
      rw [← gapLength_eq hzero] at hlong hbest
      refine .gap ⟨words.take g, gapLength words g, words.drop (g + gapLength words g),
        words_eq_around_gap hzero⟩ hlong fun other => ?_
      rw [List.length_take, min_eq_left hg.le]
      exact hbest other

/-- There is one canonical text. -/
theorem Canonical.unique {text text' : List UInt8} (h : Canonical words text)
    (h' : Canonical words text') : text = text' := by
  cases h with
  | plain h =>
      cases h' with
      | plain => rfl
      | gap run hlong => exact absurd (h run) (by omega)
  | gap run hlong hbest =>
      cases h' with
      | plain h' => exact absurd (h' run) (by omega)
      | gap run' hlong' hbest' =>
          have hlength : run.length = run'.length :=
            le_antisymm (hbest' run).1 (hbest run').1
          have hleft : run.left.length = run'.left.length :=
            le_antisymm ((hbest run').2 hlength.symm) ((hbest' run).2 hlength)
          have hwords : run.left ++ (List.replicate run.length 0 ++ run.right) =
              run'.left ++ (List.replicate run'.length 0 ++ run'.right) := by
            rw [← List.append_assoc, ← List.append_assoc, ← run.words_eq, ← run'.words_eq]
          obtain ⟨hl, hrest⟩ := List.append_inj hwords hleft
          rw [hlength] at hrest
          rw [hl, List.append_cancel_left hrest]

/-! ## The buffer -/

lemma closed_length_le (gs : List Group) : (closed gs).length ≤ 5 * gs.length := by
  induction gs with
  | nil => exact Nat.zero_le _
  | cons g gs ih =>
      have := g.length_le
      simp only [closed_cons, List.length_append, List.length_cons]
      omega

/-- A word takes at most five bytes, its separator included. -/
lemma hexJoined_length_le (words : List UInt16) : (hexJoined words).length ≤ 5 * words.length := by
  have hclosed := closed_length_le (words.map hexGroup)
  rw [List.length_map] at hclosed
  rw [← joinColon_hexGroup]
  by_cases hwords : words.map hexGroup = []
  · simp [hwords, pieces]
  · rw [closed_eq_joinColon hwords, List.length_append] at hclosed
    omega

lemma Canonical.length_le {text : List UInt8} (hwords : words.length = 8)
    (h : Canonical words text) : text.length ≤ 40 := by
  cases h with
  | plain =>
      have := hexJoined_length_le words
      omega
  | gap run hlong =>
      have hlength := congrArg List.length run.words_eq
      have hleft := hexJoined_length_le run.left
      have hright := hexJoined_length_le run.right
      simp only [List.length_append, List.length_replicate] at hlength
      simp only [List.length_append, List.length_cons, List.length_nil]
      omega

/-- The text of an address that ends in a dotted quad, from its sixth word and the quad. -/
def embeddedText (word : UInt16) (quad : List UInt8) : List UInt8 :=
  [colon, colon] ++ (if word = 0 then [] else numeral .hex word.toNat ++ [colon]) ++ quad

lemma embeddedText_length_le (word : UInt16) (a b c d : UInt8) :
    (embeddedText word (dottedQuadText a b c d)).length ≤ 22 := by
  have hquad := byteQuad_text_length a b c d
  have hword := (hexGroup word).length_le
  simp only [hexGroup] at hword
  simp only [embeddedText, dottedQuadText_eq, List.length_append, List.length_cons,
    List.length_nil]
  split
  · rw [List.length_nil]
    omega
  · rw [List.length_append, List.length_cons, List.length_nil]
    omega

/-- Neither call of `tor_snprintf` for a dotted quad cuts its text. -/
lemma ntopIpv6Text_embedded {addr : AddrBuf} (h : isEmbeddedIpv4 (addrWords addr) = true) :
    ntopIpv6Text addr = embeddedText (addrWord addr 5)
      (dottedQuadText (addr 12) (addr 13) (addr 14) (addr 15)) := by
  have hlen := embeddedText_length_le (addrWord addr 5) (addr 12) (addr 13) (addr 14) (addr 15)
  have hsize : ntopBufSize = 64 := rfl
  have hword : (addrWords addr).getD 5 0 = addrWord addr 5 := by simp [addrWords]
  simp only [ntopIpv6Text, h, if_true, hword]
  unfold embeddedText at hlen ⊢
  by_cases hzero : addrWord addr 5 = 0
  · simp only [if_pos hzero, List.append_nil] at hlen ⊢
    exact torSnprintf_fits (by omega)
  · simp only [if_neg hzero, ← List.append_assoc] at hlen ⊢
    exact torSnprintf_fits (by omega)

/-- The text of any other address. -/
lemma canonical_ntopIpv6Text {addr : AddrBuf} (h : isEmbeddedIpv4 (addrWords addr) = false) :
    Canonical (addrWords addr) (ntopIpv6Text addr) := by
  simp only [ntopIpv6Text, h]
  exact canonical_printWords (by simp [addrWords])

lemma ntopIpv6Text_length_le (addr : AddrBuf) : (ntopIpv6Text addr).length ≤ 40 := by
  by_cases h : isEmbeddedIpv4 (addrWords addr) = true
  · rw [ntopIpv6Text_embedded h]
    exact (embeddedText_length_le _ _ _ _ _).trans (by decide)
  · exact (canonical_ntopIpv6Text (Bool.eq_false_iff.mpr h)).length_le (by simp [addrWords])

/-- **The text of an IPv6 address is canonical**, or the whole text with the dotted quad.  It fits
in the local buffer, and a call fails, and leaves `dst` alone, exactly when `dst` is too small for
it. -/
theorem torInetNtop_canonical (addr : AddrBuf) :
    (isEmbeddedIpv4 (addrWords addr) = false →
        Canonical (addrWords addr) (ntopIpv6Text addr)) ∧
      (isEmbeddedIpv4 (addrWords addr) = true →
        ntopIpv6Text addr = embeddedText (addrWord addr 5)
          (dottedQuadText (addr 12) (addr 13) (addr 14) (addr 15))) ∧
      (ntopIpv6Text addr).length + 1 ≤ ntopBufSize ∧
      ∀ dst len, torInetNtop .inet6 addr dst len =
        if len < (ntopIpv6Text addr).length + 1 then (false, dst)
        else (true, ntopIpv6Text addr) := by
  have hlen := ntopIpv6Text_length_le addr
  refine ⟨canonical_ntopIpv6Text, ntopIpv6Text_embedded, ?_, fun dst len => ?_⟩
  · have hsize : ntopBufSize = 64 := rfl
    omega
  · simp only [torInetNtop]
    by_cases hsmall : len < (ntopIpv6Text addr).length + 1
    · rw [if_pos hsmall, if_pos hsmall]
    · rw [if_neg hsmall, if_neg hsmall, strlcpy, if_neg (by omega),
        List.take_of_length_le (by omega)]

end TorOnion
