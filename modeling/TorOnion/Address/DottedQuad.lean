import TorOnion.Address.Ipv6Text

/-!
# The dotted quad

What `tor_sscanf` with `"%3u.%3u.%3u.%3u%c"` matches, and where `tor_inet_pton` finds the
dotted tail of an IPv6 text.

`scanQuad_iff` says that exactly four values are stored precisely when the whole text is four
runs of one to three digits with dots between them: `%c` would store a fifth value if anything
followed.  `dottedTail_some` and `dottedTail_of_quad` are the two halves of the statement that
the walk back from the first dot stops on the colon in front of a quad that ends the string.
-/

namespace TorOnion

/-! ## Scanning -/

/-- One to three decimal digits, what `%3u` reads. -/
structure IsOctetRun (ds : List UInt8) : Prop where
  nonempty : ds ≠ []
  length_le : ds.length ≤ 3
  dec : ∀ b ∈ ds, isDigit b = true

lemma Octet.isRun (o : Octet) : IsOctetRun o.digits := ⟨o.nonempty, o.length_le, o.dec⟩

/-- `%3u` in front of a text that does not start with a digit. -/
lemma torSscanf_u {ds rest : List UInt8} (fs : List ScanDirective) (h : IsOctetRun ds)
    (hrest : ∀ b ∈ rest.head?, isDigit b = false) :
    torSscanf (.u 3 :: fs) (ds ++ rest) = digitsValue .dec ds :: torSscanf fs rest := by
  have htake : (ds ++ rest).take 3 = ds ++ rest.take (3 - ds.length) := by
    rw [List.take_append, List.take_of_length_le h.length_le]
  have hrun : ((ds ++ rest).take 3).takeWhile isDigit = ds := by
    rw [htake]
    refine (span_run h.dec (fun b hb => hrest b ?_)).1
    cases rest with
    | nil => simp at hb
    | cons c rest =>
        cases hn : 3 - ds.length with
        | zero => simp [hn] at hb
        | succ n => simpa [hn] using hb
  simp only [torSscanf, hrun, h.nonempty, if_false, List.drop_left]

/-- What `%3u` has read when it stored a value. -/
lemma torSscanf_u_inv {fs : List ScanDirective} {p : List UInt8} {v : ℕ} {vs : List ℕ}
    (h : torSscanf (.u 3 :: fs) p = v :: vs) :
    ∃ ds rest, p = ds ++ rest ∧ IsOctetRun ds ∧ v = digitsValue .dec ds ∧
      torSscanf fs rest = vs := by
  set ds := (p.take 3).takeWhile isDigit with hds
  have hpre : ds <+: p := (List.takeWhile_prefix _).trans (List.take_prefix _ _)
  have hlen : ds.length ≤ 3 :=
    ((List.takeWhile_prefix _).length_le).trans (by simp)
  simp only [torSscanf, ← hds] at h
  split at h
  · cases h
  · rename_i hne
    obtain ⟨rfl, rfl⟩ := List.cons.inj h
    refine ⟨ds, p.drop ds.length, ?_, ⟨hne, hlen, fun b hb => ?_⟩, rfl, rfl⟩
    · exact (List.prefix_iff_eq_append.mp hpre).symm
    · exact List.mem_takeWhile_imp hb

lemma torSscanf_lit_inv {fs : List ScanDirective} {b : UInt8} {p : List UInt8} {vs : List ℕ}
    (hvs : vs ≠ []) (h : torSscanf (.lit b :: fs) p = vs) :
    ∃ rest, p = b :: rest ∧ torSscanf fs rest = vs := by
  simp only [torSscanf] at h
  split at h
  · rename_i hhead
    cases p with
    | nil => simp at hhead
    | cons c p =>
        obtain rfl : c = b := by simpa using hhead
        exact ⟨p, rfl, h⟩
  · exact absurd h.symm hvs

lemma isDigit_dot : isDigit dot = false := by decide

/-- **The format of a dotted quad** stores four values exactly on four runs of digits with dots
between them and nothing behind. -/
lemma scanQuad_iff (p : List UInt8) (a b c d : ℕ) :
    torSscanf dottedQuadFormat p = [a, b, c, d] ↔
      ∃ da db dc dd, IsOctetRun da ∧ IsOctetRun db ∧ IsOctetRun dc ∧ IsOctetRun dd ∧
        p = da ++ dot :: (db ++ dot :: (dc ++ dot :: dd)) ∧
        a = digitsValue .dec da ∧ b = digitsValue .dec db ∧ c = digitsValue .dec dc ∧
        d = digitsValue .dec dd := by
  constructor
  · intro h
    obtain ⟨da, p1, rfl, hda, ha, h⟩ := torSscanf_u_inv h
    obtain ⟨p2, rfl, h⟩ := torSscanf_lit_inv (by simp) h
    obtain ⟨db, p3, rfl, hdb, hb, h⟩ := torSscanf_u_inv h
    obtain ⟨p4, rfl, h⟩ := torSscanf_lit_inv (by simp) h
    obtain ⟨dc, p5, rfl, hdc, hc, h⟩ := torSscanf_u_inv h
    obtain ⟨p6, rfl, h⟩ := torSscanf_lit_inv (by simp) h
    obtain ⟨dd, p7, rfl, hdd, hd, h⟩ := torSscanf_u_inv h
    have hnil : p7 = [] := by
      cases p7 with
      | nil => rfl
      | cons e p7 => simp [torSscanf] at h
    subst hnil
    exact ⟨da, db, dc, dd, hda, hdb, hdc, hdd, by simp, ha, hb, hc, hd⟩
  · rintro ⟨da, db, dc, dd, hda, hdb, hdc, hdd, rfl, rfl, rfl, rfl, rfl⟩
    have hdot : ∀ q : List UInt8, ∀ e ∈ (dot :: q).head?, isDigit e = false := by
      intro q e he
      obtain rfl : dot = e := by simpa using he
      exact isDigit_dot
    have hlit : ∀ fs q, torSscanf (.lit dot :: fs) (dot :: q) = torSscanf fs q := by
      intro fs q
      simp [torSscanf]
    have hlast := @torSscanf_u dd [] [.c] hdd (by simp)
    rw [List.append_nil] at hlast
    rw [dottedQuadFormat, torSscanf_u _ hda (hdot _), hlit, torSscanf_u _ hdb (hdot _), hlit,
      torSscanf_u _ hdc (hdot _), hlit, hlast]
    rfl

/-! ## The words of a quad -/

/-- Two bytes joined by shift and `|` make the word the quad denotes. -/
lemma shift_or_eq {a b : ℕ} (ha : a ≤ 255) (hb : b ≤ 255) :
    UInt16.ofNat a <<< 8 ||| UInt16.ofNat b = UInt16.ofNat (a * 256 + b) := by
  apply UInt16.toNat_inj.mp
  have hor : a <<< 8 + b = a <<< 8 ||| b := Nat.shiftLeft_add_eq_or_of_lt (by omega) a
  have hshift : a <<< 8 = a * 256 := by rw [Nat.shiftLeft_eq]
  simp only [UInt16.toNat_or, UInt16.toNat_shiftLeft, UInt16.toNat_ofNat']
  rw [Nat.mod_eq_of_lt (show a < 2 ^ 16 by omega), Nat.mod_eq_of_lt (show b < 2 ^ 16 by omega)]
  simp only [UInt16.reduceToNat, Nat.reduceMod]
  rw [Nat.mod_eq_of_lt (show a <<< 8 < 2 ^ 16 by omega), ← hor, hshift,
    Nat.mod_eq_of_lt (by omega)]

lemma Quad.text_ne_nil (q : Quad) : q.text ≠ [] := by
  simp [Quad.text]

lemma Quad.text_head (q : Quad) : isDigit (peek q.text) = true := by
  obtain ⟨⟨ds, hne, -, hdec, -⟩, -, -, -⟩ := q
  cases ds with
  | nil => exact absurd rfl hne
  | cons b ds => exact hdec b (by simp)

/-! ## The dotted tail -/

/-- The walk back over a run of digits stops in front of it. -/
lemma backToNonDigit_run {s : List UInt8} {k n : ℕ}
    (hstop : isDigit (peek (s.drop k)) = false)
    (hrun : ∀ j, k < j → j ≤ k + n → isDigit (peek (s.drop j)) = true) :
    backToNonDigit s (k + n) = k := by
  induction n with
  | zero =>
      cases k with
      | zero => rfl
      | succ k => simp only [backToNonDigit, hstop, Bool.false_eq_true, if_false]
  | succ n ih =>
      rw [← Nat.add_assoc, backToNonDigit, if_pos (hrun _ (by omega) (by omega))]
      exact ih fun j hj hle => hrun j hj (by omega)

/-- `strchr` finds the first occurrence. -/
lemma idxOf?_append_cons {p q : List UInt8} {c : UInt8} (h : c ∉ p) :
    (p ++ c :: q).idxOf? c = some p.length := by
  induction p with
  | nil => simp [List.idxOf?_cons]
  | cons b p ih =>
      simp only [List.mem_cons, not_or] at h
      have hb : (b == c) = false := by simpa using fun heq => h.1 heq.symm
      simp [List.idxOf?_cons, hb, ih h.2]

lemma Octet.dot_not_mem (o : Octet) : dot ∉ o.digits :=
  fun hmem => by simpa [isDigit_dot] using o.dec _ hmem

/-- The dot of a text that ends in a quad, when no dot comes before the quad. -/
lemma idxOf?_dot_quad {pre : List UInt8} (q : Quad) (h : dot ∉ pre) :
    (pre ++ q.text).idxOf? dot = some (pre.length + q.a.digits.length) := by
  have hsplit : pre ++ q.text = (pre ++ q.a.digits) ++
      dot :: (q.b.digits ++ dot :: (q.c.digits ++ dot :: q.d.digits)) := by
    simp [Quad.text]
  rw [hsplit, idxOf?_append_cons (by simpa using ⟨h, q.a.dot_not_mem⟩), List.length_append]

/-- What is found is a quad that ends the string, behind a colon. -/
lemma dottedTail_some {s : List UInt8} {dotPos eow : ℕ} {w6 w7 : UInt16}
    (h : dottedTail s dotPos = some (eow, w6, w7)) :
    ∃ (pre : List UInt8) (q : Quad), s = pre ++ colon :: q.text ∧ eow = pre.length + 1 ∧
      q.words = [w6, w7] := by
  simp only [dottedTail] at h
  generalize backToNonDigit s (dotPos - 1) = k at h
  split at h
  · cases h
  · rename_i hcolon
    rw [not_not] at hcolon
    split at h
    · rename_i b1 b2 b3 b4 hscan
      split at h
      · cases h
      · rename_i hbytes
        simp only [not_or, not_lt] at hbytes
        obtain ⟨h1, h2, h3, h4⟩ := hbytes
        obtain ⟨da, db, dc, dd, hda, hdb, hdc, hdd, htext, rfl, rfl, rfl, rfl⟩ :=
          (scanQuad_iff _ _ _ _ _).mp hscan
        simp only [Option.some.injEq, Prod.mk.injEq] at h
        obtain ⟨rfl, rfl, rfl⟩ := h
        have hk : k < s.length := by
          by_contra hlen
          rw [List.drop_eq_nil_of_le (by omega)] at hcolon
          exact absurd hcolon (by decide)
        have hdrop : s.drop k = colon :: s.drop (k + 1) := by
          rw [List.drop_eq_getElem_cons hk] at hcolon ⊢
          rw [← hcolon]
          rfl
        refine ⟨s.take k,
          ⟨⟨da, hda.nonempty, hda.length_le, hda.dec, h1⟩,
            ⟨db, hdb.nonempty, hdb.length_le, hdb.dec, h2⟩,
            ⟨dc, hdc.nonempty, hdc.length_le, hdc.dec, h3⟩,
            ⟨dd, hdd.nonempty, hdd.length_le, hdd.dec, h4⟩⟩, ?_, ?_, ?_⟩
        · rw [Quad.text, ← htext, ← hdrop, List.take_append_drop]
        · rw [List.length_take, min_eq_left hk.le]
        · simp only [Quad.words, Octet.value]
          rw [shift_or_eq h1 h2, shift_or_eq h3 h4]
    · cases h

/-- A quad that ends the string behind a colon is found. -/
lemma dottedTail_of_quad (pre : List UInt8) (q : Quad) :
    ∃ w6 w7, q.words = [w6, w7] ∧
      dottedTail (pre ++ colon :: q.text) (pre.length + 1 + q.a.digits.length) =
        some (pre.length + 1, w6, w7) := by
  set s := pre ++ colon :: q.text with hs
  have hcolon : s.drop pre.length = colon :: q.text := by rw [hs, List.drop_left]
  have htail : s.drop (pre.length + 1) = q.text := by
    rw [← List.drop_drop, hcolon]
    rfl
  have hback : backToNonDigit s (pre.length + q.a.digits.length) = pre.length := by
    apply backToNonDigit_run
    · rw [hcolon, peek_cons]
      decide
    · intro j hj hle
      obtain ⟨m, rfl⟩ : ∃ m, j = pre.length + 1 + m := ⟨j - (pre.length + 1), by omega⟩
      have hm : m < q.a.digits.length := by omega
      rw [← List.drop_drop, htail, Quad.text, List.drop_append_of_le_length hm.le,
        List.drop_eq_getElem_cons hm]
      exact q.a.dec _ (List.getElem_mem hm)
  have hscan := (scanQuad_iff q.text q.a.value q.b.value q.c.value q.d.value).mpr
    ⟨_, _, _, _, q.a.isRun, q.b.isRun, q.c.isRun, q.d.isRun, rfl, rfl, rfl, rfl, rfl⟩
  have ha : q.a.value ≤ 255 := q.a.value_le
  have hb : q.b.value ≤ 255 := q.b.value_le
  have hc : q.c.value ≤ 255 := q.c.value_le
  have hd : q.d.value ≤ 255 := q.d.value_le
  have hbytes : ¬ (q.a.value > 255 ∨ q.b.value > 255 ∨ q.c.value > 255 ∨ q.d.value > 255) := by
    omega
  have hpos : pre.length + 1 + q.a.digits.length - 1 = pre.length + q.a.digits.length := by omega
  refine ⟨_, _, rfl, ?_⟩
  simp only [dottedTail, hpos, hback, hcolon, htail, hscan, peek_cons, ne_eq, not_true, if_false,
    hbytes]
  rw [shift_or_eq ha hb, shift_or_eq hc hd]

end TorOnion
