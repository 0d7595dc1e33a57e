import TorOnion.Address.MappedQuad
import TorOnion.Address.Ntop

/-!
# Dotted quads, printed and read

`tor_inet_ntoa` and `tor_inet_aton` against each other.

What is printed for four bytes is a `Quad` without an octet that looks octal, and such a quad is
determined by its bytes: its octets are the numerals of their values (`Octet.digits_eq`).  So the
texts that are accepted are those that are printed, each for its own address
(`torInetAton_torInetNtoa`).
-/

namespace TorOnion

/-! ## Octets as numerals -/

/-- An octet that does not look octal is what is printed for its value. -/
lemma Octet.digits_eq {o : Octet} (h : o.isOctal = false) :
    o.digits = numeral .dec o.value := by
  refine (numeral_digitsValue o.nonempty o.dec fun hlen hpeek => ?_).symm
  have hoctal : o.isOctal = true := by
    rw [Octet.isOctal, decide_eq_true hlen, hpeek]
    rfl
  rw [h] at hoctal
  cases hoctal

/-- What is printed for a byte does not look octal. -/
lemma byteOctet_isOctal (b : UInt8) : (byteOctet b).isOctal = false := by
  rcases Nat.eq_zero_or_pos b.toNat with hzero | hpos
  · obtain rfl : b = 0 := uint8_ext hzero
    decide
  · have hpeek : (peek (byteOctet b).digits == 48) = false :=
      beq_eq_false_iff_ne.mpr (peek_numeral_ne hpos)
    rw [Octet.isOctal, hpeek, Bool.and_false]

lemma byteQuad_isOctal (a b c d : UInt8) : (byteQuad a b c d).isOctal = false := by
  simp only [Quad.isOctal, byteQuad, byteOctet_isOctal, Bool.or_false]

/-- A quad without an octet that looks octal is what is printed for its four bytes. -/
lemma Quad.text_eq {q : Quad} (h : q.isOctal = false) :
    q.text = dottedQuadText (UInt8.ofNat q.a.value) (UInt8.ofNat q.b.value)
      (UInt8.ofNat q.c.value) (UInt8.ofNat q.d.value) := by
  simp only [Quad.isOctal, Bool.or_eq_false_iff] at h
  obtain ⟨⟨⟨ha, hb⟩, hc⟩, hd⟩ := h
  have hoctet : ∀ {o : Octet}, o.isOctal = false →
      numeral .dec (UInt8.ofNat o.value).toNat = o.digits := by
    intro o ho
    have hle : o.value ≤ 255 := o.value_le
    rw [UInt8.toNat_ofNat', Nat.mod_eq_of_lt (by omega), Octet.digits_eq ho]
  rw [dottedQuadText, hoctet ha, hoctet hb, hoctet hc, hoctet hd]
  simp [Quad.text]

/-! ## Printing -/

/-- What `tor_inet_ntoa` prints for an address. -/
def addrQuad (v : UInt32) : Quad :=
  byteQuad (v >>> 24).toUInt8 (v >>> 16).toUInt8 (v >>> 8).toUInt8 v.toUInt8

/-- It is the quad of this address. -/
lemma addrQuad_addr (v : UInt32) : (addrQuad v).addr = v := by
  refine htonl_ext fun k _ => ?_
  rw [Quad.htonl_addr]
  simp only [addrQuad, byteQuad, byteOctet_value, UInt8.ofNat_toNat]
  rfl

/-- Sixteen bytes hold every quad with its terminator. -/
def inetNtoaBufLen : ℕ := 16

lemma torInetNtoa_storeInAddr (dst : AddrBuf) (v : UInt32) (buf : List UInt8) {bufLen : ℕ}
    (hlen : inetNtoaBufLen ≤ bufLen) : torInetNtoa (storeInAddr dst v) buf bufLen =
      (((addrQuad v).text.length : ℤ), (addrQuad v).text) := by
  have htext : dottedQuadText (storeInAddr dst v 0) (storeInAddr dst v 1) (storeInAddr dst v 2)
      (storeInAddr dst v 3) = (addrQuad v).text := dottedQuadText_eq _ _ _ _
  have hfits : (addrQuad v).text.length < bufLen := by
    have hle := byteQuad_text_length (v >>> 24).toUInt8 (v >>> 16).toUInt8 (v >>> 8).toUInt8
      v.toUInt8
    exact (Nat.lt_succ_of_le hle).trans_le hlen
  rw [torInetNtoa, htext, torSnprintf, if_neg (by omega), if_neg (not_le.mpr hfits)]

/-- The text printed for an address determines it, and an accepted text is the one printed for
its address. -/
lemma text_addrQuad {q : Quad} (h : q.isOctal = false) : (addrQuad q.addr).text = q.text := by
  have hbytes := q.htonl_addr
  simp only [htonl, List.cons.injEq, and_true] at hbytes
  obtain ⟨ha, hb, hc, hd⟩ := hbytes
  rw [addrQuad, ← dottedQuadText_eq, ha, hb, hc, hd, ← Quad.text_eq h]

lemma Quad.noNul (q : Quad) : (0 : UInt8) ∉ q.text := by
  intro hmem
  rcases Quad.mem_text hmem with hdigit | hdot
  · exact absurd hdigit (by decide)
  · exact absurd hdot (by decide)

/-! ## Reading what was printed -/

/-- A text is accepted as a quad without an octet that looks octal, or refused, and then nothing is
written. -/
lemma torInetAton_cases (s : CStr) (addr : AddrBuf) :
    (∃ q : Quad, q.isOctal = false ∧ s.bytes = q.text ∧
        torInetAton s addr = (1, storeInAddr addr q.addr)) ∨
      (∀ q : Quad, s.bytes = q.text → q.isOctal = true) ∧ torInetAton s addr = (0, addr) := by
  by_cases hquad : ∃ q : Quad, s.bytes = q.text
  · obtain ⟨q, hq⟩ := hquad
    have hread := torInetAton_text addr hq
    cases hoctal : q.isOctal with
    | false =>
        rw [hoctal] at hread
        exact .inl ⟨q, hoctal, hq, hread⟩
    | true =>
        rw [hoctal] at hread
        refine .inr ⟨fun q' hq' => ?_, hread⟩
        rw [q'.isOctal_eq, ← hq', hq, ← q.isOctal_eq, hoctal]
  · exact .inr ⟨fun q hq => (hquad ⟨q, hq⟩).elim,
      torInetAton_of_not_quad addr fun q hq => hquad ⟨q, hq⟩⟩

/-- **`tor_inet_aton` and `tor_inet_ntoa` are inverse.**  What is printed for an address is read
as this address; what is printed for the address of an accepted text is the text; the accepted
texts are the quads without an octet that looks octal; and a text that is refused leaves the
memory at `addr` as it was. -/
theorem torInetAton_torInetNtoa (dst : AddrBuf) (buf : List UInt8) {bufLen : ℕ}
    (hlen : inetNtoaBufLen ≤ bufLen) :
    (∀ a : UInt32, ∃ s : CStr,
      torInetNtoa (storeInAddr dst a) buf bufLen = ((s.bytes.length : ℤ), s.bytes) ∧
        torInetAton s dst = (1, storeInAddr dst a)) ∧
    (∀ (s : CStr) (a : UInt32), torInetAton s dst = (1, storeInAddr dst a) →
      torInetNtoa (storeInAddr dst a) buf bufLen = ((s.bytes.length : ℤ), s.bytes)) ∧
    (∀ s : CStr, (torInetAton s dst).1 = 1 ↔ ∃ q : Quad, q.isOctal = false ∧ s.bytes = q.text) ∧
    ∀ s : CStr, (torInetAton s dst).1 ≠ 1 → torInetAton s dst = (0, dst) := by
  refine ⟨fun a => ?_, fun s a h => ?_, fun s => ?_, fun s h => ?_⟩
  · refine ⟨⟨(addrQuad a).text, (addrQuad a).noNul⟩, torInetNtoa_storeInAddr dst a buf hlen, ?_⟩
    have hoctal : (addrQuad a).isOctal = false := byteQuad_isOctal _ _ _ _
    rw [torInetAton_text dst rfl, hoctal, addrQuad_addr]
    rfl
  · have hread : torInetPton .inet s dst = some (1, storeInAddr dst a) := congrArg some h
    obtain ⟨q, hq, hoctal, rfl⟩ := torInetAton_iff.mp hread
    rw [torInetNtoa_storeInAddr dst q.addr buf hlen, text_addrQuad hoctal, hq]
  · rcases torInetAton_cases s dst with ⟨q, hoctal, hq, hread⟩ | ⟨hrefused, hread⟩
    · rw [hread]
      exact ⟨fun _ => ⟨q, hoctal, hq⟩, fun _ => rfl⟩
    · rw [hread]
      refine ⟨fun hone => absurd hone zero_ne_one, ?_⟩
      rintro ⟨q, hoctal, hq⟩
      rw [hrefused q hq] at hoctal
      cases hoctal
  · rcases torInetAton_cases s dst with ⟨q, -, -, hread⟩ | ⟨-, hread⟩
    · rw [hread] at h
      exact absurd rfl h
    · exact hread

/-- `1.2.3.4` is read and printed again. -/
theorem torInetAton_torInetNtoa_decimal :
    torInetNtoa (storeInAddr (fun _ => 0) 0x01020304) [] 16 = (7, ascii "1.2.3.4") :=
  (torInetAton_torInetNtoa (fun _ => 0) [] le_rfl).2.1 ⟨ascii "1.2.3.4", by decide +kernel⟩
    0x01020304 (by decide +kernel)

end TorOnion
