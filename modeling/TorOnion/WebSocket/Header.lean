import Mathlib.Logic.Function.Basic
import TorOnion.Library.BitField

/-!
# The header of a WebSocket frame: `networking/web_sock.rs`

A frame starts with two bytes: whether it is the last one of its message, whether it is
compressed, two reserved bits, the opcode, whether the payload is masked, and its length up to
125, or 126 or 127 when the length follows in two or in eight bytes.  `WebsocketHeader` has them
in a `u16`, most significant bit first, and reads and writes each by a shift and a mask.

A header is a record of six fields (`Frame`): each setter changes its own field, to the last bits
of what it is given, and none of the others, and a header has nothing but its fields.

`u8` and `u16` are `BitVec`s, `usize` is `ℕ`.  A failed `debug_assert!` is `none`.
-/

namespace TorOnion

/-! ## The source -/

inductive Opcode
  | continue
  | text
  | binary
  | res3
  | res4
  | res5
  | res6
  | res7
  | close
  | ping
  | pong
  | resB
  | resC
  | resD
  | resE
  | resF
  deriving DecidableEq

namespace Opcode

/-- `self as u8`. -/
def toRaw : Opcode → BitVec 8
  | .continue => 0x0
  | text => 0x1
  | binary => 0x2
  | res3 => 0x3
  | res4 => 0x4
  | res5 => 0x5
  | res6 => 0x6
  | res7 => 0x7
  | close => 0x8
  | ping => 0x9
  | pong => 0xA
  | resB => 0xB
  | resC => 0xC
  | resD => 0xD
  | resE => 0xE
  | resF => 0xF

/-- `from_raw`, as it is compiled for release. -/
def fromRaw (n : BitVec 8) : Opcode :=
  match n &&& 0xF with
  | 0x0 => .continue
  | 0x1 => text
  | 0x2 => binary
  | 0x3 => res3
  | 0x4 => res4
  | 0x5 => res5
  | 0x6 => res6
  | 0x7 => res7
  | 0x8 => close
  | 0x9 => ping
  | 0xA => pong
  | 0xB => resB
  | 0xC => resC
  | 0xD => resD
  | 0xE => resE
  | _ => resF

end Opcode

@[ext]
structure WebsocketHeader where
  bits : BitVec 16
  deriving DecidableEq

namespace WebsocketHeader

def lenShift : ℕ := 0
def lenMask : BitVec 16 := 0b0111_1111
def maskShift : ℕ := 7
def opcodeShift : ℕ := 8
def opcodeMask : BitVec 16 := 0b1111
def rsvShift : ℕ := 12
def rsvMask : BitVec 16 := 0b11
def compressedShift : ℕ := 14
def finalShift : ℕ := 15

/-- `as u16`. -/
def boolAsU16 (v : Bool) : BitVec 16 := (BitVec.ofBool v).setWidth 16

def new (len : BitVec 8) (mask : Bool) (opcode : Opcode) : WebsocketHeader :=
  let bits : BitVec 16 := 0
  let bits := bits ||| ((len.setWidth 16 &&& lenMask) <<< lenShift)
  let bits := bits ||| (boolAsU16 mask <<< maskShift)
  let bits := bits ||| ((opcode.toRaw.setWidth 16 &&& opcodeMask) <<< opcodeShift)
  let bits := bits ||| ((1 : BitVec 16) <<< finalShift)
  ⟨bits⟩

section Accessors

variable (h : WebsocketHeader)

def len : BitVec 8 := ((h.bits >>> lenShift) &&& lenMask).setWidth 8

def setLen (v : BitVec 8) : WebsocketHeader :=
  ⟨(h.bits &&& ~~~(lenMask <<< lenShift)) ||| ((v.setWidth 16 &&& lenMask) <<< lenShift)⟩

def mask : Bool := (h.bits >>> maskShift) &&& 1 != 0

def setMask (v : Bool) : WebsocketHeader :=
  ⟨(h.bits &&& ~~~((1 : BitVec 16) <<< maskShift)) ||| (boolAsU16 v <<< maskShift)⟩

def opcode : Opcode := .fromRaw (((h.bits >>> opcodeShift) &&& opcodeMask).setWidth 8)

def setOpcode (v : Opcode) : WebsocketHeader :=
  ⟨(h.bits &&& ~~~(opcodeMask <<< opcodeShift)) |||
    ((v.toRaw.setWidth 16 &&& opcodeMask) <<< opcodeShift)⟩

def rsv : BitVec 8 := ((h.bits >>> rsvShift) &&& rsvMask).setWidth 8

def setRsv (v : BitVec 8) : WebsocketHeader :=
  ⟨(h.bits &&& ~~~(rsvMask <<< rsvShift)) ||| ((v.setWidth 16 &&& rsvMask) <<< rsvShift)⟩

def compressed : Bool := (h.bits >>> compressedShift) &&& 1 != 0

def setCompressed (v : Bool) : WebsocketHeader :=
  ⟨(h.bits &&& ~~~((1 : BitVec 16) <<< compressedShift)) ||| (boolAsU16 v <<< compressedShift)⟩

def final : Bool := (h.bits >>> finalShift) &&& 1 != 0

def setFinal (v : Bool) : WebsocketHeader :=
  ⟨(h.bits &&& ~~~((1 : BitVec 16) <<< finalShift)) ||| (boolAsU16 v <<< finalShift)⟩

/-- `slice`, or `u16::to_be_bytes`. -/
def slice : BitVec 8 × BitVec 8 := ((h.bits >>> 8).setWidth 8, h.bits.setWidth 8)

end Accessors

/-- `from_slice`, or `u16::from_be_bytes`. -/
def fromSlice (bytes : BitVec 8 × BitVec 8) : WebsocketHeader :=
  ⟨(bytes.1.setWidth 16 <<< 8) ||| bytes.2.setWidth 16⟩

def packLength (length : ℕ) : BitVec 8 :=
  if length ≤ 125 then BitVec.ofNat 8 length else if length ≤ 0xFFFF then 126 else 127

def headerLength : ℕ := 2

def lengthByteCount (byteLength : ℕ) : ℕ :=
  if byteLength ≤ 125 then 0 else if byteLength ≤ 0xFFFF then 2 else 8

def frameSize (byteLength : ℕ) : ℕ := headerLength + byteLength + lengthByteCount byteLength

/-- `write_header`, by what a writer gets that never fails. -/
def writeHeader (h : WebsocketHeader) (n : ℕ) : Option (BitVec 8 × BitVec 8) :=
  if fromSlice h.slice = h ∧ h.len = packLength n then some h.slice else none

/-! ## The fields of a header -/

/-- What a header says.  The reserved bits and the length have as many bits as the header has for
them. -/
@[ext]
structure Frame where
  final : Bool
  compressed : Bool
  rsv : BitVec 2
  opcode : Opcode
  mask : Bool
  len : BitVec 7
  deriving DecidableEq

/-- What a header says. -/
def frame (h : WebsocketHeader) : Frame where
  final := h.final
  compressed := h.compressed
  rsv := h.rsv.setWidth 2
  opcode := h.opcode
  mask := h.mask
  len := h.len.setWidth 7

/-- A call of a setter. -/
inductive SetCall
  | setLen (v : BitVec 8)
  | setMask (v : Bool)
  | setOpcode (v : Opcode)
  | setRsv (v : BitVec 8)
  | setCompressed (v : Bool)
  | setFinal (v : Bool)

def SetCall.run (h : WebsocketHeader) : SetCall → WebsocketHeader
  | .setLen v => h.setLen v
  | .setMask v => h.setMask v
  | .setOpcode v => h.setOpcode v
  | .setRsv v => h.setRsv v
  | .setCompressed v => h.setCompressed v
  | .setFinal v => h.setFinal v

/-- What a call is for. -/
def SetCall.apply (f : Frame) : SetCall → Frame
  | .setLen v => { f with len := v.setWidth 7 }
  | .setMask v => { f with mask := v }
  | .setOpcode v => { f with opcode := v }
  | .setRsv v => { f with rsv := v.setWidth 2 }
  | .setCompressed v => { f with compressed := v }
  | .setFinal v => { f with final := v }

/-! ## The layout of a header -/

def lenField : BitField 16 := ⟨lenShift, 7, by decide⟩
def maskField : BitField 16 := ⟨maskShift, 1, by decide⟩
def opcodeField : BitField 16 := ⟨opcodeShift, 4, by decide⟩
def rsvField : BitField 16 := ⟨rsvShift, 2, by decide⟩
def compressedField : BitField 16 := ⟨compressedShift, 1, by decide⟩
def finalField : BitField 16 := ⟨finalShift, 1, by decide⟩

/-- The fields of a header, from the least significant. -/
def fields : List (BitField 16) :=
  [lenField, maskField, opcodeField, rsvField, compressedField, finalField]

/-- Every bit of a header is in one of its fields. -/
lemma fields_cover : BitField.Cover fields := by
  show ∀ i < 16, ∃ f ∈ fields, f.shift ≤ i ∧ i < f.shift + f.width
  decide

variable {h h' : WebsocketHeader}

section Layout

variable (h)

/-- What a header says, by its fields. -/
lemma frame_eq : h.frame =
    { final := finalField.get h.bits != 0
      compressed := compressedField.get h.bits != 0
      rsv := ((rsvField.get h.bits).setWidth 8).setWidth 2
      opcode := .fromRaw ((opcodeField.get h.bits).setWidth 8)
      mask := maskField.get h.bits != 0
      len := ((lenField.get h.bits).setWidth 8).setWidth 7 } := rfl

lemma setLen_eq (v : BitVec 8) : h.setLen v = ⟨lenField.set h.bits (v.setWidth 16)⟩ := rfl
lemma setOpcode_eq (v : Opcode) :
    h.setOpcode v = ⟨opcodeField.set h.bits (v.toRaw.setWidth 16)⟩ := rfl
lemma setRsv_eq (v : BitVec 8) : h.setRsv v = ⟨rsvField.set h.bits (v.setWidth 16)⟩ := rfl

/-- A `bool` has no bits that a mask could remove. -/
lemma boolAsU16_and_one (v : Bool) : boolAsU16 v &&& 1 = boolAsU16 v := by
  cases v <;> rfl

/-- Setting one bit is writing a field of one bit. -/
lemma setBit_eq (f : BitField 16) (hmask : f.mask = 1) (b : BitVec 16) (v : Bool) :
    (b &&& ~~~((1 : BitVec 16) <<< f.shift)) ||| (boolAsU16 v <<< f.shift) =
      f.set b (boolAsU16 v) := by
  rw [BitField.set, hmask, boolAsU16_and_one]

lemma orBit_eq (f : BitField 16) (hmask : f.mask = 1) {b : BitVec 16} (hb : f.get b = 0)
    (v : Bool) : b ||| (boolAsU16 v <<< f.shift) = f.set b (boolAsU16 v) := by
  rw [← BitField.or_eq_set hb, hmask, boolAsU16_and_one]

lemma setMask_eq (v : Bool) : h.setMask v = ⟨maskField.set h.bits (boolAsU16 v)⟩ :=
  congrArg mk (setBit_eq maskField rfl h.bits v)

lemma setCompressed_eq (v : Bool) :
    h.setCompressed v = ⟨compressedField.set h.bits (boolAsU16 v)⟩ :=
  congrArg mk (setBit_eq compressedField rfl h.bits v)

lemma setFinal_eq (v : Bool) : h.setFinal v = ⟨finalField.set h.bits (boolAsU16 v)⟩ :=
  congrArg mk (setBit_eq finalField rfl h.bits v)

end Layout

/-! ## What a setter changes -/

/-- A number that goes through a field keeps its last bits. -/
lemma setWidth_and_mask (f : BitField 16) (hwidth : f.width ≤ 8) (v : BitVec 8) :
    ((v.setWidth 16 &&& f.mask).setWidth 8).setWidth f.width = v.setWidth f.width := by
  refine BitVec.eq_of_getLsbD_eq fun i hi => ?_
  have hi8 : i < 8 := by omega
  have hi16 : i < 16 := by omega
  simp only [BitVec.getLsbD_setWidth, BitVec.getLsbD_and, BitField.getLsbD_mask, hi, hi8, hi16,
    decide_true, Bool.true_and, Bool.and_true]

lemma boolAsU16_ne_zero (v : Bool) : (boolAsU16 v &&& 1 != 0) = v := by
  cases v <;> rfl

/-- An opcode that goes through its field comes back. -/
lemma fromRaw_toRaw (v : Opcode) :
    Opcode.fromRaw ((v.toRaw.setWidth 16 &&& opcodeField.mask).setWidth 8) = v := by
  cases v <;> rfl

/-- The step lemma: a setter changes its field, and no other. -/
lemma SetCall.frame_run (h : WebsocketHeader) (call : SetCall) :
    (call.run h).frame = call.apply h.frame := by
  cases call with
  | setLen v =>
      rw [run, setLen_eq, apply, frame_eq, frame_eq]
      simp (disch := decide) only [BitField.get_set_self, BitField.get_set_of_apart,
        Frame.mk.injEq, true_and]
      exact setWidth_and_mask lenField (by decide) v
  | setMask v =>
      rw [run, setMask_eq, apply, frame_eq, frame_eq]
      simp (disch := decide) only [BitField.get_set_self, BitField.get_set_of_apart,
        Frame.mk.injEq, true_and, and_true]
      exact boolAsU16_ne_zero v
  | setOpcode v =>
      rw [run, setOpcode_eq, apply, frame_eq, frame_eq]
      simp (disch := decide) only [BitField.get_set_self, BitField.get_set_of_apart,
        Frame.mk.injEq, true_and, and_true]
      exact fromRaw_toRaw v
  | setRsv v =>
      rw [run, setRsv_eq, apply, frame_eq, frame_eq]
      simp (disch := decide) only [BitField.get_set_self, BitField.get_set_of_apart,
        Frame.mk.injEq, true_and, and_true]
      exact setWidth_and_mask rsvField (by decide) v
  | setCompressed v =>
      rw [run, setCompressed_eq, apply, frame_eq, frame_eq]
      simp (disch := decide) only [BitField.get_set_self, BitField.get_set_of_apart,
        Frame.mk.injEq, true_and, and_true]
      exact boolAsU16_ne_zero v
  | setFinal v =>
      rw [run, setFinal_eq, apply, frame_eq, frame_eq]
      simp (disch := decide) only [BitField.get_set_self, BitField.get_set_of_apart,
        Frame.mk.injEq, and_true]
      exact boolAsU16_ne_zero v

/-- The run lemma. -/
lemma frame_foldl (h : WebsocketHeader) (calls : List SetCall) :
    (calls.foldl SetCall.run h).frame = calls.foldl SetCall.apply h.frame := by
  induction calls generalizing h with
  | nil => rfl
  | cons call calls ih => rw [List.foldl_cons, ih, call.frame_run, List.foldl_cons]

/-! ## A header is its fields -/

/-- A number that fits a field is known from its last bits. -/
lemma get_of_setWidth {f : BitField 16} {a b : BitVec 16} {n : ℕ} (hn : f.width ≤ n)
    (heq : (f.get a).setWidth n = (f.get b).setWidth n) : f.get a = f.get b := by
  have hpow : 2 ^ f.width ≤ 2 ^ n := Nat.pow_le_pow_right (by decide) hn
  have ha : (f.get a).toNat < 2 ^ n := BitField.get_lt.trans_le hpow
  have hb : (f.get b).toNat < 2 ^ n := BitField.get_lt.trans_le hpow
  apply BitVec.eq_of_toNat_eq
  have hnat := congrArg BitVec.toNat heq
  rwa [BitVec.toNat_setWidth, BitVec.toNat_setWidth, Nat.mod_eq_of_lt ha, Nat.mod_eq_of_lt hb]
    at hnat

/-- One bit is known from whether it is set. -/
lemma get_of_ne_zero {f : BitField 16} {a b : BitVec 16} (hwidth : f.width = 1)
    (heq : (f.get a != 0) = (f.get b != 0)) : f.get a = f.get b := by
  have ha : (f.get a).toNat < 2 ^ f.width := BitField.get_lt
  have hb : (f.get b).toNat < 2 ^ f.width := BitField.get_lt
  rw [hwidth] at ha hb
  apply BitVec.eq_of_toNat_eq
  have hzero : ((f.get a).toNat ≠ 0) ↔ ((f.get b).toNat ≠ 0) := by
    simpa [BitVec.toNat_eq, bne] using congrArg (· = true) heq
  omega

/-- `from_raw` tells the values of four bits apart. -/
lemma toRaw_fromRaw : ∀ n : BitVec 8, (Opcode.fromRaw n).toRaw = n &&& 0xF := by
  decide

/-- Four bits are known from the opcode. -/
lemma get_of_fromRaw {a b : BitVec 16}
    (heq : Opcode.fromRaw ((opcodeField.get a).setWidth 8) =
      Opcode.fromRaw ((opcodeField.get b).setWidth 8)) :
    opcodeField.get a = opcodeField.get b := by
  have hraw := congrArg (fun o => (Opcode.toRaw o).toNat) heq
  have ha : (opcodeField.get a).toNat < 2 ^ 4 := BitField.get_lt
  have hb : (opcodeField.get b).toNat < 2 ^ 4 := BitField.get_lt
  have hnibble : ∀ n, n &&& (0xF : BitVec 8).toNat = n % 2 ^ 4 :=
    fun n => Nat.and_two_pow_sub_one_eq_mod n 4
  simp only [toRaw_fromRaw, BitVec.toNat_and, BitVec.toNat_setWidth, hnibble] at hraw
  apply BitVec.eq_of_toNat_eq
  omega

/-- Headers that say the same are the same. -/
lemma frame_injective : Function.Injective frame := by
  intro a b heq
  rw [frame_eq, frame_eq, Frame.mk.injEq] at heq
  obtain ⟨hfinal, hcompressed, hrsv, hopcode, hmask, hlen⟩ := heq
  rw [BitVec.setWidth_setWidth_of_le _ (by decide),
    BitVec.setWidth_setWidth_of_le _ (by decide)] at hrsv hlen
  refine WebsocketHeader.ext (fields_cover.ext fun f hf => ?_)
  simp only [fields, List.mem_cons, List.not_mem_nil, or_false] at hf
  rcases hf with rfl | rfl | rfl | rfl | rfl | rfl
  · exact get_of_setWidth le_rfl hlen
  · exact get_of_ne_zero rfl hmask
  · exact get_of_fromRaw hopcode
  · exact get_of_setWidth le_rfl hrsv
  · exact get_of_ne_zero rfl hcompressed
  · exact get_of_ne_zero rfl hfinal

/-- The calls that make a header say something. -/
def Frame.calls (f : Frame) : List SetCall :=
  [.setFinal f.final, .setCompressed f.compressed, .setRsv (f.rsv.setWidth 8),
    .setOpcode f.opcode, .setMask f.mask, .setLen (f.len.setWidth 8)]

/-- A header can say anything that a frame is. -/
lemma frame_surjective : Function.Surjective frame := by
  intro f
  refine ⟨f.calls.foldl SetCall.run ⟨0⟩, ?_⟩
  have hrsv : (f.rsv.setWidth 8).setWidth 2 = f.rsv :=
    BitVec.setWidth_setWidth_of_le _ (by decide) |>.trans (BitVec.setWidth_eq _)
  have hlen : (f.len.setWidth 8).setWidth 7 = f.len :=
    BitVec.setWidth_setWidth_of_le _ (by decide) |>.trans (BitVec.setWidth_eq _)
  rw [frame_foldl]
  exact Frame.ext rfl rfl hrsv rfl rfl hlen

/-! ## On the wire -/

/-- The two bytes of a header are read back. -/
lemma fromSlice_slice (h : WebsocketHeader) : fromSlice h.slice = h := by
  refine WebsocketHeader.ext (BitVec.eq_of_getLsbD_eq fun i hi => ?_)
  simp only [fromSlice, slice, BitVec.getLsbD_or, BitVec.getLsbD_shiftLeft,
    BitVec.getLsbD_setWidth, BitVec.getLsbD_ushiftRight]
  by_cases hlow : i < 8
  · simp only [hlow, hi, decide_true, Bool.not_true, Bool.and_false, Bool.false_and,
      Bool.true_and, Bool.false_or]
  · have hhigh : i - 8 < 8 := by omega
    have hhigh' : i - 8 < 16 := by omega
    have hback : 8 + (i - 8) = i := by omega
    simp only [hlow, hi, hhigh, hhigh', hback, decide_true, decide_false, Bool.not_false,
      Bool.true_and, Bool.false_and, Bool.and_false, Bool.or_false]

/-- `new` sets three fields and the final bit. -/
lemma new_eq (len : BitVec 8) (mask : Bool) (opcode : Opcode) :
    new len mask opcode =
      ((((⟨0⟩ : WebsocketHeader).setLen len).setMask mask).setOpcode opcode).setFinal true := by
  have hlen : ∀ b : BitVec 16, lenField.get b = 0 →
      b ||| ((len.setWidth 16 &&& lenMask) <<< lenShift) =
        lenField.set b (len.setWidth 16) := fun b hb => BitField.or_eq_set (f := lenField) hb
  have hmask : ∀ b : BitVec 16, maskField.get b = 0 →
      b ||| (boolAsU16 mask <<< maskShift) = maskField.set b (boolAsU16 mask) :=
    fun b hb => orBit_eq maskField rfl hb mask
  have hopcode : ∀ b : BitVec 16, opcodeField.get b = 0 →
      b ||| ((opcode.toRaw.setWidth 16 &&& opcodeMask) <<< opcodeShift) =
        opcodeField.set b (opcode.toRaw.setWidth 16) :=
    fun b hb => BitField.or_eq_set (f := opcodeField) hb
  have hfinal : ∀ b : BitVec 16, finalField.get b = 0 →
      b ||| ((1 : BitVec 16) <<< finalShift) = finalField.set b (boolAsU16 true) :=
    fun b hb => orBit_eq finalField rfl hb true
  rw [setLen_eq, setMask_eq, setOpcode_eq, setFinal_eq, new, hlen, hmask, hopcode, hfinal]
  · simp (disch := decide) only [BitField.get_set_of_apart]
    rfl
  · simp (disch := decide) only [BitField.get_set_of_apart]
    rfl
  · simp (disch := decide) only [BitField.get_set_of_apart]
    rfl
  · rfl

lemma frame_new (len : BitVec 8) (mask : Bool) (opcode : Opcode) :
    (new len mask opcode).frame = ⟨true, false, 0, opcode, mask, len.setWidth 7⟩ := by
  rw [new_eq]
  exact frame_foldl ⟨0⟩ [.setLen len, .setMask mask, .setOpcode opcode, .setFinal true]

/-- What is read from a field of up to eight bits fits its type. -/
lemma setWidth_get (f : BitField 16) (b : BitVec 16) {n : ℕ} (hn : f.width ≤ n) (hn8 : n ≤ 8) :
    (f.get b).setWidth 8 = (((f.get b).setWidth 8).setWidth n).setWidth 8 := by
  have hlt : (f.get b).toNat < 2 ^ n :=
    BitField.get_lt.trans_le (Nat.pow_le_pow_right (by decide) hn)
  have hle : 2 ^ n ≤ 2 ^ 8 := Nat.pow_le_pow_right (by decide) hn8
  apply BitVec.eq_of_toNat_eq
  simp only [BitVec.toNat_setWidth]
  rw [Nat.mod_eq_of_lt (hlt.trans_le hle), Nat.mod_eq_of_lt hlt,
    Nat.mod_eq_of_lt (hlt.trans_le hle)]

lemma len_of_frame (h : WebsocketHeader) : h.len = h.frame.len.setWidth 8 :=
  setWidth_get lenField h.bits le_rfl (by decide)

lemma rsv_of_frame (h : WebsocketHeader) : h.rsv = h.frame.rsv.setWidth 8 :=
  setWidth_get rsvField h.bits le_rfl (by decide)

/-- **A header is the record of its six fields.**  Each of the records is the record of exactly
one header, and the getters read nothing that the record has not.  Whatever setters are called on
a header, what is read from the wire is the record of the old header with the fields set that the
calls name, in their order. -/
theorem header_refines (h : WebsocketHeader) (calls : List SetCall) :
    Function.Bijective frame ∧
      (h.len = h.frame.len.setWidth 8 ∧ h.rsv = h.frame.rsv.setWidth 8) ∧
      (fromSlice (calls.foldl SetCall.run h).slice).frame =
        calls.foldl SetCall.apply h.frame := by
  refine ⟨⟨frame_injective, frame_surjective⟩, ⟨h.len_of_frame, h.rsv_of_frame⟩, ?_⟩
  rw [fromSlice_slice, frame_foldl]

/-! ## Lengths -/

/-- How many bytes of length follow the header, by the length in it. -/
def extendedLength (len : BitVec 8) : ℕ := if len = 126 then 2 else if len = 127 then 8 else 0

/-- The length in a header has seven bits. -/
lemma packLength_setWidth (n : ℕ) : ((packLength n).setWidth 7).setWidth 8 = packLength n := by
  have hlt : (packLength n).toNat < 2 ^ 7 := by
    rw [packLength]
    split_ifs with hsmall
    · rw [BitVec.toNat_ofNat]
      omega
    · decide
    · decide
  apply BitVec.eq_of_toNat_eq
  rw [BitVec.toNat_setWidth, BitVec.toNat_setWidth, Nat.mod_eq_of_lt hlt,
    Nat.mod_eq_of_lt (hlt.trans (by decide))]

/-- The length in a header tells how many bytes follow. -/
lemma extendedLength_packLength (n : ℕ) : extendedLength (packLength n) = lengthByteCount n := by
  rw [packLength, lengthByteCount]
  split_ifs with hsmall hmedium
  · have hne : ∀ m : BitVec 8, 125 < m.toNat → BitVec.ofNat 8 n ≠ m := by
      rintro m hm rfl
      rw [BitVec.toNat_ofNat] at hm
      omega
    rw [extendedLength, if_neg (hne 126 (by decide)), if_neg (hne 127 (by decide))]
  · rfl
  · rfl

/-- The other setters leave the length as it is. -/
lemma len_foldl {calls : List SetCall} (hcalls : ∀ call ∈ calls, ∀ v, call ≠ .setLen v)
    (f : Frame) : (calls.foldl SetCall.apply f).len = f.len := by
  induction calls generalizing f with
  | nil => rfl
  | cons call calls ih =>
      rw [List.foldl_cons, ih fun c hc => hcalls c (List.mem_cons_of_mem _ hc)]
      cases call with
      | setLen v => exact absurd rfl (hcalls _ List.mem_cons_self v)
      | _ => rfl

/-- **A header tells where its payload is.**  A header that is made for a payload of any length,
and on which any setters but `set_len` are called, is written without a failed assertion; who
reads it knows from its length how many bytes of length follow, which with the header and the
payload are the size of the frame. -/
theorem writeHeader_frames (n : ℕ) (mask : Bool) (opcode : Opcode) {calls : List SetCall}
    (hcalls : ∀ call ∈ calls, ∀ v, call ≠ .setLen v) :
    ∃ bytes, (calls.foldl SetCall.run (new (packLength n) mask opcode)).writeHeader n =
        some bytes ∧
      (fromSlice bytes).frame =
        calls.foldl SetCall.apply ⟨true, false, 0, opcode, mask, (packLength n).setWidth 7⟩ ∧
      frameSize n = headerLength + extendedLength (fromSlice bytes).len + n ∧
      (n ≤ 125 → (fromSlice bytes).len.toNat = n) := by
  have hframe := frame_foldl (new (packLength n) mask opcode) calls
  rw [frame_new] at hframe
  generalize calls.foldl SetCall.run (new (packLength n) mask opcode) = h at hframe ⊢
  have hlen : h.len = packLength n := by
    rw [len_of_frame, hframe, len_foldl hcalls, packLength_setWidth]
  refine ⟨h.slice, ?_, ?_, ?_, fun hsmall => ?_⟩
  · rw [writeHeader, if_pos ⟨h.fromSlice_slice, hlen⟩]
  · rw [fromSlice_slice, hframe]
  · rw [fromSlice_slice, hlen, extendedLength_packLength, frameSize]
    omega
  · rw [fromSlice_slice, hlen, packLength, if_pos hsmall, BitVec.toNat_ofNat]
    omega

theorem writeHeader_frames_text :
    ∃ bytes, (((new (packLength 300) true .text).setCompressed true).setFinal false).writeHeader
        300 = some bytes ∧
      (fromSlice bytes).frame = ⟨false, true, 0, .text, true, 126⟩ ∧ frameSize 300 = 304 := by
  have hcalls : ∀ call ∈ [SetCall.setCompressed true, .setFinal false], ∀ v,
      call ≠ SetCall.setLen v := by simp
  obtain ⟨bytes, hbytes, hframe, -⟩ := writeHeader_frames 300 true .text hcalls
  exact ⟨bytes, hbytes, hframe, rfl⟩

end WebsocketHeader

end TorOnion
