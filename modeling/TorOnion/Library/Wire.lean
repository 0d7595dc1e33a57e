import Mathlib

/-!
# Buffers that are read from the front

A buffer that is valid is known by the bytes left in it.  Reading may make it invalid.  A `Codec` is
a writer and a reader of one type of value such that what was written is read back in front of
anything, and nothing else is consumed; pairs and encoded values inherit this.

`flagged` is the buffer of a list of bytes and a flag, with little-endian words and byte arrays of
whole words.
-/

namespace TorOnion

namespace Wire

/-- A type of buffers. -/
structure Buffer (β : Type) where
  ofBytes : List UInt8 → β
  isValid : β → Bool
  validate : β → Bool → β
  isValid_ofBytes : ∀ bytes, isValid (ofBytes bytes) = true
  validate_true : ∀ bytes, validate (ofBytes bytes) true = ofBytes bytes

variable {β : Type}

/-- A writer and a reader. -/
structure Codec (b : Buffer β) (α : Type) where
  write : α → List UInt8
  read : β → α × β
  read_write : ∀ value rest, read (b.ofBytes (write value ++ rest)) = (value, b.ofBytes rest)

namespace Codec

variable {b : Buffer β} {α γ : Type}

/-- One value after the other. -/
def pair (first : Codec b α) (second : Codec b γ) : Codec b (α × γ) where
  write value := first.write value.1 ++ second.write value.2
  read buffer :=
    let (x, buffer) := first.read buffer
    let (y, buffer) := second.read buffer
    ((x, y), buffer)
  read_write value rest := by
    simp [List.append_assoc, first.read_write, second.read_write]

/-- A value that is written as another one. -/
def encoded (codec : Codec b α) (encode : γ → α) (decode : α → γ)
    (hdecode : ∀ value, decode (encode value) = value) : Codec b γ where
  write value := codec.write (encode value)
  read buffer :=
    let (code, buffer) := codec.read buffer
    (decode code, buffer)
  read_write value rest := by
    simp [codec.read_write, hdecode]

end Codec

/-! ## Bytes and a flag -/

/-- The bytes left, and whether the buffer is valid. -/
def flagged : Buffer (List UInt8 × Bool) where
  ofBytes bytes := (bytes, true)
  isValid buffer := buffer.2
  validate buffer condition := (buffer.1, buffer.2 && condition)
  isValid_ofBytes _ := rfl
  validate_true _ := rfl

/-- The bytes of a word, the least significant one first. -/
def wordBytes (word : UInt32) : List UInt8 :=
  [word.toUInt8, (word >>> 8).toUInt8, (word >>> 16).toUInt8, (word >>> 24).toUInt8]

/-- The word of four bytes. -/
def ofWordBytes (b₀ b₁ b₂ b₃ : UInt8) : UInt32 :=
  UInt32.ofNat (b₀.toNat + b₁.toNat * 2 ^ 8 + b₂.toNat * 2 ^ 16 + b₃.toNat * 2 ^ 24)

lemma ofWordBytes_wordBytes (word : UInt32) :
    ofWordBytes word.toUInt8 (word >>> 8).toUInt8 (word >>> 16).toUInt8 (word >>> 24).toUInt8 =
      word := by
  have hlt := word.toNat_lt
  refine UInt32.toNat_inj.mp ?_
  simp only [ofWordBytes, UInt32.toNat_ofNat', UInt32.toNat_toUInt8, UInt32.toNat_shiftRight,
    Nat.shiftRight_eq_div_pow, UInt32.toNat_ofNat, Nat.reducePow, Nat.reduceMod]
  omega

/-- A word of four bytes. -/
def word : Codec flagged UInt32 where
  write := wordBytes
  read
    | (b₀ :: b₁ :: b₂ :: b₃ :: rest, valid) => (ofWordBytes b₀ b₁ b₂ b₃, (rest, valid))
    | (_, _) => (0, ([], false))
  read_write value rest := by
    show (ofWordBytes _ _ _ _, (rest, true)) = (value, (rest, true))
    rw [ofWordBytes_wordBytes]

/-- A Boolean as a word. -/
def bool : Codec flagged Bool :=
  word.encoded (fun value => if value then 1 else 0) (fun code => decide (code ≠ 0)) (by decide)

/-- How many zero bytes make whole words. -/
def padding (n : ℕ) : ℕ := (4 - n % 4) % 4

/-- A byte array: its length, its bytes, and zeros up to whole words. -/
def writeArray (bytes : List UInt8) : List UInt8 :=
  word.write (UInt32.ofNat bytes.length) ++ bytes ++ List.replicate (padding bytes.length) 0

/-- A byte array of any length. -/
def readArray (buffer : List UInt8 × Bool) : List UInt8 × (List UInt8 × Bool) :=
  let (code, (rest, valid)) := word.read buffer
  let size := code.toNat
  if size + padding size ≤ rest.length then
    (rest.take size, (rest.drop (size + padding size), valid))
  else ([], ([], false))

/-- A byte array of a given length. -/
def readArrayOf (size : ℕ) (buffer : List UInt8 × Bool) : List UInt8 × (List UInt8 × Bool) :=
  let (bytes, (rest, valid)) := readArray buffer
  if bytes.length = size then (bytes, (rest, valid)) else ([], (rest, false))

lemma readArray_writeArray {bytes : List UInt8} (h : bytes.length < 2 ^ 32) (rest : List UInt8) :
    readArray (flagged.ofBytes (writeArray bytes ++ rest)) = (bytes, flagged.ofBytes rest) := by
  have hsize : (UInt32.ofNat bytes.length).toNat = bytes.length := by
    rw [UInt32.toNat_ofNat', Nat.mod_eq_of_lt h]
  have hread := word.read_write (UInt32.ofNat bytes.length)
    (bytes ++ (List.replicate (padding bytes.length) 0 ++ rest))
  rw [readArray, writeArray, List.append_assoc, List.append_assoc, hread]
  simp only [flagged, hsize, List.length_append, List.length_replicate]
  rw [if_pos (by omega), List.take_left, ← List.append_assoc, List.drop_left']
  simp

lemma readArrayOf_writeArray {bytes : List UInt8} (h : bytes.length < 2 ^ 32)
    (rest : List UInt8) :
    readArrayOf bytes.length (flagged.ofBytes (writeArray bytes ++ rest)) =
      (bytes, flagged.ofBytes rest) := by
  rw [readArrayOf, readArray_writeArray h]
  simp [flagged]

end Wire

end TorOnion
