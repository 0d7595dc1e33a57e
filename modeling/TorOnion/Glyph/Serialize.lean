import TorOnion.Library.Wire

/-!
# Glyphs in buffers: `graphics/glyph/main_gr.cpp`

A glyph is written in four sections, its metrics, image, path and drawable, and read back section by
section.  Some sections are empty: the image of a glyph that is empty or too large for the atlas,
the drawable of a glyph that is empty or has none.  The reader decides this again from the metrics
it has read.

The headers and the buffers of Skia are not part of the repository.  `Skia` bundles what the file
uses of them: the primitives of the buffers, which are inverse to each other, pictures that are
deserialized to themselves, and the inline members of `SkGlyph`.  A pointer to an image is the bytes
it points at.  An arena always has memory.
-/

namespace TorOnion

open Wire (Buffer Codec)

/-! ## Data -/

/-- `SkMask::Format`. -/
inductive MaskFormat
  | bw
  | a8
  | threeD
  | argb32
  | lcd16
  | sdf
  deriving DecidableEq

/-- `SkGlyph::PathData`. -/
structure PathData (Path : Type) where
  fPath : Path
  fHasPath : Bool
  fHairline : Bool
  fModified : Bool
  deriving DecidableEq

/-- `SkGlyph::DrawableData`. -/
structure DrawableData (Drawable : Type) where
  fDrawable : Option Drawable
  fHasDrawable : Bool
  deriving DecidableEq

/-- `SkGlyph`. -/
structure SkGlyph (Scalar Path Drawable : Type) where
  fID : UInt32
  fAdvanceX : Scalar
  fAdvanceY : Scalar
  fWidth : UInt16
  fHeight : UInt16
  fLeft : Int16
  fTop : Int16
  fMaskFormat : MaskFormat
  fImage : Option (List UInt8)
  fPathData : Option (PathData Path)
  fDrawableData : Option (DrawableData Drawable)
  deriving DecidableEq

/-! ## Skia -/

/-- `SkWriteBuffer` and `SkReadBuffer`. -/
structure SkBuffers (β Scalar Path : Type) extends Buffer β where
  uint : Codec toBuffer UInt32
  point : Codec toBuffer (Scalar × Scalar)
  bool : Codec toBuffer Bool
  writePath : Path → List UInt8
  readPath : β → Option Path × β
  readPath_writePath : ∀ path rest,
    readPath (ofBytes (writePath path ++ rest)) = (some path, ofBytes rest)
  writeByteArray : List UInt8 → List UInt8
  /-- Into memory of a given size. -/
  readByteArray : ℕ → β → List UInt8 × β
  readByteArrayAsData : β → List UInt8 × β
  readByteArray_writeByteArray : ∀ bytes rest, bytes.length < 2 ^ 32 →
    readByteArray bytes.length (ofBytes (writeByteArray bytes ++ rest)) = (bytes, ofBytes rest)
  readByteArrayAsData_writeByteArray : ∀ bytes rest, bytes.length < 2 ^ 32 →
    readByteArrayAsData (ofBytes (writeByteArray bytes ++ rest)) = (bytes, ofBytes rest)

/-- `SkPicture` and `SkDrawable`. -/
structure SkPictures (Picture Drawable : Type) where
  makePictureSnapshot : Drawable → Picture
  serialize : Picture → List UInt8
  /-- `SkPicture::MakeFromData`. -/
  makeFromData : List UInt8 → Option Picture
  makeFromData_serialize : ∀ picture, makeFromData (serialize picture) = some picture
  /-- A `SkPictureBackedGlyphDrawable`. -/
  pictureBacked : Picture → Drawable
  drawableBytesUsed : Drawable → ℕ

/-- The inline members of `SkGlyph`, of a width and a height, and the codes of the mask formats. -/
structure SkGlyphHeader (Path : Type) where
  isEmpty : UInt16 → UInt16 → Bool
  imageTooLarge : UInt16 → UInt16 → Bool
  /-- `setImageHasBeenCalled`, of the image besides: a glyph that is empty or too large has none to
  set. -/
  setImageHasBeenCalled : Option (List UInt8) → UInt16 → UInt16 → Bool
  setImageHasBeenCalled_iff : ∀ image width height,
    setImageHasBeenCalled image width height = true ↔
      image.isSome = true ∨ isEmpty width height = true ∨ imageTooLarge width height = true
  maxDimension : UInt16 → UInt16 → ℕ
  le_maxDimension : ∀ width height,
    width.toNat ≤ maxDimension width height ∧ height.toNat ≤ maxDimension width height
  /-- `kSkSideTooBigForAtlas`. -/
  sideTooBigForAtlas : ℕ
  sideTooBigForAtlas_le : sideTooBigForAtlas ≤ 2 ^ 14
  formatCode : MaskFormat → UInt32
  /-- `SkTo<SkMask::Format>` with `SkMask::IsValidFormat`. -/
  formatOf : UInt32 → Option MaskFormat
  formatOf_formatCode : ∀ format, formatOf (formatCode format) = some format
  /-- A `PathData` as it is constructed. -/
  noPath : PathData Path
  fHasPath_noPath : noPath.fHasPath = false
  pathBytesUsed : Path → ℕ

/-- What the file uses of Skia. -/
structure Skia (β Scalar Path Picture Drawable : Type) extends
  SkBuffers β Scalar Path, SkPictures Picture Drawable, SkGlyphHeader Path

/-! ## Sizes -/

/-- `bits_to_bytes`. -/
def bitsToBytes (bits : ℕ) : ℕ := (bits + 7) >>> 3

/-- `format_alignment`. -/
def formatAlignment : MaskFormat → ℕ
  | .bw | .a8 | .threeD | .sdf => 1
  | .argb32 => 4
  | .lcd16 => 2

/-- `format_rowbytes`. -/
def formatRowbytes (width : ℕ) (format : MaskFormat) : ℕ :=
  if format = .bw then bitsToBytes width else width * formatAlignment format

namespace SkGlyph

variable {β Scalar Path Picture Drawable : Type}

/-- `path`, after `setPath`. -/
def path (g : SkGlyph Scalar Path Drawable) : Option Path :=
  g.fPathData.bind fun data => if data.fHasPath then some data.fPath else none

/-- `pathIsHairline`, after `setPath`. -/
def pathIsHairline (g : SkGlyph Scalar Path Drawable) : Bool := g.fPathData.any PathData.fHairline

/-- `pathIsModified`, after `setPath`. -/
def pathIsModified (g : SkGlyph Scalar Path Drawable) : Bool := g.fPathData.any PathData.fModified

/-- `drawable`, after `setDrawable`. -/
def drawable (g : SkGlyph Scalar Path Drawable) : Option Drawable :=
  g.fDrawableData.bind fun data => if data.fHasDrawable then data.fDrawable else none

end SkGlyph

namespace Skia

variable {β Scalar Path Picture Drawable : Type} (sk : Skia β Scalar Path Picture Drawable)

/-- `rowBytes`. -/
def rowBytes (g : SkGlyph Scalar Path Drawable) : ℕ :=
  formatRowbytes g.fWidth.toNat g.fMaskFormat

/-- `imageSize`. -/
def imageSize (g : SkGlyph Scalar Path Drawable) : ℕ :=
  if sk.isEmpty g.fWidth g.fHeight || sk.imageTooLarge g.fWidth g.fHeight then 0
  else
    let size := rowBytes g * g.fHeight.toNat
    if g.fMaskFormat = .threeD then size * 3 else size

/-- `SkGlyphDigest::FitsInAtlas`. -/
def fitsInAtlas (g : SkGlyph Scalar Path Drawable) : Bool :=
  decide (sk.maxDimension g.fWidth g.fHeight ≤ sk.sideTooBigForAtlas)

/-- The bytes of the image. -/
def imageBytes (g : SkGlyph Scalar Path Drawable) : List UInt8 :=
  (g.fImage.getD []).take (sk.imageSize g)

/-! ## Setting a path and a drawable -/

/-- What `installPath` makes. -/
def installPath (path : Option Path) (hairline modified : Bool) : PathData Path :=
  match path with
  | some path => ⟨path, true, hairline, modified⟩
  | none => sk.noPath

/-- `setPath`. -/
def setPath (g : SkGlyph Scalar Path Drawable) (path : Option Path) (hairline modified : Bool) :
    Bool × SkGlyph Scalar Path Drawable :=
  if g.fPathData.isSome then (false, g)
  else
    let g := { g with fPathData := some (sk.installPath path hairline modified) }
    (g.path.isSome, g)

/-- What `installDrawable` makes. -/
def installDrawable (drawable : Option Drawable) : DrawableData Drawable :=
  ⟨drawable, drawable.isSome⟩

/-- `setDrawable`. -/
def setDrawable (g : SkGlyph Scalar Path Drawable) (drawable : Option Drawable) :
    Bool × SkGlyph Scalar Path Drawable :=
  if g.fDrawableData.isSome then (false, g)
  else
    let g := { g with fDrawableData := some (installDrawable drawable) }
    (g.drawable.isSome, g)

/-! ## Writing -/

/-- `flattenMetrics`. -/
def flattenMetrics (g : SkGlyph Scalar Path Drawable) : List UInt8 :=
  let left := g.fLeft.toUInt16.toUInt32
  let top := g.fTop.toUInt16.toUInt32
  sk.uint.write g.fID ++ sk.point.write (g.fAdvanceX, g.fAdvanceY) ++
    sk.uint.write (g.fWidth.toUInt32 <<< 16 ||| g.fHeight.toUInt32) ++
    sk.uint.write (left <<< 16 ||| top) ++ sk.uint.write (sk.formatCode g.fMaskFormat)

/-- `flattenImage`. -/
def flattenImage (g : SkGlyph Scalar Path Drawable) : List UInt8 :=
  if !sk.isEmpty g.fWidth g.fHeight && sk.fitsInAtlas g then sk.writeByteArray (sk.imageBytes g)
  else []

/-- `flattenPath`. -/
def flattenPath (g : SkGlyph Scalar Path Drawable) : List UInt8 :=
  sk.bool.write g.path.isSome ++
    match g.path with
    | none => []
    | some path =>
        sk.bool.write g.pathIsHairline ++ sk.bool.write g.pathIsModified ++ sk.writePath path

/-- `SkPictureBackedGlyphDrawable::FlattenDrawable`. -/
def flattenDrawableOf (drawable : Option Drawable) : List UInt8 :=
  match drawable with
  | none => sk.writeByteArray []
  | some drawable =>
      let data := sk.serialize (sk.makePictureSnapshot drawable)
      if ¬ data.length < 2 ^ 32 ∨ data = [] then sk.writeByteArray []
      else sk.writeByteArray data

/-- `flattenDrawable`. -/
def flattenDrawable (g : SkGlyph Scalar Path Drawable) : List UInt8 :=
  if sk.isEmpty g.fWidth g.fHeight || g.drawable.isNone then sk.flattenDrawableOf none
  else sk.flattenDrawableOf g.drawable

/-! ## Reading -/

/-- `SkGlyph::MakeFromBuffer`. -/
def makeFromBuffer (buffer : β) : Option (SkGlyph Scalar Path Drawable) × β :=
  let (packedID, buffer) := sk.uint.read buffer
  let (advance, buffer) := sk.point.read buffer
  let (dimensions, buffer) := sk.uint.read buffer
  let (leftTop, buffer) := sk.uint.read buffer
  let (code, buffer) := sk.uint.read buffer
  let format := sk.formatOf code
  let buffer := sk.validate buffer format.isSome
  match format with
  | none => (none, buffer)
  | some format =>
      if !sk.isValid buffer then (none, buffer)
      else
        (some
          { fID := packedID
            fAdvanceX := advance.1
            fAdvanceY := advance.2
            fWidth := (dimensions >>> 16).toUInt16
            fHeight := (dimensions &&& 0xffff).toUInt16
            fLeft := (leftTop >>> 16).toUInt16.toInt16
            fTop := (leftTop &&& 0xffff).toUInt16.toInt16
            fMaskFormat := format
            fImage := none
            fPathData := none
            fDrawableData := none }, buffer)

/-- `addImageFromBuffer`: the increase of memory, the glyph and the buffer. -/
def addImageFromBuffer (g : SkGlyph Scalar Path Drawable) (buffer : β) :
    ℕ × SkGlyph Scalar Path Drawable × β :=
  if sk.isEmpty g.fWidth g.fHeight || !sk.fitsInAtlas g then (0, g, buffer)
  else
    let (imageData, buffer) := sk.readByteArray (sk.imageSize g) buffer
    if sk.isValid buffer then (sk.imageSize g, { g with fImage := some imageData }, buffer)
    else (0, g, buffer)

/-- `addPathFromBuffer`. -/
def addPathFromBuffer (g : SkGlyph Scalar Path Drawable) (buffer : β) :
    ℕ × SkGlyph Scalar Path Drawable × β :=
  let (hasPath, buffer) := sk.bool.read buffer
  if !sk.isValid buffer then (0, g, buffer)
  else if hasPath then
    let (pathIsHairline, buffer) := sk.bool.read buffer
    let (pathIsModified, buffer) := sk.bool.read buffer
    let (path, buffer) := sk.readPath buffer
    match path with
    | none => (0, g, buffer)
    | some path =>
        let (set, g) := sk.setPath g (some path) pathIsHairline pathIsModified
        (if set then sk.pathBytesUsed path else 0, g, buffer)
  else
    (0, (sk.setPath g none false false).2, buffer)

/-- `SkPictureBackedGlyphDrawable::MakeFromBuffer`. -/
def makeDrawableFromBuffer (buffer : β) : Option Drawable × β :=
  let (pictureData, buffer) := sk.readByteArrayAsData buffer
  if !sk.isValid buffer || pictureData.isEmpty then (none, buffer)
  else
    let picture := sk.makeFromData pictureData
    let buffer := sk.validate buffer picture.isSome
    if !sk.isValid buffer then (none, buffer)
    else (picture.map sk.pictureBacked, buffer)

/-- `addDrawableFromBuffer`. -/
def addDrawableFromBuffer (g : SkGlyph Scalar Path Drawable) (buffer : β) :
    ℕ × SkGlyph Scalar Path Drawable × β :=
  let (drawable, buffer) := sk.makeDrawableFromBuffer buffer
  if !sk.isValid buffer then (0, g, buffer)
  else
    let (set, g) := setDrawable g drawable
    (if set then (g.drawable.map sk.drawableBytesUsed).getD 0 else 0, g, buffer)

/-! ## All sections -/

/-- The four sections of a glyph. -/
def flatten (g : SkGlyph Scalar Path Drawable) : List UInt8 :=
  sk.flattenMetrics g ++ sk.flattenImage g ++ sk.flattenPath g ++ sk.flattenDrawable g

/-- The four sections read in the same order. -/
def readGlyph (buffer : β) : Option (SkGlyph Scalar Path Drawable) × β :=
  match sk.makeFromBuffer buffer with
  | (none, buffer) => (none, buffer)
  | (some g, buffer) =>
      let (_, g, buffer) := sk.addImageFromBuffer g buffer
      let (_, g, buffer) := sk.addPathFromBuffer g buffer
      let (_, g, buffer) := sk.addDrawableFromBuffer g buffer
      (some g, buffer)

end Skia

end TorOnion
