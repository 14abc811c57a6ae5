import OverclockBuilder.BytePacking

namespace OverclockBuilder

open BytePacking

/-!
# The AVB footer

`avbtool.py add_hash_footer` on an image that is not an Android sparse image,
as the script calls it: with a partition size, and with no request to leave the
image alone.  The vbmeta blob is taken from outside; where it cannot be
generated or written, the image is rolled back.
-/

/-- `ImageHandler.block_size` of an image that is not sparse -/
def blockSize : Nat :=
  4096

/-- The bytes `ImageHandler` reads to tell sparse images apart -/
def sparseHeaderSize : Nat :=
  28

/-- `AvbFooter.SIZE` -/
def footerSize : Nat :=
  64

/-- `MAX_VBMETA_SIZE + MAX_FOOTER_SIZE` -/
def maxMetadataSize : Nat :=
  64 * 1024 + 4096

/-- `AvbFooter.MAGIC`, the text `AVBf` -/
def footerMagic : Bytes :=
  [0x41, 0x56, 0x42, 0x66]

/-- The fields of `AvbFooter` that differ from image to image. -/
structure AvbFooter where
  originalImageSize : Nat
  vbmetaOffset : Nat
  vbmetaSize : Nat
  deriving Repr, DecidableEq

/-- `AvbFooter.encode` -/
def AvbFooter.encode (footer : AvbFooter) : Bytes :=
  footerMagic ++ bigEndian 4 1 ++ bigEndian 4 0 ++
    bigEndian 8 footer.originalImageSize ++
      bigEndian 8 footer.vbmetaOffset ++ bigEndian 8 footer.vbmetaSize ++
        List.replicate 28 0

/-- `AvbFooter(data)` -/
def readFooter (data : Bytes) : Option AvbFooter :=
  if data.length = footerSize ∧ data.take 4 = footerMagic then
    some {
      originalImageSize := ofBigEndian ((data.drop 12).take 8)
      vbmetaOffset := ofBigEndian ((data.drop 20).take 8)
      vbmetaSize := ofBigEndian ((data.drop 28).take 8) }
  else
    none

/-- The footer at the end of an image. -/
def footerOf (image : Bytes) : Option AvbFooter :=
  if footerSize ≤ image.length then
    readFooter (image.drop (image.length - footerSize))
  else
    none

/-- `truncate`, which also grows a file -/
def truncate (size : Nat) (image : Bytes) : Bytes :=
  image.take size ++ List.replicate (size - image.length) 0

/-- The image without the footer it may already have. -/
def originalImage (image : Bytes) : Bytes :=
  match footerOf image with
  | some footer => truncate footer.originalImageSize image
  | none => image

/-- `round_to_multiple` -/
def roundToMultiple (number size : Nat) : Nat :=
  if number % size = 0 then number else number + size - number % size

/-- Zeros up to a whole number of blocks. -/
def padToBlock (content : Bytes) : Bytes :=
  content ++
    List.replicate (roundToMultiple content.length blockSize -
      content.length) 0

/-- The footer of an image and its vbmeta blob. -/
def newFooter (original vbmetaBlob : Bytes) : AvbFooter where
  originalImageSize := original.length
  vbmetaOffset := (padToBlock original).length
  vbmetaSize := vbmetaBlob.length

/-- The image with the vbmeta blob and the footer behind it. -/
def footedImage
    (partitionSize : Nat)
    (original vbmetaBlob : Bytes) :
    Bytes :=
  truncate (partitionSize - blockSize)
      (padToBlock original ++ padToBlock vbmetaBlob) ++
    List.replicate (blockSize - footerSize) 0 ++
      (newFooter original vbmetaBlob).encode

/-- Every `'Q'` of `AvbFooter.encode` must fit. -/
def AvbFooter.fits (footer : AvbFooter) : Bool :=
  footer.originalImageSize < 256 ^ 8 && footer.vbmetaOffset < 256 ^ 8 &&
    footer.vbmetaSize < 256 ^ 8

/-- What `add_hash_footer` leaves behind, and whether it succeeded. -/
structure FooterResult where
  image : Bytes
  succeeded : Bool
  deriving Repr, DecidableEq

/--
`Avb.add_hash_footer`

`vbmetaBlob` is what hashing, `_generate_vbmeta_blob` and the writes give for
an image, or nothing when one of them raises.
-/
def addHashFooter
    (vbmetaBlob : Bytes → Option Bytes)
    (partitionSize : Nat)
    (image : Bytes) :
    FooterResult :=
  if partitionSize < maxMetadataSize then
    ⟨image, false⟩
  else if image.length < sparseHeaderSize then
    ⟨image, false⟩
  else
    let original := originalImage image
    if partitionSize % blockSize ≠ 0 then
      ⟨original, false⟩
    else if partitionSize - maxMetadataSize < original.length then
      ⟨original, false⟩
    else
      match vbmetaBlob original with
      | none => ⟨original, false⟩
      | some blob =>
          if (newFooter original blob).fits then
            ⟨footedImage partitionSize original blob, true⟩
          else
            ⟨original, false⟩

/-! ## What the footer leaves alone -/

@[simp] theorem length_truncate (size : Nat) (image : Bytes) :
    (truncate size image).length = size := by
  rw [truncate, List.length_append, List.length_take,
    List.length_replicate]
  omega

@[simp] theorem length_encode (footer : AvbFooter) :
    footer.encode.length = footerSize := by
  simp [AvbFooter.encode, footerMagic, footerSize]

theorem take_truncate
    {size bound : Nat}
    {image : Bytes}
    (kept : bound ≤ size)
    (inside : bound ≤ image.length) :
    (truncate size image).take bound = image.take bound := by
  have long : bound ≤ (image.take size).length := by
    rw [List.length_take]
    exact Nat.le_min.mpr ⟨kept, inside⟩
  rw [truncate, List.take_append_of_le_length long, List.take_take,
    Nat.min_eq_left kept]

/-- The blocks in front of the last one are the image and the vbmeta blob. -/
theorem take_footedImage
    {partitionSize bound : Nat}
    {original vbmetaBlob : Bytes}
    (kept : bound ≤ partitionSize - blockSize)
    (inside :
      bound ≤ (padToBlock original ++ padToBlock vbmetaBlob).length) :
    (footedImage partitionSize original vbmetaBlob).take bound =
      (padToBlock original ++ padToBlock vbmetaBlob).take bound := by
  have inTruncated :
      bound ≤
        (truncate (partitionSize - blockSize)
          (padToBlock original ++ padToBlock vbmetaBlob)).length :=
    (length_truncate _ _).symm ▸ kept
  rw [footedImage, List.append_assoc,
    List.take_append_of_le_length inTruncated, take_truncate kept inside]

/-- The image with its footer starts with the image it was made of. -/
theorem take_original_footedImage
    {partitionSize bound : Nat}
    {original : Bytes}
    (vbmetaBlob : Bytes)
    (inside : bound ≤ original.length)
    (room : original.length ≤ partitionSize - maxMetadataSize) :
    (footedImage partitionSize original vbmetaBlob).take bound =
      original.take bound := by
  have kept : bound ≤ partitionSize - blockSize := by
    simp only [maxMetadataSize, blockSize] at room ⊢
    omega
  have padded : ∃ zeros, padToBlock original = original ++ zeros :=
    ⟨_, rfl⟩
  obtain ⟨zeros, padded⟩ := padded
  have long :
      bound ≤ (padToBlock original ++ padToBlock vbmetaBlob).length := by
    rw [padded, List.length_append, List.length_append]
    omega
  rw [take_footedImage kept long, padded, List.append_assoc,
    List.take_append_of_le_length inside]

/-- Behind the image comes everything else. -/
theorem exists_footedImage_append
    {partitionSize : Nat}
    {original : Bytes}
    (vbmetaBlob : Bytes)
    (room : original.length ≤ partitionSize - maxMetadataSize) :
    ∃ behind,
      footedImage partitionSize original vbmetaBlob = original ++ behind := by
  have front := take_original_footedImage vbmetaBlob (Nat.le_refl _) room
  rw [List.take_length] at front
  refine ⟨(footedImage partitionSize original vbmetaBlob).drop
    original.length, ?_⟩
  calc
    footedImage partitionSize original vbmetaBlob =
        (footedImage partitionSize original vbmetaBlob).take
            original.length ++
          (footedImage partitionSize original vbmetaBlob).drop
            original.length := (List.take_append_drop _ _).symm
    _ = _ := by rw [front]

/-- An image with a footer fills the partition. -/
theorem length_footedImage
    {partitionSize : Nat}
    (atLeast : maxMetadataSize ≤ partitionSize)
    (original vbmetaBlob : Bytes) :
    (footedImage partitionSize original vbmetaBlob).length =
      partitionSize := by
  simp only [footedImage, List.length_append, length_truncate,
    List.length_replicate, length_encode]
  simp only [maxMetadataSize, blockSize, footerSize] at *
  omega

/-- A footer that was written is found. -/
theorem footerOf_append_encode
    (content : Bytes)
    {footer : AvbFooter}
    (fits : footer.fits = true) :
    footerOf (content ++ footer.encode) = some footer := by
  have behind :
      (content ++ footer.encode).drop
          ((content ++ footer.encode).length - footerSize) =
        footer.encode := by
    rw [List.length_append, length_encode, Nat.add_sub_cancel,
      List.drop_left]
  rw [footerOf, if_pos (by simp), behind, readFooter,
    if_pos ⟨length_encode footer, by simp [AvbFooter.encode, footerMagic]⟩]
  obtain ⟨originalImageSize, vbmetaOffset, vbmetaSize⟩ := footer
  simp only [AvbFooter.fits, Bool.and_eq_true, decide_eq_true_eq] at fits
  obtain ⟨⟨original, offset⟩, size⟩ := fits
  have field
      (front : Bytes)
      (value : Nat)
      (back : Bytes)
      (small : value < 256 ^ 8)
      (skip : Nat)
      (length : front.length = skip) :
      ofBigEndian (((front ++ bigEndian 8 value ++ back).drop skip).take 8) =
        value := by
    rw [List.append_assoc, List.drop_left' length,
      List.take_left' (length_bigEndian 8 value), ofBigEndian_bigEndian,
      Nat.mod_eq_of_lt small]
  rw [Option.some.injEq, AvbFooter.mk.injEq]
  refine ⟨?_, ?_, ?_⟩
  · have first := field (footerMagic ++ bigEndian 4 1 ++ bigEndian 4 0)
      originalImageSize (bigEndian 8 vbmetaOffset ++
        bigEndian 8 vbmetaSize ++ List.replicate 28 0) original 12
      (by simp [footerMagic])
    simpa only [AvbFooter.encode, List.append_assoc] using first
  · have second := field (footerMagic ++ bigEndian 4 1 ++ bigEndian 4 0 ++
        bigEndian 8 originalImageSize) vbmetaOffset
      (bigEndian 8 vbmetaSize ++ List.replicate 28 0) offset 20
      (by simp [footerMagic])
    simpa only [AvbFooter.encode, List.append_assoc] using second
  · have third := field (footerMagic ++ bigEndian 4 1 ++ bigEndian 4 0 ++
        bigEndian 8 originalImageSize ++ bigEndian 8 vbmetaOffset)
      vbmetaSize (List.replicate 28 0) size 28 (by simp [footerMagic])
    simpa only [AvbFooter.encode, List.append_assoc] using third

/-- Only the last bytes of an image can be a footer. -/
theorem footerOf_append
    (front : Bytes)
    {back : Bytes}
    (long : footerSize ≤ back.length) :
    footerOf (front ++ back) = footerOf back := by
  have longer : footerSize ≤ (front ++ back).length := by
    rw [List.length_append]
    omega
  rw [footerOf, footerOf, if_pos longer, if_pos long, List.length_append,
    Nat.add_sub_assoc long, ← List.drop_drop, List.drop_left]

/-- A text without the magic, and zeros behind it, are no footer. -/
theorem footerOf_of_not_infix
    (front : Bytes)
    {text : Bytes}
    (long : footerSize ≤ text.length)
    (absent : ¬footerMagic <:+: text)
    (count : Nat) :
    footerOf (front ++ (text ++ List.replicate count 0)) = none := by
  have longer : footerSize ≤ (text ++ List.replicate count 0).length := by
    rw [List.length_append]
    omega
  rw [footerOf_append front longer, footerOf, if_pos longer, readFooter,
    if_neg]
  rintro ⟨-, found⟩
  have isInfix :
      footerMagic <:+: text ++ List.replicate count 0 := by
    rw [← found]
    exact (List.take_prefix 4 _).isInfix.trans
      (List.drop_suffix _ _).isInfix
  have noZero : (0x66 : UInt8) ∉ List.replicate count 0 := by
    intro member
    exact absurd (List.eq_of_mem_replicate member) (by decide)
  exact absent
    ((infix_append_iff_of_not_mem (by decide) noZero text).mp isInfix)

/-- Zeros at the end are no footer. -/
theorem footerOf_append_zeros
    (front : Bytes)
    {count : Nat}
    (many : footerSize ≤ count) :
    footerOf (front ++ List.replicate count 0) = none := by
  have long : footerSize ≤ (List.replicate count (0 : UInt8)).length := by
    rw [List.length_replicate]
    exact many
  rw [footerOf_append front long, footerOf, if_pos long,
    List.length_replicate, List.drop_replicate, Nat.sub_sub_self many]
  decide

/-- An aligned partition with room takes the footer. -/
theorem addHashFooter_of_room
    {vbmetaBlob : Bytes → Option Bytes}
    {partitionSize : Nat}
    {image blob : Bytes}
    (large : maxMetadataSize ≤ partitionSize)
    (aligned : partitionSize % blockSize = 0)
    (long : sparseHeaderSize ≤ image.length)
    (plain : footerOf image = none)
    (room : image.length ≤ partitionSize - maxMetadataSize)
    (generated : vbmetaBlob image = some blob)
    (fits : (newFooter image blob).fits = true) :
    (addHashFooter vbmetaBlob partitionSize image).succeeded = true := by
  have original : originalImage image = image := by
    rw [originalImage, plain]
  unfold addHashFooter
  rw [if_neg (by omega), if_neg (by omega), original]
  simp only [aligned, ne_eq, not_true_eq_false, ↓reduceIte, generated, fits,
    if_neg (show ¬ partitionSize - maxMetadataSize < image.length by omega)]

/-- A partition that is not made of blocks is refused. -/
theorem addHashFooter_of_unaligned
    {vbmetaBlob : Bytes → Option Bytes}
    {partitionSize : Nat}
    {image : Bytes}
    (plain : footerOf image = none)
    (unaligned : partitionSize % blockSize ≠ 0) :
    addHashFooter vbmetaBlob partitionSize image = ⟨image, false⟩ := by
  have original : originalImage image = image := by
    rw [originalImage, plain]
  simp only [addHashFooter, original, if_pos unaligned, ite_self]

/-- All that a success says. -/
theorem addHashFooter_inv
    {vbmetaBlob : Bytes → Option Bytes}
    {partitionSize : Nat}
    {image : Bytes}
    (succeeded :
      (addHashFooter vbmetaBlob partitionSize image).succeeded = true) :
    ∃ blob,
      maxMetadataSize ≤ partitionSize ∧ partitionSize % blockSize = 0 ∧
        (originalImage image).length ≤ partitionSize - maxMetadataSize ∧
          vbmetaBlob (originalImage image) = some blob ∧
            (newFooter (originalImage image) blob).fits = true ∧
              (addHashFooter vbmetaBlob partitionSize image).image =
                footedImage partitionSize (originalImage image) blob := by
  unfold addHashFooter at succeeded ⊢
  split at succeeded
  · cases succeeded
  · rename_i largeEnough
    split at succeeded
    · cases succeeded
    · rename_i longEnough
      dsimp only at succeeded
      split at succeeded
      · cases succeeded
      · rename_i aligned
        split at succeeded
        · cases succeeded
        · rename_i room
          split at succeeded
          · cases succeeded
          · rename_i blob generated
            split at succeeded
            · rename_i fits
              refine ⟨blob, Nat.le_of_not_lt largeEnough,
                not_not.mp aligned, Nat.le_of_not_lt room, generated, fits,
                ?_⟩
              rw [if_neg largeEnough, if_neg longEnough]
              simp only [if_neg aligned, if_neg room, generated, if_pos fits]
            · cases succeeded

/-- A success leaves an image that fills its partition and ends in a footer. -/
theorem addHashFooter_succeeded
    {vbmetaBlob : Bytes → Option Bytes}
    {partitionSize : Nat}
    {image : Bytes}
    (succeeded :
      (addHashFooter vbmetaBlob partitionSize image).succeeded = true) :
    ∃ blob,
      vbmetaBlob (originalImage image) = some blob ∧
        (addHashFooter vbmetaBlob partitionSize image).image =
            footedImage partitionSize (originalImage image) blob ∧
          (originalImage image).length ≤ partitionSize - maxMetadataSize ∧
            (footedImage partitionSize (originalImage image) blob).length =
                partitionSize ∧
              footerOf
                  (footedImage partitionSize (originalImage image) blob) =
                some (newFooter (originalImage image) blob) := by
  obtain ⟨blob, large, -, room, generated, fits, isImage⟩ :=
    addHashFooter_inv succeeded
  exact ⟨blob, generated, isImage, room, length_footedImage large _ _,
    footerOf_append_encode _ fits⟩

end OverclockBuilder
