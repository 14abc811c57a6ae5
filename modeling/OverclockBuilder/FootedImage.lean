import OverclockBuilder.AvbBlob

namespace OverclockBuilder

open RadixText BytePacking StructFormat

/-!
# What is read behind a footer

`_parse_image` finds the vbmeta behind the image it was made for, as far as
there is room for it in front of the last block.
-/

/-- `add_hash_footer` keeps 64 KiB free. -/
theorem room_behind
    {partitionSize : Nat}
    (large : maxMetadataSize ≤ partitionSize)
    (aligned : partitionSize % blockSize = 0)
    {original : Bytes}
    (room : original.length ≤ partitionSize - maxMetadataSize)
    {size : Nat}
    (short : size ≤ 64 * 1024) :
    (padToBlock original).length + size ≤ partitionSize - blockSize := by
  have padded :
      (padToBlock original).length ≤ partitionSize - maxMetadataSize := by
    have fits := le_roundToMultiple original.length
      (show 0 < blockSize by decide)
    rw [padToBlock, List.length_append, List.length_replicate,
      Nat.add_sub_cancel' fits, roundToMultiple]
    by_cases whole : original.length % blockSize = 0
    · rw [if_pos whole]
      exact room
    · rw [if_neg whole]
      simp only [maxMetadataSize, blockSize] at *
      omega
  simp only [maxMetadataSize, blockSize] at *
  omega

/-- What lies behind a front is found at its length. -/
theorem slice_behind
    (front back : Bytes)
    (offset width : Nat) :
    slice (front.length + offset) width (front ++ back) =
      slice offset width back := by
  rw [slice, slice, List.drop_length_add_append]

section Footed

variable {partitionSize : Nat} {original blob : Bytes}

/-- The blob is found behind the padded image, as far as there is room. -/
theorem slice_footedImage
    {offset width : Nat}
    (inBlob : offset + width ≤ blob.length)
    (room :
      (padToBlock original).length + offset + width ≤
        partitionSize - blockSize) :
    slice ((padToBlock original).length + offset) width
        (footedImage partitionSize original blob) =
      slice offset width blob := by
  let bound := (padToBlock original).length + offset + width
  have short : bound ≤ (padToBlock original ++ blob).length := by
    rw [List.length_append]
    omega
  have content :
      padToBlock original ++ padToBlock blob =
        (padToBlock original ++ blob) ++
          List.replicate
            (roundToMultiple blob.length blockSize - blob.length) 0 := by
    rw [List.append_assoc]
    rfl
  have inContent :
      bound ≤ (padToBlock original ++ padToBlock blob).length := by
    rw [content, List.length_append]
    omega
  have agree :
      (footedImage partitionSize original blob).take bound =
        (padToBlock original ++ blob).take bound := by
    rw [take_footedImage room inContent, content,
      List.take_append_of_le_length short]
  rw [slice_congr agree (Nat.le_refl bound), slice_behind]

/-- The footer that was written, and its version. -/
theorem footerOf_footedImage
    (fits : (newFooter original blob).fits = true) :
    footerOf (footedImage partitionSize original blob) =
      some (newFooter original blob) :=
  footerOf_append_encode _ fits

theorem footerVersion_append_encode
    (content : Bytes)
    (footer : AvbFooter) :
    footerVersion (content ++ footer.encode) = (1, 0) := by
  have behind :
      (content ++ footer.encode).drop
          ((content ++ footer.encode).length - footerSize) =
        footer.encode := by
    rw [List.length_append, length_encode, Nat.add_sub_cancel,
      List.drop_left]
  have major : slice 4 4 footer.encode = bigEndian 4 1 := by
    simp only [AvbFooter.encode, List.append_assoc]
    refine slice_middle ?_ (length_bigEndian 4 1) _
    rfl
  have minor : slice 8 4 footer.encode = bigEndian 4 0 := by
    simp only [AvbFooter.encode, List.append_assoc]
    rw [← List.append_assoc]
    refine slice_middle ?_ (length_bigEndian 4 0) _
    rfl
  rw [footerVersion, behind, major, minor, ofBigEndian_bigEndian,
    ofBigEndian_bigEndian]
  rfl

/-- What is read from a footed image with an unsigned header. -/
def footedInfo
    (partitionSize : Nat)
    (footer : AvbFooter)
    (header : AvbVBMetaHeader)
    (descriptors : List AvbDescriptor) :
    AvbImageInfo where
  footer := some ((1, 0), footer)
  imageSize := partitionSize
  sparse := false
  header := header
  keyBlob := []
  descriptors := descriptors

/-- The header comes first in the blob. -/
theorem vbmetaHeaderOf_footedImage
    (fits : (newFooter original blob).fits = true)
    {front back : Bytes}
    (isBlob : blob = front ++ back)
    {header : AvbVBMetaHeader}
    (read : readHeader front = some header)
    (length : front.length = headerSize)
    (room :
      (padToBlock original).length + headerSize ≤
        partitionSize - blockSize) :
    vbmetaOffsetOf (footedImage partitionSize original blob) =
        (padToBlock original).length ∧
      vbmetaHeaderOf (footedImage partitionSize original blob) =
        some header := by
  have offset :
      vbmetaOffsetOf (footedImage partitionSize original blob) =
        (padToBlock original).length := by
    rw [vbmetaOffsetOf, footerOf_footedImage fits]
    rfl
  have inBlob : 0 + headerSize ≤ blob.length := by
    rw [isBlob, List.length_append]
    omega
  have atHeader : slice 0 headerSize blob = front := by
    rw [isBlob, slice, List.drop_zero, List.take_left' length]
  refine ⟨offset, ?_⟩
  have here :
      slice ((padToBlock original).length + 0) headerSize
          (footedImage partitionSize original blob) =
        slice 0 headerSize blob :=
    slice_footedImage inBlob room
  rw [Nat.add_zero] at here
  rw [vbmetaHeaderOf, offset, here, atHeader, read]

/-- An unsigned vbmeta that has room is read back. -/
theorem parseImage_footedImage
    {lib : Hashlib}
    (large : maxMetadataSize ≤ partitionSize)
    (fits : (newFooter original blob).fits = true)
    {front encoded back : Bytes}
    (isBlob : blob = front ++ (encoded ++ back))
    {header : AvbVBMetaHeader}
    (read : readHeader front = some header)
    (length : front.length = headerSize)
    (unsigned :
      header.authenticationDataBlockSize = 0 ∧ header.publicKeySize = 0)
    (placed :
      header.descriptorsOffset = 0 ∧
        header.descriptorsSize = encoded.length)
    {descriptors : List AvbDescriptor}
    (parsed : parseDescriptors lib encoded = some descriptors)
    (room :
      (padToBlock original).length + headerSize + encoded.length ≤
        partitionSize - blockSize) :
    parseImage lib (footedImage partitionSize original blob) =
      some (footedInfo partitionSize (newFooter original blob) header
        descriptors) := by
  have headerRoom :
      (padToBlock original).length + headerSize ≤
        partitionSize - blockSize := by
    omega
  obtain ⟨offset, isHeader⟩ :=
    vbmetaHeaderOf_footedImage fits isBlob read length headerRoom
  have size := length_footedImage large original blob
  have inBlob : headerSize + encoded.length ≤ blob.length := by
    simp only [isBlob, List.length_append]
    omega
  have atDescriptors :
      slice ((padToBlock original).length + headerSize) encoded.length
          (footedImage partitionSize original blob) = encoded := by
    rw [slice_footedImage inBlob room, isBlob]
    exact slice_middle length (by rfl) back
  have version :
      footerVersion (footedImage partitionSize original blob) = (1, 0) :=
    footerVersion_append_encode _ _
  have long : ¬ partitionSize < footerSize := by
    simp only [maxMetadataSize, footerSize] at *
    omega
  rw [parseImage, size, if_neg long, isHeader]
  simp only [offset, unsigned, placed, Nat.add_zero, atDescriptors, parsed,
    Option.bind_eq_bind, Option.bind_some, footerOf_footedImage fits,
    Option.map_some, version, footedInfo]
  rfl

end Footed

end OverclockBuilder
