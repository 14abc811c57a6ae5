import OverclockBuilder.AvbMetadata

namespace OverclockBuilder

open RadixText BytePacking StructFormat

/-!
# The life of an image with a hash footer

`avbtool.py erase_footer`, `resize_image` and `verify_image` on images that are
not Android sparse images.  Whatever commands are run on an image, it stays in
front of its footer, and a footer can be taken off again.
-/

/-- `ImageHandler.MAGIC`, in the order of its bytes -/
def sparseMagic : Bytes :=
  [0x3a, 0xff, 0x26, 0xed]

/-- A file that `ImageHandler` takes for what it holds. -/
def IsRaw (file : Bytes) : Prop :=
  file.take 4 ≠ sparseMagic

instance (file : Bytes) : Decidable (IsRaw file) :=
  inferInstanceAs (Decidable (_ ≠ _))

/-- A raw image without a footer. -/
structure PlainImage (image : Bytes) : Prop where
  raw : IsRaw image
  long : sparseHeaderSize ≤ image.length
  plain : footerOf image = none

/-! ## Commands -/

/-- `AvbFooter.encode` of a footer that was read, with its version. -/
def AvbFooter.encodeVersion
    (version : Nat × Nat)
    (footer : AvbFooter) :
    Bytes :=
  footerMagic ++ bigEndian 4 version.1 ++ bigEndian 4 version.2 ++
    bigEndian 8 footer.originalImageSize ++
      bigEndian 8 footer.vbmetaOffset ++ bigEndian 8 footer.vbmetaSize ++
        List.replicate 28 0

/-- Where the hashtree and its error correction end. -/
def hashtreeEnd : List AvbDescriptor → Option Nat
  | [] =>
      none
  | .hashtree desc :: _ =>
      let treeEnd := desc.treeOffset + desc.treeSize
      let newImageSize :=
        if 0 < desc.fecOffset then
          max treeEnd (desc.fecOffset + desc.fecSize)
        else
          treeEnd
      if newImageSize = 0 then none else some newImageSize
  | _ :: rest =>
      hashtreeEnd rest

/-- `image.truncate`, behind which the image is opened again -/
def truncated (size : Nat) (image : Bytes) : FooterResult :=
  ⟨truncate size image, decide (sparseHeaderSize ≤ size)⟩

/-- `Avb.erase_footer` -/
def eraseFooter
    (lib : Hashlib)
    (keepHashtree : Bool)
    (image : Bytes) :
    FooterResult :=
  if image.length < sparseHeaderSize then
    ⟨image, false⟩
  else
    match parseImage lib image with
    | none => ⟨image, false⟩
    | some info =>
        match info.footer with
        | none => ⟨image, false⟩
        | some (_, footer) =>
            if keepHashtree then
              match hashtreeEnd info.descriptors with
              | none => ⟨image, false⟩
              | some newImageSize => truncated newImageSize image
            else
              truncated footer.originalImageSize image

/-- `Avb.resize_image` -/
def resizeImage
    (lib : Hashlib)
    (partitionSize : Nat)
    (image : Bytes) :
    FooterResult :=
  if image.length < sparseHeaderSize ∨ partitionSize % blockSize ≠ 0 then
    ⟨image, false⟩
  else
    match (parseImage lib image).bind AvbImageInfo.footer with
    | none => ⟨image, false⟩
    | some (version, footer) =>
        let vbmetaEndOffset :=
          roundToMultiple (footer.vbmetaOffset + footer.vbmetaSize)
            blockSize
        if partitionSize < vbmetaEndOffset + blockSize then
          ⟨image, false⟩
        else if vbmetaEndOffset < sparseHeaderSize then
          truncated vbmetaEndOffset image
        else
          ⟨truncate vbmetaEndOffset image ++
              List.replicate (partitionSize - vbmetaEndOffset - blockSize) 0 ++
                (List.replicate (blockSize - footerSize) 0 ++
                  footer.encodeVersion version),
            true⟩

/-- The commands that put a footer on an image, move it or take it off. -/
inductive AvbCommand where
  | addHashFooter
      (partitionSize : Nat)
      (partitionName salt : Text)
      (props : List Text)
  | eraseFooter (keepHashtree : Bool)
  | resizeImage (partitionSize : Nat)
  deriving Repr, DecidableEq

/-- What a command leaves behind, whether it succeeds or raises. -/
def runCommand (lib : Hashlib) (image : Bytes) : AvbCommand → FooterResult
  | .addHashFooter partitionSize partitionName salt props =>
      addHashFooter (hashFooterBlob lib partitionName salt props)
        partitionSize image
  | .eraseFooter keepHashtree =>
      OverclockBuilder.eraseFooter lib keepHashtree image
  | .resizeImage partitionSize =>
      OverclockBuilder.resizeImage lib partitionSize image

/-- The image after some commands, none of which is stopped by another. -/
def runCommands (lib : Hashlib) : Bytes → List AvbCommand → Bytes :=
  List.foldl fun image command => (runCommand lib image command).image

/-- The command that put the last footer on the image, after one more. -/
def nextAdded
    (lib : Hashlib)
    (image : Bytes)
    (last : Option AvbCommand) :
    AvbCommand → Option AvbCommand
  | .addHashFooter partitionSize partitionName salt props =>
      let command :=
        AvbCommand.addHashFooter partitionSize partitionName salt props
      if (runCommand lib image command).succeeded then some command else last
  | _ =>
      last

/-- The last `add_hash_footer` among some commands that succeeds. -/
def lastAdded (lib : Hashlib) :
    Bytes → Option AvbCommand → List AvbCommand → Option AvbCommand
  | _, last, [] =>
      last
  | image, last, command :: commands =>
      lastAdded lib (runCommand lib image command).image
        (nextAdded lib image last command) commands

/-! ## Verification -/

/-- What `verify_image` leaves to openssl and to the hashtree. -/
structure AvbVerifiers where
  /-- `verify_vbmeta_signature` of a signed vbmeta -/
  signature : AvbVBMetaHeader → Bytes → Bool
  /-- a hashtree, and where its image is read on -/
  hashtree : AvbHashtreeDescriptor → Nat → Bool × Nat

/-- `verify_vbmeta_signature` -/
def AvbVerifiers.verifyVbmetaSignature
    (verifiers : AvbVerifiers)
    (header : AvbVBMetaHeader)
    (vbmetaBlob : Bytes) :
    Bool :=
  match lookupAlgorithmByType header.algorithmType with
  | none => false
  | some algName =>
      algName = "NONE".toList || verifiers.signature header vbmetaBlob

/-- The digest of `AvbHashDescriptor.verify` on what is read of a file. -/
def AvbHashDescriptor.verifyData
    (lib : Hashlib)
    (desc : AvbHashDescriptor)
    (data : Bytes) :
    Bool :=
  match lib.new desc.hashAlgorithm.name with
  | none => false
  | some digest =>
      desc.digest = [] || digest (desc.salt ++ data) = desc.digest

section Verify

variable (lib : Hashlib) (verifiers : AvbVerifiers)
  (partitionImage : Text → Option Bytes) (image : Bytes)

/--
The loop over the descriptors.

A descriptor without a partition name goes on reading the image itself, where
the last one stopped.
-/
def verifyDescriptors : Nat → List AvbDescriptor → Bool
  | _, [] =>
      true
  | position, .hash desc :: rest =>
      if desc.partitionName = [] then
        let data := slice position desc.imageSize image
        desc.verifyData lib data &&
          verifyDescriptors (position + data.length) rest
      else
        match partitionImage desc.partitionName with
        | none => false
        | some file =>
            decide (sparseHeaderSize ≤ file.length) &&
              desc.verifyData lib (file.take desc.imageSize) &&
                verifyDescriptors position rest
  | position, .hashtree desc :: rest =>
      let (verified, position) := verifiers.hashtree desc position
      verified && verifyDescriptors position rest
  | _, .chainPartition _ :: _ =>
      -- no chained partition is expected
      false
  | position, _ :: rest =>
      verifyDescriptors position rest

/--
`Avb.verify_image` without a key and without chained partitions

`partitionImage` is what lies beside the image under the name of a partition.
-/
def verifyImage : Bool :=
  if image.length < sparseHeaderSize then
    false
  else
    match parseImage lib image with
    | none => false
    | some info =>
        let offset := vbmetaOffsetOf image
        let vbmetaBlob :=
          slice offset
            (headerSize + info.header.authenticationDataBlockSize +
              info.header.auxiliaryDataBlockSize) image
        verifiers.verifyVbmetaSignature info.header vbmetaBlob &&
          verifyDescriptors lib verifiers partitionImage image
            (offset + vbmetaBlob.length) info.descriptors

end Verify

/-! ## Hash footers -/

/-- A hash footer that has room behind an image. -/
structure HashFooter (lib : Hashlib) (original : Bytes) where
  partitionSize : Nat
  partitionName : Text
  salt : Text
  props : List Text
  blob : Bytes
  generated :
    hashFooterBlob lib partitionName salt props original = some blob
  fits : (newFooter original blob).fits = true
  aligned : partitionSize % blockSize = 0
  room :
    (padToBlock original).length + (padToBlock blob).length + blockSize ≤
      partitionSize

theorem length_padToBlock (content : Bytes) :
    (padToBlock content).length =
      roundToMultiple content.length blockSize := by
  rw [padToBlock, List.length_append, List.length_replicate,
    Nat.add_sub_cancel' (le_roundToMultiple _ (by decide))]

theorem mod_roundToMultiple (number : Nat) {size : Nat} (positive : 0 < size) :
    roundToMultiple number size % size = 0 := by
  have small := Nat.mod_lt number positive
  have split := Nat.div_add_mod number size
  rw [roundToMultiple]
  split
  · assumption
  · rw [show number + size - number % size =
      size * (number / size) + size by omega, Nat.add_mod_right,
      Nat.mul_mod_right]

/-- A multiple stays in front of what is rounded. -/
theorem roundToMultiple_add
    {front size : Nat}
    (aligned : front % size = 0)
    (number : Nat) :
    roundToMultiple (front + number) size =
      front + roundToMultiple number size := by
  have same : (front + number) % size = number % size := by
    rw [Nat.add_mod, aligned, Nat.zero_add, Nat.mod_mod]
  have small := Nat.mod_le number size
  rw [roundToMultiple, roundToMultiple, same]
  split
  · rfl
  · omega

theorem truncate_append
    (front back : Bytes) :
    truncate front.length (front ++ back) = front := by
  rw [truncate, List.take_left, List.length_append,
    Nat.sub_eq_zero_of_le (Nat.le_add_right _ _)]
  exact List.append_nil front

namespace HashFooter

variable {lib : Hashlib} {original : Bytes}

/-- The image with the footer. -/
def image (footer : HashFooter lib original) : Bytes :=
  footedImage footer.partitionSize original footer.blob

/-- Image, vbmeta, hole and footer. -/
theorem image_eq_append (footer : HashFooter lib original) :
    footer.image =
      padToBlock original ++ padToBlock footer.blob ++
        List.replicate
            (footer.partitionSize -
                ((padToBlock original).length +
                  (padToBlock footer.blob).length) -
              blockSize)
            0 ++
          (List.replicate (blockSize - footerSize) 0 ++
            (newFooter original footer.blob).encode) := by
  have room := footer.room
  rw [image, footedImage, truncate, List.take_of_length_le (by
      rw [List.length_append]
      omega),
    List.length_append, Nat.sub_right_comm, List.append_assoc]

theorem length_image (footer : HashFooter lib original) :
    footer.image.length = footer.partitionSize := by
  have room := footer.room
  rw [footer.image_eq_append]
  simp only [List.length_append, List.length_replicate, length_encode]
  simp only [blockSize, footerSize] at *
  omega

/-- The image starts with the original one. -/
theorem image_starts (footer : HashFooter lib original) :
    ∃ back, footer.image = original ++ back := by
  rw [footer.image_eq_append, padToBlock]
  simp only [List.append_assoc]
  exact ⟨_, rfl⟩

theorem long_image
    (footer : HashFooter lib original)
    (long : sparseHeaderSize ≤ original.length) :
    ¬ footer.image.length < sparseHeaderSize := by
  obtain ⟨back, isImage⟩ := footer.image_starts
  rw [isImage, List.length_append]
  omega

theorem footerOf_image (footer : HashFooter lib original) :
    footerOf footer.image = some (newFooter original footer.blob) :=
  footerOf_footedImage footer.fits

/-- Without its footer the image is the original one. -/
theorem originalImage_image (footer : HashFooter lib original) :
    originalImage footer.image = original := by
  obtain ⟨back, isImage⟩ := footer.image_starts
  rw [originalImage, footer.footerOf_image]
  simp only [newFooter, isImage, truncate_append]

/-- The hash descriptor of the vbmeta, and the properties behind it. -/
structure Described
    (footer : HashFooter lib original)
    (digest : Bytes → Bytes)
    (salt : Bytes)
    (properties : List AvbPropertyDescriptor)
    (descriptorsSize : Nat) :
    Prop where
  known : lib.new sha256.name = some digest
  unhexed : unhexlify footer.salt = some salt
  blobSize :
    footer.blob.length = headerSize + roundToMultiple descriptorsSize 64
  parsed :
    parseImage lib footer.image =
      some
        (footedInfo footer.partitionSize (newFooter original footer.blob)
          (generatedHeader descriptorsSize)
          (.hash
              (newHashDescriptor digest footer.partitionName salt
                original) ::
            properties.map .property))

/-- The vbmeta that was written is read back. -/
theorem exists_described (footer : HashFooter lib original) :
    ∃ digest salt properties descriptorsSize,
      footer.Described digest salt properties descriptorsSize := by
  have generated := footer.generated
  simp only [hashFooterBlob, generateVbmetaBlob, Option.bind_eq_bind,
    Option.bind_eq_some_iff, Option.some.injEq] at generated
  obtain ⟨digest, known, salt, unhexed, properties, -, encoded, isEncoded,
    front, isFront, isBlob⟩ := generated
  obtain ⟨read, length⟩ :=
    readHeader_encode storedRelease_getReleaseString isFront
  have sized :
      lib.digestSize sha256.name =
        some (digest (salt ++ original)).length := by
    rw [Hashlib.digestSize, known, Option.map_some,
      lib.sized known (salt ++ original)]
  have parsed := parseDescriptors_encode sha256_stored sized isEncoded
  have blobLength := congrArg List.length isBlob
  simp only [List.length_append, length] at blobLength
  have padded := le_roundToMultiple footer.blob.length
    (show 0 < blockSize by decide)
  have room := footer.room
  rw [length_padToBlock footer.blob] at room
  have headerRoom :
      (padToBlock original).length + headerSize ≤
        footer.partitionSize - blockSize := by
    omega
  obtain ⟨offset, isHeader⟩ :=
    vbmetaHeaderOf_footedImage footer.fits isBlob.symm read length headerRoom
  have inBlob : headerSize + encoded.length ≤ footer.blob.length := by
    omega
  have atDescriptors :
      slice ((padToBlock original).length + headerSize) encoded.length
          footer.image =
        encoded := by
    rw [image, slice_footedImage inBlob (by omega), ← isBlob]
    exact slice_middle length rfl _
  have version : footerVersion footer.image = (1, 0) :=
    footerVersion_append_encode _ _
  have enough : ¬ footer.partitionSize < footerSize := by
    simp only [blockSize, footerSize] at *
    omega
  have whole := le_roundToMultiple encoded.length
    (show 0 < 64 by decide)
  rw [List.length_replicate] at blobLength
  refine ⟨digest, salt, properties, encoded.length, known, unhexed,
    by omega, ?_⟩
  have placed :
      (generatedHeader encoded.length).authenticationDataBlockSize = 0 ∧
        (generatedHeader encoded.length).descriptorsOffset = 0 ∧
          (generatedHeader encoded.length).descriptorsSize =
            encoded.length ∧
            (generatedHeader encoded.length).publicKeySize = 0 :=
    ⟨rfl, rfl, rfl, rfl⟩
  rw [← image] at offset isHeader
  rw [parseImage, footer.length_image, if_neg enough, isHeader]
  simp only [offset, placed, Nat.add_zero, atDescriptors, parsed,
    Option.bind_eq_bind, Option.bind_some, footer.footerOf_image,
    Option.map_some, version, footedInfo]
  rfl

end HashFooter

/-! ## Commands on an image with a footer -/

section Footed

variable {lib : Hashlib} {original : Bytes}

/-- A hash footer describes no hashtree. -/
theorem hashtreeEnd_properties
    (hash : AvbHashDescriptor)
    (properties : List AvbPropertyDescriptor) :
    hashtreeEnd (.hash hash :: properties.map .property) = none := by
  rw [hashtreeEnd]
  · induction properties with
    | nil =>
        rfl
    | cons desc properties inductionHypothesis =>
        rw [List.map_cons, hashtreeEnd]
        · exact inductionHypothesis
        · nofun
  · nofun

/-- An erased footer leaves the original image. -/
theorem eraseFooter_image
    (footer : HashFooter lib original)
    (long : sparseHeaderSize ≤ original.length)
    (keepHashtree : Bool) :
    eraseFooter lib keepHashtree footer.image =
      if keepHashtree then ⟨footer.image, false⟩ else ⟨original, true⟩ := by
  obtain ⟨digest, salt, properties, descriptorsSize, described⟩ :=
    footer.exists_described
  obtain ⟨back, isImage⟩ := footer.image_starts
  rw [eraseFooter, if_neg (footer.long_image long), described.parsed]
  simp only [footedInfo, hashtreeEnd_properties]
  cases keepHashtree with
  | true =>
      rfl
  | false =>
      simp only [Bool.false_eq_true, ↓reduceIte, truncated, newFooter,
        long, decide_true, isImage, truncate_append]

theorem encodeVersion_one (footer : AvbFooter) :
    footer.encodeVersion (1, 0) = footer.encode :=
  rfl

/-- A footer that is moved is a footer again. -/
theorem resizeImage_image
    (footer : HashFooter lib original)
    (long : sparseHeaderSize ≤ original.length)
    (partitionSize : Nat) :
    resizeImage lib partitionSize footer.image = ⟨footer.image, false⟩ ∨
      ∃ resized : HashFooter lib original,
        resized.partitionName = footer.partitionName ∧
          resized.salt = footer.salt ∧ resized.props = footer.props ∧
            resizeImage lib partitionSize footer.image =
              ⟨resized.image, true⟩ := by
  obtain ⟨digest, salt, properties, descriptorsSize, described⟩ :=
    footer.exists_described
  have vbmetaEnd :
      roundToMultiple
          ((newFooter original footer.blob).vbmetaOffset +
            (newFooter original footer.blob).vbmetaSize)
          blockSize =
        (padToBlock original).length + (padToBlock footer.blob).length := by
    rw [newFooter, roundToMultiple_add, length_padToBlock footer.blob]
    rw [length_padToBlock, mod_roundToMultiple _ (by decide)]
  have cut :
      truncate
          ((padToBlock original).length + (padToBlock footer.blob).length)
          footer.image =
        padToBlock original ++ padToBlock footer.blob := by
    rw [footer.image_eq_append,
      List.append_assoc (padToBlock original ++ padToBlock footer.blob),
      ← List.length_append, truncate_append]
  have padded : sparseHeaderSize ≤ (padToBlock original).length := by
    rw [padToBlock, List.length_append]
    omega
  rw [resizeImage]
  by_cases aligned : partitionSize % blockSize = 0
  · rw [if_neg (not_or.mpr
      ⟨footer.long_image long, not_not.mpr aligned⟩), described.parsed]
    simp only [Option.bind_some, footedInfo, vbmetaEnd]
    by_cases small :
        partitionSize <
          (padToBlock original).length + (padToBlock footer.blob).length +
            blockSize
    · rw [if_pos small]
      exact .inl rfl
    · rw [if_neg small, if_neg (by omega)]
      refine .inr
        ⟨{ footer with
            partitionSize := partitionSize
            aligned := aligned
            room := Nat.le_of_not_lt small },
          rfl, rfl, rfl, ?_⟩
      rw [cut, HashFooter.image_eq_append, encodeVersion_one]
  · rw [if_pos (.inr aligned)]
    exact .inl rfl

/-- A command that fails leaves the image without a footer. -/
theorem addHashFooter_failed
    {vbmetaBlob : Bytes → Option Bytes}
    {partitionSize : Nat}
    {image : Bytes}
    (failed :
      (addHashFooter vbmetaBlob partitionSize image).succeeded = false) :
    (addHashFooter vbmetaBlob partitionSize image).image = image ∨
      (addHashFooter vbmetaBlob partitionSize image).image =
        originalImage image := by
  unfold addHashFooter at failed ⊢
  by_cases large : partitionSize < maxMetadataSize
  · rw [if_pos large]
    exact .inl rfl
  rw [if_neg large] at failed ⊢
  by_cases short : image.length < sparseHeaderSize
  · rw [if_pos short]
    exact .inl rfl
  rw [if_neg short] at failed ⊢
  dsimp only at failed ⊢
  right
  by_cases unaligned : partitionSize % blockSize ≠ 0
  · rw [if_pos unaligned]
  rw [if_neg unaligned] at failed ⊢
  by_cases full :
      partitionSize - maxMetadataSize < (originalImage image).length
  · rw [if_pos full]
  rw [if_neg full] at failed ⊢
  cases generated : vbmetaBlob (originalImage image) with
  | none =>
      rfl
  | some blob =>
      rw [generated] at failed
      dsimp only at failed ⊢
      by_cases fits : (newFooter (originalImage image) blob).fits = true
      · rw [if_pos fits] at failed
        cases failed
      · rw [if_neg fits]

/-- Images without a footer are not changed. -/
theorem footer_of_parseImage
    {image : Bytes}
    (plain : footerOf image = none) :
    (parseImage lib image).bind AvbImageInfo.footer = none := by
  cases parsed : parseImage lib image with
  | none =>
      rfl
  | some info =>
      rw [parseImage] at parsed
      split at parsed
      · cases parsed
      · simp only [Option.bind_eq_bind, Option.bind_eq_some_iff,
          Option.some.injEq] at parsed
        obtain ⟨header, -, descriptors, -, rfl⟩ := parsed
        rw [Option.bind_some, plain]
        rfl

theorem eraseFooter_plain
    {image : Bytes}
    (plain : footerOf image = none)
    (keepHashtree : Bool) :
    eraseFooter lib keepHashtree image = ⟨image, false⟩ := by
  have noFooter :
      (parseImage lib image).bind AvbImageInfo.footer = none :=
    footer_of_parseImage plain
  rw [eraseFooter]
  split
  · rfl
  · cases parsed : parseImage lib image with
    | none =>
        rfl
    | some info =>
        rw [parsed, Option.bind_some] at noFooter
        simp only [noFooter]

theorem resizeImage_plain
    {image : Bytes}
    (plain : footerOf image = none)
    (partitionSize : Nat) :
    resizeImage lib partitionSize image = ⟨image, false⟩ := by
  rw [resizeImage, footer_of_parseImage plain]
  split
  · rfl
  · rfl

end Footed

/-! ## Runs of commands -/

/-- The vbmeta a command writes is within `MAX_VBMETA_SIZE`. -/
def AvbCommand.Short (lib : Hashlib) (original : Bytes) : AvbCommand → Prop
  | .addHashFooter _ partitionName salt props =>
      ∀ blob,
        hashFooterBlob lib partitionName salt props original = some blob →
          blob.length ≤ 64 * 1024
  | _ =>
      True

/-- An image that has no footer but the one that was put on it last. -/
def Preserved
    (lib : Hashlib)
    (last : Option AvbCommand)
    (original image : Bytes) :
    Prop :=
  image = original ∨
    ∃ footer : HashFooter lib original,
      image = footer.image ∧
        ∃ partitionSize,
          last =
            some (.addHashFooter partitionSize footer.partitionName
              footer.salt footer.props)

section Runs

variable {lib : Hashlib} {last : Option AvbCommand}
  {original image : Bytes}

theorem Preserved.originalImage
    (preserved : Preserved lib last original image)
    (plain : footerOf original = none) :
    originalImage image = original := by
  rcases preserved with rfl | ⟨footer, isImage, -⟩
  · rw [OverclockBuilder.originalImage, plain]
  · rw [isImage]
    exact footer.originalImage_image

theorem roundToMultiple_le
    {number bound size : Nat}
    (aligned : bound % size = 0)
    (small : number ≤ bound) :
    roundToMultiple number size ≤ bound := by
  have whole := Nat.div_add_mod number size
  have multiple := Nat.mul_div_cancel' (Nat.dvd_of_mod_eq_zero aligned)
  rw [roundToMultiple]
  split
  · exact small
  · have below : number / size < bound / size := by
      refine Nat.lt_of_mul_lt_mul_left (a := size) ?_
      omega
    have next := Nat.mul_le_mul_left size (Nat.succ_le_of_lt below)
    rw [Nat.mul_succ] at next
    omega

/-- A footer that is added has room. -/
theorem preserved_addHashFooter
    (preserved : Preserved lib last original image)
    (plain : footerOf original = none)
    {partitionSize : Nat}
    {partitionName salt : Text}
    {props : List Text}
    (short :
      AvbCommand.Short lib original
        (.addHashFooter partitionSize partitionName salt props)) :
    Preserved lib
      (nextAdded lib image last
        (.addHashFooter partitionSize partitionName salt props))
      original
      (addHashFooter (hashFooterBlob lib partitionName salt props)
        partitionSize image).image := by
  have isOriginal := preserved.originalImage plain
  rw [nextAdded, runCommand]
  cases ending :
    (addHashFooter (hashFooterBlob lib partitionName salt props)
      partitionSize image).succeeded with
  | false =>
      rw [if_neg Bool.false_ne_true]
      rcases addHashFooter_failed ending with same | erased
      · rwa [same]
      · rw [erased, isOriginal]
        exact .inl rfl
  | true =>
      rw [if_pos rfl]
      obtain ⟨blob, large, aligned, room, generated, fits, isFooted⟩ :=
        addHashFooter_inv ending
      rw [isOriginal] at room generated fits isFooted
      have space :=
        room_behind large aligned room
          (show (padToBlock blob).length ≤ 64 * 1024 by
            rw [length_padToBlock]
            exact roundToMultiple_le (by decide) (short blob generated))
      have behind :
          (padToBlock original).length + (padToBlock blob).length +
              blockSize ≤
            partitionSize := by
        simp only [maxMetadataSize, blockSize] at *
        omega
      exact .inr
        ⟨⟨partitionSize, partitionName, salt, props, blob, generated, fits,
            aligned, behind⟩,
          isFooted, partitionSize, rfl⟩

/-- Every command keeps the image. -/
theorem preserved_runCommand
    (preserved : Preserved lib last original image)
    (plainImage : PlainImage original)
    {command : AvbCommand}
    (short : command.Short lib original) :
    Preserved lib (nextAdded lib image last command) original
      (runCommand lib image command).image := by
  have plain := plainImage.plain
  have long := plainImage.long
  cases command with
  | addHashFooter partitionSize partitionName salt props =>
      exact preserved_addHashFooter preserved plain short
  | eraseFooter keepHashtree =>
      simp only [runCommand]
      rcases preserved with rfl | ⟨footer, isImage, added⟩
      · rw [eraseFooter_plain plain]
        exact .inl rfl
      · rw [isImage, eraseFooter_image footer long]
        split
        · exact .inr ⟨footer, rfl, added⟩
        · exact .inl rfl
  | resizeImage partitionSize =>
      simp only [runCommand]
      rcases preserved with rfl | ⟨footer, isImage, added⟩
      · rw [resizeImage_plain plain]
        exact .inl rfl
      · rw [isImage]
        rcases resizeImage_image footer long partitionSize with
          failed | ⟨resized, name, salt, props, succeeded⟩
        · rw [failed]
          exact .inr ⟨footer, rfl, added⟩
        · rw [succeeded]
          rw [← name, ← salt, ← props] at added
          exact .inr ⟨resized, rfl, added⟩

/-- Every run keeps the image. -/
theorem preserved_runCommands
    (preserved : Preserved lib last original image)
    (plainImage : PlainImage original)
    {commands : List AvbCommand}
    (short : ∀ command ∈ commands, command.Short lib original) :
    Preserved lib (lastAdded lib image last commands) original
      (runCommands lib image commands) := by
  induction commands generalizing image last with
  | nil =>
      exact preserved
  | cons command commands inductionHypothesis =>
      exact inductionHypothesis
        (preserved_runCommand preserved plainImage
          (short command List.mem_cons_self))
        fun other member => short other (List.mem_cons_of_mem command member)

end Runs

section Lifecycle

variable {lib : Hashlib} {original : Bytes}

/-- What any run of commands leaves behind. -/
theorem preserved_of_plain
    (plainImage : PlainImage original)
    {commands : List AvbCommand}
    (short : ∀ command ∈ commands, command.Short lib original) :
    Preserved lib (lastAdded lib original none commands) original
      (runCommands lib original commands) :=
  preserved_runCommands (.inl rfl) plainImage short

namespace ExampleImage

/-- The payload of a run on an example image -/
def payload (image : ExampleImage) : Bytes :=
  image.payloadOf image.patchedTree

theorem payload_plain (image : ExampleImage) : PlainImage image.payload := by
  obtain ⟨packed, size, plain⟩ := payloadOf_spec image.patchedTree_mem
  have magic := take_of_writeVendorBoot packed []
  rw [List.append_nil] at magic
  refine ⟨?_, ?_, plain⟩
  · have front :
        (image.payloadOf image.patchedTree).take 4 =
          vendorBootMagic.take 4 := by
      rw [← magic, List.take_take]
      rfl
    rw [IsRaw, payload, front]
    decide
  · rw [payload, size]
    decide

/-- The footer of the run is put on it, and moved twice. -/
def commands (image : ExampleImage) : List AvbCommand :=
  [.addHashFooter image.partitionSize vendorBoot
      image.scan.parameters.salt
      (propArguments (propValue image.machine.isBinary image.scan.avbInfo)),
    .resizeImage 65536, .eraseFooter true]

theorem commands_short (image : ExampleImage) :
    ∀ command ∈ image.commands,
      command.Short image.machine.lib image.payload := by
  obtain ⟨-, size, -⟩ := payloadOf_spec image.patchedTree_mem
  intro command member
  simp only [commands, List.mem_cons, List.not_mem_nil, or_false] at member
  rcases member with rfl | rfl | rfl
  · intro blob generated
    obtain ⟨found, same, length⟩ := image.vbmetaBlob_input size
    have isBlob : found = blob :=
      Option.some.inj (same.symm.trans generated)
    rw [← isBlob, length]
    decide
  · trivial
  · trivial

end ExampleImage

/-- Properties need no verification. -/
theorem verifyDescriptors_properties
    (verifiers : AvbVerifiers)
    (partitionImage : Text → Option Bytes)
    (image : Bytes)
    (position : Nat)
    (properties : List AvbPropertyDescriptor) :
    verifyDescriptors lib verifiers partitionImage image position
        (properties.map .property) =
      true := by
  induction properties with
  | nil =>
      rfl
  | cons desc properties inductionHypothesis =>
      rw [List.map_cons, verifyDescriptors]
      · exact inductionHypothesis
      all_goals nofun

/-- A hash is verified with the file of its partition. -/
theorem verifyDescriptors_hash
    (verifiers : AvbVerifiers)
    (partitionImage : Text → Option Bytes)
    (image : Bytes)
    (position : Nat)
    {hash : AvbHashDescriptor}
    (named : hash.partitionName ≠ [])
    (properties : List AvbPropertyDescriptor) :
    verifyDescriptors lib verifiers partitionImage image position
          (.hash hash :: properties.map .property) =
        true ↔
      ∃ file,
        partitionImage hash.partitionName = some file ∧
          sparseHeaderSize ≤ file.length ∧
            hash.verifyData lib (file.take hash.imageSize) = true := by
  rw [verifyDescriptors, if_neg named]
  cases partitionImage hash.partitionName with
  | none =>
      simp
  | some file =>
      simp only [verifyDescriptors_properties, Bool.and_true,
        Bool.and_eq_true, decide_eq_true_eq, Option.some.injEq,
        exists_eq_left']

/-- A digest is verified by the digest of what is read. -/
theorem verifyData_newHashDescriptor
    {digest : Bytes → Bytes}
    (known : lib.new sha256.name = some digest)
    (partitionName : Text)
    (salt data : Bytes) :
    (newHashDescriptor digest partitionName salt original).verifyData lib
          data =
        true ↔
      digest (salt ++ data) = digest (salt ++ original) := by
  rw [AvbHashDescriptor.verifyData, newHashDescriptor]
  simp only [known, Bool.or_eq_true, decide_eq_true_eq]
  refine ⟨?_, .inr⟩
  rintro (empty | same)
  · have sized :=
      (lib.sized known (salt ++ data)).trans
        (lib.sized known (salt ++ original)).symm
    rw [empty, List.length_nil, List.length_eq_zero_iff] at sized
    rw [sized, empty]
  · exact same

/-- A hash without a name is verified with what follows the vbmeta. -/
theorem verifyDescriptors_unnamed
    (verifiers : AvbVerifiers)
    (partitionImage : Text → Option Bytes)
    (image : Bytes)
    (position : Nat)
    {hash : AvbHashDescriptor}
    (unnamed : hash.partitionName = [])
    (properties : List AvbPropertyDescriptor) :
    verifyDescriptors lib verifiers partitionImage image position
        (.hash hash :: properties.map .property) =
      hash.verifyData lib (slice position hash.imageSize image) := by
  rw [verifyDescriptors, if_pos unnamed]
  simp only [verifyDescriptors_properties, Bool.and_true]

/-- The vbmeta is read as far as it was written. -/
theorem HashFooter.length_vbmeta
    (footer : HashFooter lib original) :
    (slice (padToBlock original).length footer.blob.length
      footer.image).length =
      footer.blob.length := by
  have long := le_roundToMultiple footer.blob.length
    (show 0 < blockSize by decide)
  have room := footer.room
  rw [length_padToBlock footer.blob] at room
  rw [slice, List.length_take, List.length_drop, footer.length_image]
  omega

/-- What a descriptor's digest is compared with. -/
def Verifies
    (digest : Bytes → Bytes)
    (salt original data : Bytes) :
    Prop :=
  digest (salt ++ data) = digest (salt ++ original)

theorem ExampleImage.footed_eq (image : ExampleImage) :
    image.surroundings.footed =
      addHashFooter (image.machine.vbmetaBlob image.scan)
        image.partitionSize image.payload := by
  rw [Surroundings.footed, surroundings]
  rfl

/-- The first of the commands succeeds. -/
theorem ExampleImage.footerOf_runCommands
    {image : ExampleImage}
    (plain : image.Plain)
    (aligned : image.partitionSize % blockSize = 0) :
    (footerOf
        (runCommands image.machine.lib image.payload
          (image.commands.take 1))).isSome =
      true := by
  have succeeded := (plain.fits aligned).succeeded
  rw [image.footed_eq] at succeeded
  obtain ⟨blob, -, isFooted, -, -, isFooter⟩ :=
    addHashFooter_succeeded succeeded
  rw [← isFooted, Machine.vbmetaBlob] at isFooter
  simp only [commands, List.take_succ_cons, List.take_zero, runCommands,
    List.foldl_cons, List.foldl_nil, runCommand, isFooter, Option.isSome_some]

end Lifecycle

end OverclockBuilder
