import Mathlib.Data.List.DropRight
import OverclockBuilder.AvbInfo
import OverclockBuilder.StructFormat

namespace OverclockBuilder

open RadixText BytePacking StructFormat

/-!
# The vbmeta of an image

How `avbtool.py` finds the vbmeta through the footer of an image, reads its
header and its descriptors, and how it writes a header, a hash descriptor and
property descriptors.  The image is not an Android sparse image; what raises is
`none`.
-/

/-- `hashlib`, and the size of its digests. -/
structure Hashlib where
  /-- `hashlib.new(name)`, as the digest of the data that follow -/
  new : Text → Option (Bytes → Bytes)
  sized :
    ∀ {name digest}, new name = some digest →
      ∀ data, (digest data).length = (digest []).length

/-- `hashlib.new(name).digest_size` -/
def Hashlib.digestSize (lib : Hashlib) (name : Text) : Option Nat :=
  (lib.new name).map fun digest => (digest []).length

/-! ## Strings in fixed fields -/

/-- `data.rstrip(b'\0')` -/
def stripNul (data : Bytes) : Bytes :=
  data.rdropWhile (· = 0)

/-- `data.decode('ascii')` -/
def decodeAscii (data : Bytes) : Option Text :=
  if data.all (fun byte => byte.toNat < 128) then
    some (data.map byteChar)
  else
    none

/-- `text.encode('ascii')` -/
def encodeAscii (text : Text) : Option Bytes :=
  if text.all (fun character => character.toNat < 128) then
    some (text.map charByte)
  else
    none

/-- No name with a colon or a newline is known. -/
def HashName.ofText (name : Text) : Option HashName :=
  if plain :
      name.all (fun character => character ≠ ':' && character ≠ '\n') =
        true then
    some ⟨name, plain⟩
  else
    none

/-! ## The header -/

/-- `AvbVBMetaHeader.SIZE` -/
def headerSize : Nat :=
  256

/-- `AvbVBMetaHeader.MAGIC`, the text `AVB0` -/
def vbmetaMagic : Bytes :=
  [0x41, 0x56, 0x42, 0x30]

/-- `AvbVBMetaHeader.FORMAT_STRING` -/
def headerFormat : List Field :=
  [.string 4, .unsigned 4, .unsigned 4, .unsigned 8, .unsigned 8,
    .unsigned 4, .unsigned 8, .unsigned 8, .unsigned 8, .unsigned 8,
    .unsigned 8, .unsigned 8, .unsigned 8, .unsigned 8, .unsigned 8,
    .unsigned 8, .unsigned 8, .unsigned 4, .unsigned 4, .string 47,
    .padding 1, .padding 80]

/-- `get_release_string` -/
def getReleaseString : Text :=
  "avbtool 1.4.0".toList

/-- `AvbVBMetaHeader()` -/
def defaultHeader : AvbVBMetaHeader where
  requiredLibavbVersionMajor := 1
  requiredLibavbVersionMinor := 0
  authenticationDataBlockSize := 0
  auxiliaryDataBlockSize := 0
  algorithmType := 0
  hashOffset := 0
  hashSize := 0
  signatureOffset := 0
  signatureSize := 0
  publicKeyOffset := 0
  publicKeySize := 0
  publicKeyMetadataOffset := 0
  publicKeyMetadataSize := 0
  descriptorsOffset := 0
  descriptorsSize := 0
  rollbackIndex := 0
  flags := 0
  rollbackIndexLocation := 0
  releaseString := getReleaseString

/-- `AvbVBMetaHeader.encode` -/
def AvbVBMetaHeader.encode (header : AvbVBMetaHeader) : Option Bytes :=
  pack headerFormat
    [.string vbmetaMagic,
      .number header.requiredLibavbVersionMajor,
      .number header.requiredLibavbVersionMinor,
      .number header.authenticationDataBlockSize,
      .number header.auxiliaryDataBlockSize,
      .number header.algorithmType,
      .number header.hashOffset,
      .number header.hashSize,
      .number header.signatureOffset,
      .number header.signatureSize,
      .number header.publicKeyOffset,
      .number header.publicKeySize,
      .number header.publicKeyMetadataOffset,
      .number header.publicKeyMetadataSize,
      .number header.descriptorsOffset,
      .number header.descriptorsSize,
      .number header.rollbackIndex,
      .number header.flags,
      .number header.rollbackIndexLocation,
      .string (encodeUtf8 header.releaseString)]

/-- The fields of an unpacked header. -/
def headerOfItems : List Item → Option AvbVBMetaHeader
  | [.string magic, .number requiredMajor, .number requiredMinor,
      .number authenticationSize, .number auxiliarySize,
      .number algorithmType, .number hashOffset, .number hashSize,
      .number signatureOffset, .number signatureSize,
      .number publicKeyOffset, .number publicKeySize,
      .number metadataOffset, .number metadataSize,
      .number descriptorsOffset, .number descriptorsSize,
      .number rollbackIndex, .number flags, .number rollbackIndexLocation,
      .string release] =>
      if magic ≠ vbmetaMagic then
        none
      else
        (decodeUtf8 (stripNul release)).map fun releaseString =>
          { requiredLibavbVersionMajor := requiredMajor
            requiredLibavbVersionMinor := requiredMinor
            authenticationDataBlockSize := authenticationSize
            auxiliaryDataBlockSize := auxiliarySize
            algorithmType := algorithmType
            hashOffset := hashOffset
            hashSize := hashSize
            signatureOffset := signatureOffset
            signatureSize := signatureSize
            publicKeyOffset := publicKeyOffset
            publicKeySize := publicKeySize
            publicKeyMetadataOffset := metadataOffset
            publicKeyMetadataSize := metadataSize
            descriptorsOffset := descriptorsOffset
            descriptorsSize := descriptorsSize
            rollbackIndex := rollbackIndex
            flags := flags
            rollbackIndexLocation := rollbackIndexLocation
            releaseString := releaseString }
  | _ =>
      none

/-- `AvbVBMetaHeader(data)`; no data at all give the defaults. -/
def readHeader (data : Bytes) : Option AvbVBMetaHeader :=
  if data = [] then
    some defaultHeader
  else
    (unpack headerFormat data).bind headerOfItems

/-! ## Descriptors -/

/-- The format of `AvbDescriptor`: the tag, and the bytes that follow. -/
def descriptorFormat : List Field :=
  [.unsigned 8, .unsigned 8]

/-- `AvbPropertyDescriptor.FORMAT_STRING` -/
def propertyFormat : List Field :=
  descriptorFormat ++ [.unsigned 8, .unsigned 8]

/-- `AvbHashtreeDescriptor.FORMAT_STRING` -/
def hashtreeFormat : List Field :=
  descriptorFormat ++
    [.unsigned 4, .unsigned 8, .unsigned 8, .unsigned 8, .unsigned 4,
      .unsigned 4, .unsigned 4, .unsigned 8, .unsigned 8, .string 32,
      .unsigned 4, .unsigned 4, .unsigned 4, .unsigned 4, .string 60]

/-- `AvbHashDescriptor.FORMAT_STRING` -/
def hashFormat : List Field :=
  descriptorFormat ++
    [.unsigned 8, .string 32, .unsigned 4, .unsigned 4, .unsigned 4,
      .unsigned 4, .string 60]

/-- `AvbKernelCmdlineDescriptor.FORMAT_STRING` -/
def kernelCmdlineFormat : List Field :=
  descriptorFormat ++ [.unsigned 4, .unsigned 4]

/-- `AvbChainPartitionDescriptor.FORMAT_STRING` -/
def chainPartitionFormat : List Field :=
  descriptorFormat ++
    [.unsigned 4, .unsigned 4, .unsigned 4, .unsigned 4, .string 60]

/-- `AvbPropertyDescriptor(data)` -/
def readPropertyDescriptor (data : Bytes) : Option AvbPropertyDescriptor := do
  match ← unpack propertyFormat (data.take 32) with
  | [.number tag, .number following, .number keySize, .number valueSize] =>
      if tag ≠ 0 ∨
          following ≠
            roundToMultiple (16 + keySize + 1 + valueSize + 1) 8 then
        none
      else
        let key ← decodeUtf8 (slice 32 keySize data)
        some { key, value := slice (32 + keySize + 1) valueSize data }
  | _ =>
      none

/-- The digests of `create_avb_hashtree_hasher`. -/
def Hashlib.hashtreeDigestSize (lib : Hashlib) (name : Text) : Option Nat :=
  if name.map Char.toLower = "blake2b-256".toList then
    some 32
  else
    lib.digestSize name

/-- `AvbHashtreeDescriptor(data)` -/
def readHashtreeDescriptor (lib : Hashlib) (data : Bytes) :
    Option AvbHashtreeDescriptor := do
  match ← unpack hashtreeFormat (data.take 180) with
  | [.number tag, .number following, .number dmVerityVersion,
      .number imageSize, .number treeOffset, .number treeSize,
      .number dataBlockSize, .number hashBlockSize, .number fecNumRoots,
      .number fecOffset, .number fecSize, .string algorithm, .number nameLen,
      .number saltLen, .number digestLen, .number flags, .string _] =>
      if tag ≠ 1 ∨
          following ≠
            roundToMultiple (164 + nameLen + saltLen + digestLen) 8 then
        none
      else
        let name ← decodeAscii (stripNul algorithm)
        let partitionName ← decodeUtf8 (slice 180 nameLen data)
        let digestSize ← lib.hashtreeDigestSize name
        let hashAlgorithm ← HashName.ofText name
        if digestLen ≠ digestSize ∧ digestLen ≠ 0 then
          none
        else
          some {
            dmVerityVersion, imageSize, treeOffset, treeSize, dataBlockSize
            hashBlockSize, fecNumRoots, fecOffset, fecSize, hashAlgorithm
            partitionName
            salt := slice (180 + nameLen) saltLen data
            rootDigest := slice (180 + nameLen + saltLen) digestLen data
            flags }
  | _ =>
      none

/-- `AvbHashDescriptor(data)` -/
def readHashDescriptor (lib : Hashlib) (data : Bytes) :
    Option AvbHashDescriptor := do
  match ← unpack hashFormat (data.take 132) with
  | [.number tag, .number following, .number imageSize, .string algorithm,
      .number nameLen, .number saltLen, .number digestLen, .number flags,
      .string _] =>
      if tag ≠ 2 ∨
          following ≠
            roundToMultiple (116 + nameLen + saltLen + digestLen) 8 then
        none
      else
        let name ← decodeAscii (stripNul algorithm)
        let partitionName ← decodeUtf8 (slice 132 nameLen data)
        let digestSize ← lib.digestSize name
        let hashAlgorithm ← HashName.ofText name
        if digestLen ≠ digestSize ∧ digestLen ≠ 0 then
          none
        else
          some {
            imageSize, hashAlgorithm, partitionName
            salt := slice (132 + nameLen) saltLen data
            digest := slice (132 + nameLen + saltLen) digestLen data
            flags }
  | _ =>
      none

/-- `AvbKernelCmdlineDescriptor(data)` -/
def readKernelCmdlineDescriptor (data : Bytes) :
    Option AvbKernelCmdlineDescriptor := do
  match ← unpack kernelCmdlineFormat (data.take 24) with
  | [.number tag, .number following, .number flags, .number cmdlineLen] =>
      if tag ≠ 3 ∨ following ≠ roundToMultiple (8 + cmdlineLen) 8 then
        none
      else
        let kernelCmdline ← decodeUtf8 (slice 24 cmdlineLen data)
        some { flags, kernelCmdline }
  | _ =>
      none

/-- `AvbChainPartitionDescriptor(data)` -/
def readChainPartitionDescriptor (data : Bytes) :
    Option AvbChainPartitionDescriptor := do
  match ← unpack chainPartitionFormat (data.take 92) with
  | [.number tag, .number following, .number rollbackIndexLocation,
      .number nameLen, .number keyLen, .number flags, .string _] =>
      if tag ≠ 4 ∨
          following ≠ roundToMultiple (76 + nameLen + keyLen) 8 then
        none
      else
        let partitionName ← decodeUtf8 (slice 92 nameLen data)
        some {
          rollbackIndexLocation, partitionName
          publicKey := slice (92 + nameLen) keyLen data
          flags }
  | _ =>
      none

/-- One class of `DESCRIPTOR_CLASSES`, or `AvbDescriptor`, on its data. -/
def readDescriptor (lib : Hashlib) (tag : Nat) (data : Bytes) :
    Option AvbDescriptor :=
  match tag with
  | 0 => (readPropertyDescriptor data).map .property
  | 1 => (readHashtreeDescriptor lib data).map .hashtree
  | 2 => (readHashDescriptor lib data).map .hash
  | 3 => (readKernelCmdlineDescriptor data).map .kernelCmdline
  | 4 => (readChainPartitionDescriptor data).map .chainPartition
  | _ => some (.unknown tag (data.drop 16))

/-- The loop of `parse_descriptors`; every round reads at least 16 bytes. -/
def parseDescriptorsFrom (lib : Hashlib) :
    Nat → Bytes → Option (List AvbDescriptor)
  | _, [] =>
      some []
  | 0, _ :: _ =>
      none
  | fuel + 1, data => do
      match ← unpack descriptorFormat (data.take 16) with
      | [.number tag, .number following] =>
          let desc ← readDescriptor lib tag (data.take (16 + following))
          let rest ←
            parseDescriptorsFrom lib fuel (data.drop (16 + following))
          some (desc :: rest)
      | _ =>
          none

/-- `parse_descriptors` -/
def parseDescriptors (lib : Hashlib) (data : Bytes) :
    Option (List AvbDescriptor) :=
  parseDescriptorsFrom lib data.length data

/-! ## Images -/

/-- Where the vbmeta starts. -/
def vbmetaOffsetOf (image : Bytes) : Nat :=
  match footerOf image with
  | some footer => footer.vbmetaOffset
  | none => 0

/-- The version in a footer. -/
def footerVersion (image : Bytes) : Nat × Nat :=
  let data := image.drop (image.length - footerSize)
  (ofBigEndian (slice 4 4 data), ofBigEndian (slice 8 4 data))

/-- The header `_parse_image` reads. -/
def vbmetaHeaderOf (image : Bytes) : Option AvbVBMetaHeader :=
  readHeader (slice (vbmetaOffsetOf image) headerSize image)

/-- `_parse_image`, and the key that `info_image` reads behind it. -/
def parseImage (lib : Hashlib) (image : Bytes) : Option AvbImageInfo :=
  if image.length < footerSize then
    none
  else do
    let header ← vbmetaHeaderOf image
    let vbmetaOffset := vbmetaOffsetOf image
    let auxBlockOffset :=
      vbmetaOffset + headerSize + header.authenticationDataBlockSize
    let descriptors ← parseDescriptors lib
      (slice (auxBlockOffset + header.descriptorsOffset)
        header.descriptorsSize image)
    let vbmetaBlob :=
      slice vbmetaOffset
        (headerSize + header.authenticationDataBlockSize +
          header.auxiliaryDataBlockSize) image
    some {
      footer := (footerOf image).map fun footer => (footerVersion image, footer)
      imageSize := image.length
      sparse := false
      header
      keyBlob :=
        slice (headerSize + header.authenticationDataBlockSize +
          header.publicKeyOffset) header.publicKeySize vbmetaBlob
      descriptors }

end OverclockBuilder
