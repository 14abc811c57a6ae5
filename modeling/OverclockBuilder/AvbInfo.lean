import OverclockBuilder.AvbFooter
import OverclockBuilder.ByteText
import OverclockBuilder.CNumber
import OverclockBuilder.LineText

namespace OverclockBuilder

open RadixText BytePacking CNumber LineText

/-!
# What `info_image` prints

The vbmeta of an image as `avbtool.py` parses it, and the text that
`avbtool.py info_image` makes of it.  Names, keys, command lines and the release
string are printed as they are, so their newlines end up in the text.
-/

/--
A name `hashlib.new` knows.

OpenSSL separates the names of its algorithms by colons.
-/
structure HashName where
  name : Text
  plain :
    name.all (fun character => character ≠ ':' && character ≠ '\n') = true
  deriving Repr, DecidableEq

structure AvbPropertyDescriptor where
  key : Text
  value : Bytes
  deriving Repr, DecidableEq

structure AvbHashtreeDescriptor where
  dmVerityVersion : Nat
  imageSize : Nat
  treeOffset : Nat
  treeSize : Nat
  dataBlockSize : Nat
  hashBlockSize : Nat
  fecNumRoots : Nat
  fecOffset : Nat
  fecSize : Nat
  hashAlgorithm : HashName
  partitionName : Text
  salt : Bytes
  rootDigest : Bytes
  flags : Nat
  deriving Repr, DecidableEq

structure AvbHashDescriptor where
  imageSize : Nat
  hashAlgorithm : HashName
  partitionName : Text
  salt : Bytes
  digest : Bytes
  flags : Nat
  deriving Repr, DecidableEq

structure AvbKernelCmdlineDescriptor where
  flags : Nat
  kernelCmdline : Text
  deriving Repr, DecidableEq

structure AvbChainPartitionDescriptor where
  rollbackIndexLocation : Nat
  partitionName : Text
  publicKey : Bytes
  flags : Nat
  deriving Repr, DecidableEq

/-- An instance of one of `DESCRIPTOR_CLASSES`, or of `AvbDescriptor` itself. -/
inductive AvbDescriptor where
  | property : AvbPropertyDescriptor → AvbDescriptor
  | hashtree : AvbHashtreeDescriptor → AvbDescriptor
  | hash : AvbHashDescriptor → AvbDescriptor
  | kernelCmdline : AvbKernelCmdlineDescriptor → AvbDescriptor
  | chainPartition : AvbChainPartitionDescriptor → AvbDescriptor
  | unknown (tag : Nat) (data : Bytes) : AvbDescriptor
  deriving Repr, DecidableEq

structure AvbVBMetaHeader where
  requiredLibavbVersionMajor : Nat
  requiredLibavbVersionMinor : Nat
  authenticationDataBlockSize : Nat
  auxiliaryDataBlockSize : Nat
  algorithmType : Nat
  hashOffset : Nat
  hashSize : Nat
  signatureOffset : Nat
  signatureSize : Nat
  publicKeyOffset : Nat
  publicKeySize : Nat
  publicKeyMetadataOffset : Nat
  publicKeyMetadataSize : Nat
  descriptorsOffset : Nat
  descriptorsSize : Nat
  rollbackIndex : Nat
  flags : Nat
  rollbackIndexLocation : Nat
  releaseString : Text
  deriving Repr, DecidableEq

/-- What `info_image` knows of an image. -/
structure AvbImageInfo where
  /-- the version in the footer, and the footer -/
  footer : Option ((Nat × Nat) × AvbFooter)
  imageSize : Nat
  sparse : Bool
  header : AvbVBMetaHeader
  keyBlob : Bytes
  descriptors : List AvbDescriptor
  deriving Repr, DecidableEq

/-- `lookup_algorithm_by_type` -/
def lookupAlgorithmByType : Nat → Option Text
  | 0 => some "NONE".toList
  | 1 => some "SHA256_RSA2048".toList
  | 2 => some "SHA256_RSA4096".toList
  | 3 => some "SHA256_RSA8192".toList
  | 4 => some "SHA512_RSA2048".toList
  | 5 => some "SHA512_RSA4096".toList
  | 6 => some "SHA512_RSA8192".toList
  | 7 => some "MLDSA65".toList
  | 8 => some "MLDSA87".toList
  | _ => none

/-! ## Printing -/

/-- `'LABEL {}'.format(number)` -/
def numberPiece (label : String) (number : Nat) : Text :=
  label.toList ++ printUnsigned number

/-- `'LABEL {} bytes'.format(number)` -/
def bytesPiece (label : String) (number : Nat) : Text :=
  label.toList ++ printUnsigned number ++ " bytes".toList

section Print

variable (sha1 : Bytes → Bytes)

/-- `AvbPropertyDescriptor.print_desc` -/
def AvbPropertyDescriptor.printDesc
    (desc : AvbPropertyDescriptor) :
    List Text :=
  let literal := bytesLiteral desc.value
  -- only a prefix in front of an apostrophe is trimmed
  let printableValue :=
    if literal.head? = some singleQuote then literal else 'b' :: literal
  if desc.value.length < 256 then
    ["    Prop: ".toList ++ desc.key ++ " -> ".toList ++ printableValue]
  else
    ["    Prop: ".toList ++ desc.key ++ " -> (".toList ++
      printUnsigned desc.value.length ++ " bytes)".toList]

/-- `AvbHashtreeDescriptor.print_desc` -/
def AvbHashtreeDescriptor.printDesc
    (desc : AvbHashtreeDescriptor) :
    List Text :=
  ["    Hashtree descriptor:".toList,
    numberPiece "      Version of dm-verity:  " desc.dmVerityVersion,
    bytesPiece "      Image Size:            " desc.imageSize,
    numberPiece "      Tree Offset:           " desc.treeOffset,
    bytesPiece "      Tree Size:             " desc.treeSize,
    bytesPiece "      Data Block Size:       " desc.dataBlockSize,
    bytesPiece "      Hash Block Size:       " desc.hashBlockSize,
    numberPiece "      FEC num roots:         " desc.fecNumRoots,
    numberPiece "      FEC offset:            " desc.fecOffset,
    bytesPiece "      FEC size:              " desc.fecSize,
    "      Hash Algorithm:        ".toList ++ desc.hashAlgorithm.name,
    "      Partition Name:        ".toList ++ desc.partitionName,
    "      Salt:                  ".toList ++ hexlify desc.salt,
    "      Root Digest:           ".toList ++ hexlify desc.rootDigest,
    numberPiece "      Flags:                 " desc.flags]

/-- `AvbHashDescriptor.print_desc` -/
def AvbHashDescriptor.printDesc (desc : AvbHashDescriptor) : List Text :=
  ["    Hash descriptor:".toList,
    bytesPiece "      Image Size:            " desc.imageSize,
    "      Hash Algorithm:        ".toList ++ desc.hashAlgorithm.name,
    "      Partition Name:        ".toList ++ desc.partitionName,
    "      Salt:                  ".toList ++ hexlify desc.salt,
    "      Digest:                ".toList ++ hexlify desc.digest,
    numberPiece "      Flags:                 " desc.flags]

/-- `AvbKernelCmdlineDescriptor.print_desc` -/
def AvbKernelCmdlineDescriptor.printDesc
    (desc : AvbKernelCmdlineDescriptor) :
    List Text :=
  ["    Kernel Cmdline descriptor:".toList,
    numberPiece "      Flags:                 " desc.flags,
    "      Kernel Cmdline:        ".toList ++
      singleQuote :: desc.kernelCmdline ++ [singleQuote]]

/-- `AvbChainPartitionDescriptor.print_desc` -/
def AvbChainPartitionDescriptor.printDesc
    (desc : AvbChainPartitionDescriptor) :
    List Text :=
  ["    Chain Partition descriptor:".toList,
    "      Partition Name:          ".toList ++ desc.partitionName,
    numberPiece "      Rollback Index Location: " desc.rollbackIndexLocation,
    "      Public key (sha1):       ".toList ++ hexlify (sha1 desc.publicKey),
    numberPiece "      Flags:                   " desc.flags]

/-- `AvbDescriptor.print_desc` -/
def printUnknown (tag : Nat) (data : Bytes) : List Text :=
  ["    Unknown descriptor:".toList,
    numberPiece "      Tag:  " tag,
    if data.length < 256 then
      "      Data: ".toList ++ reprAscii ('b' :: bytesLiteral data) ++
        " (".toList ++ printUnsigned data.length ++ " bytes)".toList
    else
      bytesPiece "      Data: " data.length]

/-- The pieces `print_desc` writes. -/
def AvbDescriptor.printDesc : AvbDescriptor → List Text
  | .property desc => desc.printDesc
  | .hashtree desc => desc.printDesc
  | .hash desc => desc.printDesc
  | .kernelCmdline desc => desc.printDesc
  | .chainPartition desc => desc.printDesc sha1
  | .unknown tag data => printUnknown tag data

/-- The block above the header that a footer adds. -/
def footerPieces
    (version : Nat × Nat)
    (footer : AvbFooter)
    (imageSize : Nat) :
    List Text :=
  ["Footer version:           ".toList ++ printUnsigned version.1 ++
      ".".toList ++ printUnsigned version.2,
    bytesPiece "Image size:               " imageSize,
    bytesPiece "Original image size:      " footer.originalImageSize,
    numberPiece "VBMeta offset:            " footer.vbmetaOffset,
    bytesPiece "VBMeta size:              " footer.vbmetaSize,
    "--".toList]

/-- The header without its release string. -/
def headerPieces (info : AvbImageInfo) (algName : Text) : List Text :=
  ["Minimum libavb version:   ".toList ++
      printUnsigned info.header.requiredLibavbVersionMajor ++ ".".toList ++
        printUnsigned info.header.requiredLibavbVersionMinor ++
          (if info.sparse then " (Sparse)".toList else []),
    bytesPiece "Header Block:             " 256,
    bytesPiece "Authentication Block:     "
      info.header.authenticationDataBlockSize,
    bytesPiece "Auxiliary Block:          "
      info.header.auxiliaryDataBlockSize] ++
    (if info.keyBlob = [] then
      []
    else
      ["Public key (sha1):        ".toList ++ hexlify (sha1 info.keyBlob)]) ++
    ["Algorithm:                ".toList ++ algName,
      numberPiece "Rollback Index:           " info.header.rollbackIndex,
      numberPiece "Flags:                    " info.header.flags,
      numberPiece "Rollback Index Location:  "
        info.header.rollbackIndexLocation]

/-- `Release String:` -/
def releasePiece (releaseString : Text) : Text :=
  "Release String:           ".toList ++
    singleQuote :: releaseString ++ [singleQuote]

/-- The descriptors, or a line that says there are none. -/
def descriptorPieces (descriptors : List AvbDescriptor) : List Text :=
  if descriptors = [] then
    ["    (none)".toList]
  else
    descriptors.flatMap (AvbDescriptor.printDesc sha1)

/-- The pieces `Avb.info_image` writes; an unknown algorithm raises. -/
def infoPieces (info : AvbImageInfo) : Option (List Text) := do
  let algName ← lookupAlgorithmByType info.header.algorithmType
  let front :=
    match info.footer with
    | some (version, footer) => footerPieces version footer info.imageSize
    | none => []
  some
    (front ++ headerPieces sha1 info algName ++
      [releasePiece info.header.releaseString, "Descriptors:".toList] ++
        descriptorPieces sha1 info.descriptors)

/-- `avbtool.py info_image --image IMAGE`, as the text it prints -/
def infoImage (info : AvbImageInfo) : Option Text :=
  (infoPieces sha1 info).map writeLines

end Print

end OverclockBuilder
