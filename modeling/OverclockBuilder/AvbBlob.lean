import OverclockBuilder.AvbFingerprint
import OverclockBuilder.AvbVbmeta

namespace OverclockBuilder

open RadixText BytePacking StructFormat

/-!
# The vbmeta of a new footer

`avbtool.py add_hash_footer` with an image, a partition name, a salt and some
properties: an unsigned vbmeta of one hash descriptor and the properties, whose
other fields are defaults.  What is written here is read back by
`_parse_image`.
-/

/-- `AvbPropertyDescriptor.encode` -/
def AvbPropertyDescriptor.encode
    (desc : AvbPropertyDescriptor) :
    Option Bytes := do
  let keyEncoded := encodeUtf8 desc.key
  let following := 32 + keyEncoded.length + desc.value.length + 2 - 16
  let padded := roundToMultiple following 8
  let front ← pack propertyFormat
    [.number 0, .number padded, .number keyEncoded.length,
      .number desc.value.length]
  some (front ++ (keyEncoded ++ ([0] ++ (desc.value ++
    ([0] ++ List.replicate (padded - following) 0)))))

/-- `AvbHashDescriptor.encode` -/
def AvbHashDescriptor.encode (desc : AvbHashDescriptor) : Option Bytes := do
  let algorithmEncoded ← encodeAscii desc.hashAlgorithm.name
  let nameEncoded := encodeUtf8 desc.partitionName
  let following :=
    132 + nameEncoded.length + desc.salt.length + desc.digest.length - 16
  let padded := roundToMultiple following 8
  let front ← pack hashFormat
    [.number 2, .number padded, .number desc.imageSize,
      .string algorithmEncoded, .number nameEncoded.length,
      .number desc.salt.length, .number desc.digest.length,
      .number desc.flags, .string (List.replicate 60 0)]
  some (front ++ (nameEncoded ++ (desc.salt ++ (desc.digest ++
    List.replicate (padded - following) 0))))

/-- The descriptors of a hash footer, encoded one behind the other. -/
def encodeDescriptors
    (hash : AvbHashDescriptor)
    (properties : List AvbPropertyDescriptor) :
    Option Bytes := do
  let first ← hash.encode
  let others ← properties.mapM AvbPropertyDescriptor.encode
  some (first ++ others.flatten)

/-- The header of an unsigned vbmeta with default options. -/
def generatedHeader (descriptorsSize : Nat) : AvbVBMetaHeader :=
  { defaultHeader with
    auxiliaryDataBlockSize := roundToMultiple descriptorsSize 64
    publicKeyOffset := descriptorsSize
    publicKeyMetadataOffset := descriptorsSize
    descriptorsSize := descriptorsSize }

/-- `Avb._generate_vbmeta_blob` with algorithm `NONE` and default options -/
def generateVbmetaBlob
    (hash : AvbHashDescriptor)
    (props : List Text) :
    Option Bytes := do
  let properties ← props.mapM parseProp
  let encoded ← encodeDescriptors hash properties
  let header ← (generatedHeader encoded.length).encode
  some (header ++ (encoded ++
    List.replicate (roundToMultiple encoded.length 64 - encoded.length) 0))

theorem sha256_plain :
    "sha256".toList.all
        (fun character => character ≠ ':' && character ≠ '\n') =
      true := by
  decide +kernel

/-- The default of `--hash_algorithm` -/
def sha256 : HashName :=
  ⟨"sha256".toList, sha256_plain⟩

/-- The hash descriptor `add_hash_footer` makes for an image. -/
def newHashDescriptor
    (digest : Bytes → Bytes)
    (partitionName : Text)
    (salt image : Bytes) :
    AvbHashDescriptor where
  imageSize := image.length
  hashAlgorithm := sha256
  partitionName := partitionName
  salt := salt
  digest := digest (salt ++ image)
  flags := 0

/--
`add_hash_footer --partition_name NAME --salt SALT --prop PROP ...`, up to the
vbmeta blob.
-/
def hashFooterBlob
    (lib : Hashlib)
    (partitionName salt : Text)
    (props : List Text)
    (image : Bytes) :
    Option Bytes := do
  let digest ← lib.new sha256.name
  let salt ← unhexlify salt
  generateVbmetaBlob (newHashDescriptor digest partitionName salt image) props

/-! ## Descriptors are read back -/

theorem le_roundToMultiple (number : Nat) {size : Nat} (positive : 0 < size) :
    number ≤ roundToMultiple number size := by
  have small := Nat.mod_lt number positive
  unfold roundToMultiple
  split
  · exact Nat.le_refl number
  · omega

/-- Every descriptor starts with its tag and its length. -/
theorem unpack_descriptorFormat
    {fields : List Field}
    {items : List Item}
    {tag following : Nat}
    {front : Bytes}
    (packed :
      pack (descriptorFormat ++ fields)
        (.number tag :: .number following :: items) = some front)
    (back : Bytes) :
    unpack descriptorFormat ((front ++ back).take 16) =
      some [.number tag, .number following] := by
  have unfolded :
      pack (.unsigned 8 :: .unsigned 8 :: fields)
        (.number tag :: .number following :: items) = some front := packed
  rw [pack, pack] at unfolded
  split at unfolded
  · rename_i smallTag
    rw [Option.map_eq_some_iff] at unfolded
    obtain ⟨behindTag, unfolded, rfl⟩ := unfolded
    split at unfolded
    · rename_i smallFollowing
      rw [Option.map_eq_some_iff] at unfolded
      obtain ⟨rest, -, rfl⟩ := unfolded
      have start :
          (bigEndian 8 tag ++ (bigEndian 8 following ++ rest) ++ back).take
              16 =
            bigEndian 8 tag ++ (bigEndian 8 following ++ []) := by
        rw [List.append_nil, ← List.append_assoc, List.append_assoc,
          List.take_left' (by simp)]
      rw [start]
      exact unpack_unsigned smallTag (unpack_unsigned smallFollowing rfl)
    · cases unfolded
  · cases unfolded

/-- A descriptor is as long as its length says. -/
theorem length_padded
    {front body : Bytes}
    {following : Nat}
    (isFollowing : front.length + body.length = 16 + following) :
    (front ++ (body ++ List.replicate
        (roundToMultiple following 8 - following) 0)).length =
      16 + roundToMultiple following 8 := by
  have fits : following ≤ roundToMultiple following 8 :=
    le_roundToMultiple following (by decide)
  rw [List.length_append, List.length_append, List.length_replicate]
  omega

/-- A property descriptor is read back. -/
theorem readPropertyDescriptor_encode
    {desc : AvbPropertyDescriptor}
    {data : Bytes}
    (encoded : desc.encode = some data) :
    readPropertyDescriptor data = some desc ∧
      ∃ following,
        unpack descriptorFormat (data.take 16) =
            some [.number 0, .number following] ∧
          data.length = 16 + following := by
  unfold AvbPropertyDescriptor.encode at encoded
  rw [Option.bind_eq_bind, Option.bind_eq_some_iff] at encoded
  obtain ⟨front, packed, isData⟩ := encoded
  rw [Option.some.injEq] at isData
  generalize isFollowing :
    32 + (encodeUtf8 desc.key).length + desc.value.length + 2 - 16 =
      following at packed isData
  obtain ⟨read, length⟩ := unpack_pack packed
  have frontLength : front.length = 32 := length
  have total :
      16 + (encodeUtf8 desc.key).length + 1 + desc.value.length + 1 =
        following := by
    omega
  have atFront : data.take 32 = front := by
    rw [← isData, List.take_left' frontLength]
  have atKey :
      slice 32 (encodeUtf8 desc.key).length data =
        encodeUtf8 desc.key := by
    rw [← isData]
    exact slice_middle frontLength rfl _
  have atValue :
      slice (32 + (encodeUtf8 desc.key).length + 1) desc.value.length data =
        desc.value := by
    rw [← isData, ← List.append_assoc front, ← List.append_assoc]
    refine slice_middle ?_ rfl _
    simp [frontLength, Nat.add_assoc]
  refine ⟨?_, roundToMultiple following 8, ?_, ?_⟩
  · rw [readPropertyDescriptor, atFront, read]
    simp only [propertyFormat, descriptorFormat, List.cons_append,
      List.nil_append, fit, Option.bind_eq_bind, Option.bind_some, total,
      ne_eq, not_true_eq_false, or_self, if_false, atKey, atValue,
      decodeUtf8_encodeUtf8]
  · rw [← isData]
    exact unpack_descriptorFormat packed _
  · have isLength :
        front.length +
            (encodeUtf8 desc.key ++
              ([0] ++ (desc.value ++ [0]))).length =
          16 + following := by
      simp only [List.length_append, List.length_singleton, frontLength]
      omega
    rw [← isData, ← length_padded isLength]
    simp only [List.append_assoc]

theorem HashName.ofText_name (algorithm : HashName) :
    HashName.ofText algorithm.name = some algorithm :=
  dif_pos algorithm.plain

/-- A name that fits its field. -/
def HashName.Stored (algorithm : HashName) : Prop :=
  ∃ encoded, encodeAscii algorithm.name = some encoded ∧
    decodeAscii (stripNul (fitString 32 encoded)) = some algorithm.name

theorem sha256_stored : sha256.Stored :=
  ⟨[0x73, 0x68, 0x61, 0x32, 0x35, 0x36], by decide +kernel,
    by decide +kernel⟩

/-- A hash descriptor is read back. -/
theorem readHashDescriptor_encode
    {lib : Hashlib}
    {desc : AvbHashDescriptor}
    (stored : desc.hashAlgorithm.Stored)
    (sized :
      lib.digestSize desc.hashAlgorithm.name = some desc.digest.length)
    {data : Bytes}
    (encoded : desc.encode = some data) :
    readHashDescriptor lib data = some desc ∧
      ∃ following,
        unpack descriptorFormat (data.take 16) =
            some [.number 2, .number following] ∧
          data.length = 16 + following := by
  obtain ⟨algorithmEncoded, isEncoded, isStored⟩ := stored
  unfold AvbHashDescriptor.encode at encoded
  rw [isEncoded, Option.bind_eq_bind, Option.bind_some] at encoded
  dsimp only at encoded
  rw [Option.bind_eq_some_iff] at encoded
  obtain ⟨front, packed, isData⟩ := encoded
  rw [Option.some.injEq] at isData
  generalize isFollowing :
    132 + (encodeUtf8 desc.partitionName).length + desc.salt.length +
      desc.digest.length - 16 = following at packed isData
  obtain ⟨read, length⟩ := unpack_pack packed
  have frontLength : front.length = 132 := length
  have total :
      116 + (encodeUtf8 desc.partitionName).length + desc.salt.length +
        desc.digest.length = following := by
    omega
  have atFront : data.take 132 = front := by
    rw [← isData, List.take_left' frontLength]
  have atName :
      slice 132 (encodeUtf8 desc.partitionName).length data =
        encodeUtf8 desc.partitionName := by
    rw [← isData]
    exact slice_middle frontLength rfl _
  have atSalt :
      slice (132 + (encodeUtf8 desc.partitionName).length)
          desc.salt.length data = desc.salt := by
    rw [← isData, ← List.append_assoc front]
    refine slice_middle ?_ rfl _
    rw [List.length_append, frontLength]
  have atDigest :
      slice (132 + (encodeUtf8 desc.partitionName).length +
          desc.salt.length) desc.digest.length data = desc.digest := by
    rw [← isData, ← List.append_assoc front, ← List.append_assoc]
    refine slice_middle ?_ rfl _
    rw [List.length_append, List.length_append, frontLength]
  refine ⟨?_, roundToMultiple following 8, ?_, ?_⟩
  · rw [readHashDescriptor, atFront, read]
    simp only [hashFormat, descriptorFormat, List.cons_append,
      List.nil_append, fit, Option.bind_eq_bind, Option.bind_some, total,
      ne_eq, not_true_eq_false, or_self, if_false, isStored, atName, atSalt,
      atDigest, sized, decodeUtf8_encodeUtf8, HashName.ofText_name,
      false_and]
  · rw [← isData]
    exact unpack_descriptorFormat packed _
  · have isLength :
        front.length +
            (encodeUtf8 desc.partitionName ++
              (desc.salt ++ desc.digest)).length =
          16 + following := by
      simp only [List.length_append, frontLength]
      omega
    rw [← isData, ← length_padded isLength]
    simp only [List.append_assoc]

/-! ## Lists of descriptors -/

section Parse

variable {lib : Hashlib}

/-- One round of the loop. -/
theorem parseDescriptorsFrom_append
    {tag following : Nat}
    {data : Bytes}
    (header :
      unpack descriptorFormat (data.take 16) =
        some [.number tag, .number following])
    (length : data.length = 16 + following)
    {desc : AvbDescriptor}
    (read : readDescriptor lib tag data = some desc)
    {rest : Bytes}
    {others : List AvbDescriptor}
    {fuel : Nat}
    (behind : parseDescriptorsFrom lib fuel rest = some others) :
    parseDescriptorsFrom lib (fuel + 1) (data ++ rest) =
      some (desc :: others) := by
  have start : (data ++ rest).take 16 = data.take 16 :=
    List.take_append_of_le_length (by omega)
  have nonempty : data ++ rest ≠ [] := by
    intro empty
    have none := congrArg List.length empty
    rw [List.length_append, length, List.length_nil] at none
    omega
  rw [parseDescriptorsFrom, start, header]
  · simp only [Option.bind_eq_bind, Option.bind_some,
      List.take_left' length, List.drop_left' length, read, behind]
  · exact nonempty

theorem parseDescriptorsFrom_properties
    {properties : List AvbPropertyDescriptor}
    {encoded : List Bytes}
    (isEncoded :
      properties.mapM AvbPropertyDescriptor.encode = some encoded)
    {fuel : Nat}
    (enough : properties.length ≤ fuel) :
    parseDescriptorsFrom lib fuel encoded.flatten =
      some (properties.map .property) := by
  induction properties generalizing encoded fuel with
  | nil =>
      rw [List.mapM_nil] at isEncoded
      cases isEncoded
      cases fuel <;> rfl
  | cons desc rest inductionHypothesis =>
      simp only [List.mapM_cons, Option.bind_eq_bind,
        Option.bind_eq_some_iff, Option.pure_def, Option.some.injEq]
        at isEncoded
      obtain ⟨data, isData, others, areOthers, rfl⟩ := isEncoded
      obtain ⟨read, following, header, length⟩ :=
        readPropertyDescriptor_encode isData
      cases fuel with
      | zero =>
          cases enough
      | succ fuel =>
          rw [List.flatten_cons]
          refine parseDescriptorsFrom_append header length ?_
            (inductionHypothesis areOthers (Nat.le_of_succ_le_succ enough))
          rw [readDescriptor, read, Option.map_some]

/-- Every property takes up some bytes. -/
theorem length_le_flatten
    {properties : List AvbPropertyDescriptor}
    {encoded : List Bytes}
    (isEncoded :
      properties.mapM AvbPropertyDescriptor.encode = some encoded) :
    properties.length ≤ encoded.flatten.length := by
  induction properties generalizing encoded with
  | nil =>
      exact Nat.zero_le _
  | cons desc rest inductionHypothesis =>
      simp only [List.mapM_cons, Option.bind_eq_bind,
        Option.bind_eq_some_iff, Option.pure_def, Option.some.injEq]
        at isEncoded
      obtain ⟨data, isData, others, areOthers, rfl⟩ := isEncoded
      obtain ⟨-, following, -, length⟩ :=
        readPropertyDescriptor_encode isData
      have behind := inductionHypothesis areOthers
      rw [List.flatten_cons, List.length_append, List.length_cons]
      omega

/-- The descriptors of a hash footer are read back. -/
theorem parseDescriptors_encode
    {hash : AvbHashDescriptor}
    (stored : hash.hashAlgorithm.Stored)
    (sized :
      lib.digestSize hash.hashAlgorithm.name = some hash.digest.length)
    {properties : List AvbPropertyDescriptor}
    {encoded : Bytes}
    (isEncoded : encodeDescriptors hash properties = some encoded) :
    parseDescriptors lib encoded =
      some (.hash hash :: properties.map .property) := by
  unfold encodeDescriptors at isEncoded
  simp only [Option.bind_eq_bind, Option.bind_eq_some_iff,
    Option.some.injEq] at isEncoded
  obtain ⟨first, isFirst, others, areOthers, rfl⟩ := isEncoded
  obtain ⟨read, following, header, length⟩ :=
    readHashDescriptor_encode stored sized isFirst
  have enough := length_le_flatten areOthers
  obtain ⟨fuel, isFuel⟩ :
      ∃ fuel, (first ++ others.flatten).length = fuel + 1 := by
    refine ⟨15 + following + others.flatten.length, ?_⟩
    rw [List.length_append, length]
    omega
  rw [parseDescriptors, isFuel]
  refine parseDescriptorsFrom_append header length ?_
    (parseDescriptorsFrom_properties areOthers ?_)
  · rw [readDescriptor, read, Option.map_some]
  · rw [List.length_append, length] at isFuel
    omega

end Parse

/-! ## The header is read back -/

/-- A release string that fits its field. -/
def StoredRelease (releaseString : Text) : Prop :=
  stripNul (fitString 47 (encodeUtf8 releaseString)) =
    encodeUtf8 releaseString

theorem storedRelease_getReleaseString :
    StoredRelease getReleaseString := by
  unfold StoredRelease
  decide +kernel

/-- A header is read back. -/
theorem readHeader_encode
    {header : AvbVBMetaHeader}
    (stored : StoredRelease header.releaseString)
    {data : Bytes}
    (encoded : header.encode = some data) :
    readHeader data = some header ∧ data.length = headerSize := by
  obtain ⟨read, length⟩ := unpack_pack encoded
  have isSize : data.length = headerSize := length
  have nonempty : data ≠ [] := by
    rintro rfl
    cases isSize
  have magic : fitString 4 vbmetaMagic = vbmetaMagic := rfl
  unfold StoredRelease at stored
  refine ⟨?_, isSize⟩
  rw [readHeader, if_neg nonempty, read]
  simp only [headerFormat, fit, Option.bind_some, headerOfItems, magic,
    ne_eq, not_true_eq_false, if_false, stored, decodeUtf8_encodeUtf8,
    Option.map_some]

end OverclockBuilder
