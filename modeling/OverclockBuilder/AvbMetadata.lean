import OverclockBuilder.OutputSafety

namespace OverclockBuilder

open RadixText BytePacking StructFormat

/-!
# The metadata of a rebuilt image

`add_hash_footer` gets four of its arguments from the script and defaults for
the rest.  So a rebuilt image keeps what the defaults happen to repeat, and
nothing else.
-/

/-! ## The vbmeta the script asks for -/

/-- The property that `AVB_ARGS` adds. -/
def keptProperties (propValue : Text) : List AvbPropertyDescriptor :=
  if propValue = [] then
    []
  else
    [⟨fingerprintKey, encodeUtf8 propValue⟩]

theorem mapM_parseProp_propArguments (propValue : Text) :
    (propArguments propValue).mapM parseProp =
      some (keptProperties propValue) := by
  rw [propArguments, keptProperties]
  split
  · rfl
  · rw [List.mapM_cons, parseProp_fingerprint]
    rfl

/-- All that the new vbmeta holds. -/
def rebuiltDescriptors
    (hash : AvbHashDescriptor)
    (propValue : Text) :
    List AvbDescriptor :=
  .hash hash :: (keptProperties propValue).map .property

/-- A header and descriptors, each of which is read back. -/
theorem hashFooterBlob_parts
    {lib : Hashlib}
    {partitionName salt propValue : Text}
    {image blob : Bytes}
    (generated :
      hashFooterBlob lib partitionName salt (propArguments propValue)
          image =
        some blob) :
    ∃ digest saltBytes front encoded back,
      unhexlify salt = some saltBytes ∧
        blob = front ++ (encoded ++ back) ∧
          readHeader front = some (generatedHeader encoded.length) ∧
            front.length = headerSize ∧
              parseDescriptors lib encoded =
                some (rebuiltDescriptors
                  (newHashDescriptor digest partitionName saltBytes image)
                  propValue) := by
  unfold hashFooterBlob at generated
  simp only [Option.bind_eq_bind, Option.bind_eq_some_iff] at generated
  obtain ⟨digest, isDigest, saltBytes, isSalt, generated⟩ := generated
  unfold generateVbmetaBlob at generated
  rw [mapM_parseProp_propArguments] at generated
  simp only [Option.bind_eq_bind, Option.bind_some,
    Option.bind_eq_some_iff, Option.some.injEq] at generated
  obtain ⟨encoded, isEncoded, front, isFront, isBlob⟩ := generated
  obtain ⟨read, length⟩ :=
    readHeader_encode storedRelease_getReleaseString isFront
  have sized :
      lib.digestSize sha256.name =
        some (digest (saltBytes ++ image)).length := by
    rw [Hashlib.digestSize, isDigest, Option.map_some,
      lib.sized isDigest (saltBytes ++ image)]
  exact ⟨digest, saltBytes, front, encoded, _, isSalt, isBlob.symm, read,
    length, parseDescriptors_encode sha256_stored sized isEncoded⟩

/-! ## What is carried over -/

/-- A descriptor that only the stock image accounts for. -/
def AvbDescriptor.isOther : AvbDescriptor → Bool
  | .hash desc => desc.partitionName ≠ vendorBoot
  | .property desc => desc.key ≠ fingerprintKey
  | _ => true

/-- The metadata of the stock image are those of the new one. -/
structure CarriedOver (stockInfo output : AvbImageInfo) : Prop where
  algorithmType :
    output.header.algorithmType = stockInfo.header.algorithmType
  rollbackIndex :
    output.header.rollbackIndex = stockInfo.header.rollbackIndex
  rollbackIndexLocation :
    output.header.rollbackIndexLocation =
      stockInfo.header.rollbackIndexLocation
  flags :
    output.header.flags = stockInfo.header.flags
  hash :
    ∀ desc, .hash desc ∈ stockInfo.descriptors →
      desc.partitionName = vendorBoot →
        ∃ rebuilt, .hash rebuilt ∈ output.descriptors ∧
          rebuilt.hashAlgorithm = desc.hashAlgorithm ∧
            rebuilt.partitionName = desc.partitionName ∧
              rebuilt.salt = desc.salt ∧ rebuilt.flags = desc.flags
  others :
    ∀ desc ∈ stockInfo.descriptors,
      desc.isOther = true → desc ∈ output.descriptors

/-- A hash descriptor that `add_hash_footer` makes again. -/
def AvbDescriptor.IsDefaultHash
    (salt : Bytes)
    (desc : AvbDescriptor) :
    Prop :=
  ∃ hash, desc = .hash hash ∧ hash.partitionName = vendorBoot ∧
    hash.hashAlgorithm = sha256 ∧ hash.salt = salt ∧ hash.flags = 0

/-- Metadata that the defaults of `add_hash_footer` repeat. -/
structure DefaultMetadata
    (stockInfo : AvbImageInfo)
    (salt : Bytes) :
    Prop where
  algorithmType : stockInfo.header.algorithmType = 0
  rollbackIndex : stockInfo.header.rollbackIndex = 0
  rollbackIndexLocation : stockInfo.header.rollbackIndexLocation = 0
  flags : stockInfo.header.flags = 0
  descriptors :
    ∀ desc ∈ stockInfo.descriptors,
      desc.fingerprint? ≠ none ∨ desc.IsDefaultHash salt

section Carry

variable
  {digest : Bytes → Bytes}
  {salt image : Bytes}
  {propValue : Text}

/-- No other descriptor is in the new vbmeta. -/
theorem not_isOther_of_mem
    {desc : AvbDescriptor}
    (member :
      desc ∈ rebuiltDescriptors
        (newHashDescriptor digest vendorBoot salt image) propValue) :
    desc.isOther = false := by
  rcases List.mem_cons.mp member with rfl | inProperties
  · simp [AvbDescriptor.isOther, newHashDescriptor]
  · obtain ⟨property, isKept, rfl⟩ := List.mem_map.mp inProperties
    unfold keptProperties at isKept
    split at isKept
    · cases isKept
    · rw [List.mem_singleton.mp isKept]
      simp [AvbDescriptor.isOther]

/-- There is one hash descriptor. -/
theorem eq_of_hash_mem
    {hash rebuilt : AvbHashDescriptor}
    (member : .hash rebuilt ∈ rebuiltDescriptors hash propValue) :
    rebuilt = hash := by
  rcases List.mem_cons.mp member with same | inProperties
  · exact AvbDescriptor.hash.inj same
  · obtain ⟨property, -, isHash⟩ := List.mem_map.mp inProperties
    cases isHash

/-- What is not other is the fingerprint or the hash of `vendor_boot`. -/
theorem isOther_eq_false_iff (desc : AvbDescriptor) :
    desc.isOther = false ↔
      desc.fingerprint? ≠ none ∨
        ∃ hash, desc = .hash hash ∧ hash.partitionName = vendorBoot := by
  cases desc with
  | property property =>
      simp [AvbDescriptor.isOther, AvbDescriptor.fingerprint?]
  | hash hash =>
      simp [AvbDescriptor.isOther, AvbDescriptor.fingerprint?]
  | hashtree | kernelCmdline | chainPartition | unknown =>
      simp [AvbDescriptor.isOther, AvbDescriptor.fingerprint?]

/-- The metadata survive exactly where they are the defaults. -/
theorem carriedOver_iff
    {stockInfo output : AvbImageInfo}
    {descriptorsSize : Nat}
    (header : output.header = generatedHeader descriptorsSize)
    (descriptors :
      output.descriptors =
        rebuiltDescriptors (newHashDescriptor digest vendorBoot salt image)
          propValue) :
    CarriedOver stockInfo output ↔ DefaultMetadata stockInfo salt := by
  refine ⟨?_, ?_⟩
  · rintro ⟨algorithmType, rollbackIndex, rollbackIndexLocation, flags, hash,
      others⟩
    rw [header] at algorithmType rollbackIndex rollbackIndexLocation flags
    refine ⟨algorithmType.symm, rollbackIndex.symm,
      rollbackIndexLocation.symm, flags.symm, ?_⟩
    intro desc member
    have notOther : desc.isOther = false := by
      by_contra isOther
      rw [Bool.not_eq_false] at isOther
      have inOutput := others desc member isOther
      rw [descriptors] at inOutput
      rw [not_isOther_of_mem inOutput] at isOther
      cases isOther
    rcases (isOther_eq_false_iff desc).mp notOther with
      isProperty | ⟨found, rfl, named⟩
    · exact .inl isProperty
    · right
      obtain ⟨rebuilt, inOutput, algorithm, -, salt, flags⟩ :=
        hash found member named
      rw [descriptors] at inOutput
      have isNew := eq_of_hash_mem inOutput
      subst isNew
      exact ⟨found, rfl, named, algorithm.symm, salt.symm, flags.symm⟩
  · rintro ⟨algorithmType, rollbackIndex, rollbackIndexLocation, flags,
      stock⟩
    refine ⟨?_, ?_, ?_, ?_, ?_, ?_⟩
    · rw [header, algorithmType]
      rfl
    · rw [header, rollbackIndex]
      rfl
    · rw [header, rollbackIndexLocation]
      rfl
    · rw [header, flags]
      rfl
    · intro desc member named
      rw [descriptors]
      refine ⟨_, List.mem_cons_self, ?_⟩
      rcases stock _ member with isProperty | ⟨hash, same, isDefault⟩
      · exact (isProperty rfl).elim
      · obtain rfl := AvbDescriptor.hash.inj same
        obtain ⟨-, algorithm, sameSalt, unflagged⟩ := isDefault
        exact ⟨algorithm.symm, named.symm, sameSalt.symm, unflagged.symm⟩
    · intro desc member isOther
      have notOther : desc.isOther = false := by
        apply (isOther_eq_false_iff desc).mpr
        rcases stock desc member with isProperty | ⟨hash, same, named, -⟩
        · exact .inl isProperty
        · exact .inr ⟨hash, same, named⟩
      rw [notOther] at isOther
      cases isOther

end Carry

/-! ## Runs -/

/--
A run of the script on an image with a footer that stage 1 accepts.

The size is passed on in decimal, which is how the block of the footer prints
it.
-/
structure Rebuild where
  record : RunRecord
  lib : Hashlib
  sha1 : Bytes → Bytes
  /-- what `grep` takes for binary data -/
  isBinary : Text → Bool
  stockInfo : AvbImageInfo
  parsed : parseImage lib record.before.input = some stockInfo
  footed : stockInfo.footer.isSome = true
  avbInfo : Text
  printed : infoImage sha1 stockInfo = some avbInfo
  parameters : AvbParameters
  accepted : readAvb avbInfo = some parameters
  /-- `--partition_size "$IMAGE_SIZE"` -/
  partitionSize :
    pyInt 10 parameters.imageSize = some record.surroundings.partitionSize
  /-- the other `AVB_ARGS` -/
  vbmetaBlob :
    record.surroundings.vbmetaBlob =
      hashFooterBlob lib vendorBoot parameters.salt
        (propArguments (propValue isBinary avbInfo))

/-- The image in front of the new vbmeta. -/
def Rebuild.original (rebuild : Rebuild) : Bytes :=
  originalImage rebuild.record.surroundings.payload

/-- The new vbmeta fits between the image and the last block. -/
def Rebuild.HasRoom (rebuild : Rebuild) : Prop :=
  ∀ blob ∈ rebuild.record.surroundings.vbmetaBlob rebuild.original,
    (padToBlock rebuild.original).length + blob.length ≤
      rebuild.record.surroundings.partitionSize - blockSize

/-- A vbmeta of at most 64 KiB has room. -/
theorem Rebuild.hasRoom_of_short
    (rebuild : Rebuild)
    (succeeded : rebuild.record.ending = .success)
    (short :
      ∀ blob ∈ rebuild.record.surroundings.vbmetaBlob rebuild.original,
        blob.length ≤ 64 * 1024) :
    rebuild.HasRoom := by
  obtain ⟨footed, -⟩ := builderRun_success rebuild.record.run succeeded
  obtain ⟨-, large, aligned, original, -, -, -⟩ := addHashFooter_inv footed
  intro blob generated
  exact room_behind large aligned original (short blob generated)

/-- The vbmeta that a successful run writes. -/
theorem Rebuild.vbmeta_of_success
    (rebuild : Rebuild)
    (succeeded : rebuild.record.ending = .success) :
    ∃ image footer descriptorsSize digest salt,
      rebuild.record.after.output rebuild.record.outputName = some image ∧
        vbmetaHeaderOf image = some (generatedHeader descriptorsSize) ∧
          unhexlify rebuild.parameters.salt = some salt ∧
            (rebuild.HasRoom →
              parseImage rebuild.lib image =
                some (footedInfo rebuild.record.surroundings.partitionSize
                  footer (generatedHeader descriptorsSize)
                  (rebuiltDescriptors
                    (newHashDescriptor digest vendorBoot salt
                      rebuild.original)
                    (propValue rebuild.isBinary rebuild.avbInfo)))) := by
  obtain ⟨footed, content⟩ :=
    builderRun_success rebuild.record.run succeeded
  obtain ⟨blob, large, aligned, original, generated, unlimited, isFooted⟩ :=
    addHashFooter_inv footed
  rw [isFooted] at content
  have fits : (newFooter rebuild.original blob).fits = true := unlimited
  have blobHere := generated
  rw [rebuild.vbmetaBlob] at blobHere
  obtain ⟨digest, salt, front, encoded, back, isSalt, isBlob, read, length,
    parsed⟩ := hashFooterBlob_parts blobHere
  have headerRoom :=
    room_behind large aligned original
      (show headerSize ≤ 64 * 1024 by decide)
  obtain ⟨-, isHeader⟩ :=
    vbmetaHeaderOf_footedImage fits isBlob read length headerRoom
  refine ⟨_, newFooter rebuild.original blob, encoded.length, digest, salt,
    content, isHeader, isSalt, ?_⟩
  intro hasRoom
  have room := hasRoom blob generated
  rw [isBlob, List.length_append, List.length_append, length] at room
  exact parseImage_footedImage large fits isBlob read length ⟨rfl, rfl⟩
    ⟨rfl, rfl⟩ parsed (by omega)

/-- The header is part of what is read. -/
theorem vbmetaHeaderOf_of_parseImage
    {lib : Hashlib}
    {image : Bytes}
    {info : AvbImageInfo}
    (parsed : parseImage lib image = some info) :
    vbmetaHeaderOf image = some info.header := by
  unfold parseImage at parsed
  split at parsed
  · cases parsed
  · simp only [Option.bind_eq_bind, Option.bind_eq_some_iff,
      Option.some.injEq] at parsed
    obtain ⟨header, isHeader, descriptors, -, rfl⟩ := parsed
    exact isHeader

/--
A successful run writes a vbmeta without algorithm, rollback protection and
flags, and with the defaults in all the other fields of its header, whatever the
stock image has; where the vbmeta has room, it holds one
`sha256` descriptor with the salt that was scraped and the fingerprint that was
captured.  So the metadata are carried over exactly where the stock image has
no others than these.
-/
theorem rebuilt_metadata
    (rebuild : Rebuild)
    (succeeded : rebuild.record.ending = .success) :
    ∃ image header,
      rebuild.record.after.output rebuild.record.outputName = some image ∧
        vbmetaHeaderOf image = some header ∧
          header.algorithmType = 0 ∧ header.rollbackIndex = 0 ∧
            header.rollbackIndexLocation = 0 ∧ header.flags = 0 ∧
              (∃ descriptorsSize, header = generatedHeader descriptorsSize) ∧
              (rebuild.HasRoom →
                ∃ output hash salt,
                  parseImage rebuild.lib image = some output ∧
                    output.header = header ∧
                      output.descriptors =
                          rebuiltDescriptors hash
                            (propValue rebuild.isBinary rebuild.avbInfo) ∧
                        hash.hashAlgorithm = sha256 ∧
                          hash.partitionName = vendorBoot ∧
                            unhexlify rebuild.parameters.salt = some salt ∧
                              hash.salt = salt ∧ hash.flags = 0 ∧
                                (CarriedOver rebuild.stockInfo output ↔
                                  DefaultMetadata rebuild.stockInfo
                                    salt)) := by
  obtain ⟨image, footer, descriptorsSize, digest, salt, here, isHeader,
    isSalt, behind⟩ := rebuild.vbmeta_of_success succeeded
  refine ⟨image, generatedHeader descriptorsSize, here, isHeader, rfl, rfl,
    rfl, rfl, ⟨descriptorsSize, rfl⟩, ?_⟩
  intro hasRoom
  exact ⟨_, newHashDescriptor digest vendorBoot salt rebuild.original, salt,
    behind hasRoom, rfl, rfl, rfl, rfl, isSalt, rfl, rfl,
    carriedOver_iff rfl rfl⟩

/-- A successful run on an image with a footer is such a run. -/
theorem ScriptRun.exists_rebuild
    {run : ScriptRun}
    {scan : Scan}
    (scanned : run.machine.scan run.record.before.input = some scan)
    (footed : scan.stockInfo.footer.isSome = true)
    (succeeded : run.record.ending = .success) :
    ∃ rebuild : Rebuild,
      rebuild.record = run.record ∧ rebuild.lib = run.machine.lib ∧
        rebuild.stockInfo = scan.stockInfo ∧
          rebuild.avbInfo = scan.avbInfo ∧
            rebuild.parameters = scan.parameters := by
  have reaches : run.record.ending.reachesCopy = true := by
    rw [succeeded]
    rfl
  obtain ⟨packing⟩ := run.packs scan scanned reaches
  obtain ⟨parsed, printed, accepted, -⟩ :=
    Machine.scan_eq_some_iff.mp scanned
  obtain ⟨served, -⟩ := builderRun_published run.record.run succeeded
  exact
    ⟨{ record := run.record
       lib := run.machine.lib
       sha1 := run.machine.sha1
       isBinary := run.machine.isBinary
       stockInfo := scan.stockInfo
       parsed := parsed
       footed := footed
       avbInfo := scan.avbInfo
       printed := printed
       parameters := scan.parameters
       accepted := accepted
       partitionSize := packing.partitionSize served
       vbmetaBlob := packing.vbmetaBlob },
      rfl, rfl, rfl, rfl, rfl⟩

/-! ## An image with rollback protection -/

/-- The image with rollback protection is rebuilt. -/
def exampleRebuild : Rebuild where
  record := succeededScriptRun.record
  lib := stockImage.machine.lib
  sha1 := noKeys
  isBinary := hasNul
  stockInfo := stockImage.scan.stockInfo
  parsed := stockImage.parseImage_input
  footed := rfl
  avbInfo := stockImage.scan.avbInfo
  printed := stockImage.infoImage_input
  parameters := stockImage.scan.parameters
  accepted := stockImage.readAvb_input
  partitionSize := pyInt_printUnsigned stockImage.partitionSize
  vbmetaBlob := rfl

/-- The new vbmeta has room there. -/
theorem hasRoom_exampleRebuild : exampleRebuild.HasRoom := by
  obtain ⟨-, size, plain⟩ :=
    ExampleImage.payloadOf_spec stockImage.patchedTree_mem
  have original :
      exampleRebuild.original =
        stockImage.payloadOf stockImage.patchedTree := by
    show originalImage (stockImage.payloadOf stockImage.patchedTree) = _
    rw [originalImage, plain]
  refine exampleRebuild.hasRoom_of_short rfl ?_
  intro blob generated
  rw [original] at generated
  obtain ⟨found, same, length⟩ := stockImage.vbmetaBlob_input size
  have isBlob : found = blob :=
    Option.some.inj (same.symm.trans generated)
  rw [← isBlob, length]
  decide

/-- The rollback index of the stock image is gone. -/
theorem rebuilt_metadata_example :
    ∃ image header output,
      exampleRebuild.record.after.output exampleRebuild.record.outputName =
          some image ∧
        vbmetaHeaderOf image = some header ∧ header.rollbackIndex = 0 ∧
          exampleRebuild.stockInfo.header.rollbackIndex = 1 ∧
            parseImage exampleRebuild.lib image = some output ∧
              ¬ CarriedOver exampleRebuild.stockInfo output := by
  obtain ⟨image, header, here, read, -, rollbackIndex, -, -, -, behind⟩ :=
    rebuilt_metadata exampleRebuild rfl
  obtain ⟨output, hash, salt, parsed, -, -, -, -, -, -, -, carried⟩ :=
    behind hasRoom_exampleRebuild
  refine ⟨image, header, output, here, read, rollbackIndex, rfl, parsed, ?_⟩
  intro isCarried
  cases (carried.mp isCarried).rollbackIndex

/-- A run can succeed without carrying the metadata over. -/
theorem not_carriedOver_rollbackIndex :
    ¬ ∀ rebuild : Rebuild, rebuild.record.ending = .success →
      ∃ image output,
        rebuild.record.after.output rebuild.record.outputName =
            some image ∧
          parseImage rebuild.lib image = some output ∧
            CarriedOver rebuild.stockInfo output := by
  intro carried
  obtain ⟨image, output, here, parsed, isCarried⟩ :=
    carried exampleRebuild rfl
  obtain ⟨rebuilt, -, size, -, -, isRebuilt, isHeader, -, -⟩ :=
    exampleRebuild.vbmeta_of_success rfl
  rw [here, Option.some.injEq] at isRebuilt
  rw [← isRebuilt, vbmetaHeaderOf_of_parseImage parsed,
    Option.some.injEq] at isHeader
  have index := isCarried.rollbackIndex
  rw [isHeader] at index
  cases index

/-- Without the index the defaults repeat everything. -/
example :
    DefaultMetadata
      (footedInfo 131072 ⟨6144, 8192, 448⟩ (generatedHeader 184)
        [.hash (stockHash readmeStockDigest)])
      [0xd0, 0x0d] := by
  refine ⟨rfl, rfl, rfl, rfl, ?_⟩
  intro desc member
  rw [List.mem_singleton.mp member]
  exact .inr ⟨stockHash readmeStockDigest, rfl, rfl, rfl, rfl, rfl⟩

end OverclockBuilder
