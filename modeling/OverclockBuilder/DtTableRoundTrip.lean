import OverclockBuilder.DtTablePlacement

namespace OverclockBuilder

open RadixText BytePacking CNumber ArgumentParser

/-!
# Tables of many device trees read back

Dumped again, a table gives back the device trees of its command line, and their
bytes lie apart or are shared.
-/

/-! ## The command line -/

/-- The files of a command line: the words that are no options. -/
def imageFiles (argv : List Text) : List Text :=
  argv.filter fun arg => !startsWithDashes arg

theorem imageFiles_dropWhile (argv : List Text) :
    imageFiles (argv.dropWhile startsWithDashes) = imageFiles argv := by
  induction argv with
  | nil =>
      rfl
  | cons arg rest inductionHypothesis =>
      cases dashes : startsWithDashes arg with
      | true =>
          rw [List.dropWhile_cons_of_pos dashes, inductionHypothesis,
            imageFiles, imageFiles, List.filter_cons_of_neg (by simp [dashes])]
      | false =>
          rw [List.dropWhile_cons_of_neg (by simp [dashes])]

/-- An entry that is made has the fields of its version. -/
theorem imageEntry_eq_some
    {disk : FileSystem}
    {version : Nat}
    {dtFile : Text}
    {args : EntryArgs}
    {dtEntry : ImageEntry}
    (made : imageEntry disk version dtFile args = some dtEntry) :
    dtEntry.dtFile = dtFile ∧ dtEntry.toDtEntry.WellFormed version := by
  simp only [imageEntry, Option.bind_eq_bind, Option.bind_eq_some_iff,
    Option.some.injEq] at made
  obtain ⟨content, -, numCustom, -, entry, isEntry, rfl⟩ := made
  exact ⟨rfl, init_wellFormed isEntry⟩

theorem parseDtEntry_eq_some
    {globalArgs : GlobalArgs}
    {arg : Text}
    {rest : List Text}
    {parsed : Text × EntryArgs}
    (isParsed : parseDtEntry globalArgs (arg :: rest) = some parsed) :
    parsed.1 = arg := by
  rw [parseDtEntry] at isParsed
  split at isParsed
  · simp only [Option.bind_eq_bind, Option.bind_eq_some_iff] at isParsed
    obtain ⟨⟨given, extras⟩, -, isParsed⟩ := isParsed
    dsimp only at isParsed
    split at isParsed
    · rw [Option.some.injEq] at isParsed
      rw [← isParsed]
    · cases isParsed
  · cases isParsed

/-- The entries of a command line are made from its files, in order. -/
theorem entries_of_imageGroups
    {disk : FileSystem}
    {globalArgs : GlobalArgs}
    {argList : List Text}
    {dtEntries : List ImageEntry}
    (made :
      (imageGroups argList).mapM (fun argv => do
          let (dtFile, args) ← parseDtEntry globalArgs argv
          imageEntry disk globalArgs.version dtFile args) =
        some dtEntries) :
    dtEntries.map ImageEntry.dtFile = imageFiles argList ∧
      ∀ dtEntry ∈ dtEntries,
        dtEntry.toDtEntry.WellFormed globalArgs.version := by
  induction argList generalizing dtEntries with
  | nil =>
      rw [imageGroups, List.mapM_nil, Option.pure_def, Option.some.injEq]
        at made
      rw [← made]
      exact ⟨rfl, by simp⟩
  | cons arg rest inductionHypothesis =>
      rw [imageGroups] at made
      cases dashes : startsWithDashes arg with
      | true =>
          rw [if_pos dashes] at made
          rw [imageFiles, List.filter_cons_of_neg (by simp [dashes])]
          exact inductionHypothesis made
      | false =>
          rw [if_neg (by simp [dashes])] at made
          simp only [List.mapM_cons, Option.bind_eq_bind, Option.pure_def,
            Option.bind_eq_some_iff, Option.some.injEq] at made
          obtain ⟨first, ⟨parsed, isParsed, isEntry⟩, others, madeRest,
            rfl⟩ := made
          obtain ⟨file, wellFormed⟩ := imageEntry_eq_some isEntry
          obtain ⟨files, wellFormedRest⟩ := inductionHypothesis madeRest
          rw [imageFiles, List.filter_cons_of_pos (by simp [dashes]),
            List.map_cons, file, parseDtEntry_eq_some isParsed, files]
          refine ⟨rfl, ?_⟩
          intro dtEntry member
          rcases List.mem_cons.mp member with rfl | member
          · exact wellFormed
          · exact wellFormedRest dtEntry member

/-- What `create` writes, from the files of its command line. -/
theorem createDtboImages_eq_some
    {codecs : Codecs}
    {disk : FileSystem}
    {argv : List Text}
    {output : Bytes}
    (created : createDtboImages codecs disk argv = some output) :
    ∃ dtEntries table store,
      dtEntries.map ImageEntry.dtFile = imageFiles argv ∧
        Written codecs disk dtEntries table store output := by
  simp only [createDtboImages, Option.bind_eq_bind, Option.bind_eq_some_iff]
    at created
  obtain ⟨⟨globalArgs, remainder⟩, parsed, dtEntries, isEntries, written⟩ :=
    created
  simp only [parseCreateArgs, Option.bind_eq_bind, Option.bind_eq_some_iff]
    at parsed
  obtain ⟨⟨given, extras⟩, -, parsed⟩ := parsed
  dsimp only at parsed isEntries written
  split at parsed
  · obtain ⟨stored, -, same⟩ := Option.bind_eq_some_iff.mp parsed
    rw [Option.some.injEq, Prod.mk.injEq] at same
    rw [parseDtEntries] at isEntries
    split at isEntries
    · cases isEntries
    · obtain ⟨files, wellFormed⟩ := entries_of_imageGroups isEntries
      rw [← same.2, imageFiles_dropWhile] at files
      obtain ⟨table, store, isWritten⟩ := exists_written wellFormed written
      exact ⟨dtEntries, table, store, files, isWritten⟩
  · cases parsed

/-! ## Dumped again -/

/-- What is compressed for an entry is decompressed for it. -/
def decompressDtEntry (codecs : Codecs) (content : Bytes) :
    Nat → Option Bytes
  | 0 => some content
  | 1 => codecs.zlibDecompress content
  | 2 => codecs.zlibDecompress content
  | 3 => some ((codecs.lz4Decompress content).getD [])
  | _ => none

theorem decompressDtEntry_compressDtEntry
    {codecs : Codecs}
    (lossless : codecs.Lossless)
    {content compressed : Bytes}
    {compressionInfo : Nat}
    (packed :
      compressDtEntry codecs content compressionInfo = some compressed) :
    decompressDtEntry codecs compressed compressionInfo = some content := by
  rcases compressionInfo with _ | _ | _ | _ | compressionInfo
  · cases packed
    rfl
  · cases packed
    exact lossless.zlib content
  · cases packed
    exact lossless.gzip content
  · rw [decompressDtEntry, lossless.lz4 content compressed packed]
    rfl
  · cases packed

/-! ## Two overlays -/

/-- The magic of a device tree, for a whole one. -/
def overlayTree : Bytes :=
  [0xd0, 0x0d, 0xfe, 0xed]

/-- What zlib makes of it. -/
def overlayCompressed : Bytes :=
  [0x78, 0x9c, 0xbb, 0xc0, 0xfb, 0xef, 0x2d, 0x00, 0x06, 0x54, 0x02, 0xc9]

/-- zlib on the overlay; other contents are marked instead of compressed. -/
def overlayCodecs : Codecs where
  zlibCompress content :=
    if content = overlayTree then overlayCompressed else 0 :: content
  gzipCompress content := 1 :: content
  zlibDecompress compressed :=
    if compressed = overlayCompressed then
      some overlayTree
    else
      compressed.tail?
  lz4Compress content := some (4 :: content)
  lz4Decompress compressed := compressed.tail?

theorem overlayCodecs_lossless : overlayCodecs.Lossless where
  zlib content := by
    by_cases same : content = overlayTree
    · rw [same]
      decide
    · have marked : 0 :: content ≠ overlayCompressed := by
        intro wrong
        exact absurd (List.cons.inj wrong).1 (by decide)
      simp only [overlayCodecs, if_neg same, if_neg marked, List.tail?_cons]
  gzip content := by
    have marked : 1 :: content ≠ overlayCompressed := by
      intro wrong
      exact absurd (List.cons.inj wrong).1 (by decide)
    simp only [overlayCodecs, if_neg marked, List.tail?_cons]
  lz4 content compressed packed := by
    rw [← Option.some.inj packed]
    rfl

/-- Two files, one of which also has a link to it. -/
def overlayDisk : FileSystem where
  realpath path := if path = "link.dtbo".toList then "a.dtbo".toList else path
  files path :=
    if path = "a.dtbo".toList then
      some overlayTree
    else if path = "b.dtbo".toList then
      some [0xd0, 0x0d, 0xfe]
    else
      none

/-- One file compressed, another one plain, and the first once more. -/
def overlayWords : List Text :=
  ["--page_size=64".toList, "--version=1".toList, "a.dtbo".toList,
    "--flags=1".toList, "--id=0x10".toList, "b.dtbo".toList,
    "link.dtbo".toList, "--flags=1".toList]

/-- The table made from them. -/
def overlayImage : Bytes :=
  packWords [dtboMagic, 147, 32, 32, 3, 32, 64, 1] ++
    packWords [12, 128, 16, 0, 1, 0, 0, 0] ++
      packWords [3, 144, 0, 0, 0, 0, 0, 0] ++
        packWords [12, 128, 0, 0, 1, 0, 0, 0] ++
          overlayCompressed ++ List.replicate 4 0 ++ [0xd0, 0x0d, 0xfe] ++
            List.replicate 45 0

theorem createDtboImages_overlays :
    createDtboImages overlayCodecs overlayDisk overlayWords =
      some overlayImage := by
  decide +kernel

/-! ## Reading the file -/

section Dumping

variable
  {codecs : Codecs}
  {disk : FileSystem}
  {dtEntries : List ImageEntry}
  {table : Dtbo}
  {store : SerialPlacement.Store ImageEntry}
  {output : Bytes}

theorem Written.readDtboImage
    (written : Written codecs disk dtEntries table store output) :
    readDtboImage output = some table := by
  rw [written.bytes]
  exact readDtboImage_packed written.packed _

theorem Written.length_metadata
    (written : Written codecs disk dtEntries table store output) :
    (packWords table.headerWords ++ packWords table.rowWords).length =
      table.metadataSize := by
  rw [List.length_append, length_packWords, length_packWords,
    written.packed.length_rowWords, Dtbo.metadataSize,
    written.packed.headerSize]
  rfl

/-- The rows of the file point to the blobs that were placed. -/
theorem Written.slice_output
    (written : Written codecs disk dtEntries table store output)
    {slot : SerialPlacement.Slot ImageEntry}
    (member : slot ∈ store.slots) :
    slice slot.offset slot.size output =
      slice (slot.offset - table.metadataSize) slot.size store.blobs := by
  have holds := written.sound.holds slot member
  have start := holds.start
  have bounded := holds.bounded
  have whole :
      slot.offset =
        (packWords table.headerWords ++ packWords table.rowWords).length +
          (slot.offset - table.metadataSize) := by
    rw [written.length_metadata]
    omega
  have behind :
      output.drop slot.offset =
        (store.blobs ++
          paddingBytes table.totalSize table.pageSize).drop
            (slot.offset - table.metadataSize) := by
    rw [whole, written.bytes, ← List.drop_drop, List.drop_left,
      written.length_metadata, Nat.add_sub_cancel_left]
  rw [slice, behind, slice, List.drop_append_of_le_length (by omega),
    List.take_append_of_le_length (by rw [List.length_drop]; omega)]

/-- What a row holds is the device tree of its file. -/
theorem Written.extractDtFile
    (lossless : codecs.Lossless)
    (written : Written codecs disk dtEntries table store output)
    {idx : Nat}
    {slot : SerialPlacement.Slot ImageEntry}
    (found : store.slots[idx]? = some slot) :
    ∃ content,
      disk.read slot.item.dtFile = some content ∧
        table.extractDtFile codecs output true idx = some content := by
  have member := List.mem_of_getElem? found
  obtain ⟨content, read, packed⟩ :=
    Option.bind_eq_some_iff.mp (written.sound.holds slot member).content
  have row : table.dtEntries[idx]? = some (storedEntry slot).toDtEntry := by
    rw [written.rows, List.getElem?_map, found]
    rfl
  have inRange : ¬ table.dtEntryCount < idx := by
    obtain ⟨short, -⟩ := List.getElem?_eq_some_iff.mp row
    rw [written.packed.dtEntryCount]
    omega
  refine ⟨content, read, ?_⟩
  rw [Dtbo.extractDtFile, if_neg inRange, row, Option.bind_eq_bind,
    Option.bind_some]
  rw [← written.slice_output member] at packed
  exact decompressDtEntry_compressDtEntry lossless packed

theorem Written.length_slots
    (written : Written codecs disk dtEntries table store output) :
    table.dtEntries.length = store.slots.length := by
  rw [written.rows, List.length_map]

end Dumping

/--
Dumped and decompressed, a table gives back the files it was created from, in
the order of the command line, whichever of them share a blob or are compressed.
-/
theorem dumpDtFiles_createDtboImages
    {codecs : Codecs}
    (lossless : codecs.Lossless)
    {disk : FileSystem}
    {argv : List Text}
    {output : Bytes}
    (created : createDtboImages codecs disk argv = some output) :
    ∃ contents,
      (imageFiles argv).mapM disk.read = some contents ∧
        dumpDtFiles codecs true output = some contents := by
  obtain ⟨dtEntries, table, store, files, written⟩ :=
    createDtboImages_eq_some created
  have dumped :
      dumpDtFiles codecs true output = (imageFiles argv).mapM disk.read := by
    rw [dumpDtFiles, written.readDtboImage, Option.bind_eq_bind,
      Option.bind_some, written.length_slots, ← files, ← written.items,
      List.map_map, List.mapM_map]
    refine mapM_range ?_
    intro idx slot found
    obtain ⟨content, read, extracted⟩ :=
      written.extractDtFile lossless found
    rw [extracted]
    exact read.symm
  have readable : ∀ file ∈ imageFiles argv, (disk.read file).isSome := by
    intro file member
    rw [← files, ← written.items, List.map_map, List.mem_map] at member
    obtain ⟨slot, inSlots, rfl⟩ := member
    obtain ⟨idx, found⟩ := List.mem_iff_getElem?.mp inSlots
    obtain ⟨content, read, -⟩ := written.extractDtFile lossless found
    exact Option.isSome_iff_exists.mpr ⟨content, read⟩
  obtain ⟨contents, isContents⟩ := exists_mapM readable
  exact ⟨contents, isContents, dumped.trans isContents⟩

theorem dumpDtFiles_createDtboImages_example :
    ∃ contents,
      (imageFiles overlayWords).mapM overlayDisk.read = some contents ∧
        dumpDtFiles overlayCodecs true overlayImage = some contents :=
  dumpDtFiles_createDtboImages overlayCodecs_lossless
    createDtboImages_overlays

/-! ## The layout -/

/-- Padding ends on a page, and is shorter than one. -/
theorem length_paddingBytes
    {pageSize : Nat}
    (positive : 0 < pageSize)
    (totalSize : Nat) :
    pageSize ∣ totalSize + (paddingBytes totalSize pageSize).length ∧
      (paddingBytes totalSize pageSize).length < pageSize := by
  rw [paddingBytes, List.length_replicate]
  refine ⟨?_, Nat.mod_lt _ positive⟩
  have small := Nat.mod_lt totalSize positive
  by_cases whole : totalSize % pageSize = 0
  · rw [whole, Nat.sub_zero, Nat.mod_self]
    exact Nat.dvd_of_mod_eq_zero whole
  · rw [Nat.mod_eq_of_lt (by omega)]
    have quotient := Nat.div_add_mod totalSize pageSize
    exact ⟨totalSize / pageSize + 1, by rw [Nat.mul_succ]; omega⟩

/-- How the device trees of some files lie in a table and its file. -/
structure Dtbo.LaidOut
    (disk : FileSystem)
    (files : List Text)
    (table : Dtbo)
    (output : Bytes) : Prop where
  rows : table.dtEntries.length = files.length
  pages : table.pageSize ∣ output.length
  bounded :
    table.totalSize ≤ output.length ∧
      output.length < table.totalSize + table.pageSize
  aligned : ∀ entry ∈ table.dtEntries, dtEntryAlignment ∣ entry.dtOffset
  inside :
    ∀ entry ∈ table.dtEntries,
      table.metadataSize ≤ entry.dtOffset ∧
        entry.dtOffset + entry.dtSize ≤ table.totalSize
  separate :
    ∀ first ∈ table.dtEntries, ∀ second ∈ table.dtEntries,
      first.dtOffset = second.dtOffset ∧ first.dtSize = second.dtSize ∨
        first.dtOffset + first.dtSize ≤ second.dtOffset ∨
          second.dtOffset + second.dtSize ≤ first.dtOffset
  sharing :
    ∀ row ∈ files.zip table.dtEntries,
      ∀ first ∈ (files.zip table.dtEntries).find? fun other =>
          disk.realpath other.1 = disk.realpath row.1,
        first.2.compressionInfo table.version =
            row.2.compressionInfo table.version →
          row.2.dtOffset = first.2.dtOffset ∧
            row.2.dtSize = first.2.dtSize

theorem Written.laidOut
    {codecs : Codecs}
    {disk : FileSystem}
    {dtEntries : List ImageEntry}
    {table : Dtbo}
    {store : SerialPlacement.Store ImageEntry}
    {output : Bytes}
    (written : Written codecs disk dtEntries table store output) :
    table.LaidOut disk (dtEntries.map ImageEntry.dtFile) output := by
  have padding := length_paddingBytes written.pageSize table.totalSize
  have length :
      output.length =
        table.totalSize +
          (paddingBytes table.totalSize table.pageSize).length := by
    rw [written.bytes, List.length_append, written.length_metadata,
      List.length_append, written.totalSize, Nat.add_assoc]
  have isRow {entry : DtEntry} (member : entry ∈ table.dtEntries) :
      ∃ slot ∈ store.slots,
        slot.offset = entry.dtOffset ∧ slot.size = entry.dtSize := by
    rw [written.rows, List.mem_map] at member
    obtain ⟨slot, inSlots, rfl⟩ := member
    exact ⟨slot, inSlots, rfl, rfl⟩
  have zipped :
      (dtEntries.map ImageEntry.dtFile).zip table.dtEntries =
        store.slots.map fun slot =>
          (slot.item.dtFile, (storedEntry slot).toDtEntry) := by
    rw [← written.items, written.rows, List.map_map, List.zip_map']
    rfl
  constructor
  · rw [written.length_slots, List.length_map, ← written.items,
      List.length_map]
  · rw [length]
    exact padding.1
  · rw [length]
    exact ⟨Nat.le_add_right _ _, Nat.add_lt_add_left padding.2 _⟩
  · intro entry member
    obtain ⟨slot, inSlots, offset, -⟩ := isRow member
    obtain ⟨start, isStart⟩ := (written.sound.holds slot inSlots).aligned
    rw [← offset, isStart]
    exact Nat.dvd_mul_left dtEntryAlignment _
  · intro entry member
    obtain ⟨slot, inSlots, offset, size⟩ := isRow member
    have holds := written.sound.holds slot inSlots
    rw [← offset, ← size, written.totalSize]
    exact ⟨holds.start, holds.bounded⟩
  · intro first inFirst second inSecond
    obtain ⟨firstSlot, firstIn, firstOffset, firstSize⟩ := isRow inFirst
    obtain ⟨secondSlot, secondIn, secondOffset, secondSize⟩ := isRow inSecond
    rw [← firstOffset, ← firstSize, ← secondOffset, ← secondSize]
    exact written.sound.separate firstSlot firstIn secondSlot secondIn
  · intro row member first found sameForm
    rw [zipped, List.mem_map] at member
    obtain ⟨slot, inSlots, rfl⟩ := member
    rw [zipped, List.find?_map, Option.mem_def, Option.map_eq_some_iff]
      at found
    obtain ⟨firstSlot, isFirst, rfl⟩ := found
    have shares :
        SerialPlacement.shared (entryPolicy codecs disk table.version)
            store.slots slot.item =
          some firstSlot :=
      Option.filter_eq_some_iff.mpr ⟨isFirst, decide_eq_true sameForm⟩
    exact written.sound.sharing slot inSlots firstSlot shares

/--
Every table of `create` has its device trees at aligned offsets behind the rows.
Two of them share their bytes or do not overlap, and a file is stored once for
all entries with the compression of its first one.
-/
theorem createDtboImages_laidOut
    {codecs : Codecs}
    {disk : FileSystem}
    {argv : List Text}
    {output : Bytes}
    (created : createDtboImages codecs disk argv = some output) :
    ∃ table,
      readDtboImage output = some table ∧
        table.LaidOut disk (imageFiles argv) output := by
  obtain ⟨dtEntries, table, store, files, written⟩ :=
    createDtboImages_eq_some created
  rw [← files]
  exact ⟨table, written.readDtboImage, written.laidOut⟩

theorem createDtboImages_laidOut_example :
    ∃ table,
      readDtboImage overlayImage = some table ∧
        table.LaidOut overlayDisk (imageFiles overlayWords) overlayImage :=
  createDtboImages_laidOut createDtboImages_overlays

end OverclockBuilder
