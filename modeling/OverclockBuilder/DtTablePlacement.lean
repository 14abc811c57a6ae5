import OverclockBuilder.DtTableCreate
import OverclockBuilder.DtTableIdentity

namespace OverclockBuilder

open RadixText BytePacking CNumber ArgumentParser

/-!
# How a created table is laid out

The loop of `add_dt_entries` places blobs serially, and what `create` writes
around them reads back row by row.
-/

/-! ## Packed tables -/

/-- A table whose fields and rows fit together, and fit their words. -/
structure Dtbo.Packed (table : Dtbo) : Prop where
  magic : table.magic = dtboMagic ∨ table.magic = acpioMagic
  headerSize : table.headerSize = dtTableHeaderSize
  dtEntrySize : getDtEntrySize table.version = some table.dtEntrySize
  dtEntryCount : table.dtEntryCount = table.dtEntries.length
  dtEntriesOffset : table.dtEntriesOffset = dtTableHeaderSize
  wellFormed : ∀ entry ∈ table.dtEntries, entry.WellFormed table.version
  boundedHeader : ∀ word ∈ table.headerWords, word < 4294967296
  boundedRows :
    ∀ entry ∈ table.dtEntries, ∀ word ∈ entry.words, word < 4294967296

/-- The words of the rows of a table. -/
def Dtbo.rowWords (table : Dtbo) : List Nat :=
  table.dtEntries.flatMap DtEntry.words

/-- Rows of one width are found at its multiples. -/
theorem rows_at
    {α β : Type}
    {row : α → List β}
    {width : Nat}
    {items : List α}
    (wide : ∀ item ∈ items, (row item).length = width)
    {idx : Nat}
    {item : α}
    (found : items[idx]? = some item) :
    ((items.flatMap row).drop (idx * width)).take width = row item := by
  induction items generalizing idx with
  | nil =>
      cases found
  | cons first rest inductionHypothesis =>
      have firstWide := wide first List.mem_cons_self
      cases idx with
      | zero =>
          rw [List.getElem?_cons_zero, Option.some.injEq] at found
          rw [Nat.zero_mul, List.drop_zero, List.flatMap_cons,
            List.take_left' firstWide, found]
      | succ idx =>
          rw [List.getElem?_cons_succ] at found
          rw [Nat.succ_mul, Nat.add_comm, ← List.drop_drop,
            List.flatMap_cons, List.drop_left' firstWide]
          exact inductionHypothesis
            (fun other member => wide other (List.mem_cons_of_mem first member))
            found

theorem length_rows
    {α β : Type}
    {row : α → List β}
    {width : Nat}
    {items : List α}
    (wide : ∀ item ∈ items, (row item).length = width) :
    (items.flatMap row).length = items.length * width := by
  induction items with
  | nil =>
      rw [List.flatMap_nil, List.length_nil, List.length_nil, Nat.zero_mul]
  | cons first rest inductionHypothesis =>
      rw [List.flatMap_cons, List.length_append,
        wide first List.mem_cons_self, inductionHypothesis fun other member =>
          wide other (List.mem_cons_of_mem first member),
        List.length_cons, Nat.succ_mul, Nat.add_comm]

/-- Two lists that are read alike, position by position. -/
theorem mapM_congr_getElem
    {α β γ : Type}
    {inputs : List α}
    {items : List β}
    {readInput : α → Option γ}
    {readItem : β → Option γ}
    (length : inputs.length = items.length)
    (agree :
      ∀ (idx : Nat) (input : α) (item : β),
        inputs[idx]? = some input →
          items[idx]? = some item → readInput input = readItem item) :
    inputs.mapM readInput = items.mapM readItem := by
  induction inputs generalizing items with
  | nil =>
      rw [List.length_nil, eq_comm, List.length_eq_zero_iff] at length
      rw [length]
      rfl
  | cons input inputs inductionHypothesis =>
      cases items with
      | nil =>
          cases length
      | cons item items =>
          have heads := agree 0 input item rfl rfl
          have tails :=
            inductionHypothesis (Nat.succ.inj length)
              fun idx input item atInput atItem =>
                agree (idx + 1) input item atInput atItem
          rw [List.mapM_cons, List.mapM_cons, heads, tails]

theorem exists_mapM
    {α β : Type}
    {read : α → Option β}
    {items : List α}
    (readable : ∀ item ∈ items, (read item).isSome) :
    ∃ results, items.mapM read = some results := by
  induction items with
  | nil =>
      exact ⟨[], rfl⟩
  | cons item rest inductionHypothesis =>
      obtain ⟨first, isFirst⟩ :=
        Option.isSome_iff_exists.mp (readable item List.mem_cons_self)
      obtain ⟨others, areOthers⟩ :=
        inductionHypothesis fun other member =>
          readable other (List.mem_cons_of_mem item member)
      refine ⟨first :: others, ?_⟩
      rw [List.mapM_cons, isFirst, areOthers]
      rfl

/-- Reading the positions of a list. -/
theorem mapM_range
    {α γ : Type}
    {items : List α}
    {readPosition : Nat → Option γ}
    {readItem : α → Option γ}
    (agree :
      ∀ (idx : Nat) (item : α),
        items[idx]? = some item → readPosition idx = readItem item) :
    (List.range items.length).mapM readPosition = items.mapM readItem := by
  refine mapM_congr_getElem List.length_range ?_
  intro idx position item atPosition atItem
  obtain ⟨inRange, same⟩ := List.getElem?_eq_some_iff.mp atPosition
  rw [List.getElem_range] at same
  rw [← same]
  exact agree idx item atItem

section Packed

variable {table : Dtbo}

/-- A row is whole words. -/
theorem Dtbo.Packed.wholeWords (packed : table.Packed) :
    4 * (table.dtEntrySize / 4) = table.dtEntrySize := by
  have size := packed.dtEntrySize
  unfold getDtEntrySize at size
  split at size
  all_goals
    simp only [Option.some.injEq, reduceCtorEq] at size
  all_goals
    rw [← size]

theorem Dtbo.Packed.length_words
    (packed : table.Packed)
    {entry : DtEntry}
    (member : entry ∈ table.dtEntries) :
    entry.words.length = table.dtEntrySize / 4 := by
  have width := OverclockBuilder.length_words (packed.wellFormed entry member)
    packed.dtEntrySize
  omega

theorem Dtbo.Packed.length_rowWords (packed : table.Packed) :
    4 * table.rowWords.length = table.dtEntryCount * table.dtEntrySize := by
  rw [rowWords, length_rows fun _ => packed.length_words,
    packed.dtEntryCount, Nat.mul_left_comm, packed.wholeWords]

/-- A packed table reads back, whatever follows it. -/
theorem readDtboImage_packed
    (packed : table.Packed)
    (tail : Bytes) :
    readDtboImage
        (packWords table.headerWords ++ packWords table.rowWords ++ tail) =
      some table := by
  have headerLength :
      (packWords table.headerWords).length = dtTableHeaderSize := by
    rw [length_packWords]
    rfl
  have rowsLength :
      (packWords table.rowWords).length =
        table.dtEntryCount * table.dtEntrySize := by
    rw [length_packWords, packed.length_rowWords]
  have header :
      readDtboHeader table.headerWords =
        some { table with dtEntries := [] } := by
    rw [Dtbo.headerWords, readDtboHeader,
      if_pos ⟨packed.magic, packed.headerSize, packed.dtEntrySize⟩]
  have firstWords :
      unpackWords
          ((packWords table.headerWords ++ packWords table.rowWords ++
            tail).take dtTableHeaderSize) =
        table.headerWords := by
    rw [List.append_assoc, List.take_left' headerLength,
      unpackWords_of_bounded packed.boundedHeader]
  have metadataSize :
      ({ table with dtEntries := [] } : Dtbo).metadataSize =
        (packWords table.headerWords ++ packWords table.rowWords).length := by
    rw [Dtbo.metadataSize, List.length_append, headerLength, rowsLength,
      packed.headerSize]
  have metadata :
      unpackWords
          ((packWords table.headerWords ++ packWords table.rowWords ++
            tail).take
              ({ table with dtEntries := [] } : Dtbo).metadataSize) =
        table.headerWords ++ table.rowWords := by
    rw [metadataSize, List.take_left' rfl, ← packWords_append,
      unpackWords_of_bounded]
    intro word member
    rcases List.mem_append.mp member with inHeader | inRows
    · exact packed.boundedHeader word inHeader
    · obtain ⟨entry, isRow, inRow⟩ := List.mem_flatMap.mp inRows
      exact packed.boundedRows entry isRow word inRow
  have accepted :
      ¬ ((packWords table.headerWords ++ packWords table.rowWords ++
            tail).length <
            ({ table with dtEntries := [] } : Dtbo).metadataSize ∨
          ({ table with dtEntries := [] } : Dtbo).metadataSize ≠
            4 * ({ table with dtEntries := [] } : Dtbo).numInts) := by
    rw [metadataSize, not_or, not_not]
    refine ⟨by simp only [List.length_append]; omega, ?_⟩
    rw [List.length_append, headerLength, rowsLength, Dtbo.numInts,
      packed.dtEntriesOffset, if_neg (by decide), Nat.add_zero, Nat.mul_add,
      Nat.mul_left_comm, packed.wholeWords]
    rfl
  have row (idx : Nat) (entry : DtEntry)
      (found : table.dtEntries[idx]? = some entry) :
      readDtEntry table.version
          (((table.headerWords ++ table.rowWords).drop
            (table.dtEntriesOffset / 4 + idx * (table.dtEntrySize / 4))).take
              (table.dtEntrySize / 4)) =
        some entry := by
    have headerInts :
        dtTableHeaderSize / 4 = table.headerWords.length := by
      simp [dtTableHeaderSize, Dtbo.headerWords]
    rw [packed.dtEntriesOffset, headerInts, ← List.drop_drop,
      List.drop_left, Dtbo.rowWords,
      rows_at (fun _ => packed.length_words) found]
    exact readDtEntry_words
      (packed.wellFormed entry (List.mem_of_getElem? found))
  unfold readDtboImage
  rw [firstWords, header]
  simp only [Option.bind_eq_bind, Option.bind_some]
  have rows :
      table.dtEntries.mapM some = some table.dtEntries := by
    have collected : table.dtEntries.mapM (fun entry => some (id entry)) =
        some (table.dtEntries.map id) :=
      List.mapM_pure
    rwa [List.map_id] at collected
  rw [if_neg accepted, metadata, packed.dtEntryCount, mapM_range row, rows,
    Option.bind_some, ← packed.dtEntryCount]

end Packed

/-! ## The loop places blobs serially -/

theorem le_alignUp (value : Nat) : value ≤ alignUp value dtEntryAlignment := by
  rw [alignUp, dtEntryAlignment]
  omega

/-- How `add_dt_entries` tells entries apart, and what it stores for them. -/
def entryPolicy
    (codecs : Codecs)
    (disk : FileSystem)
    (version : Nat) :
    SerialPlacement.Policy ImageEntry Text Nat where
  align := fun offset => alignUp offset dtEntryAlignment
  key := fun entry => disk.realpath entry.dtFile
  form := fun entry => entry.compressionInfo version
  content := fun entry =>
    (disk.read entry.dtFile).bind fun content =>
      compressDtEntry codecs content (entry.compressionInfo version)
  le_align := le_alignUp
  content_congr := by
    intro first second samePath sameForm
    rw [FileSystem.read, FileSystem.read, samePath, sameForm]

/-- An entry with its room. -/
def storedEntry (slot : SerialPlacement.Slot ImageEntry) : ImageEntry :=
  { slot.item with
    dtOffset := slot.offset
    dtSize := slot.size }

/-- The variables of the loop, from the blobs and rows it has placed. -/
def addingOf
    (table : Dtbo)
    (base : Nat)
    (store : SerialPlacement.Store ImageEntry) :
    Adding where
  table :=
    { table with
      dtEntryCount := store.slots.length
      totalSize :=
        table.headerSize + store.slots.length * table.dtEntrySize +
          store.blobs.length }
  dtOffset := base + store.blobs.length
  dtEntryBuf := store.blobs
  dtEntries := store.slots.map storedEntry

/-- An entry with the same file, among the placed ones. -/
theorem findDtEntryWithSameFile_map
    (codecs : Codecs)
    (disk : FileSystem)
    (version : Nat)
    (slots : List (SerialPlacement.Slot ImageEntry))
    (dtEntry : ImageEntry) :
    findDtEntryWithSameFile disk (slots.map storedEntry) dtEntry =
      (SerialPlacement.findKey (entryPolicy codecs disk version) slots
        dtEntry).map storedEntry := by
  rw [findDtEntryWithSameFile, List.find?_map]
  rfl

section Loop

variable
  {codecs : Codecs}
  {disk : FileSystem}
  {table : Dtbo}
  {base : Nat}
  {store : SerialPlacement.Store ImageEntry}

theorem finish_addingOf (slot : SerialPlacement.Slot ImageEntry) :
    (addingOf table base store).finish (storedEntry slot) =
      addingOf table base { store with slots := store.slots ++ [slot] } := by
  have size :
      table.headerSize + store.slots.length * table.dtEntrySize +
          store.blobs.length + table.dtEntrySize =
        table.headerSize + (store.slots.length + 1) * table.dtEntrySize +
          store.blobs.length := by
    rw [Nat.succ_mul]
    omega
  simp only [addingOf, Adding.finish, List.length_append,
    List.length_singleton, List.map_append, List.map_singleton, size]

theorem store_addingOf (dtEntry : ImageEntry) (compressedEntry : Bytes) :
    (addingOf table base store).store dtEntry compressedEntry =
      addingOf table base
        (SerialPlacement.append (entryPolicy codecs disk table.version) base
          store dtEntry compressedEntry) := by
  have room := le_alignUp (base + store.blobs.length)
  have start :
      base + store.blobs.length +
          (alignUp (base + store.blobs.length) dtEntryAlignment -
            (base + store.blobs.length)) =
        alignUp (base + store.blobs.length) dtEntryAlignment := by
    omega
  rw [Adding.store]
  simp only [addingOf, Adding.finish, SerialPlacement.append, entryPolicy,
    storedEntry, start, List.length_append, List.length_singleton,
    List.length_replicate, List.map_append, List.map_singleton,
    Adding.mk.injEq, Dtbo.mk.injEq, true_and, and_true]
  rw [Nat.succ_mul]
  omega

/-- The loop body places one entry. -/
theorem addDtEntry_addingOf (dtEntry : ImageEntry) :
    addDtEntry codecs disk (addingOf table base store) dtEntry =
      (SerialPlacement.place (entryPolicy codecs disk table.version) base
        store dtEntry).map (addingOf table base) := by
  have stored :
      ((disk.read dtEntry.dtFile).bind fun content =>
          (compressDtEntry codecs content
            (dtEntry.compressionInfo table.version)).bind
              fun compressedEntry =>
                some ((addingOf table base store).store dtEntry
                  compressedEntry)) =
        (((entryPolicy codecs disk table.version).content dtEntry).map
          (SerialPlacement.append (entryPolicy codecs disk table.version)
            base store dtEntry)).map (addingOf table base) := by
    rw [show (entryPolicy codecs disk table.version).content dtEntry =
        (disk.read dtEntry.dtFile).bind fun content =>
          compressDtEntry codecs content
            (dtEntry.compressionInfo table.version) from rfl]
    cases disk.read dtEntry.dtFile with
    | none =>
        rfl
    | some content =>
        rw [Option.bind_some, Option.bind_some]
        cases compressDtEntry codecs content
            (dtEntry.compressionInfo table.version) with
        | none =>
            rfl
        | some compressedEntry =>
            exact congrArg some (store_addingOf dtEntry compressedEntry)
  unfold addDtEntry SerialPlacement.place SerialPlacement.shared
  simp only [Option.bind_eq_bind]
  rw [show (addingOf table base store).dtEntries =
      store.slots.map storedEntry from rfl,
    findDtEntryWithSameFile_map codecs disk table.version]
  cases found :
      SerialPlacement.findKey (entryPolicy codecs disk table.version)
        store.slots dtEntry with
  | none =>
      exact stored
  | some slot =>
      rw [Option.map_some]
      by_cases sameForm :
          (entryPolicy codecs disk table.version).form slot.item =
            (entryPolicy codecs disk table.version).form dtEntry
      · have shares :
            (some slot).filter (fun other =>
                (entryPolicy codecs disk table.version).form other.item =
                  (entryPolicy codecs disk table.version).form dtEntry) =
              some slot := by
          rw [Option.filter_some, if_pos (decide_eq_true sameForm)]
        rw [shares]
        refine (if_pos sameForm).trans (congrArg some ?_)
        exact finish_addingOf ⟨dtEntry, slot.offset, slot.size⟩
      · have differs :
            (some slot).filter (fun other =>
                (entryPolicy codecs disk table.version).form other.item =
                  (entryPolicy codecs disk table.version).form dtEntry) =
              none := by
          rw [Option.filter_some, if_neg (by simpa using sameForm)]
        rw [differs]
        exact (if_neg sameForm).trans stored

end Loop

/-- The loop places the entries in order. -/
theorem foldlM_addDtEntry
    {codecs : Codecs}
    {disk : FileSystem}
    {table : Dtbo}
    {base : Nat}
    (dtEntries : List ImageEntry)
    (store : SerialPlacement.Store ImageEntry) :
    dtEntries.foldlM (addDtEntry codecs disk) (addingOf table base store) =
      (SerialPlacement.placeAll (entryPolicy codecs disk table.version) base
        store dtEntries).map (addingOf table base) := by
  induction dtEntries generalizing store with
  | nil =>
      rfl
  | cons dtEntry rest inductionHypothesis =>
      rw [SerialPlacement.placeAll, List.foldlM_cons, List.foldlM_cons,
        addDtEntry_addingOf]
      cases SerialPlacement.place (entryPolicy codecs disk table.version)
          base store dtEntry with
      | none =>
          rfl
      | some next =>
          exact inductionHypothesis next

/-! ## What is written -/

/-- Rows that are packed one by one are the packed words of all. -/
theorem flatten_packInto
    {dtEntries : List DtEntry}
    {rows : List Bytes}
    (packed :
      dtEntries.mapM (fun dtEntry => packInto dtEntry.words) = some rows) :
    rows.flatten = packWords (dtEntries.flatMap DtEntry.words) ∧
      ∀ dtEntry ∈ dtEntries, ∀ word ∈ dtEntry.words, word < 4294967296 := by
  induction dtEntries generalizing rows with
  | nil =>
      rw [List.mapM_nil, Option.pure_def, Option.some.injEq] at packed
      rw [← packed]
      exact ⟨rfl, by simp⟩
  | cons dtEntry rest inductionHypothesis =>
      simp only [List.mapM_cons, Option.bind_eq_bind, Option.pure_def,
        Option.bind_eq_some_iff, Option.some.injEq] at packed
      obtain ⟨row, packedRow, others, packedRest, rfl⟩ := packed
      obtain ⟨same, bounded⟩ := inductionHypothesis packedRest
      rw [packInto] at packedRow
      split at packedRow
      · rename_i small
        rw [Option.some.injEq] at packedRow
        rw [List.flatten_cons, List.flatMap_cons, packWords_append, same,
          packedRow]
        refine ⟨rfl, ?_⟩
        intro other member
        rcases List.mem_cons.mp member with rfl | member
        · simpa using small
        · exact bounded other member
      · cases packedRow

/-- A file of `create`, by the table and the blobs it was written from. -/
structure Written
    (codecs : Codecs)
    (disk : FileSystem)
    (dtEntries : List ImageEntry)
    (table : Dtbo)
    (store : SerialPlacement.Store ImageEntry)
    (output : Bytes) : Prop where
  packed : table.Packed
  rows :
    table.dtEntries = store.slots.map fun slot => (storedEntry slot).toDtEntry
  items : store.slots.map SerialPlacement.Slot.item = dtEntries
  sound :
    SerialPlacement.Sound (entryPolicy codecs disk table.version)
      table.metadataSize store
  totalSize : table.totalSize = table.metadataSize + store.blobs.length
  pageSize : 0 < table.pageSize
  bytes :
    output =
      packWords table.headerWords ++ packWords table.rowWords ++
        (store.blobs ++ paddingBytes table.totalSize table.pageSize)

theorem DtEntry.WellFormed.storedEntry
    {version : Nat}
    {slot : SerialPlacement.Slot ImageEntry}
    (wellFormed : slot.item.toDtEntry.WellFormed version) :
    (storedEntry slot).toDtEntry.WellFormed version :=
  ⟨wellFormed.flags, wellFormed.custom⟩

/-- The fields of a table to create. -/
theorem empty_eq_some
    {dtType : Text}
    {pageSize version : Nat}
    {table : Dtbo}
    (isEmpty : Dtbo.empty dtType pageSize version = some table) :
    0 < pageSize ∧
      ∃ dtEntrySize magic,
        getDtEntrySize version = some dtEntrySize ∧
          (magic = dtboMagic ∨ magic = acpioMagic) ∧
            table = {
              magic := magic
              totalSize := dtTableHeaderSize
              headerSize := dtTableHeaderSize
              dtEntrySize := dtEntrySize
              dtEntryCount := 0
              dtEntriesOffset := dtTableHeaderSize
              pageSize := pageSize
              version := version
              dtEntries := [] } := by
  rw [Dtbo.empty] at isEmpty
  split at isEmpty
  · cases isEmpty
  · rename_i positive
    obtain ⟨dtEntrySize, size, isTable⟩ := Option.map_eq_some_iff.mp isEmpty
    refine ⟨Nat.pos_of_ne_zero positive, dtEntrySize, _, size, ?_,
      isTable.symm⟩
    split
    · exact .inr rfl
    · exact .inl rfl

/-- The table of the loop is packed when its words fit. -/
theorem packed_result
    {dtType : Text}
    {pageSize version base : Nat}
    {table : Dtbo}
    (isEmpty : Dtbo.empty dtType pageSize version = some table)
    {store : SerialPlacement.Store ImageEntry}
    (wellFormed :
      ∀ slot ∈ store.slots, slot.item.toDtEntry.WellFormed version)
    (boundedHeader :
      ∀ word ∈ (addingOf table base store).result.headerWords,
        word < 4294967296)
    (boundedRows :
      ∀ entry ∈ (addingOf table base store).result.dtEntries,
        ∀ word ∈ entry.words, word < 4294967296) :
    (addingOf table base store).result.Packed := by
  obtain ⟨-, dtEntrySize, magic, size, isMagic, rfl⟩ :=
    empty_eq_some isEmpty
  constructor
  · exact isMagic
  · rfl
  · exact size
  · simp only [Adding.result, addingOf, List.length_map]
  · rfl
  · intro entry member
    rw [Adding.result, addingOf, List.map_map, List.mem_map] at member
    obtain ⟨slot, inSlots, rfl⟩ := member
    exact (wellFormed slot inSlots).storedEntry
  · exact boundedHeader
  · exact boundedRows

/-- What `create` writes behind its parsers. -/
theorem exists_written
    {codecs : Codecs}
    {disk : FileSystem}
    {globalArgs : GlobalArgs}
    {dtEntries : List ImageEntry}
    {output : Bytes}
    (wellFormed :
      ∀ dtEntry ∈ dtEntries,
        dtEntry.toDtEntry.WellFormed globalArgs.version)
    (written :
      writeDtboImage codecs disk globalArgs dtEntries = some output) :
    ∃ table store, Written codecs disk dtEntries table store output := by
  simp only [writeDtboImage, Option.bind_eq_bind, Option.bind_eq_some_iff]
    at written
  obtain ⟨empty, isEmpty, state, added, committed⟩ := written
  obtain ⟨positive, dtEntrySize, magic, -, -, isTable⟩ :=
    empty_eq_some isEmpty
  rw [addDtEntries] at added
  split at added
  · cases added
  · have start :
        ({ table := empty
           dtOffset :=
            empty.headerSize + dtEntries.length * empty.dtEntrySize
           dtEntryBuf := []
           dtEntries := [] } : Adding) =
          addingOf empty
            (empty.headerSize + dtEntries.length * empty.dtEntrySize)
            ⟨[], []⟩ := by
      rw [isTable]
      simp only [addingOf, List.length_nil, List.map_nil, Nat.zero_mul,
        Nat.add_zero]
    rw [start, foldlM_addDtEntry] at added
    obtain ⟨store, placed, rfl⟩ := Option.map_eq_some_iff.mp added
    have items := SerialPlacement.placeAll_items placed
    have sound :=
      SerialPlacement.placeAll_sound SerialPlacement.sound_empty placed
    rw [List.map_nil, List.nil_append] at items
    have count : dtEntries.length = store.slots.length := by
      rw [← items, List.length_map]
    rw [Dtbo.commit] at committed
    simp only [Option.bind_eq_bind, Option.bind_eq_some_iff] at committed
    obtain ⟨rows, packedRows, header, packedHeader, isOutput⟩ := committed
    obtain ⟨flat, boundedRows⟩ := flatten_packInto packedRows
    rw [packInto] at packedHeader
    split at packedHeader
    · rename_i boundedHeader
      rw [Option.some.injEq] at packedHeader isOutput
      refine ⟨_, store, {
        packed := packed_result isEmpty ?_ (by simpa using boundedHeader)
          boundedRows
        rows := List.map_map
        items := items
        sound := ?_
        totalSize := rfl
        pageSize := ?_
        bytes := ?_ }⟩
      · intro slot inSlots
        refine wellFormed slot.item ?_
        rw [← items]
        exact List.mem_map_of_mem inSlots
      · rw [count] at sound
        exact sound
      · rw [isTable]
        exact positive
      · rw [← isOutput, ← packedHeader, flat, List.append_assoc]
        rfl
    · cases packedHeader

end OverclockBuilder
