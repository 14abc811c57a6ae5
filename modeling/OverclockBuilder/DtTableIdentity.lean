import OverclockBuilder.DtTableScrape

namespace OverclockBuilder

open RadixText WordText BytePacking CNumber BashText

/-!
# The identity of a rebuilt table

A created table reads back as it was written.  Of the stock table only the page
size and the version are passed on, so the rest of its identity survives
exactly when it is what `create` falls back to.
-/

/-! ## Reading back numbers -/

/-- `int` reads a text of digits. -/
theorem isSome_pyInt_of_isDecimal
    {text : Text}
    (decimal : isDecimal text = true) :
    (pyInt 10 text).isSome = true := by
  simp only [isDecimal, Bool.and_eq_true, Bool.not_eq_true',
    List.isEmpty_eq_false_iff] at decimal
  rw [pyInt, scanDigits_of_digitsBelow (digitsBelow_ten decimal.2)]
  exact congrArg Option.isSome (if_neg decimal.1)

/-- `int` reads back a printed number. -/
theorem pyInt_printUnsigned (value : Nat) :
    pyInt 10 (printUnsigned value) = some value := by
  have scanned :
      scanDigits 10 0 (Nat.toDigits 10 value) = (value, []) :=
    scanDigits_toDigits (by decide) (by decide) value
  rw [pyInt, printUnsigned, scanned]
  exact if_neg Nat.toDigits_ne_nil

/-- A word survives `str` and `__get_number_or_prop`. -/
theorem getNumberOrProp_printUnsigned (value : Nat) :
    getNumberOrProp (printUnsigned value) = some value := by
  by_cases zero : value = 0
  · subst zero
    decide +kernel
  · rcases shape : printUnsigned value with _ | ⟨head, rest⟩
    · exact (Nat.toDigits_ne_nil shape).elim
    · have member : head ∈ Nat.toDigits 10 value := by
        rw [show Nat.toDigits 10 value = head :: rest from shape]
        exact List.mem_cons_self
      have digit := (mem_toDigits (by decide) (by decide) member).1
      have notZero : head ≠ '0' := by
        rintro rfl
        exact zero (eq_zero_of_head_toDigits (by
          rw [show Nat.toDigits 10 value = '0' :: rest from shape]
          rfl))
      have unsigned : ¬ (head = '+' ∨ head = '-' ∨ head = '/') := by
        rintro (rfl | rfl | rfl) <;> exact absurd digit (by decide)
      have decimal := pyInt_printUnsigned value
      rw [shape] at decimal
      unfold getNumberOrProp
      split
      · rename_i same
        cases same
      · rename_i same
        exact (notZero (List.cons.inj same).1).elim
      · rename_i same
        exact (notZero (List.cons.inj same).1).elim
      · rename_i same
        obtain ⟨rfl, rfl⟩ := List.cons.inj same
        rw [if_neg unsigned, if_neg notZero, decimal]

theorem mapM_getNumberOrProp (values : List Nat) :
    (values.map printUnsigned).mapM getNumberOrProp = some values := by
  induction values with
  | nil =>
      rfl
  | cons value rest inductionHypothesis =>
      rw [List.map_cons, List.mapM_cons, getNumberOrProp_printUnsigned,
        inductionHypothesis]
      rfl

/-! ## Rows -/

/-- A row with the fields of its version. -/
structure DtEntry.WellFormed (version : Nat) (entry : DtEntry) : Prop where
  flags : entry.flags.isSome = hasFlags version
  custom : getNumCustomFields version = some entry.custom.length

/-- A well-formed row reads back. -/
theorem readDtEntry_words
    {version : Nat}
    {entry : DtEntry}
    (wellFormed : entry.WellFormed version) :
    readDtEntry version entry.words = some entry := by
  obtain ⟨dtSize, dtOffset, id, rev, flags, custom⟩ := entry
  obtain ⟨isSome, count⟩ := wellFormed
  simp only at isSome count
  rw [DtEntry.words, List.cons_append, List.cons_append, List.cons_append,
    List.cons_append, readDtEntry, DtEntry.init, mapM_getNumberOrProp,
    count]
  cases flags with
  | none =>
      rw [Option.isSome_none] at isSome
      simp [← isSome]
  | some flags =>
      rw [Option.isSome_some] at isSome
      simp [← isSome]

/-- Every row that is read has the fields of its version. -/
theorem init_wellFormed
    {version dtSize dtOffset : Nat}
    {values : List Text}
    {entry : DtEntry}
    (made : DtEntry.init version dtSize dtOffset values = some entry) :
    entry.WellFormed version := by
  unfold DtEntry.init at made
  simp only [Option.bind_eq_bind, Option.bind_eq_some_iff] at made
  obtain ⟨numCustom, count, numbers, -, made⟩ := made
  split at made
  · split at made
    · rename_i withFlags
      split at made
      · split at made
        · rename_i length
          rw [Option.some.injEq] at made
          subst made
          exact ⟨withFlags.symm, by rw [count, ← length]⟩
        · cases made
      · cases made
    · rename_i withoutFlags
      split at made
      · rename_i length
        rw [Option.some.injEq] at made
        subst made
        exact ⟨by simpa using withoutFlags, by rw [count, ← length]⟩
      · cases made
  · cases made

theorem readDtEntry_wellFormed
    {version : Nat}
    {words : List Nat}
    {entry : DtEntry}
    (read : readDtEntry version words = some entry) :
    entry.WellFormed version := by
  unfold readDtEntry at read
  split at read
  · exact init_wellFormed read
  · cases read

/-- The row `create` falls back to. -/
def defaultEntry (version dtSize dtOffset numCustom : Nat) : DtEntry where
  dtSize := dtSize
  dtOffset := dtOffset
  id := 0
  rev := 0
  flags := if hasFlags version then some 0 else none
  custom := List.replicate numCustom 0

theorem mapM_getNumberOrProp_replicate (count : Nat) :
    (List.replicate count "0".toList).mapM getNumberOrProp =
      some (List.replicate count 0) := by
  have zeros := mapM_getNumberOrProp (List.replicate count 0)
  rw [List.map_replicate] at zeros
  exact zeros

theorem init_createDefaults
    {version numCustom : Nat}
    (count : getNumCustomFields version = some numCustom)
    (dtSize dtOffset : Nat) :
    DtEntry.init version dtSize dtOffset
        (createDefaults version numCustom) =
      some (defaultEntry version dtSize dtOffset numCustom) := by
  unfold DtEntry.init createDefaults
  rw [mapM_getNumberOrProp_replicate, count]
  cases withFlags : hasFlags version with
  | true =>
      simp [defaultEntry, withFlags, List.replicate_add, List.replicate]
  | false =>
      simp [defaultEntry, withFlags, List.replicate_add, List.replicate]

theorem defaultEntry_wellFormed
    {version numCustom : Nat}
    (count : getNumCustomFields version = some numCustom)
    (dtSize dtOffset : Nat) :
    (defaultEntry version dtSize dtOffset numCustom).WellFormed version :=
  init_wellFormed (init_createDefaults count dtSize dtOffset)

/-- A row has as many bytes as its version says. -/
theorem length_words
    {version : Nat}
    {entry : DtEntry}
    (wellFormed : entry.WellFormed version)
    {dtEntrySize : Nat}
    (size : getDtEntrySize version = some dtEntrySize) :
    4 * entry.words.length = dtEntrySize := by
  obtain ⟨dtSize, dtOffset, id, rev, flags, custom⟩ := entry
  obtain ⟨isSome, count⟩ := wellFormed
  simp only at isSome count
  have versions : version = 0 ∨ version = 1 ∨ version = 2 := by
    rcases version with _ | _ | _ | version
    · exact .inl rfl
    · exact .inr (.inl rfl)
    · exact .inr (.inr rfl)
    · cases size
  rcases versions with rfl | rfl | rfl
  · obtain rfl := Option.isNone_iff_eq_none.mp
      (Option.isSome_eq_false_iff.mp isSome)
    simp [DtEntry.words, getNumCustomFields, getDtEntrySize] at *
    omega
  · obtain ⟨flags, rfl⟩ := Option.isSome_iff_exists.mp isSome
    simp [DtEntry.words, getNumCustomFields, getDtEntrySize] at *
    omega
  · obtain ⟨flags, rfl⟩ := Option.isSome_iff_exists.mp isSome
    simp [DtEntry.words, getNumCustomFields, getDtEntrySize] at *
    omega

/-! ## Tables -/

/-- A table with one row, as `create` writes it. -/
structure Dtbo.SingleRow (table : Dtbo) (entry : DtEntry) : Prop where
  magic : table.magic = dtboMagic ∨ table.magic = acpioMagic
  headerSize : table.headerSize = dtTableHeaderSize
  dtEntrySize : getDtEntrySize table.version = some table.dtEntrySize
  dtEntryCount : table.dtEntryCount = 1
  dtEntriesOffset : table.dtEntriesOffset = dtTableHeaderSize
  dtEntries : table.dtEntries = [entry]
  wellFormed : entry.WellFormed table.version
  boundedHeader : ∀ word ∈ table.headerWords, word < 4294967296
  boundedEntry : ∀ word ∈ entry.words, word < 4294967296

/-- A packed table reads back, whatever follows it. -/
theorem readDtboImage_packWords
    {table : Dtbo}
    {entry : DtEntry}
    (single : table.SingleRow entry)
    (tail : Bytes) :
    readDtboImage
        (packWords table.headerWords ++ packWords entry.words ++ tail) =
      some table := by
  have headerLength :
      (packWords table.headerWords).length = dtTableHeaderSize := by
    rw [length_packWords]
    rfl
  have entryLength :
      (packWords entry.words).length = table.dtEntrySize := by
    rw [length_packWords]
    exact length_words single.wellFormed single.dtEntrySize
  have header :
      readDtboHeader table.headerWords =
        some { table with dtEntries := [] } := by
    rw [Dtbo.headerWords, readDtboHeader,
      if_pos ⟨single.magic, single.headerSize, single.dtEntrySize⟩]
  have firstWords :
      unpackWords
          ((packWords table.headerWords ++ packWords entry.words ++
            tail).take dtTableHeaderSize) =
        table.headerWords := by
    rw [List.append_assoc, List.take_left' headerLength,
      unpackWords_of_bounded single.boundedHeader]
  have metadataSize :
      ({ table with dtEntries := [] } : Dtbo).metadataSize =
        (packWords table.headerWords ++ packWords entry.words).length := by
    rw [Dtbo.metadataSize, List.length_append, headerLength, entryLength,
      single.headerSize, single.dtEntryCount, Nat.one_mul]
  have ints : 4 * entry.words.length = table.dtEntrySize :=
    length_words single.wellFormed single.dtEntrySize
  have metadata :
      unpackWords
          ((packWords table.headerWords ++ packWords entry.words ++
            tail).take
              ({ table with dtEntries := [] } : Dtbo).metadataSize) =
        table.headerWords ++ entry.words := by
    rw [metadataSize, List.take_left' rfl, ← packWords_append,
      unpackWords_of_bounded]
    intro word member
    rcases List.mem_append.mp member with inHeader | inEntry
    · exact single.boundedHeader word inHeader
    · exact single.boundedEntry word inEntry
  have accepted :
      ¬ ((packWords table.headerWords ++ packWords entry.words ++
            tail).length <
            ({ table with dtEntries := [] } : Dtbo).metadataSize ∨
          ({ table with dtEntries := [] } : Dtbo).metadataSize ≠
            4 * ({ table with dtEntries := [] } : Dtbo).numInts) := by
    rw [metadataSize, not_or, not_not]
    refine ⟨by simp only [List.length_append]; omega, ?_⟩
    rw [List.length_append, headerLength, entryLength, Dtbo.numInts,
      single.dtEntryCount, single.dtEntriesOffset, if_neg (by decide)]
    simp only [dtTableHeaderSize]
    omega
  have rowWords :
      ((table.headerWords ++ entry.words).drop
          (table.dtEntriesOffset / 4 + 0 * (table.dtEntrySize / 4))).take
            (table.dtEntrySize / 4) =
        entry.words := by
    have headerInts :
        dtTableHeaderSize / 4 + 0 * (table.dtEntrySize / 4) =
          table.headerWords.length := by
      simp [dtTableHeaderSize, Dtbo.headerWords]
    rw [single.dtEntriesOffset, headerInts, List.drop_left,
      List.take_of_length_le (by omega)]
  unfold readDtboImage
  rw [firstWords, header]
  simp only [Option.bind_eq_bind, Option.bind_some]
  rw [if_neg accepted, metadata, single.dtEntryCount]
  simp only [List.range_one, List.mapM_cons, List.mapM_nil, rowWords,
    readDtEntry_words single.wellFormed, Option.bind_eq_bind,
    Option.bind_some, Option.pure_def, Option.some.injEq]
  rw [← single.dtEntries, ← single.dtEntryCount]

/-- What `create` writes for a page size and a version. -/
theorem createDtboImage_eq_some
    {pageSize version : Nat}
    {dtb output : Bytes}
    (created :
      createDtboImage (printUnsigned pageSize) (printUnsigned version) dtb =
        some output) :
    ∃ numCustom dtEntrySize,
      getNumCustomFields version = some numCustom ∧
        ∃ table,
          table = createTable pageSize version dtEntrySize
              (defaultEntry version dtb.length
                (dtTableHeaderSize + dtEntrySize) numCustom) ∧
            table.SingleRow
              (defaultEntry version dtb.length
                (dtTableHeaderSize + dtEntrySize) numCustom) ∧
            output =
              packWords table.headerWords ++
                packWords (defaultEntry version dtb.length
                  (dtTableHeaderSize + dtEntrySize) numCustom).words ++
                  (dtb ++ paddingBytes table.totalSize pageSize) := by
  unfold createDtboImage at created
  simp only [pyInt_printUnsigned, Option.bind_eq_bind, Option.bind_some,
    Option.bind_eq_some_iff] at created
  obtain ⟨numCustom, count, dtEntrySize, size, entry, made, created⟩ :=
    created
  have aligned :
      alignUp (dtTableHeaderSize + dtEntrySize) dtEntryAlignment =
        dtTableHeaderSize + dtEntrySize := by
    have sizes : dtEntrySize = 32 ∨ dtEntrySize = 64 := by
      unfold getDtEntrySize at size
      split at size <;> simp at size <;> omega
    rcases sizes with rfl | rfl <;> rfl
  rw [aligned] at made created
  rw [init_createDefaults count, Option.some.injEq] at made
  subst made
  split at created
  · cases created
  · simp only [packInto, Option.bind_eq_some_iff] at created
    obtain ⟨entryBytes, packedEntry, headerBytes, packedHeader, written⟩ :=
      created
    split at packedEntry
    · split at packedHeader
      · rename_i boundedEntry boundedHeader
        rw [Option.some.injEq] at packedEntry packedHeader written
        refine ⟨numCustom, dtEntrySize, count, _, rfl, ?_, ?_⟩
        · exact {
            magic := .inl rfl
            headerSize := rfl
            dtEntrySize := size
            dtEntryCount := rfl
            dtEntriesOffset := rfl
            dtEntries := rfl
            wellFormed := defaultEntry_wellFormed count _ _
            boundedHeader := by simpa using boundedHeader
            boundedEntry := by simpa using boundedEntry }
        · rw [← written, ← packedEntry, ← packedHeader, Nat.sub_self]
          simp
      · cases packedHeader
    · cases packedEntry

/-! ## What a table is identified by -/

/-- The fields of a row a bootloader selects by. -/
def DtEntry.identity (entry : DtEntry) :
    Nat × Nat × Option Nat × List Nat :=
  (entry.id, entry.rev, entry.flags, entry.custom)

/-- The tables differ only in sizes, offsets and padding. -/
structure SameIdentity (stock rebuilt : Dtbo) : Prop where
  magic : rebuilt.magic = stock.magic
  version : rebuilt.version = stock.version
  pageSize : rebuilt.pageSize = stock.pageSize
  rows :
    rebuilt.dtEntries.map DtEntry.identity =
      stock.dtEntries.map DtEntry.identity

/-- A table whose identity is the one `create` falls back to. -/
structure DefaultIdentity (table : Dtbo) : Prop where
  magic : table.magic = dtboMagic
  id : ∀ entry ∈ table.dtEntries, entry.id = 0
  rev : ∀ entry ∈ table.dtEntries, entry.rev = 0
  flags : ∀ entry ∈ table.dtEntries, ∀ flags ∈ entry.flags, flags = 0
  custom : ∀ entry ∈ table.dtEntries, ∀ word ∈ entry.custom, word = 0

instance (stock rebuilt : Dtbo) : Decidable (SameIdentity stock rebuilt) :=
  decidable_of_iff
    (rebuilt.magic = stock.magic ∧ rebuilt.version = stock.version ∧
      rebuilt.pageSize = stock.pageSize ∧
        rebuilt.dtEntries.map DtEntry.identity =
          stock.dtEntries.map DtEntry.identity)
    ⟨fun ⟨magic, version, pageSize, rows⟩ =>
        ⟨magic, version, pageSize, rows⟩,
      fun ⟨magic, version, pageSize, rows⟩ =>
        ⟨magic, version, pageSize, rows⟩⟩

/--
The table the script writes around a device tree, from the table it found.

It stops unless there is exactly one row.
-/
def rebuildTable (table dtb : Bytes) : Option Bytes := do
  let dtinfo ← dumpDtboImage table
  if dtCount dtinfo ≠ "1".toList then
    none
  else
    createDtboImage (pageSize dtinfo) (dtVersion dtinfo) dtb

/-- A created table is rebuilt with the page size and version it has. -/
theorem rebuildTable_of_created
    {pageSize version : Nat}
    {dtb output : Bytes}
    (created :
      createDtboImage (printUnsigned pageSize) (printUnsigned version) dtb =
        some output)
    (other : Bytes) :
    rebuildTable output other =
      createDtboImage (printUnsigned pageSize) (printUnsigned version)
        other := by
  obtain ⟨numCustom, dtEntrySize, count, table, isTable, single, written⟩ :=
    createDtboImage_eq_some created
  have readBack := readDtboImage_packWords single
    (dtb ++ paddingBytes table.totalSize pageSize)
  rw [← written] at readBack
  have one : printUnsigned 1 = "1".toList := by
    decide
  rw [rebuildTable, dumpDtboImage, readBack]
  simp only [Option.map_some, Option.bind_eq_bind, Option.bind_some,
    dtCount_str, single.dtEntryCount, one, pageSize_str, dtVersion_str]
  rw [if_neg (by decide), isTable]
  rfl

theorem mapM_forall
    {α β : Type}
    {read : α → Option β}
    {values : List α}
    {results : List β}
    (mapped : values.mapM read = some results) :
    results.length = values.length ∧
      ∀ result ∈ results, ∃ value, read value = some result := by
  induction values generalizing results with
  | nil =>
      rw [List.mapM_nil, Option.pure_def, Option.some.injEq] at mapped
      subst mapped
      exact ⟨rfl, by simp⟩
  | cons value rest inductionHypothesis =>
      simp only [List.mapM_cons, Option.bind_eq_bind, Option.pure_def,
        Option.bind_eq_some_iff, Option.some.injEq] at mapped
      obtain ⟨first, readFirst, others, mappedRest, rfl⟩ := mapped
      obtain ⟨length, members⟩ := inductionHypothesis mappedRest
      refine ⟨by simp [length], ?_⟩
      intro result member
      rcases List.mem_cons.mp member with rfl | inRest
      · exact ⟨value, readFirst⟩
      · exact members result inRest

/-- What a table that was read looks like. -/
theorem readDtboImage_eq_some
    {file : Bytes}
    {table : Dtbo}
    (read : readDtboImage file = some table) :
    getDtEntrySize table.version = some table.dtEntrySize ∧
      table.dtEntries.length = table.dtEntryCount ∧
        ∀ entry ∈ table.dtEntries, entry.WellFormed table.version := by
  unfold readDtboImage at read
  simp only [Option.bind_eq_bind, Option.bind_eq_some_iff] at read
  obtain ⟨header, readHeader, read⟩ := read
  have size : getDtEntrySize header.version = some header.dtEntrySize := by
    unfold readDtboHeader at readHeader
    split at readHeader
    · split at readHeader
      · rename_i valid
        rw [Option.some.injEq] at readHeader
        rw [← readHeader]
        exact valid.2.2
      · cases readHeader
    · cases readHeader
  split at read
  · cases read
  · simp only [Option.bind_eq_some_iff, Option.some.injEq] at read
    obtain ⟨dtEntries, rows, rfl⟩ := read
    obtain ⟨length, members⟩ := mapM_forall rows
    refine ⟨size, by simpa using length, ?_⟩
    intro entry member
    obtain ⟨index, readRow⟩ := members entry member
    exact readDtEntry_wellFormed readRow

/-- A row has the identity of a default row when everything in it is zero. -/
theorem identity_defaultEntry_iff
    {version numCustom : Nat}
    (count : getNumCustomFields version = some numCustom)
    {entry : DtEntry}
    (wellFormed : entry.WellFormed version)
    (dtSize dtOffset : Nat) :
    (defaultEntry version dtSize dtOffset numCustom).identity =
        entry.identity ↔
      entry.id = 0 ∧ entry.rev = 0 ∧ (∀ flags ∈ entry.flags, flags = 0) ∧
        ∀ word ∈ entry.custom, word = 0 := by
  have length : numCustom = entry.custom.length := by
    rw [← Option.some.injEq, ← count, wellFormed.custom]
  have flags :
      (if hasFlags version then some 0 else none) = entry.flags ↔
        ∀ flags ∈ entry.flags, flags = 0 := by
    rw [← wellFormed.flags]
    cases entry.flags with
    | none =>
        simp
    | some flags =>
        simp [eq_comm]
  have custom :
      List.replicate numCustom 0 = entry.custom ↔
        ∀ word ∈ entry.custom, word = 0 := by
    rw [eq_comm, List.eq_replicate_iff]
    exact and_iff_right length.symm
  simp only [DtEntry.identity, defaultEntry, Prod.mk.injEq, flags, custom,
    eq_comm (a := 0)]

/--
A rebuilt table reads back, and it has the identity of the stock table exactly
when that is the one `create` falls back to: the magic of a DTBO, and no id,
revision, flags or custom words.
-/
theorem rebuildTable_sameIdentity_iff
    {file dtb output : Bytes}
    (rebuilt : rebuildTable file dtb = some output) :
    ∃ stock table,
      readDtboImage file = some stock ∧
        readDtboImage output = some table ∧
          (SameIdentity stock table ↔ DefaultIdentity stock) := by
  unfold rebuildTable at rebuilt
  simp only [dumpDtboImage, Option.bind_eq_bind, Option.bind_eq_some_iff,
    Option.map_eq_some_iff] at rebuilt
  obtain ⟨_, ⟨stock, read, rfl⟩, rebuilt⟩ := rebuilt
  split at rebuilt
  · cases rebuilt
  · rename_i accepted
    rw [not_not, dtCount_str] at accepted
    have one : stock.dtEntryCount = 1 := by
      have number := pyInt_printUnsigned stock.dtEntryCount
      rw [accepted] at number
      have shown : pyInt 10 "1".toList = some 1 := by
        decide +kernel
      exact Option.some.inj (number.symm.trans shown)
    rw [pageSize_str, dtVersion_str] at rebuilt
    obtain ⟨-, length, wellFormed⟩ := readDtboImage_eq_some read
    obtain ⟨entry, rows⟩ := List.length_eq_one_iff.mp (length.trans one)
    obtain ⟨numCustom, dtEntrySize, count, table, isTable, single, written⟩ :=
      createDtboImage_eq_some rebuilt
    have sameRow := identity_defaultEntry_iff count
      (wellFormed entry (by simp [rows])) dtb.length
      (dtTableHeaderSize + dtEntrySize)
    refine ⟨stock, table, read, ?_, ?_, ?_⟩
    · rw [written]
      exact readDtboImage_packWords single _
    · rintro ⟨magic, -, -, sameRows⟩
      rw [single.dtEntries, rows, List.map_singleton, List.map_singleton,
        List.singleton_inj, sameRow] at sameRows
      obtain ⟨id, rev, flags, custom⟩ := sameRows
      rw [isTable] at magic
      constructor
      · exact magic.symm
      all_goals
        rw [rows]
        simpa using by assumption
    · rintro ⟨magic, id, rev, flags, custom⟩
      rw [rows] at id rev flags custom
      constructor
      · rw [isTable, magic]
        rfl
      · rw [isTable]
        rfl
      · rw [isTable]
        rfl
      · rw [single.dtEntries, rows, List.map_singleton, List.map_singleton,
          List.singleton_inj, sameRow]
        exact ⟨id entry (by simp), rev entry (by simp),
          flags entry (by simp), custom entry (by simp)⟩

/-! ## Two tables -/

/-- A version 0 table with one row of four bytes and the given id. -/
def exampleTable (id : Nat) : Bytes :=
  packWords [dtboMagic, 68, 32, 32, 1, 32, 2048, 0] ++
    packWords [4, 64, id, 0, 0, 0, 0, 0] ++ [0xd0, 0x0d, 0xfe, 0xed]

/-- The table rebuilt from it. -/
def exampleRebuilt : Bytes :=
  packWords [dtboMagic, 68, 32, 32, 1, 32, 2048, 0] ++
    packWords [4, 64, 0, 0, 0, 0, 0, 0] ++ [0xd0, 0x0d, 0xfe, 0xed] ++
      paddingBytes 68 2048

theorem rebuildTable_sameIdentity_iff_zero :
    ∃ stock table,
      readDtboImage (exampleTable 0) = some stock ∧
        readDtboImage exampleRebuilt = some table ∧
          (SameIdentity stock table ↔ DefaultIdentity stock) :=
  @rebuildTable_sameIdentity_iff (exampleTable 0) [0xd0, 0x0d, 0xfe, 0xed]
    exampleRebuilt (by decide +kernel)

/-- A table with the id 0x6768 comes back without it. -/
theorem rebuildTable_loses_id :
    ∃ stock table,
      rebuildTable (exampleTable 0x6768) [0xd0, 0x0d, 0xfe, 0xed] =
          some exampleRebuilt ∧
        readDtboImage (exampleTable 0x6768) = some stock ∧
          readDtboImage exampleRebuilt = some table ∧
            ¬ SameIdentity stock table := by
  refine ⟨⟨dtboMagic, 68, 32, 32, 1, 32, 2048, 0,
      [⟨4, 64, 0x6768, 0, none, [0, 0, 0, 0]⟩]⟩,
    ⟨dtboMagic, 68, 32, 32, 1, 32, 2048, 0,
      [⟨4, 64, 0, 0, none, [0, 0, 0, 0]⟩]⟩, ?_, ?_, ?_, ?_⟩
  · decide +kernel
  · decide +kernel
  · decide +kernel
  · decide +kernel

end OverclockBuilder
