import OverclockBuilder.DtTableIdentity

namespace OverclockBuilder

open RadixText WordText BytePacking CNumber BashText

/-!
# Cutting the device tree out of a table

Every image that `mkdtboimg.py` dumps is described by its dump: the five scraped
fields are the words stored in the header and in row zero, and `dd` takes
exactly the bytes that row zero spans.
-/

/-- `mt6768.dtb` and `final.dtb`: the blob the script cuts out of a table. -/
def extractBlob (file : Bytes) : Option Bytes := do
  let dtinfo ← dumpDtboImage file
  ddExtract (dtOffset dtinfo) (dtSize dtinfo) file

/-- Stage 3, which insists on a single row. -/
def extractStockBlob (file : Bytes) : Option Bytes := do
  let dtinfo ← dumpDtboImage file
  if dtCount dtinfo ≠ "1".toList then
    none
  else
    ddExtract (dtOffset dtinfo) (dtSize dtinfo) file

/-! ## What a dump shows -/

/-- The header words are the first words of the file. -/
theorem readDtboHeader_stored
    {words : List Nat}
    {header : Dtbo}
    (read : readDtboHeader words = some header) :
    words = header.headerWords := by
  unfold readDtboHeader at read
  split at read
  · split at read
    · rw [Option.some.injEq] at read
      rw [← read]
      rfl
    · cases read
  · cases read

/-- A row starts with its size and its offset. -/
theorem readDtEntry_stored
    {version : Nat}
    {words : List Nat}
    {entry : DtEntry}
    (read : readDtEntry version words = some entry) :
    [entry.dtSize, entry.dtOffset] <+: words := by
  unfold readDtEntry at read
  split at read
  · rename_i dtSize dtOffset values
    unfold DtEntry.init at read
    simp only [Option.bind_eq_bind, Option.bind_eq_some_iff] at read
    obtain ⟨numCustom, -, numbers, -, read⟩ := read
    have sizes : entry.dtSize = dtSize ∧ entry.dtOffset = dtOffset := by
      (repeat' split at read) <;>
        first
          | cases read
            exact ⟨rfl, rfl⟩
          | cases read
    rw [sizes.1, sizes.2]
    exact ⟨values, rfl⟩
  · cases read

/-- The table of an accepted image, as the words stored in the file. -/
structure Stored (file : Bytes) (table : Dtbo) : Prop where
  header : unpackWords (file.take dtTableHeaderSize) = table.headerWords
  length : table.dtEntries.length = table.dtEntryCount
  first :
    ∀ entry ∈ table.dtEntries.head?,
      [entry.dtSize, entry.dtOffset] <+:
        (unpackWords (file.take table.metadataSize)).drop
          (table.dtEntriesOffset / 4)

theorem readDtboImage_stored
    {file : Bytes}
    {table : Dtbo}
    (read : readDtboImage file = some table) :
    Stored file table := by
  have length := (readDtboImage_eq_some read).2.1
  unfold readDtboImage at read
  simp only [Option.bind_eq_bind, Option.bind_eq_some_iff] at read
  obtain ⟨header, readHeader, read⟩ := read
  split at read
  · cases read
  · simp only [Option.bind_eq_some_iff, Option.some.injEq] at read
    obtain ⟨dtEntries, rows, rfl⟩ := read
    refine ⟨(readDtboHeader_stored readHeader).trans rfl, length, ?_⟩
    intro entry isFirst
    have positive : header.dtEntryCount ≠ 0 := by
      intro zero
      rw [zero] at length
      rw [List.eq_nil_of_length_eq_zero length] at isFirst
      cases isFirst
    obtain ⟨more, count⟩ := Nat.exists_eq_succ_of_ne_zero positive
    rw [count, List.range_succ_eq_map] at rows
    simp only [List.mapM_cons, Option.bind_eq_bind,
      Option.bind_eq_some_iff, Option.pure_def, Option.some.injEq] at rows
    obtain ⟨row, readRow, others, -, rfl⟩ := rows
    cases isFirst
    have sizes := readDtEntry_stored readRow
    rw [Nat.zero_mul, Nat.add_zero] at sizes
    exact sizes.trans (List.take_prefix _ _)

/-! ## The scraped fields and the bytes they cut out -/

theorem printUnsigned_eq_one_iff (value : Nat) :
    printUnsigned value = "1".toList ↔ value = 1 := by
  refine ⟨?_, ?_⟩
  · intro same
    have read := pyInt_printUnsigned value
    rw [same] at read
    have isOne : pyInt 10 "1".toList = some 1 := by
      decide
    exact (Option.some.inj (isOne.symm.trans read)).symm
  · rintro rfl
    rfl

/-- `dd` takes the bytes of a span that lies inside the file. -/
theorem ddExtract_printUnsigned
    {file : Bytes}
    {skip count : Nat}
    (inside : skip + count ≤ file.length) :
    ∃ front blob back,
      file = front ++ blob ++ back ∧ front.length = skip ∧
        blob.length = count ∧
          ddExtract (printUnsigned skip) (printUnsigned count) file =
            some blob := by
  refine ⟨file.take skip, (file.drop skip).take count,
    (file.drop skip).drop count, ?_, ?_, ?_, ?_⟩
  · rw [List.append_assoc, List.take_append_drop, List.take_append_drop]
  · rw [List.length_take]
    omega
  · rw [List.length_take, List.length_drop]
    omega
  · simp only [ddExtract, pyInt_printUnsigned, Option.bind_eq_bind,
      Option.bind_some]

/-- The five scraped fields are those of the header and of row zero. -/
structure ScrapedExactly
    (dtinfo : List Text)
    (table : Dtbo)
    (entry : DtEntry) : Prop where
  dtCount : dtCount dtinfo = printUnsigned table.dtEntryCount
  pageSize : pageSize dtinfo = printUnsigned table.pageSize
  dtVersion : dtVersion dtinfo = printUnsigned table.version
  dtOffset : dtOffset dtinfo = printUnsigned entry.dtOffset
  dtSize : dtSize dtinfo = printUnsigned entry.dtSize

/-- Both cuts take the bytes of the entry and nothing else. -/
def CutsExactly (file : Bytes) (entry : DtEntry) : Prop :=
  ∃ front blob back,
    file = front ++ blob ++ back ∧ front.length = entry.dtOffset ∧
      blob.length = entry.dtSize ∧
        extractStockBlob file = some blob ∧ extractBlob file = some blob

/--
Scraping a dump is exact.

The dump of every accepted image with a row yields the words its header and its
row zero are stored as, and a single row inside the file is cut out exactly.
-/
theorem scrape_exact
    {file : Bytes}
    {table : Dtbo}
    (read : readDtboImage file = some table)
    (rows : 1 ≤ table.dtEntryCount) :
    ∃ dtinfo entry,
      dumpDtboImage file = some dtinfo ∧
        table.dtEntries.head? = some entry ∧ Stored file table ∧
          ScrapedExactly dtinfo table entry ∧
            (dtCount dtinfo = "1".toList ↔ table.dtEntryCount = 1) ∧
              (dtCount dtinfo = "1".toList →
                entry.dtOffset + entry.dtSize ≤ file.length →
                  CutsExactly file entry) := by
  have stored := readDtboImage_stored read
  have dumped : dumpDtboImage file = some table.str := by
    rw [dumpDtboImage, read, Option.map_some]
  cases entries : table.dtEntries with
  | nil =>
      have empty := stored.length
      rw [entries, List.length_nil] at empty
      omega
  | cons entry others =>
      have scraped : ScrapedExactly table.str table entry := {
        dtCount := dtCount_str table
        pageSize := pageSize_str table
        dtVersion := dtVersion_str table
        dtOffset := dtOffset_str entries
        dtSize := dtSize_str entries }
      refine ⟨table.str, entry, dumped, rfl, stored, scraped, ?_, ?_⟩
      · rw [scraped.dtCount, printUnsigned_eq_one_iff]
      · intro single inside
        obtain ⟨front, blob, back, whole, skipped, counted, cut⟩ :=
          ddExtract_printUnsigned inside
        refine ⟨front, blob, back, whole, skipped, counted, ?_, ?_⟩
        · simp only [extractStockBlob, dumped, Option.bind_eq_bind,
            Option.bind_some, single, scraped.dtOffset, scraped.dtSize]
          exact cut
        · simp only [extractBlob, dumped, Option.bind_eq_bind,
            Option.bind_some, scraped.dtOffset, scraped.dtSize]
          exact cut

theorem scrape_exact_example :
    ∃ dtinfo entry,
      dumpDtboImage (exampleTable 0x6768) = some dtinfo ∧
        dtCount dtinfo = "1".toList ∧
          CutsExactly (exampleTable 0x6768) entry := by
  obtain ⟨dtinfo, entry, dumped, first, -, -, single, cuts⟩ :=
    @scrape_exact (exampleTable 0x6768)
      ⟨dtboMagic, 68, 32, 32, 1, 32, 2048, 0,
        [⟨4, 64, 0x6768, 0, none, [0, 0, 0, 0]⟩]⟩
      (by decide +kernel) (by decide)
  cases first
  exact ⟨dtinfo, _, dumped, single.mpr rfl,
    cuts (single.mpr rfl) (by decide +kernel)⟩

end OverclockBuilder
