import OverclockBuilder.DtTableRoundTrip

namespace OverclockBuilder

open RadixText BytePacking BashText CNumber ArgumentParser

/-!
# The table of the script

The script creates its table with a page size, a version and one device tree.
Read through the parsers and the loop over entries, this is the creation with
one row.
-/

section Script

variable {path : Text} {pageSizeArgument versionArgument : Text}

theorem startsWithDashes_of_head (plain : path.head? ≠ some '-') :
    startsWithDashes path = false := by
  cases path with
  | nil =>
      rfl
  | cons head rest =>
      have other : head ≠ '-' := by
        rintro rfl
        exact plain rfl
      rw [startsWithDashes]
      simp [List.isPrefixOf, Ne.symm other]

theorem readArgument_pageSize (operand : Text) :
    readArgument createOptions ("--page_size=".toList ++ operand) =
      some (.assignment .pageSize operand) := by
  change readArgument createOptions ("--page_size".toList ++ '=' :: operand) = _
  exact readArgument_assignment (by decide +kernel) (by decide +kernel)
    (by decide +kernel) (by decide +kernel) operand

theorem readArgument_version (operand : Text) :
    readArgument createOptions ("--version=".toList ++ operand) =
      some (.assignment .version operand) := by
  change readArgument createOptions ("--version".toList ++ '=' :: operand) = _
  exact readArgument_assignment (by decide +kernel) (by decide +kernel)
    (by decide +kernel) (by decide +kernel) operand

/-- The global arguments of the script's call. -/
theorem parseCreateArgs_script (plain : path.head? ≠ some '-') :
    parseCreateArgs
        ["--page_size=".toList ++ pageSizeArgument,
          "--version=".toList ++ versionArgument, path] =
      (pyInt 10 pageSizeArgument).bind fun pageSize =>
        (pyInt 10 versionArgument).bind fun version =>
          some
            ({ GlobalArgs.default with
                pageSize := pageSize
                version := version },
              [path]) := by
  have pageDashes :
      startsWithDashes ("--page_size=".toList ++ pageSizeArgument) =
        true := rfl
  have versionDashes :
      startsWithDashes ("--version=".toList ++ versionArgument) = true := rfl
  have noDashes := startsWithDashes_of_head plain
  rw [parseCreateArgs, List.takeWhile_cons_of_pos pageDashes,
    List.takeWhile_cons_of_pos versionDashes,
    List.takeWhile_cons_of_neg (by simp [noDashes]),
    List.dropWhile_cons_of_pos pageDashes,
    List.dropWhile_cons_of_pos versionDashes,
    List.dropWhile_cons_of_neg (by simp [noDashes]),
    parseKnownArgs_assignment (readArgument_pageSize _) rfl,
    parseKnownArgs_assignment (readArgument_version _) rfl, parseKnownArgs]
  simp only [Option.map_some, Option.bind_eq_bind, Option.bind_some,
    ↓reduceIte, List.foldlM_cons, List.foldlM_nil, GlobalArgs.store]
  cases pyInt 10 pageSizeArgument with
  | none =>
      rfl
  | some pageSize =>
      cases pyInt 10 versionArgument with
      | none =>
          rfl
      | some version =>
          rfl

theorem values_default
    {version numCustom : Nat}
    (count : getNumCustomFields version = some numCustom) :
    EntryArgs.values (fun _ => "0".toList) version numCustom =
      createDefaults version numCustom := by
  rcases version with _ | _ | _ | version
  · cases count
    rfl
  · cases count
    rfl
  · cases count
    rfl
  · cases count

theorem compressionInfo_defaultEntry
    (version dtSize dtOffset numCustom : Nat) :
    (defaultEntry version dtSize dtOffset numCustom).compressionInfo
        version =
      0 := by
  rw [DtEntry.compressionInfo, defaultEntry]
  cases hasFlags version with
  | true =>
      exact ite_self 0
  | false =>
      exact ite_self 0

/-- The entry of the script's call has the defaults. -/
def scriptEntry
    (path : Text)
    (content : Bytes)
    (version numCustom : Nat) :
    ImageEntry :=
  { defaultEntry version content.length 0 numCustom with dtFile := path }

theorem parseDtEntries_script
    {disk : FileSystem}
    {content : Bytes}
    (read : disk.read path = some content)
    (plain : path.head? ≠ some '-')
    (pageSize version : Nat) :
    parseDtEntries disk
        { GlobalArgs.default with
          pageSize := pageSize
          version := version }
        [path] =
      (getNumCustomFields version).map fun numCustom =>
        [scriptEntry path content version numCustom] := by
  have groups : imageGroups [path] = [[path]] := by
    rw [imageGroups, if_neg (by simp [startsWithDashes_of_head plain])]
    rfl
  have isValue : readArgument entryOptions path = some .value :=
    isValue_of_head plain
  rw [parseDtEntries, groups, if_neg (List.cons_ne_nil _ _)]
  simp only [List.mapM_cons, List.mapM_nil, parseDtEntry, isValue,
    parseKnownArgs, imageEntry, read, ↓reduceIte, Option.bind_eq_bind,
    Option.bind_some, List.foldl_nil, Option.pure_def]
  cases count : getNumCustomFields version with
  | none =>
      rfl
  | some numCustom =>
      have made := init_createDefaults count content.length 0
      rw [← values_default count] at made
      simp only [GlobalArgs.default, Option.bind_some, made, Option.map_some,
        scriptEntry]

/-- The loop stores one entry behind the rows. -/
theorem addDtEntries_single
    {codecs : Codecs}
    {disk : FileSystem}
    {content : Bytes}
    (table : Dtbo)
    {dtEntry : ImageEntry}
    (read : disk.read dtEntry.dtFile = some content)
    (plainEntry : dtEntry.compressionInfo table.version = 0) :
    addDtEntries codecs disk table [dtEntry] =
      some (Adding.store {
        table := table
        dtOffset := table.headerSize + table.dtEntrySize
        dtEntryBuf := []
        dtEntries := [] } dtEntry content) := by
  rw [addDtEntries, if_neg (List.cons_ne_nil _ _), List.foldlM_cons,
    addDtEntry]
  simp only [findDtEntryWithSameFile, List.find?_nil, read, plainEntry,
    compressDtEntry, Option.bind_eq_bind, Option.bind_some,
    List.foldlM_nil, List.length_singleton, Nat.one_mul, Option.pure_def]

/-- The table of the script's call before its entry is added. -/
def scriptTable (pageSize version dtEntrySize : Nat) : Dtbo where
  magic := dtboMagic
  totalSize := dtTableHeaderSize
  headerSize := dtTableHeaderSize
  dtEntrySize := dtEntrySize
  dtEntryCount := 0
  dtEntriesOffset := dtTableHeaderSize
  pageSize := pageSize
  version := version
  dtEntries := []

theorem empty_script (pageSize version : Nat) :
    Dtbo.empty GlobalArgs.default.dtType pageSize version =
      if pageSize = 0 then
        none
      else
        (getDtEntrySize version).map (scriptTable pageSize version) := by
  rw [Dtbo.empty]
  rfl

theorem commit_createTable
    (pageSize version dtEntrySize : Nat)
    (entry : DtEntry)
    (dtEntryBuf : Bytes) :
    (createTable pageSize version dtEntrySize entry).commit dtEntryBuf =
      (packInto entry.words).bind fun entryBytes =>
        (packInto
            (createTable pageSize version dtEntrySize
              entry).headerWords).bind fun headerBytes =>
          some
            (headerBytes ++ entryBytes ++ dtEntryBuf ++
              paddingBytes
                (createTable pageSize version dtEntrySize entry).totalSize
                pageSize) := by
  have rows :
      (createTable pageSize version dtEntrySize entry).dtEntries = [entry] :=
    rfl
  rw [Dtbo.commit, rows, List.mapM_cons, List.mapM_nil]
  cases packInto entry.words with
  | none =>
      rfl
  | some entryBytes =>
      simp only [Option.bind_eq_bind, Option.bind_some, Option.pure_def,
        List.flatten_cons, List.flatten_nil, List.append_nil]
      rfl

/-- The entry joins the table of the script's call. -/
theorem result_script
    {pageSize version dtEntrySize numCustom : Nat}
    {content : Bytes}
    {state : Adding}
    (isState :
      state = Adding.store {
        table := scriptTable pageSize version dtEntrySize
        dtOffset := dtTableHeaderSize + dtEntrySize
        dtEntryBuf := []
        dtEntries := [] }
        (scriptEntry path content version numCustom)
        content) :
    state.result =
        createTable pageSize version dtEntrySize
          (defaultEntry version content.length
            (alignUp (dtTableHeaderSize + dtEntrySize) dtEntryAlignment)
            numCustom) ∧
      state.dtEntryBuf =
        List.replicate
          (alignUp (dtTableHeaderSize + dtEntrySize) dtEntryAlignment -
            (dtTableHeaderSize + dtEntrySize)) 0 ++ content := by
  have room := le_alignUp (dtTableHeaderSize + dtEntrySize)
  have start :
      dtTableHeaderSize + dtEntrySize +
          (alignUp (dtTableHeaderSize + dtEntrySize) dtEntryAlignment -
            (dtTableHeaderSize + dtEntrySize)) =
        alignUp (dtTableHeaderSize + dtEntrySize) dtEntryAlignment :=
    Nat.add_sub_cancel' room
  rw [isState]
  refine ⟨?_, List.nil_append _⟩
  simp only [Adding.result, Adding.store, Adding.finish, createTable,
    scriptTable, scriptEntry, defaultEntry, start, List.nil_append,
    List.map_singleton, Nat.zero_add, Dtbo.mk.injEq, and_true, true_and]
  omega

/--
The call of the script is the command on its words, for every page size and
every version that are printed with digits.
-/
theorem createDtboImages_script
    (codecs : Codecs)
    {disk : FileSystem}
    {content : Bytes}
    (read : disk.read path = some content)
    (plain : path.head? ≠ some '-')
    (pageSizeDigits : isDecimal pageSizeArgument = true)
    (versionDigits : isDecimal versionArgument = true) :
    createDtboImages codecs disk
        ["--page_size=".toList ++ pageSizeArgument,
          "--version=".toList ++ versionArgument, path] =
      createDtboImage pageSizeArgument versionArgument content := by
  obtain ⟨pageSize, isPageSize⟩ :=
    Option.isSome_iff_exists.mp (isSome_pyInt_of_isDecimal pageSizeDigits)
  obtain ⟨version, isVersion⟩ :=
    Option.isSome_iff_exists.mp (isSome_pyInt_of_isDecimal versionDigits)
  rw [createDtboImages, parseCreateArgs_script plain, createDtboImage]
  simp only [Option.bind_eq_bind, isPageSize, isVersion, Option.bind_some,
    parseDtEntries_script read plain]
  cases count : getNumCustomFields version with
  | none =>
      rfl
  | some numCustom =>
      simp only [Option.map_some, Option.bind_some,
        init_createDefaults count]
      rw [writeDtboImage, empty_script]
      cases getDtEntrySize version with
      | none =>
          dsimp only
          split <;> rfl
      | some dtEntrySize =>
          by_cases zero : pageSize = 0
          · rw [if_pos zero, Option.bind_some, if_pos zero]
            rfl
          · rw [if_neg zero, Option.bind_some, if_neg zero,
              Option.map_some, Option.bind_eq_bind, Option.bind_some]
            rw [addDtEntries_single _ read
              (compressionInfo_defaultEntry version content.length 0
                numCustom)]
            obtain ⟨result, buffer⟩ :=
              result_script (rfl : _ = Adding.store {
                table := scriptTable pageSize version dtEntrySize
                dtOffset := dtTableHeaderSize + dtEntrySize
                dtEntryBuf := []
                dtEntries := [] }
                (scriptEntry path content version numCustom)
                content)
            refine (congrArg₂ Dtbo.commit result buffer).trans ?_
            rw [commit_createTable]
            simp only [List.append_assoc]

theorem createDtboImages_script_example :
    createDtboImages overlayCodecs overlayDisk
        ["--page_size=".toList ++ "2048".toList,
          "--version=".toList ++ "0".toList, "a.dtbo".toList] =
      createDtboImage "2048".toList "0".toList overlayTree :=
  createDtboImages_script overlayCodecs (by decide +kernel)
    (by decide +kernel) (by decide) (by decide)

end Script

end OverclockBuilder
