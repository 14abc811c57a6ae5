import OverclockBuilder.MkbootimgParser
import OverclockBuilder.RepackFidelity

namespace OverclockBuilder

open RadixText BytePacking CNumber ArgumentParser

/-!
# Making an unpacked image again

The arguments that `unpack_bootimg.py --format=mkbootimg` prints for an image of
`mkbootimg.py` are read back as the contents of the image.
-/

/-! ## Words that are values -/

section Values

variable {α : Type} {options : Options α}

theorem isValue_of_dashless
    {word : Text}
    (dashless : '-' ∉ word) :
    IsValue options word :=
  isValue_of_head fun head => dashless (List.mem_of_head? head)

theorem isValue_hexadecimal (width value : Nat) :
    IsValue options (formatHex width value) :=
  isValue_of_dashless (dashless_formatHex width value)

theorem isValue_decimal (value : Nat) :
    IsValue options (printUnsigned value) :=
  isValue_of_dashless (dashless_toDigits (by decide) (by decide))

/-- A path is a value where its directory is. -/
theorem isValue_pathJoin
    {directory : Text}
    (noDash : directory.head? ≠ some '-')
    (name : Text) :
    IsValue options (pathJoin directory name) := by
  apply isValue_of_head
  cases directory with
  | nil =>
      simp [pathJoin]
  | cons head rest =>
      simpa [pathJoin] using noDash

end Values

/-- Fields that the parsers take for values where they are printed. -/
structure Readable (info : VendorBootInfo) : Prop where
  imageDir : info.imageDir.head? ≠ some '-'
  cmdline : IsValue bootOptions info.cmdline
  productName : IsValue bootOptions info.productName
  ramdiskNames :
    ∀ entry ∈ info.vendorRamdiskTable,
      LeftOver bootOptions entry.ramdiskName ∧
        IsValue ramdiskOptions entry.ramdiskName

/-! ## The groups of a table -/

/-- A group ends behind the first flag and its operand. -/
theorem ramdiskGroups_append
    {front : List Text}
    (noFlag : vendorRamdiskFragment ∉ front)
    (operand : Text)
    (rest : List Text) :
    ramdiskGroups (front ++ vendorRamdiskFragment :: operand :: rest) =
      ((front ++ [vendorRamdiskFragment, operand]) ::
          (ramdiskGroups rest).1,
        (ramdiskGroups rest).2) := by
  induction front with
  | nil =>
      rw [List.nil_append, ramdiskGroups, if_pos rfl]
      rfl
  | cons word front inductionHypothesis =>
      rw [List.mem_cons, not_or] at noFlag
      rw [List.cons_append, ramdiskGroups.eq_def]
      simp only [if_neg (Ne.symm noFlag.1), inductionHypothesis noFlag.2]
      rfl

/-- The options a board identifier is printed with, from an index on. -/
def boardIdPairs (boardId : List Nat) (index : Nat) :
    List (Text × RamdiskOption × Text) :=
  (boardId.zipIdx index).flatMap fun (word, idx) =>
    if word = 0 then
      []
    else
      [(boardIdFlag idx, .boardId idx, formatHex 10 word)]

theorem boardIdPairs_cons (word : Nat) (rest : List Nat) (index : Nat) :
    boardIdPairs (word :: rest) index =
      (if word = 0 then
          []
        else
          [(boardIdFlag index, .boardId index, formatHex 10 word)]) ++
        boardIdPairs rest (index + 1) := by
  rw [boardIdPairs, List.zipIdx_cons, List.flatMap_cons]
  rfl

theorem boardIdArguments_eq (boardId : List Nat) :
    VendorBootInfo.boardIdArguments boardId =
      (boardIdPairs boardId 0).flatMap fun pair => [pair.1, pair.2.2] := by
  rw [VendorBootInfo.boardIdArguments, boardIdPairs, List.flatMap_assoc]
  refine List.flatMap_congr fun pair _ => ?_
  by_cases zero : pair.1 = 0
  · simp only [if_pos zero, List.flatMap_nil]
  · simp only [if_neg zero, List.flatMap_cons, List.flatMap_nil]
    rfl

theorem readArgument_boardIdFlag
    {index : Nat}
    (inTable : index < 16) :
    readArgument ramdiskOptions (boardIdFlag index) =
        some (.flag (.boardId index)) ∧
      LeftOver bootOptions (boardIdFlag index) := by
  have known :
      ∀ index < 16,
        readArgument ramdiskOptions (boardIdFlag index) =
            some (.flag (.boardId index)) ∧
          readArgument bootOptions (boardIdFlag index) = some .unknown := by
    decide +kernel
  exact ⟨(known index inTable).1, .inr (known index inTable).2⟩

theorem mem_boardIdPairs
    {boardId : List Nat}
    {index : Nat}
    {pair : Text × RamdiskOption × Text}
    (member : pair ∈ boardIdPairs boardId index) :
    ∃ idx word,
      idx < index + boardId.length ∧
        pair = (boardIdFlag idx, .boardId idx, formatHex 10 word) := by
  rw [boardIdPairs, List.mem_flatMap] at member
  obtain ⟨⟨word, idx⟩, inTable, inside⟩ := member
  have bound := List.snd_lt_add_of_mem_zipIdx inTable
  dsimp only at inside
  split at inside
  · cases inside
  · exact ⟨idx, word, by simpa [Nat.add_comm] using bound,
      List.mem_singleton.mp inside⟩

/-- The words of a board identifier are stored where they were. -/
theorem foldlM_boardIdPairs
    (front boardId : List Nat)
    {arguments : RamdiskNamespace}
    (soFar :
      arguments.boardId =
        front.map Int.ofNat ++ List.replicate boardId.length 0) :
    ((boardIdPairs boardId front.length).map Prod.snd).foldlM
        storeRamdiskArgument arguments =
      some
        { arguments with boardId := (front ++ boardId).map Int.ofNat } := by
  induction boardId generalizing front arguments with
  | nil =>
      rw [boardIdPairs, List.zipIdx_nil]
      simp only [List.length_nil, List.replicate_zero, List.append_nil]
        at soFar ⊢
      rw [← soFar]
      rfl
  | cons word rest inductionHypothesis =>
      have extended : (front ++ [word]).length = front.length + 1 := by
        simp
      have whole : front ++ [word] ++ rest = front ++ word :: rest := by
        simp
      rw [boardIdPairs_cons]
      split
      · rename_i zero
        rw [List.nil_append, ← extended,
          inductionHypothesis (front ++ [word]) (by
            rw [soFar, zero]
            simp [List.replicate_succ]),
          whole]
      · rw [List.map_append, List.foldlM_append, ← extended]
        have stored :
            List.foldlM storeRamdiskArgument arguments
                (List.map Prod.snd
                  [(boardIdFlag front.length, RamdiskOption.boardId
                    front.length, formatHex 10 word)]) =
              some
                { arguments with
                  boardId :=
                    (front ++ [word]).map Int.ofNat ++
                      List.replicate rest.length 0 } := by
          simp only [List.map_cons, List.map_nil, List.foldlM_cons,
            List.foldlM_nil, storeRamdiskArgument, parseInt_formatHex,
            soFar]
          simp [List.replicate_succ]
        rw [stored, Option.bind_eq_bind, Option.bind_some,
          inductionHypothesis (front ++ [word]) rfl, whole]

section Fragments

variable {info : VendorBootInfo}

/-- The options in front of `--vendor_ramdisk_fragment`. -/
def entryPairs (entry : VendorRamdisk) :
    List (Text × RamdiskOption × Text) :=
  [("--ramdisk_type".toList, .ramdiskType, printUnsigned entry.ramdiskType),
      ("--ramdisk_name".toList, .ramdiskName, entry.ramdiskName)] ++
    boardIdPairs entry.boardId 0

/-- The options a fragment is printed with. -/
def fragmentPairs
    (info : VendorBootInfo)
    (entry : VendorRamdisk)
    (idx : Nat) :
    List (Text × RamdiskOption × Text) :=
  entryPairs entry ++
    [(vendorRamdiskFragment, .vendorRamdiskFragment,
      pathJoin info.imageDir (outputRamdiskName idx))]

theorem fragmentArguments_eq_append (entry : VendorRamdisk) (idx : Nat) :
    info.fragmentArguments entry idx =
      ((entryPairs entry).flatMap fun pair => [pair.1, pair.2.2]) ++
        [vendorRamdiskFragment,
          pathJoin info.imageDir (outputRamdiskName idx)] := by
  rw [VendorBootInfo.fragmentArguments, boardIdArguments_eq, entryPairs,
    List.flatMap_append]
  rfl

theorem fragmentArguments_eq (entry : VendorRamdisk) (idx : Nat) :
    info.fragmentArguments entry idx =
      (fragmentPairs info entry idx).flatMap fun pair =>
        [pair.1, pair.2.2] := by
  rw [fragmentArguments_eq_append, fragmentPairs, List.flatMap_append]
  rfl

/-- How the two parsers read the words of a fragment. -/
theorem readArgument_fragmentPairs
    (readable : Readable info)
    {entry : VendorRamdisk}
    (inTable : entry ∈ info.vendorRamdiskTable)
    (boardIdLength : entry.boardId.length = 16)
    {idx : Nat}
    {pair : Text × RamdiskOption × Text}
    (member : pair ∈ fragmentPairs info entry idx) :
    (readArgument ramdiskOptions pair.1 = some (.flag pair.2.1) ∧
        IsValue ramdiskOptions pair.2.2) ∧
      LeftOver bootOptions pair.1 ∧ LeftOver bootOptions pair.2.2 := by
  have flags :
      (readArgument ramdiskOptions "--ramdisk_type".toList =
            some (.flag .ramdiskType) ∧
          readArgument bootOptions "--ramdisk_type".toList = some .unknown) ∧
        (readArgument ramdiskOptions "--ramdisk_name".toList =
              some (.flag .ramdiskName) ∧
            readArgument bootOptions "--ramdisk_name".toList =
              some .unknown) ∧
          readArgument ramdiskOptions vendorRamdiskFragment =
              some (.flag .vendorRamdiskFragment) ∧
            readArgument bootOptions vendorRamdiskFragment =
              some .unknown := by
    decide +kernel
  obtain ⟨typeFlag, nameFlag, fragmentFlag⟩ := flags
  simp only [fragmentPairs, entryPairs, List.mem_append, List.mem_cons,
    List.not_mem_nil, or_false] at member
  rcases member with ((rfl | rfl) | boardId) | rfl
  · exact ⟨⟨typeFlag.1, isValue_decimal _⟩, .inr typeFlag.2,
      (isValue_decimal _).leftOver⟩
  · obtain ⟨leftOver, isValue⟩ := readable.ramdiskNames entry inTable
    exact ⟨⟨nameFlag.1, isValue⟩, .inr nameFlag.2, leftOver⟩
  · obtain ⟨index, word, bound, rfl⟩ := mem_boardIdPairs boardId
    rw [boardIdLength, Nat.zero_add] at bound
    obtain ⟨isFlag, leftOver⟩ := readArgument_boardIdFlag bound
    exact ⟨⟨isFlag, isValue_hexadecimal _ _⟩, leftOver,
      (isValue_hexadecimal _ _).leftOver⟩
  · exact ⟨⟨fragmentFlag.1, isValue_pathJoin readable.imageDir _⟩,
      .inr fragmentFlag.2, (isValue_pathJoin readable.imageDir _).leftOver⟩

/-- The options of a fragment are stored. -/
theorem foldlM_fragmentPairs
    (fragment : VendorFragment)
    (idx : Nat) :
    ((fragmentPairs info fragment.entry idx).map Prod.snd).foldlM
        storeRamdiskArgument RamdiskNamespace.default =
      some
        { ramdiskType := fragment.entry.ramdiskType
          ramdiskName := some ⟨fragment.entry.ramdiskName, fragment.nameFits⟩
          boardId := fragment.entry.boardId.map Int.ofNat
          vendorRamdiskFragment :=
            some (pathJoin info.imageDir (outputRamdiskName idx)) } := by
  have boardId {arguments : RamdiskNamespace}
      (zeros : arguments.boardId = List.replicate 16 0) :
      ((boardIdPairs fragment.entry.boardId 0).map Prod.snd).foldlM
          storeRamdiskArgument arguments =
        some
          { arguments with
            boardId := fragment.entry.boardId.map Int.ofNat } :=
    foldlM_boardIdPairs [] fragment.entry.boardId (by
      rw [zeros, fragment.boardIdLength]
      rfl)
  rw [fragmentPairs, entryPairs, List.map_append, List.map_append,
    List.foldlM_append, List.foldlM_append]
  simp only [List.map_cons, List.map_nil, List.foldlM_cons, List.foldlM_nil,
    storeRamdiskArgument, parseVendorRamdiskType_printUnsigned, parseAsciiz,
    dif_pos fragment.nameFits, Option.map_some, Option.bind_eq_bind,
    Option.bind_some, Option.pure_def]
  rw [boardId rfl]
  rfl

/-- The group of a fragment is added to the table. -/
theorem addGroup_fragmentArguments
    (readable : Readable info)
    {fragment : VendorFragment}
    (inTable : fragment.entry ∈ info.vendorRamdiskTable)
    {disk : Text → Option Bytes}
    {idx : Nat}
    (holds :
      disk (pathJoin info.imageDir (outputRamdiskName idx)) =
        some fragment.content)
    {done : List VendorFragment}
    (accepted :
      AcceptedNames ((done ++ [fragment]).map VendorFragment.stripped)) :
    addGroup disk (done.map VendorBoot.fragmentArgument)
        (info.fragmentArguments fragment.entry idx) =
      some ((done ++ [fragment]).map VendorBoot.fragmentArgument) := by
  have parsed :
      parseKnownArgs (.ofOptions ramdiskOptions)
          (info.fragmentArguments fragment.entry idx) =
        some ((fragmentPairs info fragment.entry idx).map Prod.snd, []) := by
    have pairs :=
      parseKnownArgs_pairs 
        (fun pair (member : pair ∈ fragmentPairs info fragment.entry idx) =>
          (readArgument_fragmentPairs readable inTable fragment.boardIdLength
            member).1)
        (fun pair _ =>
          show (Parser.ofOptions ramdiskOptions).isSwitch pair.2.1 = false
            from rfl)
        []
    rw [List.append_nil, ← fragmentArguments_eq] at pairs
    rw [pairs, parseKnownArgs, Option.map_some, List.append_nil]
  obtain ⟨nodup, allowed⟩ := accepted
  have name : fragment.stripped ∉ vendorRamdiskNameBlocklist :=
    allowed _ (List.mem_map_of_mem (by simp))
  have fresh :
      fragment.stripped ∉
        (done.map VendorBoot.fragmentArgument).map fun entry =>
          strippedName entry.ramdiskName := by
    rw [List.map_append, List.map_singleton, List.nodup_append] at nodup
    rw [List.map_map]
    intro inside
    exact nodup.2.2 fragment.stripped inside fragment.stripped
      (List.mem_singleton_self _) rfl
  have words :
      ∀ word ∈ fragment.entry.boardId.map Int.ofNat,
        0 ≤ word ∧ word < 4294967296 := by
    intro word member
    obtain ⟨number, inside, rfl⟩ := List.mem_map.mp member
    have fits := fragment.boardIdFits number inside
    exact ⟨Int.natCast_nonneg number, Int.ofNat_lt.mpr fits⟩
  have bytes :
      Asciiz.bytes ⟨fragment.entry.ramdiskName, fragment.nameFits⟩ =
        asciiz fragment.entry.ramdiskName :=
    rfl
  rw [addGroup, parsed]
  simp only [Option.bind_eq_bind, Option.bind_some, ↓reduceIte,
    foldlM_fragmentPairs, bytes]
  rw [addEntry, ← VendorFragment.stripped, if_neg (not_or.mpr ⟨name, fresh⟩),
    if_pos words, holds, List.map_append]
  rfl

/-- The flag of a group does not stand in front of its end. -/
theorem vendorRamdiskFragment_not_mem
    (readable : Readable info)
    {entry : VendorRamdisk}
    (inTable : entry ∈ info.vendorRamdiskTable)
    (boardIdLength : entry.boardId.length = 16) :
    vendorRamdiskFragment ∉
      (entryPairs entry).flatMap fun pair => [pair.1, pair.2.2] := by
  have isFlag :
      readArgument ramdiskOptions vendorRamdiskFragment =
        some (.flag .vendorRamdiskFragment) := by
    decide +kernel
  rw [List.mem_flatMap]
  rintro ⟨pair, member, inside⟩
  have other : pair.2.1 ≠ .vendorRamdiskFragment := by
    simp only [entryPairs, List.mem_append, List.mem_cons,
      List.not_mem_nil, or_false] at member
    rcases member with (rfl | rfl) | boardId
    · nofun
    · nofun
    · obtain ⟨index, word, -, rfl⟩ := mem_boardIdPairs boardId
      nofun
  have inFragment : pair ∈ fragmentPairs info entry 0 :=
    List.mem_append_left _ member
  obtain ⟨⟨flag, isValue⟩, -⟩ :=
    readArgument_fragmentPairs readable inTable boardIdLength inFragment
  simp only [List.mem_cons, List.not_mem_nil, or_false] at inside
  rcases inside with same | same
  · rw [← same, isFlag, Option.some.injEq, Reading.flag.injEq] at flag
    exact other flag.symm
  · rw [IsValue, ← same, isFlag] at isValue
    cases isValue

/-- The words of a table are cut into its entries. -/
theorem ramdiskGroups_fragmentArguments
    (readable : Readable info)
    {entries : List VendorRamdisk}
    (inTable :
      ∀ entry ∈ entries,
        entry ∈ info.vendorRamdiskTable ∧ entry.boardId.length = 16)
    (index : Nat) :
    ramdiskGroups
        ((entries.zipIdx index).flatMap fun row =>
          info.fragmentArguments row.1 row.2) =
      ((entries.zipIdx index).map fun row =>
          info.fragmentArguments row.1 row.2,
        []) := by
  induction entries generalizing index with
  | nil =>
      rfl
  | cons entry entries inductionHypothesis =>
      obtain ⟨first, boardIdLength⟩ := inTable entry List.mem_cons_self
      have noFlag :=
        vendorRamdiskFragment_not_mem readable first boardIdLength
      rw [List.zipIdx_cons, List.flatMap_cons, List.map_cons,
        fragmentArguments_eq_append, List.append_assoc]
      simp only [List.cons_append, List.nil_append]
      rw [ramdiskGroups_append noFlag,
        inductionHypothesis fun other member =>
          inTable other (List.mem_cons_of_mem entry member)]

/-- The groups of a table are added one after the other. -/
theorem foldlM_addGroup
    (readable : Readable info)
    {disk : Text → Option Bytes}
    (done fragments : List VendorFragment)
    (inTable :
      ∀ fragment ∈ fragments, fragment.entry ∈ info.vendorRamdiskTable)
    (holds :
      ∀ row ∈ fragments.zipIdx done.length,
        disk (pathJoin info.imageDir (outputRamdiskName row.2)) =
          some row.1.content)
    (accepted :
      AcceptedNames ((done ++ fragments).map VendorFragment.stripped)) :
    (((fragments.map VendorFragment.entry).zipIdx done.length).map
          fun row => info.fragmentArguments row.1 row.2).foldlM
        (addGroup disk) (done.map VendorBoot.fragmentArgument) =
      some ((done ++ fragments).map VendorBoot.fragmentArgument) := by
  induction fragments generalizing done with
  | nil =>
      rw [List.append_nil]
      rfl
  | cons fragment fragments inductionHypothesis =>
      have whole :
          done ++ fragment :: fragments = done ++ [fragment] ++ fragments := by
        simp
      have extended : (done ++ [fragment]).length = done.length + 1 := by
        simp
      rw [whole] at accepted ⊢
      have acceptedFirst :
          AcceptedNames
            ((done ++ [fragment]).map VendorFragment.stripped) := by
        rw [List.map_append] at accepted
        exact ⟨(List.nodup_append.mp accepted.1).1, fun name member =>
          accepted.2 name (List.mem_append_left _ member)⟩
      rw [List.zipIdx_cons] at holds
      rw [List.map_cons, List.zipIdx_cons, List.map_cons, List.foldlM_cons,
        addGroup_fragmentArguments readable
          (inTable fragment List.mem_cons_self)
          (holds _ List.mem_cons_self) acceptedFirst,
        Option.bind_eq_bind, Option.bind_some, ← extended]
      refine inductionHypothesis (done ++ [fragment])
        (fun other member =>
          inTable other (List.mem_cons_of_mem fragment member))
        ?_ accepted
      rw [extended]
      exact fun row member => holds row (List.mem_cons_of_mem _ member)

end Fragments

/-! ## Arguments of one image -/

/-- Arguments with which the same image is written. -/
structure SameImage (first second : VendorBootArguments) : Prop where
  headerVersion : first.headerVersion = second.headerVersion
  pagesize : first.pagesize = second.pagesize
  kernel :
    first.base + first.kernelOffset = second.base + second.kernelOffset
  ramdisk :
    first.base + first.ramdiskOffset = second.base + second.ramdiskOffset
  tags : first.base + first.tagsOffset = second.base + second.tagsOffset
  dtbAddress : first.base + first.dtbOffset = second.base + second.dtbOffset
  vendorCmdline :
    packString vendorBootArgsSize first.vendorCmdline =
      packString vendorBootArgsSize second.vendorCmdline
  board :
    packString vendorBootNameSize first.board =
      packString vendorBootNameSize second.board
  dtb : first.dtb = second.dtb
  ramdisks : first.ramdisks = second.ramdisks
  entryNum : first.fragments.length = second.fragments.length
  tableEntries :
    VendorBootArguments.tableEntries 0 first.fragments =
      VendorBootArguments.tableEntries 0 second.fragments
  vendorBootconfig :
    3 < first.headerVersion →
      first.vendorBootconfig = second.vendorBootconfig

theorem SameImage.tableFields
    {first second : VendorBootArguments}
    (same : SameImage first second) :
    first.tableFields = second.tableFields := by
  rw [VendorBootArguments.tableFields, VendorBootArguments.tableFields,
    ← same.headerVersion]
  by_cases table : 3 < first.headerVersion
  · rw [if_pos table, if_pos table, same.entryNum,
      same.vendorBootconfig table]
  · rw [if_neg table, if_neg table]

theorem SameImage.writeVendorBoot
    {first second : VendorBootArguments}
    (same : SameImage first second) :
    first.writeVendorBoot = second.writeVendorBoot := by
  have headerSize : first.headerSize = second.headerSize := by
    rw [VendorBootArguments.headerSize, same.headerVersion]
    rfl
  have header : first.header = second.header := by
    rw [VendorBootArguments.header, VendorBootArguments.header,
      same.headerVersion, same.pagesize, same.kernel, same.ramdisk,
      same.ramdisks, same.tags, headerSize, same.dtb, same.dtbAddress,
      same.tableFields, same.vendorCmdline, same.board]
  have sections (written : Bytes) :
      first.sectionsTo written = second.sectionsTo written := by
    rw [VendorBootArguments.sectionsTo, same.pagesize, same.ramdisks,
      same.dtb]
    rfl
  rw [VendorBootArguments.writeVendorBoot,
    VendorBootArguments.writeVendorBoot]
  simp only [header, sections, same.pagesize, same.tableEntries,
    ← same.headerVersion]
  by_cases table : 3 < first.headerVersion
  · simp only [if_pos table, same.vendorBootconfig table]
  · simp only [if_neg table]

/-! ## The options of an image -/

/-- The options in front of `--dtb`. -/
def fieldPairs (info : VendorBootInfo) :
    List (Text × BootOption × Text) :=
  [("--header_version".toList, .headerVersion,
      printUnsigned info.headerVersion),
    ("--pagesize".toList, .pagesize, formatHex 10 info.pageSize),
    ("--base".toList, .base, formatHex 10 0),
    ("--kernel_offset".toList, .kernelOffset,
      formatHex 10 info.kernelLoadAddress),
    ("--ramdisk_offset".toList, .ramdiskOffset,
      formatHex 10 info.ramdiskLoadAddress),
    ("--tags_offset".toList, .tagsOffset,
      formatHex 10 info.tagsLoadAddress),
    ("--dtb_offset".toList, .dtbOffset, formatHex 18 info.dtbLoadAddress),
    ("--vendor_cmdline".toList, .vendorCmdline, info.cmdline),
    ("--board".toList, .board, info.productName)]

/-- The option behind `--dtb`. -/
def ramdiskPair (info : VendorBootInfo) : Text × BootOption × Text :=
  if 3 < info.headerVersion then
    ("--vendor_bootconfig".toList, .vendorBootconfig,
      pathJoin info.imageDir "bootconfig".toList)
  else
    ("--vendor_ramdisk".toList, .vendorRamdisk,
      pathJoin info.imageDir "vendor_ramdisk".toList)

/-- The options the image parser pairs with their values. -/
def imagePairs (info : VendorBootInfo) (dtb : Text) :
    List (Text × BootOption × Text) :=
  fieldPairs info ++
    (if 0 < info.dtbSize then [("--dtb".toList, .dtb, dtb)] else []) ++
      [ramdiskPair info]

/-- The words the image parser leaves over. -/
def tableWords (info : VendorBootInfo) : List Text :=
  if 3 < info.headerVersion then
    info.vendorRamdiskTable.zipIdx.flatMap fun row =>
      info.fragmentArguments row.1 row.2
  else
    []

theorem argumentsWithDtb_eq (info : VendorBootInfo) (dtb : Text) :
    info.argumentsWithDtb dtb =
      ((imagePairs info dtb).flatMap fun pair => [pair.1, pair.2.2]) ++
        tableWords info := by
  have optional :
      (if 0 < info.dtbSize then ["--dtb".toList, dtb] else []) =
        (if 0 < info.dtbSize then
            [("--dtb".toList, BootOption.dtb, dtb)]
          else
            []).flatMap fun pair => [pair.1, pair.2.2] := by
    split
    · rfl
    · rfl
  have behind :
      info.ramdiskArguments =
        [(ramdiskPair info).1, (ramdiskPair info).2.2] ++
          tableWords info := by
    rw [VendorBootInfo.ramdiskArguments, ramdiskPair, tableWords]
    split
    · rfl
    · rfl
  rw [VendorBootInfo.argumentsWithDtb, optional, behind, imagePairs,
    List.flatMap_append, List.flatMap_append]
  simp only [List.append_assoc]
  rfl

theorem readArgument_bootOptions :
    ∀ row ∈ bootOptions,
      readArgument bootOptions row.1 = some (.flag row.2) := by
  decide +kernel

theorem readArgument_imagePairs
    {info : VendorBootInfo}
    (readable : Readable info)
    {dtb : Text}
    (isDtb : IsValue bootOptions dtb)
    {pair : Text × BootOption × Text}
    (member : pair ∈ imagePairs info dtb) :
    readArgument bootOptions pair.1 = some (.flag pair.2.1) ∧
      IsValue bootOptions pair.2.2 := by
  have path (name : Text) :
      IsValue bootOptions (pathJoin info.imageDir name) :=
    isValue_pathJoin readable.imageDir name
  have known {flag operand : Text} {option : BootOption}
      (isOption : (flag, option) ∈ bootOptions)
      (isValue : IsValue bootOptions operand) :
      readArgument bootOptions flag = some (.flag option) ∧
        IsValue bootOptions operand :=
    ⟨readArgument_bootOptions _ isOption, isValue⟩
  simp only [imagePairs, List.mem_append, List.mem_singleton] at member
  rcases member with (field | optional) | rfl
  · simp only [fieldPairs, List.mem_cons, List.not_mem_nil, or_false]
      at field
    rcases field with rfl | rfl | rfl | rfl | rfl | rfl | rfl | rfl | rfl
    · exact known (by simp [bootOptions]) (isValue_decimal _)
    · exact known (by simp [bootOptions]) (isValue_hexadecimal _ _)
    · exact known (by simp [bootOptions]) (isValue_hexadecimal _ _)
    · exact known (by simp [bootOptions]) (isValue_hexadecimal _ _)
    · exact known (by simp [bootOptions]) (isValue_hexadecimal _ _)
    · exact known (by simp [bootOptions]) (isValue_hexadecimal _ _)
    · exact known (by simp [bootOptions]) (isValue_hexadecimal _ _)
    · exact known (by simp [bootOptions]) readable.cmdline
    · exact known (by simp [bootOptions]) readable.productName
  · split at optional
    · cases List.mem_singleton.mp optional
      exact known (by simp [bootOptions]) isDtb
    · cases optional
  · rw [ramdiskPair]
    split
    · exact known (by simp [bootOptions]) (path _)
    · exact known (by simp [bootOptions]) (path _)

/-- The options that are printed for an image. -/
def printedOptions : List BootOption :=
  [.headerVersion, .pagesize, .base, .kernelOffset, .ramdiskOffset,
    .tagsOffset, .dtbOffset, .vendorCmdline, .board, .dtb,
    .vendorBootconfig, .vendorRamdisk]

theorem mem_printedOptions
    {info : VendorBootInfo}
    {dtb : Text}
    {pair : Text × BootOption × Text}
    (member : pair ∈ imagePairs info dtb) :
    pair.2.1 ∈ printedOptions := by
  simp only [imagePairs, List.mem_append, List.mem_singleton] at member
  rcases member with (field | optional) | rfl
  · simp only [fieldPairs, List.mem_cons, List.not_mem_nil, or_false]
      at field
    rcases field with rfl | rfl | rfl | rfl | rfl | rfl | rfl | rfl | rfl <;>
      simp [printedOptions]
  · split at optional
    · cases List.mem_singleton.mp optional
      simp [printedOptions]
    · cases optional
  · rw [ramdiskPair]
    split <;>
      simp [printedOptions]

/-- None of the printed options is a switch. -/
theorem isSwitch_printedOptions :
    ∀ option ∈ printedOptions, bootParser.isSwitch option = false := by
  decide

/-! ## The image again -/

/-- Files lie in a directory. -/
def Holds
    (disk : Text → Option Bytes)
    (directory : Text)
    (files : List (Text × Bytes)) :
    Prop :=
  ∀ file ∈ files, disk (pathJoin directory file.1) = some file.2

namespace VendorBoot

section Parsing

variable {boot : VendorBoot} {directory dtbPath vendorBoot : Text}
  {disk : Text → Option Bytes} {size : Nat} {dtb : Bytes}

/-- The namespace the printed options are stored in. -/
def parsed (boot : VendorBoot) (dtb : Option Bytes) : BootNamespace where
  dtb := dtb
  vendorCmdline := ⟨boot.cmdline, boot.cmdlineFits⟩
  base := 0
  kernelOffset := boot.kernelLoadAddress
  ramdiskOffset := boot.ramdiskLoadAddress
  dtbOffset := boot.dtbLoadAddress
  tagsOffset := boot.tagsLoadAddress
  board := ⟨boot.productName, boot.productNameFits⟩
  pagesize := boot.pageSize
  headerVersion := boot.headerVersion
  vendorBoot := none
  vendorRamdisk :=
    if 3 < boot.headerVersion then none else some boot.vendorRamdisk
  vendorBootconfig :=
    if 3 < boot.headerVersion then some boot.bootconfig else none

theorem foldlM_fieldPairs :
    ((fieldPairs (boot.info directory)).map Prod.snd).foldlM
        (storeArgument disk size) BootNamespace.default =
      some
        { boot.parsed none with
          vendorRamdisk := none, vendorBootconfig := none } := by
  have choice :
      (boot.pageSize : Int) ∈ pageSizes.map Int.ofNat :=
    List.mem_map_of_mem boot.page
  simp only [fieldPairs, List.map_cons, List.map_nil, List.foldlM_cons,
    List.foldlM_nil, storeArgument, parseInt_printUnsigned,
    parseInt_formatHex, parseAsciiz, VendorBoot.info,
    dif_pos boot.cmdlineFits, dif_pos boot.productNameFits, if_pos choice,
    Option.map_some, Option.bind_eq_bind, Option.bind_some]
  rfl

/-- The printed options are stored. -/
theorem foldlM_imagePairs
    (holds : Holds disk directory boot.files)
    (atDtb : 0 < boot.dtb.length → disk dtbPath = some dtb) :
    ((imagePairs (boot.info directory) dtbPath).map Prod.snd ++
          [(BootOption.vendorBoot, vendorBoot)]).foldlM
        (storeArgument disk size) BootNamespace.default =
      some
        { boot.parsed (if 0 < boot.dtb.length then some dtb else none) with
          vendorBoot := some vendorBoot } := by
  have dtbSize : (boot.info directory).dtbSize = boot.dtb.length := rfl
  have version :
      (boot.info directory).headerVersion = boot.headerVersion := rfl
  rw [imagePairs, List.map_append, List.map_append, List.foldlM_append,
    List.foldlM_append, List.foldlM_append, foldlM_fieldPairs, dtbSize]
  simp only [Option.bind_eq_bind, Option.bind_some]
  have optional (arguments : BootNamespace) :
      ((if 0 < boot.dtb.length then
              [("--dtb".toList, BootOption.dtb, dtbPath)]
            else
              []).map Prod.snd).foldlM (storeArgument disk size) arguments =
        some
          { arguments with
            dtb :=
              if 0 < boot.dtb.length then some dtb else arguments.dtb } := by
    by_cases present : 0 < boot.dtb.length
    · simp only [if_pos present, List.map_cons, List.map_nil,
        List.foldlM_cons, List.foldlM_nil, storeArgument, atDtb present]
      rfl
    · simp only [if_neg present]
      rfl
  rw [optional, Option.bind_some, ramdiskPair, version]
  by_cases table : 3 < boot.headerVersion
  · have bootconfig :
        disk (pathJoin (boot.info directory).imageDir "bootconfig".toList) =
          some boot.bootconfig :=
      holds ("bootconfig".toList, boot.bootconfig) (by
        rw [files, if_pos table]
        exact List.mem_append_right _ List.mem_cons_self)
    simp only [if_pos table, List.map_cons, List.map_nil, List.foldlM_cons,
      List.foldlM_nil, storeArgument, bootconfig, Option.map_some,
      Option.bind_eq_bind, Option.bind_some, parsed]
    rfl
  · have vendorRamdisk :
        disk
            (pathJoin (boot.info directory).imageDir
              "vendor_ramdisk".toList) =
          some boot.vendorRamdisk :=
      holds ("vendor_ramdisk".toList, boot.vendorRamdisk) (by
        rw [files, if_neg table]
        exact List.mem_cons_self)
    simp only [if_neg table, List.map_cons, List.map_nil, List.foldlM_cons,
      List.foldlM_nil, storeArgument, vendorRamdisk, Option.map_some,
      Option.bind_eq_bind, Option.bind_some, parsed]
    rfl

/-- The image parser leaves the words of a table over. -/
theorem leftOver_tableWords
    {info : VendorBootInfo}
    (readable : Readable info)
    (boardIds :
      ∀ entry ∈ info.vendorRamdiskTable, entry.boardId.length = 16) :
    ∀ word ∈ tableWords info, LeftOver bootOptions word := by
  intro word member
  rw [tableWords] at member
  split at member
  · obtain ⟨⟨entry, idx⟩, inTable, inside⟩ := List.mem_flatMap.mp member
    have inInfo := List.fst_mem_of_mem_zipIdx inTable
    rw [fragmentArguments_eq, List.mem_flatMap] at inside
    obtain ⟨pair, inPairs, inside⟩ := inside
    obtain ⟨-, flag, value⟩ :=
      readArgument_fragmentPairs readable inInfo (boardIds entry inInfo)
        inPairs
    simp only [List.mem_cons, List.not_mem_nil, or_false] at inside
    rcases inside with rfl | rfl
    · exact flag
    · exact value
  · cases member

/-- Behind the version, other options of the parser are printed. -/
theorem mem_bootOptions_of_behind
    {info : VendorBootInfo}
    {dtb : Text}
    {pair : Text × BootOption × Text}
    (behind : pair ∈ (imagePairs info dtb).drop 1) :
    (pair.1, pair.2.1) ∈ bootOptions ∧ pair.2.1 ≠ .headerVersion := by
  have parts :
      pair ∈ (fieldPairs info).drop 1 ∨
        pair ∈ (if 0 < info.dtbSize then
            [("--dtb".toList, BootOption.dtb, dtb)]
          else
            []) ∨
          pair = ramdiskPair info := by
    have inside := behind
    rw [imagePairs, List.append_assoc, fieldPairs, List.cons_append,
      List.drop_succ_cons, List.drop_zero, List.mem_append, List.mem_append,
      List.mem_singleton] at inside
    exact inside
  rcases parts with field | optional | rfl
  · simp only [fieldPairs, List.drop_succ_cons, List.drop_zero,
      List.mem_cons, List.not_mem_nil, or_false] at field
    rcases field with rfl | rfl | rfl | rfl | rfl | rfl | rfl | rfl <;>
      simp [bootOptions]
  · split at optional
    · cases List.mem_singleton.mp optional
      simp [bootOptions]
    · cases optional
  · rw [ramdiskPair]
    split <;>
      simp [bootOptions]

/-- The parser of the version finds it in front, and knows no other option. -/
theorem exists_cmdlineSize
    {info : VendorBootInfo}
    (readable : Readable info)
    (boardIds :
      ∀ entry ∈ info.vendorRamdiskTable, entry.boardId.length = 16)
    (isDtb : IsValue bootOptions dtbPath)
    (isVendorBoot : IsValue bootOptions vendorBoot) :
    ∃ size,
      cmdlineSize
          (info.argumentsWithDtb dtbPath ++
            ["--vendor_boot".toList, vendorBoot]) =
        some size := by
  have among : Among versionParser.options bootOptions := by
    unfold Among
    decide +kernel
  have versionFlag :
      readArgument versionParser.options "--header_version".toList =
        some (.flag ()) := by
    decide +kernel
  have otherFlags :
      ∀ row ∈ bootOptions,
        row.2 ≠ .headerVersion →
          readArgument versionParser.options row.1 = some .unknown := by
    decide +kernel
  have vendorBootFlag :=
    otherFlags ("--vendor_boot".toList, .vendorBoot) (by decide) (by decide)
  let others : List Text :=
    (((imagePairs info dtbPath).drop 1).flatMap fun pair =>
        [pair.1, pair.2.2]) ++ tableWords info ++
      ["--vendor_boot".toList, vendorBoot]
  have behind : ∀ word ∈ others, LeftOver versionParser.options word := by
    intro word member
    simp only [others, List.mem_append, List.mem_flatMap, List.mem_cons,
      List.not_mem_nil, or_false] at member
    rcases member with (⟨pair, inPairs, rfl | rfl⟩ | inTable) | rfl | rfl
    · obtain ⟨isOption, other⟩ := mem_bootOptions_of_behind inPairs
      exact .inr (otherFlags _ isOption other)
    · exact among.leftOver (readArgument_imagePairs readable isDtb
        (List.mem_of_mem_drop inPairs)).2.leftOver
    · exact among.leftOver (leftOver_tableWords readable boardIds word inTable)
    · exact .inr vendorBootFlag
    · exact among.leftOver isVendorBoot.leftOver
  have words :
      info.argumentsWithDtb dtbPath ++ ["--vendor_boot".toList, vendorBoot] =
        "--header_version".toList :: printUnsigned info.headerVersion ::
          (others ++ []) := by
    rw [argumentsWithDtb_eq, List.append_nil]
    rfl
  have parsed :
      parseKnownArgs versionParser
          (info.argumentsWithDtb dtbPath ++
            ["--vendor_boot".toList, vendorBoot]) =
        some ([((), printUnsigned info.headerVersion)], others) := by
    rw [words, parseKnownArgs_pair versionFlag rfl (isValue_decimal _),
      parseKnownArgs_leftOver behind, parseKnownArgs]
    simp only [Option.map_some, List.append_nil]
  rw [cmdlineSize, parsed]
  simp only [List.mapM_cons, List.mapM_nil, parseInt_printUnsigned,
    Option.bind_eq_bind, Option.bind_some, Option.pure_def]
  split
  · exact ⟨_, rfl⟩
  · exact ⟨_, rfl⟩

/-- The image parser pairs the printed options, and leaves the table over. -/
theorem parseKnownArgs_argumentsWithDtb
    {info : VendorBootInfo}
    (readable : Readable info)
    (boardIds :
      ∀ entry ∈ info.vendorRamdiskTable, entry.boardId.length = 16)
    (isDtb : IsValue bootOptions dtbPath)
    (isVendorBoot : IsValue bootOptions vendorBoot) :
    parseKnownArgs bootParser
        (info.argumentsWithDtb dtbPath ++
          ["--vendor_boot".toList, vendorBoot]) =
      some
        ((imagePairs info dtbPath).map Prod.snd ++
            [(BootOption.vendorBoot, vendorBoot)],
          tableWords info) := by
  have leftOver := leftOver_tableWords readable boardIds
  have last :
      readArgument bootOptions "--vendor_boot".toList =
        some (.flag .vendorBoot) :=
    readArgument_bootOptions ("--vendor_boot".toList, .vendorBoot) (by decide)
  have ends :
      parseKnownArgs bootParser ["--vendor_boot".toList, vendorBoot] =
        some ([(BootOption.vendorBoot, vendorBoot)], []) := by
    rw [parseKnownArgs_pair last rfl isVendorBoot]
    rfl
  rw [argumentsWithDtb_eq, List.append_assoc,
    parseKnownArgs_pairs
      (fun pair member => readArgument_imagePairs readable isDtb member)
      (fun pair member =>
        isSwitch_printedOptions _ (mem_printedOptions member)),
    parseKnownArgs_leftOver leftOver, ends]
  simp only [Option.map_some, List.append_nil]

/-- Of the printed options, the last one alone opens a file for writing. -/
theorem openedForWriting_argumentsWithDtb
    {info : VendorBootInfo}
    (readable : Readable info)
    (boardIds :
      ∀ entry ∈ info.vendorRamdiskTable, entry.boardId.length = 16)
    (isDtb : IsValue bootOptions dtbPath)
    (isVendorBoot : IsValue bootOptions vendorBoot) :
    let words :=
      info.argumentsWithDtb dtbPath ++ ["--vendor_boot".toList, vendorBoot]
    openedForWriting words = [vendorBoot] ∧
      .output ∉ (takenActions bootParser words).map Prod.fst := by
  have taken :=
    takenActions_of_parseKnownArgs
      (parseKnownArgs_argumentsWithDtb readable boardIds isDtb isVendorBoot)
  have readOnly :
      ∀ option ∈ printedOptions, option ≠ .output ∧ option ≠ .vendorBoot := by
    decide
  have none :
      ∀ action ∈ (imagePairs info dtbPath).map Prod.snd,
        action.1 ≠ .output ∧ action.1 ≠ .vendorBoot := by
    intro action member
    obtain ⟨pair, inside, rfl⟩ := List.mem_map.mp member
    exact readOnly _ (mem_printedOptions inside)
  have filtered :
      ((imagePairs info dtbPath).map Prod.snd).filter
          (fun action =>
            action.1 = .output || action.1 = .vendorBoot) = [] := by
    rw [List.filter_eq_nil_iff]
    intro action member
    simp [none action member]
  refine ⟨?_, ?_⟩
  · rw [openedForWriting, taken, List.filter_append, filtered]
    rfl
  · rw [taken, List.map_append, List.mem_append, not_or]
    refine ⟨?_, by simp⟩
    intro member
    obtain ⟨action, inside, isOutput⟩ := List.mem_map.mp member
    exact (none action inside).1 isOutput

/-- The table of the image is made again from the words left over. -/
theorem parseVendorRamdiskArgs_tableWords
    (readable : Readable (boot.info directory))
    (holds : Holds disk directory boot.files)
    (table : 3 < boot.headerVersion) :
    parseVendorRamdiskArgs disk none (tableWords (boot.info directory)) =
      some (boot.fragments.map fragmentArgument) := by
  have version :
      (boot.info directory).headerVersion = boot.headerVersion := rfl
  have rows :
      (boot.info directory).vendorRamdiskTable =
        boot.fragments.map VendorFragment.entry :=
    rfl
  have inTable :
      ∀ fragment ∈ boot.fragments,
        fragment.entry ∈ (boot.info directory).vendorRamdiskTable :=
    fun fragment member => List.mem_map_of_mem member
  have entries :
      ∀ entry ∈ boot.fragments.map VendorFragment.entry,
        entry ∈ (boot.info directory).vendorRamdiskTable ∧
          entry.boardId.length = 16 := by
    intro entry member
    obtain ⟨fragment, inside, rfl⟩ := List.mem_map.mp member
    exact ⟨member, fragment.boardIdLength⟩
  have contents :
      ∀ row ∈ boot.fragments.zipIdx 0,
        disk
            (pathJoin (boot.info directory).imageDir
              (outputRamdiskName row.2)) =
          some row.1.content := by
    intro row member
    refine holds (outputRamdiskName row.2, row.1.content) ?_
    rw [files, if_pos table]
    exact List.mem_append_left _ (List.mem_map.mpr ⟨row, member, rfl⟩)
  have added :=
    foldlM_addGroup readable [] boot.fragments inTable contents boot.names
  rw [parseVendorRamdiskArgs, tableWords, version, if_pos table, rows,
    ramdiskGroups_fragmentArguments readable entries 0]
  exact added

/-- The printed words make the image again, with another device tree. -/
theorem mkbootimg_argumentsWithDtb
    (readable : Readable (boot.info directory))
    (holds : Holds disk directory boot.files)
    (isDtb : IsValue bootOptions dtbPath)
    (isVendorBoot : IsValue bootOptions vendorBoot)
    (atDtb : 0 < boot.dtb.length → disk dtbPath = some dtb)
    (noDtb : boot.dtb = [] → dtb = []) :
    mkbootimg disk
        ((boot.info directory).argumentsWithDtb dtbPath ++
          ["--vendor_boot".toList, vendorBoot]) =
      { boot.arguments with dtb := dtb }.writeVendorBoot := by
  have boardIds :
      ∀ entry ∈ (boot.info directory).vendorRamdiskTable,
        entry.boardId.length = 16 := by
    intro entry member
    obtain ⟨fragment, -, rfl⟩ := List.mem_map.mp member
    exact fragment.boardIdLength
  have given :
      (if 0 < boot.dtb.length then some dtb else none).getD [] = dtb := by
    split
    · rfl
    · rename_i absent
      rw [noDtb (List.length_eq_zero_iff.mp (by omega))]
      rfl
  obtain ⟨size, isSize⟩ :=
    exists_cmdlineSize readable boardIds isDtb isVendorBoot
  have noRecovery :
      ¬(BootOption.recoveryDtbo ∈
            ((imagePairs (boot.info directory) dtbPath).map Prod.snd ++
              [(BootOption.vendorBoot, vendorBoot)]).map Prod.fst ∧
          BootOption.recoveryAcpio ∈
            ((imagePairs (boot.info directory) dtbPath).map Prod.snd ++
              [(BootOption.vendorBoot, vendorBoot)]).map Prod.fst) := by
    rintro ⟨given, -⟩
    rw [List.map_append, List.mem_append, List.map_map, List.mem_map]
      at given
    rcases given with ⟨pair, member, isRecovery⟩ | isLast
    · have printed := mem_printedOptions member
      rw [Function.comp_apply] at isRecovery
      rw [isRecovery] at printed
      revert printed
      decide
    · revert isLast
      simp
  rw [mkbootimg, parseCmdline, isSize,
    parseKnownArgs_argumentsWithDtb readable boardIds isDtb isVendorBoot]
  simp only [Option.bind_eq_bind, Option.bind_some,
    foldlM_imagePairs holds atDtb, reduceCtorEq, ↓reduceIte,
    if_neg noRecovery]
  by_cases table : 3 < boot.headerVersion
  · have four : boot.headerVersion = 4 :=
      boot.version.resolve_left fun three => by omega
    simp only [parsed, four, Nat.cast_ofNat, ↓reduceIte, Nat.reduceLT]
    rw [parseVendorRamdiskArgs_tableWords readable holds table]
    refine SameImage.writeVendorBoot
      { headerVersion := four.symm
        pagesize := rfl
        kernel := rfl
        ramdisk := rfl
        tags := rfl
        dtbAddress := rfl
        vendorCmdline := rfl
        board := rfl
        dtb := given
        ramdisks := ?_
        entryNum := rfl
        tableEntries := rfl
        vendorBootconfig := fun _ => rfl }
    rw [VendorBootArguments.ramdisks, VendorBootArguments.ramdisks]
    exact (if_pos (by decide : 3 < 4)).trans (if_pos table).symm
  · have three : boot.headerVersion = 3 :=
      boot.version.resolve_right fun isFour => by omega
    have noTable : tableWords (boot.info directory) = [] := if_neg table
    have noFragments : boot.arguments.fragments = [] := by
      rw [arguments, boot.plain three]
      rfl
    have someRamdisk : some boot.vendorRamdisk ≠ none :=
      Option.some_ne_none _
    simp only [parsed, three, Nat.cast_ofNat, ↓reduceIte, Nat.reduceLT,
      Int.reduceEq]
    rw [if_pos ⟨trivial, noTable, someRamdisk⟩]
    refine SameImage.writeVendorBoot
      { headerVersion := three.symm
        pagesize := rfl
        kernel := rfl
        ramdisk := rfl
        tags := rfl
        dtbAddress := rfl
        vendorCmdline := rfl
        board := rfl
        dtb := given
        ramdisks := ?_
        entryNum := congrArg List.length noFragments.symm
        tableEntries :=
          congrArg (VendorBootArguments.tableEntries 0) noFragments.symm
        vendorBootconfig := fun four => absurd four (Nat.lt_irrefl 3) }
    rw [VendorBootArguments.ramdisks, VendorBootArguments.ramdisks]
    exact (if_neg (by decide : ¬3 < 3)).trans (if_neg table).symm

end Parsing

end VendorBoot

end OverclockBuilder
