import Mathlib.Data.List.Forall2
import OverclockBuilder.RepackRoundTrip

namespace OverclockBuilder

open RadixText BytePacking CNumber ArgumentParser

/-!
# Equivalent images

Every image that `mkbootimg.py` writes is the image of some contents.  Unpacked
and made again it is the same image, and through the script it is the image with
another device tree.
-/

/-! ## Entries of a parsed table -/

/-- An entry as `add_entry` takes it; the platform ramdisk has no name. -/
structure WellFormedEntry (entry : RamdiskFragment) : Prop where
  name :
    ∃ text,
      FitsAsciiz vendorRamdiskNameSize text ∧
        (entry.ramdiskName = asciiz text ∨
          text = [] ∧ entry.ramdiskName = [])
  boardIdLength : entry.boardId.length = 16
  boardIdFits : ∀ word ∈ entry.boardId, 0 ≤ word ∧ word < 4294967296

structure WellFormedTable (entries : List RamdiskFragment) : Prop where
  each : ∀ entry ∈ entries, WellFormedEntry entry
  names :
    AcceptedNames (entries.map fun entry => strippedName entry.ramdiskName)

section Table

variable {disk : Text → Option Bytes} {before after : List RamdiskFragment}

/-- An entry that is added has a new name. -/
theorem wellFormedTable_addEntry
    (wellFormed : WellFormedTable before)
    {ramdiskPath : Text}
    {ramdiskType : Int}
    {ramdiskName : Bytes}
    {boardId : List Int}
    (name :
      ∃ text,
        FitsAsciiz vendorRamdiskNameSize text ∧
          (ramdiskName = asciiz text ∨ text = [] ∧ ramdiskName = []))
    (boardIdLength : boardId.length = 16)
    (added :
      addEntry disk before ramdiskPath ramdiskType ramdiskName boardId =
        some after) :
    WellFormedTable after := by
  rw [addEntry] at added
  split at added
  case isTrue =>
      cases added
  case isFalse allowed =>
      split at added
      case isTrue fits =>
          rw [not_or] at allowed
          obtain ⟨content, -, rfl⟩ := Option.map_eq_some_iff.mp added
          refine ⟨?_, ?_, ?_⟩
          · intro entry member
            rw [List.mem_append, List.mem_singleton] at member
            rcases member with old | rfl
            · exact wellFormed.each entry old
            · exact ⟨name, boardIdLength, fits⟩
          · rw [List.map_append, List.map_singleton, List.nodup_append]
            refine ⟨wellFormed.names.1, List.pairwise_singleton _ _, ?_⟩
            rintro old inside new isNew rfl
            rw [List.mem_singleton] at isNew
            subst isNew
            exact allowed.2 inside
          · intro stripped member
            rw [List.map_append, List.map_singleton, List.mem_append,
              List.mem_singleton] at member
            rcases member with old | rfl
            · exact wellFormed.names.2 stripped old
            · exact allowed.1
      case isFalse =>
          cases added

/-- An option stores into one of the sixteen words, or into none. -/
theorem length_boardId_storeRamdiskArgument
    {before after : RamdiskNamespace}
    {pair : RamdiskOption × Text}
    (stored : storeRamdiskArgument before pair = some after) :
    after.boardId.length = before.boardId.length := by
  obtain ⟨option, word⟩ := pair
  cases option with
  | ramdiskType =>
      obtain ⟨value, -, rfl⟩ := Option.map_eq_some_iff.mp stored
      rfl
  | ramdiskName =>
      obtain ⟨value, -, rfl⟩ := Option.map_eq_some_iff.mp stored
      rfl
  | boardId index =>
      obtain ⟨value, -, rfl⟩ := Option.map_eq_some_iff.mp stored
      exact List.length_set
  | vendorRamdiskFragment =>
      cases stored
      rfl

theorem length_boardId_of_foldlM
    {before after : RamdiskNamespace}
    {pairs : List (RamdiskOption × Text)}
    (stored : pairs.foldlM storeRamdiskArgument before = some after) :
    after.boardId.length = before.boardId.length := by
  induction pairs generalizing before with
  | nil =>
      cases stored
      rfl
  | cons pair pairs inductionHypothesis =>
      rw [List.foldlM_cons, Option.bind_eq_bind, Option.bind_eq_some_iff]
        at stored
      obtain ⟨between, first, rest⟩ := stored
      exact (inductionHypothesis rest).trans
        (length_boardId_storeRamdiskArgument first)

theorem wellFormedTable_addGroup
    (wellFormed : WellFormedTable before)
    {group : List Text}
    (added : addGroup disk before group = some after) :
    WellFormedTable after := by
  simp only [addGroup, Option.bind_eq_bind, Option.bind_eq_some_iff]
    at added
  obtain ⟨⟨pairs, extras⟩, -, arguments, stored, name, -, path, -,
    added⟩ := added
  dsimp only at stored added
  split at added
  · exact wellFormedTable_addEntry wellFormed
      ⟨name.text, name.fits, .inl rfl⟩ (length_boardId_of_foldlM stored)
      added
  · cases added

/-- The loop over the groups keeps the table well formed. -/
theorem wellFormedTable_foldlM
    (wellFormed : WellFormedTable before)
    {groups : List (List Text)}
    (added : groups.foldlM (addGroup disk) before = some after) :
    WellFormedTable after := by
  induction groups generalizing before with
  | nil =>
      cases added
      exact wellFormed
  | cons group groups inductionHypothesis =>
      rw [List.foldlM_cons, Option.bind_eq_bind, Option.bind_eq_some_iff]
        at added
      obtain ⟨between, first, rest⟩ := added
      exact inductionHypothesis (wellFormedTable_addGroup wellFormed first)
        rest

theorem wellFormedTable_nil : WellFormedTable [] := by
  constructor
  · intro entry member
    cases member
  · decide

theorem wellFormedTable_parseVendorRamdiskArgs
    {vendorRamdisk : Option Bytes}
    {words : List Text}
    (parsed :
      parseVendorRamdiskArgs disk vendorRamdisk words = some after) :
    WellFormedTable after := by
  rw [parseVendorRamdiskArgs] at parsed
  dsimp only at parsed
  split at parsed
  case isTrue =>
      refine wellFormedTable_foldlM ?_ parsed
      cases vendorRamdisk with
      | none =>
          exact wellFormedTable_nil
      | some content =>
          have zeros :
              ∀ word ∈ List.replicate 16 (0 : Int),
                0 ≤ word ∧ word < 4294967296 := by
            decide
          have unnamed : AcceptedNames [strippedName []] := by
            decide
          refine ⟨?_, unnamed⟩
          intro entry member
          cases List.mem_singleton.mp member
          exact ⟨⟨[], by decide, .inr ⟨rfl, rfl⟩⟩, rfl, zeros⟩
  case isFalse =>
      cases parsed

end Table

/-! ## The contents of a table -/

/-- A parsed entry is written like a fragment. -/
structure Represents
    (entry : RamdiskFragment)
    (fragment : VendorFragment) :
    Prop where
  content : entry.content = fragment.content
  ramdiskType : entry.ramdiskType = fragment.entry.ramdiskType
  ramdiskName :
    packString vendorRamdiskNameSize entry.ramdiskName =
      packString vendorRamdiskNameSize (asciiz fragment.entry.ramdiskName)
  stripped : strippedName entry.ramdiskName = fragment.stripped
  boardId : entry.boardId = fragment.entry.boardId.map Int.ofNat

theorem toNat_map
    {words : List Int}
    (nonnegative : ∀ word ∈ words, 0 ≤ word) :
    (words.map Int.toNat).map Int.ofNat = words := by
  rw [List.map_map]
  refine (List.map_congr_left fun word member => ?_).trans (List.map_id _)
  exact Int.toNat_of_nonneg (nonnegative word member)

theorem exists_represents
    {entry : RamdiskFragment}
    (wellFormed : WellFormedEntry entry)
    (nonnegative : 0 ≤ entry.ramdiskType) :
    ∃ fragment, Represents entry fragment := by
  obtain ⟨⟨text, fits, name⟩, length, words⟩ := wellFormed
  have named :
      packString vendorRamdiskNameSize entry.ramdiskName =
          packString vendorRamdiskNameSize (asciiz text) ∧
        strippedName entry.ramdiskName = strippedName (asciiz text) := by
    rcases name with named | ⟨rfl, unnamed⟩
    · rw [named]
      exact ⟨rfl, rfl⟩
    · rw [unnamed]
      decide
  refine
    ⟨{ entry := ⟨entry.ramdiskType.toNat, text, entry.boardId.map Int.toNat⟩
       content := entry.content
       nameFits := fits
       boardIdLength := (List.length_map _).trans length
       boardIdFits := ?_ },
      rfl, (Int.toNat_of_nonneg nonnegative).symm, named.1, named.2,
      (toNat_map fun word member => (words word member).1).symm⟩
  intro number member
  obtain ⟨word, inside, rfl⟩ := List.mem_map.mp member
  have bounds := words word inside
  omega

/-- Fragments that are written like the entries of a table. -/
theorem exists_fragments
    {entries : List RamdiskFragment}
    (wellFormed : ∀ entry ∈ entries, WellFormedEntry entry)
    (nonnegative : ∀ entry ∈ entries, 0 ≤ entry.ramdiskType) :
    ∃ fragments, List.Forall₂ Represents entries fragments := by
  induction entries with
  | nil =>
      exact ⟨[], .nil⟩
  | cons entry entries inductionHypothesis =>
      obtain ⟨fragment, represents⟩ :=
        exists_represents (wellFormed entry List.mem_cons_self)
          (nonnegative entry List.mem_cons_self)
      obtain ⟨fragments, rest⟩ :=
        inductionHypothesis
          (fun other member =>
            wellFormed other (List.mem_cons_of_mem entry member))
          (fun other member =>
            nonnegative other (List.mem_cons_of_mem entry member))
      exact ⟨fragment :: fragments, .cons represents rest⟩

section Represented

variable {entries : List RamdiskFragment} {fragments : List VendorFragment}

theorem tableEntries_of_represents
    (represents : List.Forall₂ Represents entries fragments)
    (offset : Nat) :
    VendorBootArguments.tableEntries offset entries =
      VendorBootArguments.tableEntries offset
        (fragments.map VendorBoot.fragmentArgument) := by
  induction represents generalizing offset with
  | nil =>
      rfl
  | cons first rest inductionHypothesis =>
      rw [List.map_cons, VendorBootArguments.tableEntries,
        VendorBootArguments.tableEntries, first.content, first.ramdiskType,
        first.ramdiskName, first.boardId, inductionHypothesis]
      rfl

theorem contents_of_represents
    (represents : List.Forall₂ Represents entries fragments) :
    entries.flatMap RamdiskFragment.content =
      (fragments.map VendorBoot.fragmentArgument).flatMap
        RamdiskFragment.content := by
  induction represents with
  | nil =>
      rfl
  | cons first rest inductionHypothesis =>
      rw [List.map_cons, List.flatMap_cons, List.flatMap_cons,
        inductionHypothesis, first.content]
      rfl

theorem names_of_represents
    (represents : List.Forall₂ Represents entries fragments) :
    (entries.map fun entry => strippedName entry.ramdiskName) =
      fragments.map VendorFragment.stripped := by
  induction represents with
  | nil =>
      rfl
  | cons first rest inductionHypothesis =>
      rw [List.map_cons, List.map_cons, inductionHypothesis,
        first.stripped]

end Represented

/-- An integer that is packed is not negative. -/
theorem nonneg_of_packInteger
    {width : Nat}
    {value : Int}
    {field : Bytes}
    (packed : packInteger width value = some field) :
    0 ≤ value := by
  rw [packInteger] at packed
  split at packed
  · rename_i bounds
    exact bounds.1
  · cases packed

theorem nonneg_of_tableEntries
    {entries : List RamdiskFragment}
    {offset : Nat}
    {table : Bytes}
    (written : VendorBootArguments.tableEntries offset entries = some table) :
    ∀ entry ∈ entries, 0 ≤ entry.ramdiskType := by
  induction entries generalizing offset table with
  | nil =>
      intro entry member
      cases member
  | cons entry entries inductionHypothesis =>
      simp only [VendorBootArguments.tableEntries, Option.bind_eq_bind,
        Option.bind_eq_some_iff] at written
      obtain ⟨size, -, start, -, ramdiskType, typePacked, boardId, -,
        others, othersWritten, -⟩ := written
      intro other member
      rcases List.mem_cons.mp member with rfl | inside
      · exact nonneg_of_packInteger typePacked
      · exact inductionHypothesis othersWritten other inside

/-! ## The contents of an image -/

/-- What `parse_cmdline` hands over has a well formed table. -/
theorem parseCmdline_eq_some
    {disk : Text → Option Bytes}
    {words : List Text}
    {args : VendorBootArguments}
    (parsed : parseCmdline disk words = some args) :
    ∃ arguments headerVersion fragments,
      args = BootNamespace.arguments arguments headerVersion fragments ∧
        (headerVersion = 3 ∨ headerVersion = 4) ∧
          (headerVersion = 3 → fragments = []) ∧
            WellFormedTable fragments := by
  simp only [parseCmdline, Option.bind_eq_bind, Option.bind_eq_some_iff]
    at parsed
  obtain ⟨size, -, ⟨pairs, extras⟩, -, arguments, -, parsed⟩ := parsed
  split at parsed
  · cases parsed
  split at parsed
  · cases parsed
  split at parsed
  · obtain ⟨fragments, table, made⟩ := Option.bind_eq_some_iff.mp parsed
    cases made
    have notThree : (4 : Nat) ≠ 3 := by
      decide
    exact ⟨arguments, 4, fragments, rfl, .inr rfl,
      fun three => absurd three notThree,
      wellFormedTable_parseVendorRamdiskArgs table⟩
  · split at parsed
    · cases parsed
      exact ⟨arguments, 3, [], rfl, .inl rfl, fun _ => rfl,
        wellFormedTable_nil⟩
    · cases parsed

/-- The contents of the image that is written with some arguments. -/
def BootNamespace.contents
    (arguments : BootNamespace)
    {headerVersion : Nat}
    {fragments : List VendorFragment}
    (version : headerVersion = 3 ∨ headerVersion = 4)
    (page : arguments.pagesize ∈ pageSizes)
    (plain : headerVersion = 3 → fragments = [])
    (names : AcceptedNames (fragments.map VendorFragment.stripped)) :
    VendorBoot where
  headerVersion := headerVersion
  pageSize := arguments.pagesize
  kernelLoadAddress := (arguments.base + arguments.kernelOffset).toNat
  ramdiskLoadAddress := (arguments.base + arguments.ramdiskOffset).toNat
  tagsLoadAddress := (arguments.base + arguments.tagsOffset).toNat
  dtbLoadAddress := (arguments.base + arguments.dtbOffset).toNat
  cmdline := arguments.vendorCmdline.text
  productName := arguments.board.text
  dtb := arguments.dtb.getD []
  vendorRamdisk := arguments.vendorRamdisk.getD []
  bootconfig := arguments.vendorBootconfig.getD []
  fragments := fragments
  version := version
  page := page
  cmdlineFits := arguments.vendorCmdline.fits
  productNameFits := arguments.board.fits
  plain := plain
  names := names

/-- Every image of `mkbootimg.py` has contents. -/
theorem exists_vendorBoot
    {disk : Text → Option Bytes}
    {words : List Text}
    {image : Bytes}
    (made : mkbootimg disk words = some image) :
    ∃ boot : VendorBoot, boot.arguments.writeVendorBoot = some image := by
  obtain ⟨args, parsed, written⟩ := Option.bind_eq_some_iff.mp made
  obtain ⟨arguments, headerVersion, fragments, rfl, version, plain,
    wellFormed⟩ := parseCmdline_eq_some parsed
  obtain ⟨page, header, sections, headerWritten, -, table, -⟩ :=
    writeVendorBoot_eq_file written
  have addresses := headerWritten
  simp only [VendorBootArguments.header, Option.bind_eq_bind,
    Option.bind_eq_some_iff] at addresses
  obtain ⟨versionField, -, pagesize, -, kernel, kernelPacked, ramdisk,
    ramdiskPacked, ramdiskSize, -, tags, tagsPacked, headerSize, -,
    dtbSize, -, dtbAddress, dtbAddressPacked, -⟩ := addresses
  have types : ∀ entry ∈ fragments, 0 ≤ entry.ramdiskType := by
    rcases version with three | four
    · rw [plain three]
      intro entry member
      cases member
    · obtain ⟨entries, entriesWritten, -⟩ := table (by
        rw [four]
        exact Nat.lt_succ_self 3)
      exact nonneg_of_tableEntries entriesWritten
  obtain ⟨contents, represents⟩ :=
    exists_fragments wellFormed.each types
  have accepted : AcceptedNames (contents.map VendorFragment.stripped) := by
    rw [← names_of_represents represents]
    exact wellFormed.names
  have noContents : headerVersion = 3 → contents = [] := by
    intro three
    rw [plain three] at represents
    exact List.forall₂_nil_left_iff.mp represents
  have address {width : Nat} {value : Int} {field : Bytes}
      (packed : packInteger width value = some field) :
      value = 0 + (value.toNat : Int) := by
    rw [Int.zero_add, Int.toNat_of_nonneg (nonneg_of_packInteger packed)]
  refine
    ⟨arguments.contents version page noContents accepted,
      (SameImage.writeVendorBoot ?_).symm.trans written⟩
  exact
    { headerVersion := rfl
      pagesize := rfl
      kernel := address kernelPacked
      ramdisk := address ramdiskPacked
      tags := address tagsPacked
      dtbAddress := address dtbAddressPacked
      vendorCmdline := rfl
      board := rfl
      dtb := rfl
      ramdisks := by
        rw [VendorBootArguments.ramdisks, VendorBootArguments.ramdisks]
        exact congrArg (if 3 < headerVersion then · else _)
          (contents_of_represents represents)
      entryNum :=
        represents.length_eq.trans (List.length_map _).symm
      tableEntries := tableEntries_of_represents represents 0
      vendorBootconfig := fun _ => rfl }

/-- An image is unpacked into its contents, if at all. -/
theorem exists_contents
    {disk : Text → Option Bytes}
    {words : List Text}
    {image tail : Bytes}
    {directory : Text}
    {info : VendorBootInfo}
    {files : List (Text × Bytes)}
    (made : mkbootimg disk words = some image)
    (unpacked :
      unpackVendorBootImage directory (image ++ tail) =
        some (info, files)) :
    ∃ boot : VendorBoot,
      boot.arguments.writeVendorBoot = some image ∧
        (∀ entry ∈ boot.table, Linkable entry) ∧
          info = boot.info directory ∧ files = boot.files := by
  obtain ⟨boot, written⟩ := exists_vendorBoot made
  rw [boot.unpackVendorBootImage_append written] at unpacked
  split at unpacked
  · rename_i linkable
    cases unpacked
    exact ⟨boot, written, linkable, rfl, rfl⟩
  · cases unpacked

/-! ## Made again -/

/--
Unpacked, and made again with the printed arguments, an image of `mkbootimg.py`
is the same image, whatever stood behind it when it was unpacked.
-/
theorem mkbootimg_formatMkbootimgArgument
    {disk : Text → Option Bytes}
    {words : List Text}
    {image tail : Bytes}
    (made : mkbootimg disk words = some image)
    {directory : Text}
    {info : VendorBootInfo}
    {files : List (Text × Bytes)}
    (unpacked :
      unpackVendorBootImage directory (image ++ tail) =
        some (info, files))
    (readable : Readable info)
    {outDisk : Text → Option Bytes}
    (holds : Holds outDisk directory files)
    {repacked : Text}
    (isValue : IsValue bootOptions repacked) :
    mkbootimg outDisk
        (info.formatMkbootimgArgument ++
          ["--vendor_boot".toList, repacked]) =
      some image := by
  obtain ⟨boot, written, -, rfl, rfl⟩ := exists_contents made unpacked
  have atDtb :
      0 < boot.dtb.length →
        outDisk (pathJoin directory "dtb".toList) = some boot.dtb := by
    intro present
    apply holds ("dtb".toList, boot.dtb)
    rw [VendorBoot.files, if_pos present]
    split
    · exact List.mem_append_right _ (List.mem_cons_of_mem _ (by simp))
    · exact List.mem_cons_of_mem _ (by simp)
  exact (VendorBoot.mkbootimg_argumentsWithDtb readable holds
    (isValue_pathJoin readable.imageDir _) isValue atDtb id).trans written

/-- An image with one ramdisk for recovery. -/
def recoveryBoot : VendorBoot where
  headerVersion := 4
  pageSize := 2048
  kernelLoadAddress := 0x40008000
  ramdiskLoadAddress := 0x41000000
  tagsLoadAddress := 0x40000100
  dtbLoadAddress := 0x41f00000
  cmdline := "bootopt=64S3".toList
  productName := "x6840".toList
  dtb := [1, 2]
  vendorRamdisk := []
  bootconfig := []
  fragments :=
    [{ entry :=
        ⟨2, "recovery".toList,
          [0, 0, 0, 7, 0, 0, 0, 0, 0, 0, 0, 0, 0, 0, 0, 0]⟩
       content := [4, 5]
       nameFits := by decide
       boardIdLength := rfl
       boardIdFits := by decide }]
  version := .inr rfl
  page := by decide
  cmdlineFits := by decide
  productNameFits := by decide
  plain := by decide
  names := by decide

/-- A command line that makes it. -/
def recoveryWords : List Text :=
  ["--header_version".toList, "4".toList, "--base".toList,
    "0x40000000".toList, "--vendor_cmdline=bootopt=64S3".toList,
    "--board".toList, "x6840".toList, "--dtb".toList, "tree".toList,
    "--ramdisk_type".toList, "Recovery".toList, "--ramdisk_name".toList,
    "recovery".toList, "--board_id3".toList, "7".toList,
    "--vendor_ramdisk_fragment".toList, "ramdisk".toList,
    "--vendor_boot".toList, "vendor_boot.img".toList]

/-- A disk with some files. -/
def diskWith (files : List (Text × Bytes)) (path : Text) : Option Bytes :=
  files.lookup path

def recoveryDisk : Text → Option Bytes :=
  diskWith [("tree".toList, [1, 2]), ("ramdisk".toList, [4, 5])]

/-- The disk the image is unpacked on. -/
def unpackedDisk : Text → Option Bytes :=
  diskWith
    (("/work/dtb_oc".toList, [6, 7, 8]) ::
      recoveryBoot.files.map fun file =>
        (pathJoin "/work/unpack".toList file.1, file.2))

theorem exists_recoveryBoot :
    ∃ image,
      recoveryBoot.arguments.writeVendorBoot = some image ∧
        mkbootimg recoveryDisk recoveryWords = some image ∧
          ∀ tail,
            unpackVendorBootImage "/work/unpack".toList (image ++ tail) =
              some
                (recoveryBoot.info "/work/unpack".toList,
                  recoveryBoot.files) := by
  have parsed :
      parseCmdline recoveryDisk recoveryWords =
        some
          { recoveryBoot.arguments with
            base := 0x40000000
            kernelOffset := 0x00008000
            ramdiskOffset := 0x01000000
            tagsOffset := 0x00000100
            dtbOffset := 0x01f00000 } := by
    decide +kernel
  have isWritten :
      recoveryBoot.arguments.writeVendorBoot.isSome = true := by
    decide +kernel
  obtain ⟨image, written⟩ := Option.isSome_iff_exists.mp isWritten
  refine ⟨image, written, ?_, fun tail => ?_⟩
  · rw [mkbootimg, parsed, Option.bind_some, ← written]
    refine SameImage.writeVendorBoot
      ⟨rfl, rfl, ?_, ?_, ?_, ?_, rfl, rfl, rfl, rfl, rfl, rfl,
        fun _ => rfl⟩
    all_goals decide +kernel
  · rw [recoveryBoot.unpackVendorBootImage_append written]
    exact if_pos (by decide +kernel)

theorem readable_recoveryBoot :
    Readable (recoveryBoot.info "/work/unpack".toList) := by
  refine ⟨by decide, ?_, ?_, ?_⟩ <;> unfold IsValue
  · decide +kernel
  · decide +kernel
  · unfold LeftOver
    decide +kernel

theorem mkbootimg_formatMkbootimgArgument_example :
    ∃ image,
      mkbootimg recoveryDisk recoveryWords = some image ∧
        mkbootimg unpackedDisk
            ((recoveryBoot.info
                "/work/unpack".toList).formatMkbootimgArgument ++
              ["--vendor_boot".toList, "repacked.img".toList]) =
          some image := by
  obtain ⟨image, -, made, unpacked⟩ := exists_recoveryBoot
  have holds :
      Holds unpackedDisk "/work/unpack".toList recoveryBoot.files := by
    unfold Holds
    decide +kernel
  exact ⟨image, made,
    mkbootimg_formatMkbootimgArgument made (unpacked [])
      readable_recoveryBoot holds (isValue_of_head (by decide))⟩

/-! ## Another device tree -/

section OtherTree

variable {args : VendorBootArguments} {dtb : Bytes}

/-- A header has room for any section of less than four GiB. -/
theorem exists_header_dtb
    {header : Bytes}
    (written : args.header = some header)
    (short : dtb.length < 256 ^ 4) :
    ∃ other, { args with dtb := dtb }.header = some other := by
  have packed :
      packInteger 4 (dtb.length : Int) =
        some (littleEndian 4 dtb.length) := by
    rw [packInteger, if_pos ⟨Int.natCast_nonneg _, by exact_mod_cast short⟩,
      Int.toNat_natCast]
  have ramdisks : { args with dtb := dtb }.ramdisks = args.ramdisks := rfl
  have size : { args with dtb := dtb }.headerSize = args.headerSize := rfl
  have table : { args with dtb := dtb }.tableFields = args.tableFields :=
    rfl
  simp only [VendorBootArguments.header, Option.bind_eq_bind,
    Option.bind_eq_some_iff] at written
  obtain ⟨version, versionPacked, pagesize, pagesizePacked, kernel,
    kernelPacked, ramdisk, ramdiskPacked, ramdiskSize, ramdiskSizePacked,
    tags, tagsPacked, headerSize, headerSizePacked, dtbSize, -, dtbAddress,
    dtbAddressPacked, fields, fieldsPacked, -⟩ := written
  simp only [VendorBootArguments.header, ramdisks, size, table,
    versionPacked, pagesizePacked, kernelPacked, ramdiskPacked,
    ramdiskSizePacked, tagsPacked, headerSizePacked, packed,
    dtbAddressPacked, fieldsPacked, Option.bind_eq_bind, Option.bind_some]
  exact ⟨_, rfl⟩

theorem exists_writeVendorBoot_dtb
    {image : Bytes}
    (written : args.writeVendorBoot = some image)
    (short : dtb.length < 256 ^ 4) :
    ∃ payload,
      { args with dtb := dtb }.writeVendorBoot = some payload := by
  rw [VendorBootArguments.writeVendorBoot] at written
  split at written
  case isTrue accepted =>
      simp only [Option.bind_eq_bind, Option.bind_eq_some_iff] at written
      obtain ⟨header, headerWritten, written⟩ := written
      obtain ⟨other, otherWritten⟩ := exists_header_dtb headerWritten short
      rw [VendorBootArguments.writeVendorBoot, if_pos accepted,
        otherWritten]
      simp only [Option.bind_eq_bind, Option.bind_some]
      split at written
      case isTrue table =>
          simp only [Option.bind_eq_some_iff] at written
          obtain ⟨entries, entriesWritten, -⟩ := written
          rw [if_pos table, entriesWritten]
          exact ⟨_, rfl⟩
      case isFalse plain =>
          rw [if_neg plain]
          exact ⟨_, rfl⟩
  case isFalse =>
      cases written

end OtherTree

/-- The files of an image with another device tree. -/
theorem VendorBoot.files_dtb
    (boot : VendorBoot)
    (present : 0 < boot.dtb.length)
    {dtb : Bytes}
    (nonempty : 0 < dtb.length) :
    { boot with dtb := dtb }.files =
      boot.files.map fun file =>
        if file.1 = "dtb".toList then (file.1, dtb) else file := by
  have ramdisks (rows : List (VendorFragment × Nat)) :
      (rows.map fun row => (outputRamdiskName row.2, row.1.content)).map
          (fun file =>
            if file.1 = "dtb".toList then (file.1, dtb) else file) =
        rows.map fun row => (outputRamdiskName row.2, row.1.content) := by
    rw [List.map_map]
    refine List.map_congr_left fun row _ => ?_
    have other : outputRamdiskName row.2 ≠ "dtb".toList := nofun
    rw [Function.comp_apply, if_neg other]
  rw [files, files]
  dsimp only
  rw [if_pos present, if_pos nonempty]
  split
  · rw [List.map_append, ramdisks]
    rfl
  · rfl

/--
With the arguments the script passes on, the stock image is made again with the
other device tree table, and nothing else in it changes.
-/
theorem mkbootimg_receivedArguments
    {disk : Text → Option Bytes}
    {words : List Text}
    {stock tail : Bytes}
    (made : mkbootimg disk words = some stock)
    {work : Text}
    {info : VendorBootInfo}
    {files : List (Text × Bytes)}
    (unpacked :
      unpackVendorBootImage (pathJoin work "unpack".toList)
          (stock ++ tail) =
        some (info, files))
    (hasDtb : 0 < info.dtbSize)
    (plainWork : work.all isWorkCharacter = true)
    (repackable : Repackable info)
    (readable : Readable info)
    {glob : Text → List Text}
    (lawful : LawfulGlob glob)
    {workDisk : Text → Option Bytes}
    (holds : Holds workDisk (pathJoin work "unpack".toList) files)
    {table : Bytes}
    (atDtbOc : workDisk (dtbOc work) = some table)
    (nonempty : 0 < table.length)
    (short : table.length < 256 ^ 4) :
    ∃ payload,
      mkbootimg workDisk
          (receivedArguments glob info work ++
            ["--vendor_boot".toList,
              pathJoin work "vendor_boot_payload.img".toList]) =
        some payload ∧
        ∀ verify behind,
          unpackVendorBootImage verify (payload ++ behind) =
            some
              ({ info with dtbSize := table.length, imageDir := verify },
                files.map fun file =>
                  if file.1 = "dtb".toList then
                    (file.1, table)
                  else
                    file) := by
  obtain ⟨boot, written, linkable, rfl, rfl⟩ :=
    exists_contents made unpacked
  have present : 0 < boot.dtb.length := hasDtb
  have noDash : work.head? ≠ some '-' := by
    intro dash
    apply readable.imageDir
    obtain ⟨rest, rfl⟩ := List.head?_eq_some_iff.mp dash
    rfl
  have isDtbOc : IsValue bootOptions (dtbOc work) :=
    isValue_pathJoin noDash _
  have sameTable :
      ∀ entry ∈ { boot with dtb := table }.table, Linkable entry :=
    linkable
  obtain ⟨payload, rebuilt⟩ := exists_writeVendorBoot_dtb written short
  refine ⟨payload, ?_, fun verify behind => ?_⟩
  · rw [receivedArguments_of_repackable hasDtb plainWork rfl repackable
      lawful, expectedArguments,
      VendorBoot.mkbootimg_argumentsWithDtb readable holds isDtbOc
        (isValue_pathJoin noDash _) (fun _ => atDtbOc)
        (fun absent => by simp [absent] at present)]
    exact rebuilt
  · have other :=
      VendorBoot.unpackVendorBootImage_append { boot with dtb := table }
        rebuilt behind verify
    rw [if_pos sameTable, boot.files_dtb present nonempty] at other
    exact other

theorem mkbootimg_receivedArguments_example :
    ∃ payload,
      mkbootimg unpackedDisk
          (receivedArguments (fun word => [word])
              (recoveryBoot.info "/work/unpack".toList) "/work".toList ++
            ["--vendor_boot".toList,
              pathJoin "/work".toList "vendor_boot_payload.img".toList]) =
        some payload ∧
        ∀ verify behind,
          unpackVendorBootImage verify (payload ++ behind) =
            some
              ({ recoveryBoot.info "/work/unpack".toList with
                  dtbSize := 3, imageDir := verify },
                recoveryBoot.files.map fun file =>
                  if file.1 = "dtb".toList then
                    (file.1, [6, 7, 8])
                  else
                    file) := by
  obtain ⟨image, -, made, unpacked⟩ := exists_recoveryBoot
  have inWork :
      unpackVendorBootImage
          (pathJoin "/work".toList "unpack".toList) (image ++ []) =
        some
          (recoveryBoot.info "/work/unpack".toList, recoveryBoot.files) :=
    unpacked []
  have holds :
      Holds unpackedDisk (pathJoin "/work".toList "unpack".toList)
        recoveryBoot.files := by
    unfold Holds
    decide +kernel
  have atDtbOc : unpackedDisk (dtbOc "/work".toList) = some [6, 7, 8] := by
    decide +kernel
  have lawful : LawfulGlob fun word => [word] := fun _ _ => rfl
  exact mkbootimg_receivedArguments made inWork (by decide) (by decide)
    (by decide +kernel) readable_recoveryBoot lawful holds atDtbOc
    (by decide) (by decide)

end OverclockBuilder
