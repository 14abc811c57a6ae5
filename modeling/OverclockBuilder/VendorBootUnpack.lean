import OverclockBuilder.ByteText
import OverclockBuilder.PagedSections
import OverclockBuilder.RepackArguments
import OverclockBuilder.VendorBootImage

namespace OverclockBuilder

open RadixText BytePacking PagedSections

/-!
# Unpacking a vendor boot image

What `unpack_bootimg.py` reads of a vendor boot image, and the files it writes.
An image that `mkbootimg.py` laid out is described by its contents, and these
are what is unpacked.
-/

/-! ## Reading -/

/-- `unpack('Q', ..)` of the field at an offset -/
def readLong (offset : Nat) (image : Bytes) : Option Nat :=
  let field := slice offset 8 image
  if field.length = 8 then some (ofLittleEndian field) else none

/-- `cstr` -/
def cstr (text : Text) : Text :=
  text.takeWhile (· ≠ '\x00')

/-- `cstr(unpack('{width}s', ..)[0].decode())` of the field at an offset -/
def readText (offset width : Nat) (image : Bytes) : Option Text :=
  let field := slice offset width image
  if field.length = width then (decodeUtf8 field).map cstr else none

/-- The header fields of both versions. -/
structure VendorBootHeader where
  headerVersion : Nat
  pageSize : Nat
  kernelLoadAddress : Nat
  ramdiskLoadAddress : Nat
  vendorRamdiskSize : Nat
  cmdline : Text
  tagsLoadAddress : Nat
  productName : Text
  headerSize : Nat
  dtbSize : Nat
  dtbLoadAddress : Nat
  deriving Repr, DecidableEq

/-- The header fields in file order, up to `dtb_load_address`. -/
def readVendorBootHeader (image : Bytes) : Option VendorBootHeader := do
  let headerVersion ← readInteger 8 image
  let pageSize ← readInteger 12 image
  let kernelLoadAddress ← readInteger 16 image
  let ramdiskLoadAddress ← readInteger 20 image
  let vendorRamdiskSize ← readInteger 24 image
  let cmdline ← readText 28 vendorBootArgsSize image
  let tagsLoadAddress ← readInteger 2076 image
  let productName ← readText 2080 vendorBootNameSize image
  let headerSize ← readInteger 2096 image
  let dtbSize ← readInteger 2100 image
  let dtbLoadAddress ← readLong 2104 image
  some
    { headerVersion, pageSize, kernelLoadAddress, ramdiskLoadAddress,
      vendorRamdiskSize, cmdline, tagsLoadAddress, productName, headerSize,
      dtbSize, dtbLoadAddress }

namespace VendorBootHeader

/-- The first pages contain the boot header. -/
def bootHeaderPages (header : VendorBootHeader) : Nat :=
  getNumberOfPages header.headerSize header.pageSize

def bootRamdiskPages (header : VendorBootHeader) : Nat :=
  getNumberOfPages header.vendorRamdiskSize header.pageSize

def bootDtbPages (header : VendorBootHeader) : Nat :=
  getNumberOfPages header.dtbSize header.pageSize

/-- `ramdisk_offset_base` -/
def ramdiskOffsetBase (header : VendorBootHeader) : Nat :=
  header.pageSize * header.bootHeaderPages

/-- `dtb_offset` -/
def dtbOffset (header : VendorBootHeader) : Nat :=
  header.pageSize * (header.bootHeaderPages + header.bootRamdiskPages)

/-- `vendor_ramdisk_table_offset` -/
def vendorRamdiskTableOffset (header : VendorBootHeader) : Nat :=
  header.pageSize *
    (header.bootHeaderPages + header.bootRamdiskPages + header.bootDtbPages)

end VendorBootHeader

/-- The file of an image that is extracted as `dtb`, if any. -/
def dtbFile (header : VendorBootHeader) (image : Bytes) :
    List (Text × Bytes) :=
  if 0 < header.dtbSize then
    [("dtb".toList, slice header.dtbOffset header.dtbSize image)]
  else
    []

/-- `unpack('{count}I', ..)` of the fields at an offset -/
def readIntegers (image : Bytes) : Nat → Nat → Option (List Nat)
  | 0, _ =>
      some []
  | count + 1, offset => do
      let value ← readInteger offset image
      let rest ← readIntegers image count (offset + 4)
      some (value :: rest)

/-- An entry of the table: size and offset of its ramdisk, and the rest. -/
def readTableEntry (image : Bytes) (offset : Nat) :
    Option (Nat × Nat × VendorRamdisk) := do
  let ramdiskSize ← readInteger offset image
  let ramdiskOffset ← readInteger (offset + 4) image
  let ramdiskType ← readInteger (offset + 8) image
  let ramdiskName ← readText (offset + 12) vendorRamdiskNameSize image
  let boardId ← readIntegers image 16 (offset + 44)
  some (ramdiskSize, ramdiskOffset, { ramdiskType, ramdiskName, boardId })

/-- The loop over the entries, from an offset on. -/
def readTableEntries (image : Bytes) (entrySize : Nat) :
    Nat → Nat → Option (List (Nat × Nat × VendorRamdisk))
  | 0, _ =>
      some []
  | count + 1, offset => do
      let row ← readTableEntry image offset
      let rest ← readTableEntries image entrySize count (offset + entrySize)
      some (row :: rest)

/-- The symbolic link by name has no directory to stand in. -/
def Linkable (entry : VendorRamdisk) : Prop :=
  '/' ∉ entry.ramdiskName

instance (entry : VendorRamdisk) : Decidable (Linkable entry) :=
  inferInstanceAs (Decidable (_ ∉ _))

/-- The entries of the table, and the files of a version 4 image. -/
def unpackTable (header : VendorBootHeader) (image : Bytes) :
    Option (List VendorRamdisk × List (Text × Bytes)) := do
  let tableSize ← readInteger 2112 image
  let entryNum ← readInteger 2116 image
  let entrySize ← readInteger 2120 image
  let bootconfigSize ← readInteger 2124 image
  let rows ←
    readTableEntries image entrySize entryNum header.vendorRamdiskTableOffset
  let ramdisks := rows.zipIdx.map fun (row, idx) =>
    (outputRamdiskName idx,
      slice (header.ramdiskOffsetBase + row.2.1) row.1 image)
  let bootconfigOffset :=
    header.vendorRamdiskTableOffset +
      header.pageSize * getNumberOfPages tableSize header.pageSize
  let bootconfig := slice bootconfigOffset bootconfigSize image
  let table := rows.map fun row => row.2.2
  if ∀ entry ∈ table, Linkable entry then
    some
      (table,
        ramdisks ++ ("bootconfig".toList, bootconfig) ::
          dtbFile header image)
  else
    none

/--
`unpack_vendor_boot_image`: the fields of the info that the argument list is
made of, and the files in the output directory.

The symbolic links are left out; a version 4 image whose ramdisk names do not
fit one file name fails when they are made.
-/
def unpackVendorBootImage (outputDir : Text) (image : Bytes) :
    Option (VendorBootInfo × List (Text × Bytes)) := do
  let header ← readVendorBootHeader image
  if slice 0 8 image = vendorBootMagic ∧ 0 < header.pageSize then
    let (table, files) ←
      if 3 < header.headerVersion then
        unpackTable header image
      else
        some
          ([],
            ("vendor_ramdisk".toList,
              slice header.ramdiskOffsetBase header.vendorRamdiskSize
                image) ::
              dtbFile header image)
    some
      ({ headerVersion := header.headerVersion
         pageSize := header.pageSize
         kernelLoadAddress := header.kernelLoadAddress
         ramdiskLoadAddress := header.ramdiskLoadAddress
         tagsLoadAddress := header.tagsLoadAddress
         dtbLoadAddress := header.dtbLoadAddress
         cmdline := header.cmdline
         productName := header.productName
         dtbSize := header.dtbSize
         vendorRamdiskTable := table
         imageDir := outputDir },
        files)
  else
    none

/-! ## The contents of an image -/

/-- `AsciizBytes`: the bytes of a text and a NUL. -/
def asciiz (text : Text) : Bytes :=
  encodeUtf8 text ++ [0]

/-- A text that fits a field with its NUL, and has no other. -/
def FitsAsciiz (width : Nat) (text : Text) : Prop :=
  '\x00' ∉ text ∧ (asciiz text).length ≤ width

instance (width : Nat) (text : Text) : Decidable (FitsAsciiz width text) :=
  inferInstanceAs (Decidable (_ ∧ _))

/-- A ramdisk name without trailing NULs, as names are compared. -/
def strippedName (name : Bytes) : Bytes :=
  name.rdropWhile (· = 0)

/-- `VENDOR_RAMDISK_NAME_BLOCKLIST` -/
def vendorRamdiskNameBlocklist : List Bytes :=
  [encodeUtf8 "default".toList]

/-- Names that `add_entry` takes one after the other. -/
def AcceptedNames (names : List Bytes) : Prop :=
  names.Nodup ∧ ∀ name ∈ names, name ∉ vendorRamdiskNameBlocklist

instance (names : List Bytes) : Decidable (AcceptedNames names) :=
  inferInstanceAs (Decidable (_ ∧ _))

/-- A ramdisk fragment and its row of the table. -/
structure VendorFragment where
  entry : VendorRamdisk
  content : Bytes
  nameFits : FitsAsciiz vendorRamdiskNameSize entry.ramdiskName
  boardIdLength : entry.boardId.length = 16
  boardIdFits : ∀ word ∈ entry.boardId, word < 4294967296

/-- The name of a fragment, as names are compared. -/
def VendorFragment.stripped (fragment : VendorFragment) : Bytes :=
  strippedName (asciiz fragment.entry.ramdiskName)

/-- What a vendor boot image is made of. -/
structure VendorBoot where
  headerVersion : Nat
  pageSize : Nat
  kernelLoadAddress : Nat
  ramdiskLoadAddress : Nat
  tagsLoadAddress : Nat
  dtbLoadAddress : Nat
  cmdline : Text
  productName : Text
  dtb : Bytes
  /-- the ramdisk of version 3 -/
  vendorRamdisk : Bytes
  bootconfig : Bytes
  fragments : List VendorFragment
  version : headerVersion = 3 ∨ headerVersion = 4
  page : pageSize ∈ pageSizes
  cmdlineFits : FitsAsciiz vendorBootArgsSize cmdline
  productNameFits : FitsAsciiz vendorBootNameSize productName
  plain : headerVersion = 3 → fragments = []
  names : AcceptedNames (fragments.map VendorFragment.stripped)

namespace VendorBoot

/-- The fragment as `mkbootimg.py` holds it. -/
def fragmentArgument (fragment : VendorFragment) : RamdiskFragment where
  content := fragment.content
  ramdiskType := fragment.entry.ramdiskType
  ramdiskName := asciiz fragment.entry.ramdiskName
  boardId := fragment.entry.boardId.map Int.ofNat

/-- The arguments of `mkbootimg.py` with a base of zero. -/
def arguments (boot : VendorBoot) : VendorBootArguments where
  headerVersion := boot.headerVersion
  pagesize := boot.pageSize
  base := 0
  kernelOffset := boot.kernelLoadAddress
  ramdiskOffset := boot.ramdiskLoadAddress
  tagsOffset := boot.tagsLoadAddress
  dtbOffset := boot.dtbLoadAddress
  vendorCmdline := asciiz boot.cmdline
  board := asciiz boot.productName
  dtb := boot.dtb
  vendorRamdisk := boot.vendorRamdisk
  vendorBootconfig := boot.bootconfig
  fragments := boot.fragments.map fragmentArgument

/-- The rows of the table. -/
def table (boot : VendorBoot) : List VendorRamdisk :=
  boot.fragments.map VendorFragment.entry

/-- The info that is unpacked into a directory. -/
def info (boot : VendorBoot) (outputDir : Text) : VendorBootInfo where
  headerVersion := boot.headerVersion
  pageSize := boot.pageSize
  kernelLoadAddress := boot.kernelLoadAddress
  ramdiskLoadAddress := boot.ramdiskLoadAddress
  tagsLoadAddress := boot.tagsLoadAddress
  dtbLoadAddress := boot.dtbLoadAddress
  cmdline := boot.cmdline
  productName := boot.productName
  dtbSize := boot.dtb.length
  vendorRamdiskTable := boot.table
  imageDir := outputDir

/-- The header fields of the image. -/
def header (boot : VendorBoot) : VendorBootHeader where
  headerVersion := boot.headerVersion
  pageSize := boot.pageSize
  kernelLoadAddress := boot.kernelLoadAddress
  ramdiskLoadAddress := boot.ramdiskLoadAddress
  vendorRamdiskSize := boot.arguments.ramdisks.length
  cmdline := boot.cmdline
  tagsLoadAddress := boot.tagsLoadAddress
  productName := boot.productName
  headerSize := boot.arguments.headerSize
  dtbSize := boot.dtb.length
  dtbLoadAddress := boot.dtbLoadAddress

/-- The files that are unpacked. -/
def files (boot : VendorBoot) : List (Text × Bytes) :=
  let dtb :=
    if 0 < boot.dtb.length then [("dtb".toList, boot.dtb)] else []
  if 3 < boot.headerVersion then
    (boot.fragments.zipIdx.map fun (fragment, idx) =>
        (outputRamdiskName idx, fragment.content)) ++
      ("bootconfig".toList, boot.bootconfig) :: dtb
  else
    ("vendor_ramdisk".toList, boot.vendorRamdisk) :: dtb

end VendorBoot

/-! ## Fields at a place -/

section Fields

variable {image field rest : Bytes} {offset width : Nat}

theorem drop_behind
    (here : image.drop offset = field ++ rest)
    (wide : field.length = width) :
    image.drop (offset + width) = rest := by
  rw [← List.drop_drop, here, List.drop_left' wide]

theorem slice_here
    (here : image.drop offset = field ++ rest)
    (wide : field.length = width) :
    slice offset width image = field := by
  rw [slice, here, List.take_left' wide]

theorem readInteger_here
    {value : Nat}
    (packed : packInteger 4 value = some field)
    (here : image.drop offset = field ++ rest) :
    readInteger offset image = some value := by
  have wide := length_packInteger packed
  rw [readInteger, slice_here here wide]
  simp only [wide, ↓reduceIte, ofLittleEndian_packInteger packed]

theorem readLong_here
    {value : Nat}
    (packed : packInteger 8 value = some field)
    (here : image.drop offset = field ++ rest) :
    readLong offset image = some value := by
  have wide := length_packInteger packed
  rw [readLong, slice_here here wide]
  simp only [wide, ↓reduceIte, Option.some.injEq]
  unfold packInteger at packed
  split at packed
  · rename_i bounds
    rw [← Option.some.inj packed, ofLittleEndian_littleEndian,
      Int.toNat_natCast]
    exact Nat.mod_eq_of_lt (by exact_mod_cast bounds.2)
  · cases packed

/-- The NULs of a field end its text. -/
theorem readText_here
    {text : Text}
    (fits : FitsAsciiz width text)
    (here : image.drop offset = packString width (asciiz text) ++ rest) :
    readText offset width image = some text := by
  obtain ⟨noNul, short⟩ := fits
  have nuls (count : Nat) :
      encodeUtf8 (List.replicate count '\x00') = List.replicate count 0 := by
    induction count with
    | zero =>
        rfl
    | succ count inductionHypothesis =>
        rw [List.replicate_succ, encodeUtf8, List.flatMap_cons]
        rw [encodeUtf8] at inductionHypothesis
        rw [inductionHypothesis]
        rfl
  have padded :
      packString width (asciiz text) =
        encodeUtf8
          (text ++ '\x00' :: List.replicate (width - (asciiz text).length)
            '\x00') := by
    rw [packString, List.take_of_length_le short, asciiz,
      ← List.replicate_succ, encodeUtf8_append, nuls,
      List.replicate_succ, List.append_assoc]
    rfl
  rw [readText, slice_here here (length_packString width _)]
  simp only [length_packString, ↓reduceIte]
  rw [padded, decodeUtf8_encodeUtf8, Option.map_some, cstr,
    List.takeWhile_append_of_pos]
  · simp
  · intro character member
    simp only [ne_eq, decide_not, Bool.not_eq_eq_eq_not, Bool.not_true,
      decide_eq_false_iff_not]
    rintro rfl
    exact noNul member

end Fields

/-! ## The header -/

/-- The fields of a header are read back, and the table fields follow. -/
theorem readVendorBootHeader_of_header
    (boot : VendorBoot)
    {header : Bytes}
    (written : boot.arguments.header = some header)
    {image rest : Bytes}
    (starts : image = header ++ rest) :
    readVendorBootHeader image = some boot.header ∧
      slice 0 8 image = vendorBootMagic ∧
        ∃ table,
          boot.arguments.tableFields = some table ∧
            image.drop 2112 = table ++ rest := by
  simp only [VendorBootArguments.header, Option.bind_eq_bind,
    Option.bind_eq_some_iff, Option.some.injEq] at written
  obtain ⟨version, versionPacked, pagesize, pagesizePacked, kernel,
    kernelPacked, ramdisk, ramdiskPacked, ramdiskSize, ramdiskSizePacked,
    tags, tagsPacked, headerSize, headerSizePacked, dtbSize, dtbSizePacked,
    dtbAddress, dtbAddressPacked, table, tablePacked, rfl⟩ := written
  simp only [List.append_assoc] at starts
  have address {value width : Nat} {field : Bytes}
      (packed : packInteger width (0 + (value : Int)) = some field) :
      packInteger width value = some field := by
    rwa [Int.zero_add] at packed
  have atMagic := List.drop_zero.trans starts
  have magicLength : vendorBootMagic.length = 8 := rfl
  have atVersion := drop_behind atMagic magicLength
  have atPagesize := drop_behind atVersion (length_packInteger versionPacked)
  have atKernel := drop_behind atPagesize (length_packInteger pagesizePacked)
  have atRamdisk := drop_behind atKernel (length_packInteger kernelPacked)
  have atRamdiskSize :=
    drop_behind atRamdisk (length_packInteger ramdiskPacked)
  have atCmdline :=
    drop_behind atRamdiskSize (length_packInteger ramdiskSizePacked)
  have atTags : image.drop 2076 = _ :=
    drop_behind atCmdline (length_packString _ _)
  have atBoard := drop_behind atTags (length_packInteger tagsPacked)
  have atHeaderSize : image.drop 2096 = _ :=
    drop_behind atBoard (length_packString _ _)
  have atDtbSize :=
    drop_behind atHeaderSize (length_packInteger headerSizePacked)
  have atDtbAddress :=
    drop_behind atDtbSize (length_packInteger dtbSizePacked)
  have atTable :=
    drop_behind atDtbAddress (length_packInteger dtbAddressPacked)
  refine ⟨?_, slice_here atMagic rfl, table, tablePacked, atTable⟩
  rw [readVendorBootHeader, readInteger_here versionPacked atVersion,
    readInteger_here pagesizePacked atPagesize,
    readInteger_here (address kernelPacked) atKernel,
    readInteger_here (address ramdiskPacked) atRamdisk,
    readInteger_here ramdiskSizePacked atRamdiskSize,
    readText_here boot.cmdlineFits atCmdline,
    readInteger_here (address tagsPacked) atTags,
    readText_here boot.productNameFits atBoard,
    readInteger_here headerSizePacked atHeaderSize,
    readInteger_here dtbSizePacked atDtbSize,
    readLong_here (address dtbAddressPacked) atDtbAddress]
  rfl

/-! ## The table -/

section Table

variable {image rest : Bytes}

theorem readIntegers_here
    {values : List Nat}
    {fields : List Bytes}
    (packed : (values.map Int.ofNat).mapM (packInteger 4) = some fields)
    {offset : Nat}
    (here : image.drop offset = fields.flatten ++ rest) :
    readIntegers image values.length offset = some values ∧
      image.drop (offset + 4 * values.length) = rest := by
  induction values generalizing fields offset with
  | nil =>
      cases packed
      exact ⟨rfl, here⟩
  | cons value values inductionHypothesis =>
      simp only [List.map_cons, List.mapM_cons, Option.bind_eq_bind,
        Option.bind_eq_some_iff, Option.pure_def, Option.some.injEq]
        at packed
      obtain ⟨field, first, others, later, rfl⟩ := packed
      have packedValue : packInteger 4 (value : Int) = some field := first
      rw [List.flatten_cons, List.append_assoc] at here
      obtain ⟨readRest, behind⟩ :=
        inductionHypothesis later
          (drop_behind here (length_packInteger first))
      refine ⟨?_, ?_⟩
      · rw [List.length_cons, readIntegers,
          readInteger_here packedValue here, readRest]
        rfl
      · rw [List.length_cons,
          show offset + 4 * (values.length + 1) =
            offset + 4 + 4 * values.length by omega]
        exact behind

/-- The rows of some fragments, from an offset among the ramdisks on. -/
def VendorBoot.rows :
    Nat → List VendorFragment → List (Nat × Nat × VendorRamdisk)
  | _, [] =>
      []
  | offset, fragment :: rest =>
      (fragment.content.length, offset, fragment.entry) ::
        rows (offset + fragment.content.length) rest

theorem map_rows (offset : Nat) (fragments : List VendorFragment) :
    (VendorBoot.rows offset fragments).map (fun row => row.2.2) =
      fragments.map VendorFragment.entry := by
  induction fragments generalizing offset with
  | nil =>
      rfl
  | cons fragment others inductionHypothesis =>
      rw [VendorBoot.rows, List.map_cons, List.map_cons,
        inductionHypothesis]

/-- The rows that were written are read back. -/
theorem readTableEntries_here
    {fragments : List VendorFragment}
    {offset : Nat}
    {entries : Bytes}
    (written :
      VendorBootArguments.tableEntries offset
          (fragments.map VendorBoot.fragmentArgument) =
        some entries)
    {place : Nat}
    (here : image.drop place = entries ++ rest) :
    readTableEntries image vendorRamdiskTableEntrySize fragments.length
        place =
      some (VendorBoot.rows offset fragments) := by
  induction fragments generalizing offset entries place with
  | nil =>
      rfl
  | cons fragment others inductionHypothesis =>
      simp only [List.map_cons, VendorBootArguments.tableEntries,
        VendorBoot.fragmentArgument, Option.bind_eq_bind,
        Option.bind_eq_some_iff, Option.some.injEq] at written
      obtain ⟨size, sizePacked, start, startPacked, ramdiskType,
        typePacked, boardId, boardIdPacked, later, laterWritten, rfl⟩ :=
        written
      simp only [List.append_assoc] at here
      have atStart := drop_behind here (length_packInteger sizePacked)
      have atType := drop_behind atStart (length_packInteger startPacked)
      have atName := drop_behind atType (length_packInteger typePacked)
      have atBoardId : image.drop (place + 4 + 4 + 4 + 32) = _ :=
        drop_behind atName (length_packString vendorRamdiskNameSize _)
      obtain ⟨readBoardId, behind⟩ :=
        readIntegers_here boardIdPacked atBoardId
      rw [fragment.boardIdLength] at readBoardId behind
      have readRow :
          readTableEntry image place =
            some (fragment.content.length, offset, fragment.entry) := by
        rw [readTableEntry, readInteger_here sizePacked here,
          readInteger_here startPacked atStart,
          readInteger_here typePacked atType,
          readText_here fragment.nameFits atName, readBoardId]
        rfl
      have readRest := inductionHypothesis laterWritten behind
      rw [List.length_cons, readTableEntries, readRow]
      simp only [Option.bind_eq_bind, Option.bind_some]
      rw [show place + vendorRamdiskTableEntrySize =
        place + 44 + 4 * 16 from rfl, readRest]
      rfl

theorem length_packIntegers
    {values : List Int}
    {fields : List Bytes}
    (packed : values.mapM (packInteger 4) = some fields) :
    fields.flatten.length = 4 * values.length := by
  induction values generalizing fields with
  | nil =>
      cases packed
      rfl
  | cons value values inductionHypothesis =>
      simp only [List.mapM_cons, Option.bind_eq_bind,
        Option.bind_eq_some_iff, Option.pure_def, Option.some.injEq]
        at packed
      obtain ⟨field, first, others, later, rfl⟩ := packed
      rw [List.flatten_cons, List.length_append, length_packInteger first,
        inductionHypothesis later, List.length_cons]
      omega

/-- Every row takes up its size. -/
theorem length_tableEntries
    {fragments : List VendorFragment}
    {offset : Nat}
    {entries : Bytes}
    (written :
      VendorBootArguments.tableEntries offset
          (fragments.map VendorBoot.fragmentArgument) =
        some entries) :
    entries.length = fragments.length * vendorRamdiskTableEntrySize := by
  induction fragments generalizing offset entries with
  | nil =>
      cases written
      rfl
  | cons fragment others inductionHypothesis =>
      simp only [List.map_cons, VendorBootArguments.tableEntries,
        VendorBoot.fragmentArgument, Option.bind_eq_bind,
        Option.bind_eq_some_iff, Option.some.injEq] at written
      obtain ⟨size, sizePacked, start, startPacked, ramdiskType,
        typePacked, boardId, boardIdPacked, later, laterWritten, rfl⟩ :=
        written
      simp only [List.length_append, length_packInteger sizePacked,
        length_packInteger startPacked, length_packInteger typePacked,
        length_packString, length_packIntegers boardIdPacked,
        List.length_map, fragment.boardIdLength,
        inductionHypothesis laterWritten, List.length_cons,
        vendorRamdiskNameSize, vendorRamdiskTableEntrySize]
      omega

/-- The ramdisks are found where their rows say. -/
theorem slices_rows
    {base offset : Nat}
    {fragments : List VendorFragment}
    (here :
      image.drop (base + offset) =
        fragments.flatMap VendorFragment.content ++ rest)
    (index : Nat) :
    (((VendorBoot.rows offset fragments).zipIdx index).map fun row =>
        (outputRamdiskName row.2,
          slice (base + row.1.2.1) row.1.1 image)) =
      (fragments.zipIdx index).map fun fragment =>
        (outputRamdiskName fragment.2, fragment.1.content) := by
  induction fragments generalizing offset index with
  | nil =>
      rfl
  | cons fragment others inductionHypothesis =>
      rw [List.flatMap_cons, List.append_assoc] at here
      have behind := drop_behind here rfl
      rw [Nat.add_assoc] at behind
      simp only [VendorBoot.rows, List.zipIdx_cons, List.map_cons,
        inductionHypothesis behind, slice_here here rfl]

end Table

/-! ## The sections -/

theorem page_pos {page : Nat} (member : page ∈ pageSizes) : 0 < page := by
  simp only [pageSizes, List.mem_cons, List.not_mem_nil, or_false]
    at member
  omega

theorem padFile_eq_pad
    {page : Nat}
    (member : page ∈ pageSizes)
    (content : Bytes) :
    padFile page content = pad page content := by
  have length := length_padFile member content
  rw [padFile, List.length_append, List.length_replicate] at length
  have enough := le_mul_pages (page_pos member) content.length
  have gap :
      (page - (content.length &&& (page - 1))) &&& (page - 1) =
        page * pages page content.length - content.length := by
    rw [getNumberOfPages] at length
    rw [pages]
    omega
  rw [padFile, pad, gap]

theorem padFile_file_append
    {page : Nat}
    (member : page ∈ pageSizes)
    (front : List Bytes)
    (content : Bytes) :
    padFile page (file page front ++ content) =
      file page (front ++ [content]) := by
  rw [padFile_eq_pad member, pad_file_append (page_pos member)]

/-- What is written is a file of padded sections. -/
theorem writeVendorBoot_eq_file
    {args : VendorBootArguments}
    {image : Bytes}
    (written : args.writeVendorBoot = some image) :
    args.pagesize ∈ pageSizes ∧
      ∃ header sections,
        args.header = some header ∧
          image =
            file args.pagesize
              (header :: args.ramdisks :: args.dtb :: sections) ∧
            (3 < args.headerVersion →
              ∃ entries,
                VendorBootArguments.tableEntries 0 args.fragments =
                    some entries ∧
                  sections = [entries, args.vendorBootconfig]) ∧
              (¬3 < args.headerVersion → sections = []) := by
  unfold VendorBootArguments.writeVendorBoot at written
  split at written
  case isTrue accepted =>
      simp only [Option.bind_eq_bind, Option.bind_eq_some_iff] at written
      obtain ⟨header, headerWritten, written⟩ := written
      have first :
          padFile args.pagesize header = file args.pagesize [header] :=
        padFile_file_append accepted.1 [] header
      have front :
          padFile args.pagesize (args.sectionsTo header) =
            file args.pagesize [header, args.ramdisks, args.dtb] := by
        rw [VendorBootArguments.sectionsTo, first,
          padFile_file_append accepted.1, padFile_file_append accepted.1]
        rfl
      refine ⟨accepted.1, header, ?_⟩
      split at written
      case isTrue four =>
          simp only [Option.bind_eq_some_iff, Option.some.injEq] at written
          obtain ⟨entries, entriesWritten, rfl⟩ := written
          refine ⟨[entries, args.vendorBootconfig], headerWritten, ?_,
            fun _ => ⟨entries, entriesWritten, rfl⟩,
            fun plain => (plain four).elim⟩
          rw [front, padFile_file_append accepted.1,
            padFile_file_append accepted.1]
          rfl
      case isFalse plain =>
          rw [Option.some.injEq] at written
          exact ⟨[], headerWritten, written.symm.trans front,
            fun four => (plain four).elim, fun _ => rfl⟩
  case isFalse =>
      cases written

/-- A header takes the pages that `header_size` says. -/
theorem length_header
    {args : VendorBootArguments}
    {header : Bytes}
    (written : args.header = some header) :
    header.length = args.headerSize :=
  (headerFields_of_header written).length

namespace VendorBoot

section Unpacking

variable {boot : VendorBoot} {header image tail : Bytes}
  {sections : List Bytes}

/-- The front of an image is its header. -/
theorem starts_with_header
    (isFile : image = file boot.pageSize (header :: sections) ++ tail) :
    ∃ rest, image = header ++ rest := by
  rw [file, List.flatMap_cons, pad, List.append_assoc, List.append_assoc]
    at isFile
  exact ⟨_, isFile⟩

/-- The ramdisks of an image. -/
theorem drop_ramdisks
    (written : boot.arguments.header = some header)
    (isFile :
      image =
        file boot.pageSize
            (header :: boot.arguments.ramdisks :: boot.dtb :: sections) ++
          tail) :
    ∃ rest,
      image.drop boot.header.ramdiskOffsetBase =
        boot.arguments.ramdisks ++ rest := by
  obtain ⟨rest, found⟩ :=
    drop_file (page_pos boot.page) [header] boot.arguments.ramdisks
      (boot.dtb :: sections) tail
  refine ⟨rest, ?_⟩
  rw [isFile, ← found, VendorBootHeader.ramdiskOffsetBase,
    VendorBootHeader.bootHeaderPages, pagesOf, List.map_cons, List.map_nil,
    List.sum_cons, List.sum_nil, Nat.add_zero, length_header written]
  rfl

/-- The device tree section of an image. -/
theorem slice_dtb
    (written : boot.arguments.header = some header)
    (isFile :
      image =
        file boot.pageSize
            (header :: boot.arguments.ramdisks :: boot.dtb :: sections) ++
          tail) :
    slice boot.header.dtbOffset boot.dtb.length image = boot.dtb := by
  obtain ⟨rest, found⟩ :=
    drop_file (page_pos boot.page) [header, boot.arguments.ramdisks]
      boot.dtb sections tail
  have here : image.drop boot.header.dtbOffset = boot.dtb ++ rest := by
    rw [isFile, ← found, VendorBootHeader.dtbOffset,
      VendorBootHeader.bootHeaderPages, VendorBootHeader.bootRamdiskPages,
      pagesOf]
    simp only [List.map_cons, List.map_nil, List.sum_cons, List.sum_nil,
      Nat.add_zero, length_header written]
    rfl
  exact slice_here here rfl

theorem dtbFile_of_file
    (written : boot.arguments.header = some header)
    (isFile :
      image =
        file boot.pageSize
            (header :: boot.arguments.ramdisks :: boot.dtb :: sections) ++
          tail) :
    dtbFile boot.header image =
      if 0 < boot.dtb.length then [("dtb".toList, boot.dtb)] else [] := by
  rw [dtbFile, show boot.header.dtbSize = boot.dtb.length from rfl,
    slice_dtb written isFile]

/-- The table of a version 4 image, and the files it lists. -/
theorem unpackTable_of_file
    (written : boot.arguments.header = some header)
    {entries : Bytes}
    (entriesWritten :
      VendorBootArguments.tableEntries 0 boot.arguments.fragments =
        some entries)
    (isFile :
      image =
        file boot.pageSize
            [header, boot.arguments.ramdisks, boot.dtb, entries,
              boot.bootconfig] ++
          tail)
    (four : 3 < boot.headerVersion) :
    unpackTable boot.header image =
      if ∀ entry ∈ boot.table, Linkable entry then
        some (boot.table, boot.files)
      else
        none := by
  obtain ⟨rest, starts⟩ := starts_with_header isFile
  obtain ⟨-, -, fields, fieldsPacked, atFields⟩ :=
    readVendorBootHeader_of_header boot written starts
  have four' : 3 < boot.arguments.headerVersion := four
  rw [VendorBootArguments.tableFields, if_pos four'] at fieldsPacked
  simp only [Option.bind_eq_bind, Option.bind_eq_some_iff,
    Option.some.injEq] at fieldsPacked
  obtain ⟨tableSize, tableSizePacked, entryNum, entryNumPacked, entrySize,
    entrySizePacked, bootconfigSize, bootconfigSizePacked, rfl⟩ :=
    fieldsPacked
  simp only [List.append_assoc] at atFields
  have atEntryNum :=
    drop_behind atFields (length_packInteger tableSizePacked)
  have atEntrySize :=
    drop_behind atEntryNum (length_packInteger entryNumPacked)
  have atBootconfigSize :=
    drop_behind atEntrySize (length_packInteger entrySizePacked)
  have entriesLength := length_tableEntries entriesWritten
  have count : boot.arguments.fragments.length = boot.fragments.length :=
    List.length_map _
  rw [count, ← Int.natCast_mul, ← entriesLength] at tableSizePacked
  rw [count] at entryNumPacked
  obtain ⟨behindRamdisks, atRamdisks⟩ := drop_ramdisks written isFile
  obtain ⟨behindEntries, atEntries⟩ :=
    drop_file (page_pos boot.page)
      [header, boot.arguments.ramdisks, boot.dtb] entries
      [boot.bootconfig] tail
  obtain ⟨behindBootconfig, atBootconfig⟩ :=
    drop_file (page_pos boot.page)
      [header, boot.arguments.ramdisks, boot.dtb, entries] boot.bootconfig []
      tail
  have tableOffset :
      boot.pageSize *
          pagesOf boot.pageSize [header, boot.arguments.ramdisks, boot.dtb] =
        boot.header.vendorRamdiskTableOffset := by
    simp only [pagesOf, List.map_cons, List.map_nil, List.sum_cons,
      List.sum_nil, Nat.add_zero, length_header written,
      VendorBootHeader.vendorRamdiskTableOffset, Nat.add_assoc]
    rfl
  have bootconfigOffset :
      boot.pageSize *
          pagesOf boot.pageSize
            [header, boot.arguments.ramdisks, boot.dtb, entries] =
        boot.header.vendorRamdiskTableOffset +
          boot.pageSize *
            getNumberOfPages entries.length boot.pageSize := by
    rw [← tableOffset, ← Nat.mul_add]
    simp only [pagesOf, List.map_cons, List.map_nil, List.sum_cons,
      List.sum_nil, Nat.add_zero, Nat.add_assoc]
    rfl
  rw [tableOffset] at atEntries
  rw [bootconfigOffset] at atBootconfig
  rw [unpackTable, readInteger_here tableSizePacked atFields,
    readInteger_here entryNumPacked atEntryNum,
    readInteger_here entrySizePacked atEntrySize,
    readInteger_here bootconfigSizePacked atBootconfigSize]
  simp only [Option.bind_eq_bind, Option.bind_some]
  have entriesThere :
      image.drop boot.header.vendorRamdiskTableOffset =
        entries ++ behindEntries := by
    rw [isFile]
    exact atEntries
  have bootconfigThere :
      image.drop
          (boot.header.vendorRamdiskTableOffset +
            boot.pageSize *
              getNumberOfPages entries.length boot.pageSize) =
        boot.bootconfig ++ behindBootconfig := by
    rw [isFile]
    exact atBootconfig
  have ramdisksThere :
      image.drop (boot.header.ramdiskOffsetBase + 0) =
        boot.fragments.flatMap VendorFragment.content ++
          behindRamdisks := by
    rw [Nat.add_zero, atRamdisks, VendorBootArguments.ramdisks,
      if_pos four', VendorBoot.arguments, List.flatMap_map]
    rfl
  have bootconfig :
      slice
          (boot.header.vendorRamdiskTableOffset +
            boot.header.pageSize *
              getNumberOfPages entries.length boot.header.pageSize)
          boot.arguments.vendorBootconfig.length image =
        boot.bootconfig :=
    slice_here bootconfigThere rfl
  have table :
      (rows 0 boot.fragments).map (fun row => row.2.2) = boot.table :=
    map_rows 0 boot.fragments
  rw [readTableEntries_here entriesWritten entriesThere]
  simp only [Option.bind_some, table]
  rw [slices_rows ramdisksThere, bootconfig,
    dtbFile_of_file written isFile, files, if_pos four]

/--
An image that `mkbootimg.py` wrote, with anything behind it, is unpacked into
its contents, unless a ramdisk name cannot be linked.
-/
theorem unpackVendorBootImage_append
    (boot : VendorBoot)
    {payload : Bytes}
    (written : boot.arguments.writeVendorBoot = some payload)
    (tail : Bytes)
    (outputDir : Text) :
    unpackVendorBootImage outputDir (payload ++ tail) =
      if ∀ entry ∈ boot.table, Linkable entry then
        some (boot.info outputDir, boot.files)
      else
        none := by
  obtain ⟨-, header, sections, headerWritten, isFile, table, -⟩ :=
    writeVendorBoot_eq_file written
  have isImage :
      payload ++ tail =
        file boot.pageSize
            (header :: boot.arguments.ramdisks :: boot.dtb :: sections) ++
          tail :=
    congrArg (· ++ tail) isFile
  obtain ⟨rest, starts⟩ := starts_with_header isImage
  obtain ⟨headerRead, magic, -⟩ :=
    readVendorBootHeader_of_header boot headerWritten starts
  rw [unpackVendorBootImage, headerRead]
  simp only [Option.bind_eq_bind, Option.bind_some]
  rw [if_pos ⟨magic, page_pos boot.page⟩]
  have version : boot.header.headerVersion = boot.headerVersion := rfl
  by_cases four : 3 < boot.headerVersion
  · obtain ⟨entries, entriesWritten, rfl⟩ := table four
    rw [version, if_pos four,
      unpackTable_of_file headerWritten entriesWritten isImage four]
    split
    · rfl
    · rfl
  · obtain ⟨behindRamdisks, atRamdisks⟩ :=
      drop_ramdisks headerWritten isImage
    have ramdisks : boot.arguments.ramdisks = boot.vendorRamdisk :=
      if_neg four
    have three : boot.headerVersion = 3 :=
      boot.version.resolve_right fun isFour => by omega
    rw [ramdisks] at atRamdisks
    have vendorRamdisk :
        slice boot.header.ramdiskOffsetBase boot.header.vendorRamdiskSize
            (payload ++ tail) =
          boot.vendorRamdisk :=
      slice_here atRamdisks (congrArg List.length ramdisks.symm)
    rw [version, if_neg four, vendorRamdisk,
      dtbFile_of_file headerWritten isImage]
    simp only [files, info, VendorBoot.table, boot.plain three,
      List.map_nil]
    rw [if_neg four, if_pos fun _ member => (List.not_mem_nil member).elim]
    rfl

end Unpacking

end VendorBoot

end OverclockBuilder
