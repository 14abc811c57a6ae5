import OverclockBuilder.CNumber
import OverclockBuilder.FdtTools

namespace OverclockBuilder

open RadixText WordText BytePacking CNumber BashText

/-!
# The Android DT table

`mkdtboimg.py` as the script uses it: `dump` of an image, and `create` of a
table with one device tree from a page size and a version.  Every field is a
32-bit big-endian word.
-/

/-- `_DTBO_MAGIC` -/
def dtboMagic : Nat :=
  0xd7b7ab1e

/-- `_ACPIO_MAGIC` -/
def acpioMagic : Nat :=
  0x41435049

/-- `_DT_TABLE_HEADER_SIZE` -/
def dtTableHeaderSize : Nat :=
  32

/-- `_DT_ENTRY_ALIGNMENT` -/
def dtEntryAlignment : Nat :=
  8

/-- A row of the table; version 0 rows have no flags. -/
structure DtEntry where
  dtSize : Nat
  dtOffset : Nat
  id : Nat
  rev : Nat
  flags : Option Nat
  custom : List Nat
  deriving Repr, DecidableEq

/-- The table a `Dtbo` object holds. -/
structure Dtbo where
  magic : Nat
  totalSize : Nat
  headerSize : Nat
  dtEntrySize : Nat
  dtEntryCount : Nat
  dtEntriesOffset : Nat
  pageSize : Nat
  version : Nat
  dtEntries : List DtEntry
  deriving Repr, DecidableEq

/-- `DtEntry.get_num_custom_fields` -/
def getNumCustomFields : Nat → Option Nat
  | 0 => some 4
  | 1 => some 3
  | 2 => some 11
  | _ => none

/-- `Dtbo._get_dt_entry_size` -/
def getDtEntrySize : Nat → Option Nat
  | 0 => some 32
  | 1 => some 32
  | 2 => some 64
  | _ => none

/-- `'flags'` is a required key of versions 1 and 2. -/
def hasFlags (version : Nat) : Bool :=
  version = 1 || version = 2

/-! ## Reading -/

/-- `int(text, base)` of a text of digits -/
def pyInt (base : Nat) (text : Text) : Option Nat :=
  match scanDigits base 0 text with
  | (value, []) => if text = [] then none else some value
  | (_, _ :: _) => none

/-- `DtEntry.__get_number_or_prop` -/
def getNumberOrProp : Text → Option Nat
  | [] =>
      none
  | '0' :: 'x' :: rest =>
      pyInt 16 rest
  | '0' :: 'X' :: rest =>
      pyInt 16 rest
  | head :: rest =>
      if head = '+' ∨ head = '-' ∨ head = '/' then
        none
      else
        pyInt (if head = '0' then 8 else 10) (head :: rest)

/-- The constructor, with the values of the required keys behind `dt_offset`. -/
def DtEntry.init
    (version dtSize dtOffset : Nat)
    (values : List Text) :
    Option DtEntry := do
  let numCustom ← getNumCustomFields version
  match ← values.mapM getNumberOrProp with
  | id :: rev :: rest =>
      if hasFlags version then
        match rest with
        | flags :: custom =>
            if custom.length = numCustom then
              some ⟨dtSize, dtOffset, id, rev, some flags, custom⟩
            else
              none
        | [] =>
            none
      else if rest.length = numCustom then
        some ⟨dtSize, dtOffset, id, rev, none, rest⟩
      else
        none
  | _ =>
      none

/-- One row of `_read_dt_entries_from_metadata` -/
def readDtEntry (version : Nat) : List Nat → Option DtEntry
  | dtSize :: dtOffset :: values =>
      DtEntry.init version dtSize dtOffset (values.map printUnsigned)
  | _ =>
      none

/-- `Dtbo._read_dtbo_header` -/
def readDtboHeader : List Nat → Option Dtbo
  | [magic, totalSize, headerSize, dtEntrySize, dtEntryCount,
      dtEntriesOffset, pageSize, version] =>
      if (magic = dtboMagic ∨ magic = acpioMagic) ∧
          headerSize = dtTableHeaderSize ∧
            getDtEntrySize version = some dtEntrySize then
        some ⟨magic, totalSize, headerSize, dtEntrySize, dtEntryCount,
          dtEntriesOffset, pageSize, version, []⟩
      else
        none
  | _ =>
      none

/-- The words `_read_dtbo_image` tells `struct.unpack` to expect. -/
def Dtbo.numInts (header : Dtbo) : Nat :=
  dtTableHeaderSize / 4 + header.dtEntryCount * (header.dtEntrySize / 4) +
    if dtTableHeaderSize < header.dtEntriesOffset then
      (header.dtEntriesOffset - dtTableHeaderSize) / 4
    else
      0

/-- `__metadata_size` -/
def Dtbo.metadataSize (header : Dtbo) : Nat :=
  header.headerSize + header.dtEntryCount * header.dtEntrySize

/-- `Dtbo._read_dtbo_image` -/
def readDtboImage (file : Bytes) : Option Dtbo := do
  let header ← readDtboHeader (unpackWords (file.take dtTableHeaderSize))
  if file.length < header.metadataSize ∨
      header.metadataSize ≠ 4 * header.numInts then
    none
  else
    let metadata := unpackWords (file.take header.metadataSize)
    let dtEntryInts := header.dtEntrySize / 4
    let dtEntries ← (List.range header.dtEntryCount).mapM fun idx =>
      readDtEntry header.version
        ((metadata.drop (header.dtEntriesOffset / 4 + idx * dtEntryInts)).take
          dtEntryInts)
    some { header with dtEntries := dtEntries }

/-! ## Printing -/

/-- `f'{value:08x}'` -/
def formatHex08 (value : Nat) : Text :=
  let digits := printHex value
  List.replicate (8 - digits.length) '0' ++ digits

/-- `f'{key:>20} = {value}'` -/
def keyLine (key value : Text) : Text :=
  List.replicate (20 - key.length) ' ' ++ key ++ " = ".toList ++ value

/-- The keys and values `DtEntry.__str__` prints. -/
def DtEntry.fields (entry : DtEntry) : List (Text × Text) :=
  [("dt_size".toList, printUnsigned entry.dtSize),
      ("dt_offset".toList, printUnsigned entry.dtOffset),
      ("id".toList, formatHex08 entry.id),
      ("rev".toList, formatHex08 entry.rev)] ++
    (entry.flags.map fun flags =>
      ("flags".toList, formatHex08 flags)).toList ++
    entry.custom.zipIdx.map fun (value, idx) =>
      ("custom[".toList ++ printUnsigned idx ++ "]".toList,
        formatHex08 value)

/-- The keys and values `Dtbo.__str__` prints for the header. -/
def Dtbo.fields (table : Dtbo) : List (Text × Text) :=
  [("magic".toList, formatHex08 table.magic),
    ("total_size".toList, printUnsigned table.totalSize),
    ("header_size".toList, printUnsigned table.headerSize),
    ("dt_entry_size".toList, printUnsigned table.dtEntrySize),
    ("dt_entry_count".toList, printUnsigned table.dtEntryCount),
    ("dt_entries_offset".toList, printUnsigned table.dtEntriesOffset),
    ("page_size".toList, printUnsigned table.pageSize),
    ("version".toList, printUnsigned table.version)]

/-- A title and the key lines below it. -/
def titledLines (title : Text) (fields : List (Text × Text)) : List Text :=
  title :: fields.map fun (key, value) => keyLine key value

/-- The lines of `Dtbo.__str__` -/
def Dtbo.str (table : Dtbo) : List Text :=
  titledLines "dt_table_header:".toList table.fields ++
    table.dtEntries.zipIdx.flatMap fun (entry, count) =>
      titledLines
        ("dt_table_entry[".toList ++ printUnsigned count ++ "]:".toList)
        entry.fields

/-- `mkdtboimg.py dump`, as the lines it prints -/
def dumpDtboImage (file : Bytes) : Option (List Text) :=
  (readDtboImage file).map Dtbo.str

/-! ## Creating -/

/-- `_align_up` -/
def alignUp (value alignment : Nat) : Nat :=
  (value + alignment - 1) / alignment * alignment

/-- Every `'I'` of `struct.pack_into` must fit. -/
def packInto (words : List Nat) : Option Bytes :=
  if words.all (· < 4294967296) then some (packWords words) else none

/-- The words `_update_dt_entry_header` packs. -/
def DtEntry.words (entry : DtEntry) : List Nat :=
  [entry.dtSize, entry.dtOffset, entry.id, entry.rev] ++
    entry.flags.toList ++ entry.custom

/-- The words `_update_dt_table_header` packs. -/
def Dtbo.headerWords (table : Dtbo) : List Nat :=
  [table.magic, table.totalSize, table.headerSize, table.dtEntrySize,
    table.dtEntryCount, table.dtEntriesOffset, table.pageSize, table.version]

/-- `Dtbo._write_padding_bytes` -/
def paddingBytes (totalSize pageSize : Nat) : Bytes :=
  List.replicate ((pageSize - totalSize % pageSize) % pageSize) 0

/-- The defaults of `parse_create_args`, in the order of the required keys. -/
def createDefaults (version numCustom : Nat) : List Text :=
  List.replicate ((if hasFlags version then 3 else 2) + numCustom)
    "0".toList

/-- The table of `create` for one device tree. -/
def createTable
    (pageSize version dtEntrySize : Nat)
    (entry : DtEntry) :
    Dtbo where
  magic := dtboMagic
  totalSize :=
    dtTableHeaderSize + dtEntrySize + (entry.dtOffset -
      (dtTableHeaderSize + dtEntrySize)) + entry.dtSize
  headerSize := dtTableHeaderSize
  dtEntrySize := dtEntrySize
  dtEntryCount := 1
  dtEntriesOffset := dtTableHeaderSize
  pageSize := pageSize
  version := version
  dtEntries := [entry]

/--
`mkdtboimg.py create OUT --page_size=.. --version=.. DTB`

A page size of zero makes the constructor read the new, empty file instead.
-/
def createDtboImage
    (pageSizeArgument versionArgument : Text)
    (dtb : Bytes) :
    Option Bytes := do
  let pageSize ← pyInt 10 pageSizeArgument
  let version ← pyInt 10 versionArgument
  let numCustom ← getNumCustomFields version
  let dtEntrySize ← getDtEntrySize version
  let dtOffset := alignUp (dtTableHeaderSize + dtEntrySize) dtEntryAlignment
  let entry ← DtEntry.init version dtb.length dtOffset
    (createDefaults version numCustom)
  if pageSize = 0 then
    none
  else
    let table := createTable pageSize version dtEntrySize entry
    let entryBytes ← packInto entry.words
    let headerBytes ← packInto table.headerWords
    some
      (headerBytes ++ entryBytes ++
        List.replicate (dtOffset - (dtTableHeaderSize + dtEntrySize)) 0 ++
          dtb ++ paddingBytes table.totalSize pageSize)

end OverclockBuilder
