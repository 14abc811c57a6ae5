import OverclockBuilder.ArgumentParser
import OverclockBuilder.DtTable
import OverclockBuilder.SerialPlacement

namespace OverclockBuilder

open RadixText BytePacking CNumber ArgumentParser

/-!
# Creating and dumping tables of many device trees

`mkdtboimg.py create` with any number of device trees, shared and compressed
ones included, and `dump` with the option that writes them out again.
-/

/-! ## The command line -/

/-- The options of one device tree. -/
inductive EntryOption where
  | id
  | rev
  | flags
  /-- `--custom0` to `--custom10`, by `MAX_CUSTOM_FIELDS` -/
  | custom (index : Fin 11)
  deriving Repr, DecidableEq

/-- The options of `create`. -/
inductive CreateOption where
  | dtType
  | pageSize
  | version
  | entry (option : EntryOption)
  deriving Repr, DecidableEq

def customFlag (index : Fin 11) : Text :=
  "--custom".toList ++ printUnsigned index

def entryOptions : Options EntryOption :=
  [("--id".toList, .id), ("--rev".toList, .rev),
    ("--flags".toList, .flags)] ++
      (List.finRange 11).map fun index => (customFlag index, .custom index)

def createOptions : Options CreateOption :=
  [("--dt_type".toList, .dtType), ("--page_size".toList, .pageSize),
    ("--version".toList, .version)] ++
      entryOptions.map fun (name, option) => (name, .entry option)

/-- The values of the options of a device tree. -/
abbrev EntryArgs := EntryOption → Text

/-- What `parse_create_args` returns before the remainder. -/
structure GlobalArgs where
  dtType : Text
  pageSize : Nat
  version : Nat
  entry : EntryArgs

def GlobalArgs.default : GlobalArgs where
  dtType := "dtb".toList
  pageSize := 2048
  version := 0
  entry := fun _ => "0".toList

/-- An option of a device tree stores its text. -/
def EntryArgs.store
    (args : EntryArgs)
    (given : EntryOption × Text) :
    EntryArgs :=
  Function.update args given.1 given.2

/-- An option of `create` stores its value; a negative one fails later. -/
def GlobalArgs.store (args : GlobalArgs) :
    CreateOption × Text → Option GlobalArgs
  | (.dtType, value) =>
      some { args with dtType := value }
  | (.pageSize, value) =>
      (pyInt 10 value).map fun pageSize => { args with pageSize := pageSize }
  | (.version, value) =>
      (pyInt 10 value).map fun version => { args with version := version }
  | (.entry option, value) =>
      some { args with entry := args.entry.store (option, value) }

/-- `arg.startswith("--")` -/
def startsWithDashes (arg : Text) : Bool :=
  "--".toList.isPrefixOf arg

/-- `parse_create_args` -/
def parseCreateArgs (argList : List Text) :
    Option (GlobalArgs × List Text) := do
  let (given, extras) ←
    parseKnownArgs (.ofOptions createOptions)
      (argList.takeWhile startsWithDashes)
  if extras = [] then
    let globalArgs ← given.foldlM GlobalArgs.store GlobalArgs.default
    some (globalArgs, argList.dropWhile startsWithDashes)
  else
    none

/-- `parse_dt_entry`: the file of an entry and its values -/
def parseDtEntry (globalArgs : GlobalArgs) :
    List Text → Option (Text × EntryArgs)
  | [] =>
      none
  | dtFile :: arglist => do
      if readArgument entryOptions dtFile = some .value then
        let (given, extras) ←
          parseKnownArgs (.ofOptions entryOptions) arglist
        if extras = [] then
          some (dtFile, given.foldl EntryArgs.store globalArgs.entry)
        else
          none
      else
        none

/-- Every image with the options behind it. -/
def imageGroups : List Text → List (List Text)
  | [] =>
      []
  | arg :: rest =>
      if startsWithDashes arg then
        imageGroups rest
      else
        (arg :: rest.takeWhile startsWithDashes) :: imageGroups rest

/-! ## Device trees -/

/-- The files `create` can open, by their real paths. -/
structure FileSystem where
  realpath : Text → Text
  files : Text → Option Bytes

/-- What an opened file holds. -/
def FileSystem.read (disk : FileSystem) (path : Text) : Option Bytes :=
  disk.files (disk.realpath path)

/--
zlib and the `lz4` program.

`none` is an exception of zlib, and a message or a failure of `lz4`.
-/
structure Codecs where
  zlibCompress : Bytes → Bytes
  gzipCompress : Bytes → Bytes
  zlibDecompress : Bytes → Option Bytes
  lz4Compress : Bytes → Option Bytes
  lz4Decompress : Bytes → Option Bytes

/-- What is compressed comes back. -/
structure Codecs.Lossless (codecs : Codecs) : Prop where
  zlib :
    ∀ content, codecs.zlibDecompress (codecs.zlibCompress content) =
      some content
  gzip :
    ∀ content, codecs.zlibDecompress (codecs.gzipCompress content) =
      some content
  lz4 :
    ∀ content compressed,
      codecs.lz4Compress content = some compressed →
        codecs.lz4Decompress compressed = some content

/-- A row of a table with the device tree it is made from. -/
structure ImageEntry extends DtEntry where
  dtFile : Text
  deriving Repr, DecidableEq

/-- The values of the required keys behind `dt_offset`. -/
def EntryArgs.values
    (args : EntryArgs)
    (version numCustom : Nat) :
    List Text :=
  [args .id, args .rev] ++
    (if hasFlags version then [args .flags] else []) ++
      ((List.finRange 11).take numCustom).map fun index =>
        args (.custom index)

/-- The constructor call of `parse_dt_entries`. -/
def imageEntry
    (disk : FileSystem)
    (version : Nat)
    (dtFile : Text)
    (args : EntryArgs) :
    Option ImageEntry := do
  let content ← disk.read dtFile
  let numCustom ← getNumCustomFields version
  let entry ← DtEntry.init version content.length 0
    (args.values version numCustom)
  some { entry with dtFile := dtFile }

/-- `parse_dt_entries` -/
def parseDtEntries
    (disk : FileSystem)
    (globalArgs : GlobalArgs)
    (argList : List Text) :
    Option (List ImageEntry) :=
  if imageGroups argList = [] then
    none
  else
    (imageGroups argList).mapM fun argv => do
      let (dtFile, args) ← parseDtEntry globalArgs argv
      imageEntry disk globalArgs.version dtFile args

/-- `DtEntry.compression_info` -/
def DtEntry.compressionInfo (version : Nat) (entry : DtEntry) : Nat :=
  if version = 0 then 0 else entry.flags.getD 0 % 16

/-- `Dtbo.compress_dt_entry` -/
def compressDtEntry (codecs : Codecs) (content : Bytes) :
    Nat → Option Bytes
  | 0 => some content
  | 1 => some (codecs.zlibCompress content)
  | 2 => some (codecs.gzipCompress content)
  | 3 => codecs.lz4Compress content
  | _ => none

/-! ## Creating -/

/-- `Dtbo.__init__` for a table to create. -/
def Dtbo.empty (dtType : Text) (pageSize version : Nat) : Option Dtbo :=
  if pageSize = 0 then
    none
  else
    (getDtEntrySize version).map fun dtEntrySize => {
      magic := if dtType = "acpi".toList then acpioMagic else dtboMagic
      totalSize := dtTableHeaderSize
      headerSize := dtTableHeaderSize
      dtEntrySize := dtEntrySize
      dtEntryCount := 0
      dtEntriesOffset := dtTableHeaderSize
      pageSize := pageSize
      version := version
      dtEntries := [] }

/-- The variables of the loop in `add_dt_entries`. -/
structure Adding where
  table : Dtbo
  dtOffset : Nat
  dtEntryBuf : Bytes
  dtEntries : List ImageEntry

/-- `Dtbo._find_dt_entry_with_same_file` -/
def findDtEntryWithSameFile
    (disk : FileSystem)
    (dtEntries : List ImageEntry)
    (dtEntry : ImageEntry) :
    Option ImageEntry :=
  dtEntries.find? fun entry =>
    disk.realpath entry.dtFile = disk.realpath dtEntry.dtFile

/-- The end of the loop body: the entry joins the table. -/
def Adding.finish (state : Adding) (dtEntry : ImageEntry) : Adding :=
  { state with
    table := { state.table with
      dtEntryCount := state.table.dtEntryCount + 1
      totalSize := state.table.totalSize + state.table.dtEntrySize }
    dtEntries := state.dtEntries ++ [dtEntry] }

/-- The branch of the loop body that stores a blob. -/
def Adding.store
    (state : Adding)
    (dtEntry : ImageEntry)
    (compressedEntry : Bytes) :
    Adding :=
  let pad := alignUp state.dtOffset dtEntryAlignment - state.dtOffset
  let dtOffset := state.dtOffset + pad
  let stored : Adding := {
    table := { state.table with
      totalSize := state.table.totalSize + pad + compressedEntry.length }
    dtOffset := dtOffset + compressedEntry.length
    dtEntryBuf :=
      state.dtEntryBuf ++ List.replicate pad 0 ++ compressedEntry
    dtEntries := state.dtEntries }
  stored.finish { dtEntry with
    dtOffset := dtOffset
    dtSize := compressedEntry.length }

/-- The loop body of `add_dt_entries` -/
def addDtEntry
    (codecs : Codecs)
    (disk : FileSystem)
    (state : Adding)
    (dtEntry : ImageEntry) :
    Option Adding :=
  let version := state.table.version
  let compressionInfo := dtEntry.compressionInfo version
  let storeEntry := do
    let content ← disk.read dtEntry.dtFile
    let compressedEntry ← compressDtEntry codecs content compressionInfo
    some (state.store dtEntry compressedEntry)
  match findDtEntryWithSameFile disk state.dtEntries dtEntry with
  | some entry =>
      if entry.compressionInfo version = compressionInfo then
        some (state.finish { dtEntry with
          dtOffset := entry.dtOffset
          dtSize := entry.dtSize })
      else
        storeEntry
  | none =>
      storeEntry

/-- `Dtbo.add_dt_entries` -/
def addDtEntries
    (codecs : Codecs)
    (disk : FileSystem)
    (table : Dtbo)
    (dtEntries : List ImageEntry) :
    Option Adding :=
  if dtEntries = [] then
    none
  else
    dtEntries.foldlM (addDtEntry codecs disk) {
      table := table
      dtOffset := table.headerSize + dtEntries.length * table.dtEntrySize
      dtEntryBuf := []
      dtEntries := [] }

/-- `Dtbo.commit`: the file that is written -/
def Dtbo.commit (table : Dtbo) (dtEntryBuf : Bytes) : Option Bytes := do
  let rows ← table.dtEntries.mapM fun dtEntry => packInto dtEntry.words
  let header ← packInto table.headerWords
  some
    (header ++ rows.flatten ++ dtEntryBuf ++
      paddingBytes table.totalSize table.pageSize)

/-- The table an `Adding` has built. -/
def Adding.result (state : Adding) : Dtbo :=
  { state.table with dtEntries := state.dtEntries.map ImageEntry.toDtEntry }

/-- `create_dtbo_image` behind the parsers. -/
def writeDtboImage
    (codecs : Codecs)
    (disk : FileSystem)
    (globalArgs : GlobalArgs)
    (dtEntries : List ImageEntry) :
    Option Bytes := do
  let table ← Dtbo.empty globalArgs.dtType globalArgs.pageSize
    globalArgs.version
  let state ← addDtEntries codecs disk table dtEntries
  state.result.commit state.dtEntryBuf

/-- `mkdtboimg.py create OUT argv..` -/
def createDtboImages
    (codecs : Codecs)
    (disk : FileSystem)
    (argv : List Text) :
    Option Bytes := do
  let (globalArgs, remainder) ← parseCreateArgs argv
  let dtEntries ← parseDtEntries disk globalArgs remainder
  writeDtboImage codecs disk globalArgs dtEntries

/-! ## Dumping -/

/-- `Dtbo.extract_dt_file`: what the output file holds -/
def Dtbo.extractDtFile
    (codecs : Codecs)
    (file : Bytes)
    (decompress : Bool)
    (table : Dtbo)
    (idx : Nat) :
    Option Bytes :=
  if table.dtEntryCount < idx then
    none
  else do
    let entry ← table.dtEntries[idx]?
    let content := slice entry.dtOffset entry.dtSize file
    if decompress then
      match entry.compressionInfo table.version with
      | 0 => some content
      | 1 => codecs.zlibDecompress content
      | 2 => codecs.zlibDecompress content
      -- A message of `lz4` leaves the output empty.
      | 3 => some ((codecs.lz4Decompress content).getD [])
      | _ => none
    else
      some content

/-- `mkdtboimg.py dump IN --dtb NAME`: the files it writes -/
def dumpDtFiles
    (codecs : Codecs)
    (decompress : Bool)
    (file : Bytes) :
    Option (List Bytes) := do
  let table ← readDtboImage file
  (List.range table.dtEntries.length).mapM
    (table.extractDtFile codecs file decompress)

end OverclockBuilder
