import OverclockBuilder.ApplyBytes
import OverclockBuilder.FootedImage
import OverclockBuilder.RepackEquivalence
import OverclockBuilder.RunHistory

namespace OverclockBuilder

open RadixText WordText BytePacking CNumber BashText LabelTree ArgumentParser
open FailFast

/-!
# Runs on an image

Stages 1 to 4 read `vendor_boot.img`, and what the later stages work on comes
from there: the payload is packed from the files and the argument text of the
input, the footer is made of what was scraped, and the last stage reads the
image that is left in `output/`.
-/

/-! ## The machine -/

/-- The libraries, the shell and the file system around the script. -/
structure Machine where
  lib : Hashlib
  sha1 : Bytes → Bytes
  /-- what `grep` takes for binary data -/
  isBinary : Text → Bool
  /-- pathname expansion -/
  glob : Text → List Text
  lawful : LawfulGlob glob
  /-- `$WORK` -/
  work : Text
  plainWork : work.all isWorkCharacter = true
  absolute : work.head? = some '/'
  /-- the file outside `$WORK` that a path names -/
  locate : Text → Option Target
  apart : locate (pathJoin work "vendor_boot_payload.img".toList) = none

/-- What stages 1 to 4 make of an image. -/
structure Scan where
  stockInfo : AvbImageInfo
  avbInfo : Text
  parameters : AvbParameters
  info : VendorBootInfo
  /-- the files below `unpack/` -/
  files : List (Text × Bytes)
  /-- `unpack/dtb` -/
  unpackedDtb : Bytes
  /-- `mt6768.dtb` -/
  blob : Bytes
  stock : Stock

namespace Machine

/-- Stages 1 to 4 on an image with the magic of a vendor boot image. -/
def scan (machine : Machine) (input : Bytes) : Option Scan := do
  let stockInfo ← parseImage machine.lib input
  let avbInfo ← infoImage machine.sha1 stockInfo
  let parameters ← readAvb avbInfo
  let (info, files) ←
    unpackVendorBootImage (pathJoin machine.work "unpack".toList) input
  let unpackedDtb ← files.lookup "dtb".toList
  let blob ← extractStockBlob unpackedDtb
  let stock ← readStockFile blob
  some
    { stockInfo, avbInfo, parameters, info, files, unpackedDtb, blob, stock }

/-- The other arguments of `mkbootimg.py`, and `--vendor_boot`. -/
def bootWords (machine : Machine) (info : VendorBootInfo) : List Text :=
  receivedArguments machine.glob info machine.work ++
    ["--vendor_boot".toList,
      pathJoin machine.work "vendor_boot_payload.img".toList]

/-- The files outside `$WORK` that these words open for writing. -/
def opened (machine : Machine) (info : VendorBootInfo) : List Target :=
  (openedForWriting (machine.bootWords info)).filterMap machine.locate

/-- `verify/dtb` -/
def verifiedDtb (machine : Machine) (image : Bytes) : Option Bytes :=
  (unpackVendorBootImage (pathJoin machine.work "verify".toList)
    image).bind fun unpacked => unpacked.2.lookup "dtb".toList

/-- `final.dtb` -/
def finalBlob (machine : Machine) (image : Bytes) : Option Bytes :=
  (machine.verifiedDtb image).bind extractBlob

/-- The commands of the last stage that find what they read. -/
def verifies (machine : Machine) (image : Bytes) : Command → Bool
  | .unpackOutput =>
      (unpackVendorBootImage (pathJoin machine.work "verify".toList)
        image).isSome
  | .dumpOutput =>
      ((machine.verifiedDtb image).bind dumpDtboImage).isSome
  | .ddFinal =>
      (machine.finalBlob image).isSome
  | .readFinal table =>
      -- the loop gets to a table behind the ones in front of it
      let tables :=
        [littleTable, bigTable].takeWhile (· ≠ table) ++ [table]
      ((machine.finalBlob image).bind (finalLoopFile tables)).isSome
  | _ =>
      true

/-- The vbmeta that `AVB_ARGS` asks for. -/
def vbmetaBlob (machine : Machine) (scan : Scan) : Bytes → Option Bytes :=
  hashFooterBlob machine.lib vendorBoot scan.parameters.salt
    (propArguments (propValue machine.isBinary scan.avbInfo))

end Machine

/-! ## Runs -/

/--
A blob that `fdtput` edits in place: of version 17, with its blocks in order,
and below 2 GiB.
-/
def EditedInPlace (blob : Bytes) : Prop :=
  Editable blob ∧ blob.length + 228 < 2 ^ 31 - 1

/-- The variables behind the menus. -/
def RunRecord.vars (record : RunRecord) : Vars :=
  (runMenus record.stock record.lines).2.vars

/-- What a run that gets as far as the copy has built from an image. -/
structure Packing (machine : Machine) (scan : Scan) (record : RunRecord) where
  /-- `mt6768_oc.dtb` behind the last `fdtput` -/
  patchedBlob : Bytes
  patched :
    ∀ tree, readBlob scan.blob = some tree →
      ∃ patchedTree,
        applyStage record.stock record.vars tree = some patchedTree ∧
          readBlob patchedBlob = some patchedTree
  edited :
    EditedInPlace scan.blob →
      ∃ fresh,
        applyStageFile fresh record.stock record.vars scan.blob =
          some patchedBlob
  /-- `dtb_oc` -/
  table : Bytes
  rebuilt : rebuildTable scan.unpackedDtb patchedBlob = some table
  /-- the files `mkbootimg.py` can open -/
  disk : Text → Option Bytes
  tableOnDisk : disk (dtbOc machine.work) = some table
  unpackedOnDisk :
    Holds disk (pathJoin machine.work "unpack".toList) scan.files
  /-- with `--output` another image is written too -/
  packed :
    .output ∉
        (takenActions bootParser (machine.bootWords scan.info)).map
          Prod.fst →
      mkbootimg disk (machine.bootWords scan.info) =
        some record.surroundings.payload
  /-- `"$PAYLOAD_SIZE" -ne "$ORIGINAL_SIZE"` -/
  sameSize :
    ∀ size, pyInt 10 scan.parameters.originalSize = some size →
      size < 2 ^ 63 → record.surroundings.payload.length = size
  /-- `--partition_size "$IMAGE_SIZE"`, if the parser takes it -/
  partitionSize :
    record.surroundings.serves .addHashFooter = true →
      pyInt 10 scan.parameters.imageSize =
        some record.surroundings.partitionSize
  vbmetaBlob : record.surroundings.vbmetaBlob = machine.vbmetaBlob scan

/-- The magic of a boot image -/
def bootMagic : Bytes :=
  [0x41, 0x4e, 0x44, 0x52, 0x4f, 0x49, 0x44, 0x21]

/--
A run of the script on a machine.

`unpack_bootimg.py` takes boot images, too; what is made of them is left open.
-/
structure ScriptRun where
  machine : Machine
  record : RunRecord
  verifies : record.surroundings.verifies = machine.verifies
  refused :
    record.before.input.take 8 ≠ bootMagic →
      machine.scan record.before.input = none →
        ∃ command,
          record.ending = .stopped command ∧
            Runs (Effect record.outputName record.surroundings)
              prepareCommands record.before record.after (some command)
  stock :
    ∀ scan ∈ machine.scan record.before.input, record.stock = scan.stock
  opened :
    ∀ scan ∈ machine.scan record.before.input,
      record.surroundings.opened = machine.opened scan.info
  packs :
    ∀ scan ∈ machine.scan record.before.input,
      record.ending.reachesCopy = true →
        Nonempty (Packing machine scan record)

/-! ## Images that are packed again -/

/-- The section is unpacked into a file, unless it is empty. -/
theorem VendorBoot.lookup_files_dtb (boot : VendorBoot) :
    boot.files.lookup "dtb".toList =
      if 0 < boot.dtb.length then some boot.dtb else none := by
  have ramdisks :
      (boot.fragments.zipIdx.map fun row =>
          (outputRamdiskName row.2, row.1.content)).lookup "dtb".toList =
        none := by
    rw [List.lookup_eq_none_iff]
    intro file member
    obtain ⟨row, -, rfl⟩ := List.mem_map.mp member
    have other : "dtb".toList ≠ outputRamdiskName row.2 := nofun
    simpa using other
  have bootconfig : ("dtb".toList == "bootconfig".toList) = false := by
    decide
  have ramdisk : ("dtb".toList == "vendor_ramdisk".toList) = false := by
    decide
  have dtb :
      (if 0 < boot.dtb.length then
          [("dtb".toList, boot.dtb)]
        else
          []).lookup "dtb".toList =
        if 0 < boot.dtb.length then some boot.dtb else none := by
    split
    · rw [List.lookup_cons_self]
    · rfl
  rw [files]
  dsimp only
  split
  · rw [List.lookup_append, ramdisks, Option.none_or, List.lookup_cons,
      bootconfig]
    exact dtb
  · rw [List.lookup_cons, ramdisk]
    exact dtb

/-- All that a scan says. -/
theorem Machine.scan_eq_some_iff
    {machine : Machine}
    {input : Bytes}
    {scan : Scan} :
    machine.scan input = some scan ↔
      parseImage machine.lib input = some scan.stockInfo ∧
        infoImage machine.sha1 scan.stockInfo = some scan.avbInfo ∧
          readAvb scan.avbInfo = some scan.parameters ∧
            unpackVendorBootImage (pathJoin machine.work "unpack".toList)
                input =
              some (scan.info, scan.files) ∧
              scan.files.lookup "dtb".toList = some scan.unpackedDtb ∧
                extractStockBlob scan.unpackedDtb = some scan.blob ∧
                  readStockFile scan.blob = some scan.stock := by
  constructor
  · intro scanned
    simp only [Machine.scan, Option.bind_eq_bind, Option.bind_eq_some_iff]
      at scanned
    obtain ⟨stockInfo, parsed, avbInfo, printed, parameters, accepted,
      ⟨info, files⟩, unpacked, unpackedDtb, found, blob, extracted, stock,
      read, isScan⟩ := scanned
    cases isScan
    exact ⟨parsed, printed, accepted, unpacked, found, extracted, read⟩
  · rintro ⟨parsed, printed, accepted, unpacked, found, extracted, read⟩
    rw [Machine.scan, parsed]
    simp only [Option.bind_eq_bind, Option.bind_some, printed, accepted,
      unpacked, found, extracted, read]

/-- An image of `mkbootimg.py` whose arguments are passed on as they are. -/
structure Repacks (input : Bytes) (scan : Scan) : Prop where
  image :
    ∃ (boot : VendorBoot) (image tail : Bytes),
      boot.arguments.writeVendorBoot = some image ∧ input = image ++ tail
  repackable : Repackable scan.info
  readable : Readable scan.info

/-- The contents that such an image is unpacked into. -/
structure Contents
    (machine : Machine)
    (input : Bytes)
    (scan : Scan)
    (boot : VendorBoot) : Prop where
  written :
    ∃ image tail,
      boot.arguments.writeVendorBoot = some image ∧ input = image ++ tail
  linkable : ∀ entry ∈ boot.table, Linkable entry
  info :
    scan.info = boot.info (pathJoin machine.work "unpack".toList)
  files : scan.files = boot.files
  dtb : boot.dtb = scan.unpackedDtb
  nonempty : 0 < boot.dtb.length

section Repacks

variable {machine : Machine} {input : Bytes} {scan : Scan}

theorem contents_of_written
    (scanned : machine.scan input = some scan)
    {boot : VendorBoot}
    {image tail : Bytes}
    (written : boot.arguments.writeVendorBoot = some image)
    (isInput : input = image ++ tail) :
    Contents machine input scan boot := by
  obtain ⟨-, -, -, unpacked, found, -, -⟩ :=
    Machine.scan_eq_some_iff.mp scanned
  rw [isInput, boot.unpackVendorBootImage_append written] at unpacked
  split at unpacked
  case isFalse =>
      cases unpacked
  case isTrue linkable =>
      obtain ⟨isInfo, areFiles⟩ := Prod.mk.inj (Option.some.inj unpacked)
      rw [← areFiles, boot.lookup_files_dtb] at found
      split at found
      case isFalse =>
          cases found
      case isTrue nonempty =>
          exact ⟨⟨image, tail, written, isInput⟩, linkable,
            isInfo.symm, areFiles.symm, Option.some.inj found, nonempty⟩

theorem exists_contents_of_repacks
    (scanned : machine.scan input = some scan)
    (repacks : Repacks input scan) :
    ∃ boot, Contents machine input scan boot := by
  obtain ⟨boot, image, tail, written, isInput⟩ := repacks.image
  exact ⟨boot, contents_of_written scanned written isInput⟩

namespace Contents

variable {boot : VendorBoot}

/-- The words `mkbootimg.py` gets for such an image. -/
theorem bootWords_eq
    (contents : Contents machine input scan boot)
    (repackable : Repackable scan.info) :
    machine.bootWords scan.info =
      (boot.info (pathJoin machine.work "unpack".toList)).argumentsWithDtb
          (dtbOc machine.work) ++
        ["--vendor_boot".toList,
          pathJoin machine.work "vendor_boot_payload.img".toList] := by
  rw [contents.info] at repackable
  rw [Machine.bootWords, contents.info,
    receivedArguments_of_repackable contents.nonempty machine.plainWork rfl
      repackable machine.lawful]
  rfl

theorem boardIds
    (contents : Contents machine input scan boot) :
    ∀ entry ∈ scan.info.vendorRamdiskTable, entry.boardId.length = 16 := by
  rw [contents.info]
  intro entry member
  obtain ⟨fragment, -, rfl⟩ := List.mem_map.mp member
  exact fragment.boardIdLength

end Contents

/-- A path below `$WORK` is a value. -/
theorem Machine.isValue_work (machine : Machine) (name : Text) :
    IsValue bootOptions (pathJoin machine.work name) := by
  apply isValue_pathJoin
  rw [machine.absolute]
  decide

/-- Such words open the payload for writing, and no other file. -/
theorem opened_of_repacks
    (scanned : machine.scan input = some scan)
    (repacks : Repacks input scan) :
    machine.opened scan.info = [] ∧
      .output ∉
        (takenActions bootParser (machine.bootWords scan.info)).map
          Prod.fst := by
  obtain ⟨boot, contents⟩ := exists_contents_of_repacks scanned repacks
  have boardIds := contents.boardIds
  have readable := repacks.readable
  rw [contents.info] at boardIds readable
  obtain ⟨payload, noOutput⟩ :=
    VendorBoot.openedForWriting_argumentsWithDtb readable boardIds
      (machine.isValue_work "dtb_oc".toList)
      (machine.isValue_work "vendor_boot_payload.img".toList)
  have isDtbOc :
      dtbOc machine.work = pathJoin machine.work "dtb_oc".toList := rfl
  rw [Machine.opened, contents.bootWords_eq repacks.repackable, isDtbOc]
  refine ⟨?_, noOutput⟩
  rw [payload, List.filterMap_cons, machine.apart, List.filterMap_nil]

/-- The payload of such an image is the image with the new table. -/
theorem Packing.payload_of_repacks
    {record : RunRecord}
    (packing : Packing machine scan record)
    (scanned : machine.scan input = some scan)
    (repacks : Repacks input scan)
    {boot : VendorBoot}
    (contents : Contents machine input scan boot) :
    { boot with dtb := packing.table }.arguments.writeVendorBoot =
      some record.surroundings.payload := by
  have packed := packing.packed (opened_of_repacks scanned repacks).2
  have readable := repacks.readable
  have holds := packing.unpackedOnDisk
  rw [contents.info] at readable
  rw [contents.files] at holds
  have isDtbOc : IsValue bootOptions (dtbOc machine.work) :=
    machine.isValue_work "dtb_oc".toList
  rw [contents.bootWords_eq repacks.repackable,
    VendorBoot.mkbootimg_argumentsWithDtb readable holds isDtbOc
      (machine.isValue_work "vendor_boot_payload.img".toList)
      (fun _ => packing.tableOnDisk)
      (fun absent => absurd contents.nonempty (by simp [absent]))]
    at packed
  exact packed

end Repacks

/-! ## An image that is scanned -/

/-- The lines of a session that builds with 50 MHz. -/
def fiftyMhzLines : List Text :=
  ["50".toList, "y".toList, "n".toList, "y".toList]

theorem fiftyMhzLines_built :
    (runMenus readmeStock fiftyMhzLines).1 = .next := by
  decide +kernel

/-- The variables of the session with 50 MHz. -/
def fiftyMhzVars : Vars :=
  (runMenus readmeStock fiftyMhzLines).2.vars

/-- `hashlib` on the data a run asks a digest for -/
def exampleLib (digest : Bytes) : Hashlib where
  new := fun name =>
    if name = sha256.name then some (fun _ => digest) else none
  sized := by
    intro name digest known data
    split at known
    · rw [Option.some.injEq] at known
      rw [← known]
    · cases known

/-- The hash descriptor of a payload of three pages. -/
def stockHash (digest : Bytes) : AvbHashDescriptor where
  imageSize := 6144
  hashAlgorithm := sha256
  partitionName := vendorBoot
  salt := [0xd0, 0x0d]
  digest := digest
  flags := 0

/-- A header as for the new image, with a rollback index -/
def stockHeader : AvbVBMetaHeader :=
  { generatedHeader 184 with rollbackIndex := 1 }

def stockFront : Bytes :=
  stockHeader.encode.getD []

def stockDescriptors (digest : Bytes) : Bytes :=
  (encodeDescriptors (stockHash digest) []).getD []

/-- The stock vbmeta, padded to a multiple of 64 bytes. -/
def stockBlob (digest : Bytes) : Bytes :=
  stockFront ++ (stockDescriptors digest ++ List.replicate 8 0)

theorem stockHeader_encode :
    stockHeader.encode = some stockFront := by
  decide +kernel

theorem stockDescriptors_encode
    {digest : Bytes}
    (length : digest.length = 32) :
    encodeDescriptors (stockHash digest) [] =
        some (stockDescriptors digest) ∧
      (stockDescriptors digest).length = 184 := by
  have ascii :
      encodeAscii sha256.name = some (encodeUtf8 "sha256".toList) := by
    decide +kernel
  have name : (encodeUtf8 vendorBoot).length = 11 := by
    decide +kernel
  have packs :
      (StructFormat.pack hashFormat
        [.number 2, .number 168, .number 6144,
          .string (encodeUtf8 "sha256".toList), .number 11, .number 2,
          .number 32, .number 0, .string (List.replicate 60 0)]).isSome =
        true := by
    decide +kernel
  obtain ⟨front, isFront⟩ := Option.isSome_iff_exists.mp packs
  have frontLength : front.length = 132 :=
    (StructFormat.unpack_pack isFront).2
  have encoded :
      encodeDescriptors (stockHash digest) [] =
        some (front ++ (encodeUtf8 vendorBoot ++
          ([0xd0, 0x0d] ++ (digest ++ List.replicate 7 0))) ++ []) := by
    have padded : roundToMultiple (132 + 11 + 2 + 32 - 16) 8 = 168 := by
      decide
    rw [encodeDescriptors, AvbHashDescriptor.encode]
    simp only [stockHash, ascii, name, length, List.length_cons,
      List.length_nil, Nat.zero_add, Nat.reduceAdd, Option.bind_eq_bind,
      Option.bind_some, List.mapM_nil, Option.pure_def, List.flatten_nil]
      at padded ⊢
    rw [padded, isFront]
    rfl
  rw [stockDescriptors, encoded]
  refine ⟨rfl, ?_⟩
  simp only [Option.getD_some, List.length_append, frontLength, name,
    length, List.length_cons, List.length_nil, List.length_replicate]

/-- The vbmeta that is made for such a payload. -/
theorem exists_exampleBlob
    {digest : Bytes}
    (length : digest.length = 32)
    {payload : Bytes}
    (size : payload.length = 6144) :
    ∃ blob,
      hashFooterBlob (exampleLib digest) vendorBoot "d00d".toList [] payload =
          some blob ∧
        blob.length = 448 := by
  obtain ⟨encoded, descriptorsLength⟩ := stockDescriptors_encode length
  have header : (generatedHeader 184).encode.isSome = true := by
    decide +kernel
  obtain ⟨front, isFront⟩ := Option.isSome_iff_exists.mp header
  have frontLength : front.length = 256 :=
    (StructFormat.unpack_pack isFront).2
  have isSalt : unhexlify "d00d".toList = some [0xd0, 0x0d] := by
    decide +kernel
  have known :
      (exampleLib digest).new sha256.name = some fun _ => digest := by
    rfl
  have isHash :
      newHashDescriptor (fun _ => digest) vendorBoot [0xd0, 0x0d] payload =
        stockHash digest := by
    rw [newHashDescriptor, size, stockHash]
  refine ⟨front ++ (stockDescriptors digest ++ List.replicate 8 0), ?_, ?_⟩
  · rw [hashFooterBlob, known, isSalt]
    simp only [Option.bind_eq_bind, Option.bind_some, isHash,
      generateVbmetaBlob, List.mapM_nil, Option.pure_def, encoded,
      descriptorsLength, isFront]
    rfl
  · simp only [List.length_append, frontLength, descriptorsLength,
      List.length_replicate]

/-- What `avbtool.py` reads from the stock image. -/
def stockImageInfo (partitionSize : Nat) (digest : Bytes) : AvbImageInfo :=
  footedInfo partitionSize ⟨6144, 8192, 448⟩ stockHeader
    [.hash (stockHash digest)]

/-- A tree that fits an image of three pages. -/
def FitsImage (tree : DeviceTree) : Prop :=
  (∀ node ∈ OrderedTree.labels tree,
      Storable exampleStrings exampleOffset node) ∧
    56 + (writeNode exampleOffset tree ++ bigEndian 4 fdtEnd).length +
          exampleStrings.length <
        2 ^ 31 - 1 ∧
      (exampleBlob tree).length + 228 < 2 ^ 31 - 1 ∧
        ∃ table ∈ exampleDtTable (exampleBlob tree),
          table.length ≤ 1984 ∧
            extractStockBlob table = some (exampleBlob tree)

instance (tree : DeviceTree) : Decidable (FitsImage tree) :=
  inferInstanceAs (Decidable (_ ∧ _))

/-- A stock image that the script takes through the session with 50 MHz. -/
structure ExampleImage where
  tree : DeviceTree
  patchedTree : DeviceTree
  accepted : readStock tree = some readmeStock
  applied : applyStage readmeStock fiftyMhzVars tree = some patchedTree
  edited :
    applyStageFile (fun _ _ => 0) readmeStock fiftyMhzVars
        (exampleBlob tree) =
      some (exampleBlob patchedTree)
  fits : ∀ written ∈ [tree, patchedTree], FitsImage written
  shown : ∀ cluster : Cluster, (lastHex cluster.table tree).isSome = true
  cmdline : Text
  cmdlineFits : FitsAsciiz vendorBootArgsSize cmdline
  partitionSize : Nat
  large : 131072 ≤ partitionSize
  bounded : partitionSize < 2 ^ 63
  /-- of the salt and the stock payload -/
  stockDigest : Bytes
  stockLength : stockDigest.length = 32
  unmatched :
    strayLine noKeys (stockImageInfo 131072 stockDigest) = none
  /-- of the salt and the new payload -/
  digest : Bytes
  length : digest.length = 32

namespace ExampleImage

/-- The table around a tree. -/
def tableOf (tree : DeviceTree) : Bytes :=
  (exampleDtTable (exampleBlob tree)).getD []

variable (image : ExampleImage)

/-- The contents of the stock image with a tree. -/
def bootOf (tree : DeviceTree) : VendorBoot :=
  exampleBoot image.cmdline image.cmdlineFits (tableOf tree)

/-- The image in front of its footer. -/
def payloadOf (tree : DeviceTree) : Bytes :=
  (image.bootOf tree).arguments.writeVendorBoot.getD []

/-- `vendor_boot.img` -/
def input : Bytes :=
  footedImage image.partitionSize (image.payloadOf image.tree)
    (stockBlob image.stockDigest)

def machine : Machine where
  lib := exampleLib image.digest
  sha1 := noKeys
  isBinary := hasNul
  glob := fun word => [word]
  lawful := fun _ _ => rfl
  work := "/tmp/tmp.a".toList
  plainWork := by decide
  absolute := rfl
  locate := fun path =>
    if path = "vendor_boot.img".toList then some .input else none
  apart := by decide

/-- What stages 1 to 4 make of it. -/
def scan : Scan where
  stockInfo := stockImageInfo image.partitionSize image.stockDigest
  avbInfo :=
    (infoImage noKeys
      (stockImageInfo image.partitionSize image.stockDigest)).getD []
  parameters :=
    ⟨vendorBoot, printUnsigned 6144, printUnsigned image.partitionSize,
      "d00d".toList⟩
  info :=
    (image.bootOf image.tree).info
      (pathJoin image.machine.work "unpack".toList)
  files := (image.bootOf image.tree).files
  unpackedDtb := tableOf image.tree
  blob := exampleBlob image.tree
  stock := readmeStock

theorem tree_mem : image.tree ∈ [image.tree, image.patchedTree] :=
  List.mem_cons_self

theorem patchedTree_mem :
    image.patchedTree ∈ [image.tree, image.patchedTree] :=
  List.mem_cons_of_mem _ List.mem_cons_self

section Stored

variable {image} {tree : DeviceTree}

theorem readBlob_exampleBlob
    (member : tree ∈ [image.tree, image.patchedTree]) :
    readBlob (exampleBlob tree) = some tree := by
  obtain ⟨storable, small, -⟩ := image.fits tree member
  exact readBlob_writeBlob storable small

/-- The blob of a tree is edited in place, and its names are no footer. -/
theorem editedInPlace_exampleBlob
    (member : tree ∈ [image.tree, image.patchedTree]) :
    EditedInPlace (exampleBlob tree) ∧
      NamesAvoid footerMagic footerSize (exampleBlob tree) := by
  obtain ⟨-, small, short, -⟩ := image.fits tree member
  refine ⟨⟨editable_assembleBlob small, short⟩, exampleStrings,
    nameBlock_assembleBlob small, ?_⟩
  decide +kernel

/-- The table of a tree, and its blob. -/
theorem tableOf_spec
    (member : tree ∈ [image.tree, image.patchedTree]) :
    exampleDtTable (exampleBlob tree) = some (tableOf tree) ∧
      0 < (tableOf tree).length ∧ (tableOf tree).length ≤ 1984 ∧
        extractStockBlob (tableOf tree) = some (exampleBlob tree) := by
  obtain ⟨-, -, -, table, created, short, extracted⟩ :=
    image.fits tree member
  have isTable : tableOf tree = table := by
    rw [tableOf, created]
    rfl
  have rebuilt := (rebuildTable_of_created created
    (exampleBlob tree)).trans created
  rw [isTable]
  exact ⟨created, (extractBlob_rebuildTable rebuilt).2, short, extracted⟩

/-- The image of a tree is three pages without a footer. -/
theorem payloadOf_spec
    (member : tree ∈ [image.tree, image.patchedTree]) :
    (image.bootOf tree).arguments.writeVendorBoot =
        some (image.payloadOf tree) ∧
      (image.payloadOf tree).length = 6144 ∧
        footerOf (image.payloadOf tree) = none := by
  obtain ⟨-, nonempty, short, -⟩ := tableOf_spec member
  obtain ⟨payload, packed, length, plain⟩ :=
    exampleBoot_packed image.cmdlineFits nonempty short
  have isPayload : image.payloadOf tree = payload := by
    rw [payloadOf, bootOf, packed]
    rfl
  rw [isPayload]
  exact ⟨packed, length, plain⟩

end Stored

/-- The stock image has a vbmeta of its own. -/
theorem parseImage_input :
    parseImage image.machine.lib image.input =
      some (stockImageInfo image.partitionSize image.stockDigest) := by
  obtain ⟨-, size, -⟩ := payloadOf_spec image.tree_mem
  obtain ⟨isEncoded, length⟩ := stockDescriptors_encode image.stockLength
  obtain ⟨read, frontLength⟩ :=
    readHeader_encode storedRelease_getReleaseString stockHeader_encode
  have sized :
      image.machine.lib.digestSize
          (stockHash image.stockDigest).hashAlgorithm.name =
        some (stockHash image.stockDigest).digest.length :=
    congrArg some (image.length.trans image.stockLength.symm)
  have parsed :
      parseDescriptors image.machine.lib
          (stockDescriptors image.stockDigest) =
        some [.hash (stockHash image.stockDigest)] :=
    parseDescriptors_encode sha256_stored sized isEncoded
  have padded :
      (padToBlock (image.payloadOf image.tree)).length = 8192 := by
    rw [padToBlock, List.length_append, List.length_replicate, size]
    decide
  have blobLength : (stockBlob image.stockDigest).length = 448 := by
    rw [stockBlob, List.length_append, List.length_append, frontLength,
      length, List.length_replicate]
    decide
  have footer :
      newFooter (image.payloadOf image.tree)
          (stockBlob image.stockDigest) =
        ⟨6144, 8192, 448⟩ := by
    rw [newFooter, padded, blobLength, size]
  have fits :
      (newFooter (image.payloadOf image.tree)
        (stockBlob image.stockDigest)).fits = true := by
    rw [footer]
    decide
  have large := image.large
  rw [stockImageInfo, ← footer]
  refine parseImage_footedImage ?_ fits rfl read frontLength ⟨rfl, rfl⟩
    ⟨rfl, length.symm⟩ parsed ?_
  · exact Nat.le_trans (by decide) large
  · rw [padded, length, headerSize, blockSize]
    omega

theorem infoImage_input :
    infoImage noKeys
        (stockImageInfo image.partitionSize image.stockDigest) =
      some image.scan.avbInfo :=
  rfl

/-- Stage 1 accepts the image. -/
theorem readAvb_input :
    readAvb image.scan.avbInfo = some image.scan.parameters := by
  have unshadowed :
      capture ((firstField isPartitionLine 3
            (frontLines noKeys getReleaseString [])).getD vendorBoot) =
          vendorBoot ∧
        capture ((firstField isSaltLine 2
              (frontLines noKeys getReleaseString [])).getD
            (hexlify [0xd0, 0x0d])) =
          hexlify [0xd0, 0x0d] := by
    decide +kernel
  rw [(readAvb_eq_parameters_iff image.infoImage_input rfl rfl).mpr
    unshadowed]
  rfl

/-- It finds no fingerprint. -/
theorem propValue_input : propValue hasNul image.scan.avbInfo = [] := by
  have unmatched :
      strayLine noKeys
          (stockImageInfo image.partitionSize image.stockDigest) =
        none :=
    image.unmatched
  rw [propValue_of_find? (find?_infoImage_none image.infoImage_input rfl),
    unmatched]
  exact ite_self []

/-- The stock image starts with its payload. -/
theorem exists_input_append :
    ∃ behind, image.input = image.payloadOf image.tree ++ behind := by
  obtain ⟨-, length, -⟩ := payloadOf_spec image.tree_mem
  have large := image.large
  have room :
      (image.payloadOf image.tree).length ≤
        image.partitionSize - maxMetadataSize := by
    rw [length, maxMetadataSize]
    omega
  exact exists_footedImage_append _ room

-- from here on only what is stated above is used of them
attribute [irreducible] tableOf payloadOf input

/-- Stages 1 to 4 accept it. -/
theorem scan_input : image.machine.scan image.input = some image.scan := by
  have member := image.tree_mem
  obtain ⟨packed, -, -⟩ := payloadOf_spec member
  obtain ⟨-, nonempty, -, extracted⟩ := tableOf_spec member
  obtain ⟨behind, isAppend⟩ := image.exists_input_append
  have unpacked :
      unpackVendorBootImage (pathJoin image.machine.work "unpack".toList)
          image.input =
        some (image.scan.info, image.scan.files) := by
    rw [isAppend, VendorBoot.unpackVendorBootImage_append _ packed]
    exact if_pos fun entry inTable => (List.not_mem_nil inTable).elim
  have found :
      image.scan.files.lookup "dtb".toList = some (tableOf image.tree) := by
    have isFile := (image.bootOf image.tree).lookup_files_dtb
    have dtb : (image.bootOf image.tree).dtb = tableOf image.tree := rfl
    rw [dtb, if_pos nonempty] at isFile
    exact isFile
  have read : readStockFile (exampleBlob image.tree) = some readmeStock :=
    (readStockFile_of_readBlob (readBlob_exampleBlob member)).trans
      image.accepted
  exact Machine.scan_eq_some_iff.mpr ⟨image.parseImage_input,
    image.infoImage_input, image.readAvb_input, unpacked, found, extracted,
    read⟩

/-- The footer of the new image can be made. -/
theorem vbmetaBlob_input
    {payload : Bytes}
    (size : payload.length = 6144) :
    ∃ blob,
      image.machine.vbmetaBlob image.scan payload = some blob ∧
        blob.length = 448 := by
  rw [Machine.vbmetaBlob]
  have none : propArguments (propValue image.machine.isBinary
      image.scan.avbInfo) = [] := by
    rw [show image.machine.isBinary = hasNul from rfl, propValue_input]
    rfl
  rw [none]
  exact exists_exampleBlob image.length size

/-- The contents of the image. -/
theorem contents_input :
    Contents image.machine image.input image.scan
      (image.bootOf image.tree) := by
  obtain ⟨packed, -, -⟩ := payloadOf_spec image.tree_mem
  obtain ⟨-, nonempty, -, -⟩ := tableOf_spec image.tree_mem
  obtain ⟨behind, isAppend⟩ := image.exists_input_append
  exact ⟨⟨_, behind, packed, isAppend⟩,
    fun entry inTable => (List.not_mem_nil inTable).elim, rfl, rfl, rfl,
    nonempty⟩

end ExampleImage

end OverclockBuilder
