import OverclockBuilder.ApplyStage
import OverclockBuilder.AvbFooter
import OverclockBuilder.DtTableExtraction
import OverclockBuilder.FdtBlob
import OverclockBuilder.VendorBootUnpack

namespace OverclockBuilder

open RadixText WordText BytePacking CNumber BashText LabelTree
open PagedSections

/-!
# The device tree in an image

A tree lies in a blob, the blob in a table, the table in a section of the image,
and the image in front of its footer.  What is put in at one end is read at the
other, as long as nothing cuts the section.
-/

/-! ## The tree in a table -/

/-- The tree that `fdtget` reads in the blob of a table. -/
def readTable (file : Bytes) : Option DeviceTree :=
  (extractBlob file).bind readBlob

/-- A table is created with the page size and version of another. -/
theorem createDtboImage_of_rebuildTable
    {file dtb output : Bytes}
    (rebuilt : rebuildTable file dtb = some output) :
    ∃ pageSize version,
      createDtboImage (printUnsigned pageSize) (printUnsigned version) dtb =
        some output := by
  unfold rebuildTable at rebuilt
  simp only [dumpDtboImage, Option.bind_eq_bind, Option.bind_eq_some_iff,
    Option.map_eq_some_iff] at rebuilt
  obtain ⟨_, ⟨stock, read, rfl⟩, rebuilt⟩ := rebuilt
  split at rebuilt
  · cases rebuilt
  · rw [pageSize_str, dtVersion_str] at rebuilt
    exact ⟨_, _, rebuilt⟩

/-- The blob a table was built around is cut out of it again. -/
theorem extractBlob_rebuildTable
    {file dtb output : Bytes}
    (rebuilt : rebuildTable file dtb = some output) :
    extractBlob output = some dtb ∧ 0 < output.length := by
  obtain ⟨pageSize, version, created⟩ :=
    createDtboImage_of_rebuildTable rebuilt
  obtain ⟨numCustom, dtEntrySize, count, table, isTable, single, written⟩ :=
    createDtboImage_eq_some created
  have front :
      (packWords table.headerWords ++
          packWords (defaultEntry version dtb.length
            (dtTableHeaderSize + dtEntrySize) numCustom).words).length =
        dtTableHeaderSize + dtEntrySize := by
    rw [List.length_append, length_packWords, length_packWords,
      length_words single.wellFormed single.dtEntrySize, isTable]
    rfl
  have readBack := readDtboImage_packWords single
    (dtb ++ paddingBytes table.totalSize pageSize)
  rw [← written] at readBack
  refine ⟨?_, ?_⟩
  · rw [extractBlob, dumpDtboImage, readBack]
    simp only [Option.map_some, Option.bind_eq_bind, Option.bind_some,
      dtOffset_str single.dtEntries, dtSize_str single.dtEntries,
      ddExtract, pyInt_printUnsigned, defaultEntry]
    rw [written, List.drop_left' front, List.take_left]
  · rw [written, List.length_append, front, dtTableHeaderSize]
    omega

/-- Only zeros stand behind the blob. -/
theorem exists_rebuildTable_append
    {file dtb output : Bytes}
    (rebuilt : rebuildTable file dtb = some output) :
    ∃ front count, output = front ++ (dtb ++ List.replicate count 0) := by
  obtain ⟨pageSize, version, created⟩ :=
    createDtboImage_of_rebuildTable rebuilt
  obtain ⟨numCustom, dtEntrySize, count, table, -, -, written⟩ :=
    createDtboImage_eq_some created
  exact ⟨_, _, written⟩

/-! ## What the footer keeps -/

/-- `avbtool.py` finds no footer, or one that keeps the image up to an end. -/
def Uncut (payload : Bytes) (bound : Nat) : Prop :=
  ∀ footer, footerOf payload = some footer →
    bound ≤ footer.originalImageSize

/-- A payload that is not cut is kept up to the end. -/
theorem take_originalImage
    {payload : Bytes}
    {bound : Nat}
    (inside : bound ≤ payload.length)
    (uncut : Uncut payload bound) :
    (originalImage payload).take bound = payload.take bound ∧
      bound ≤ (originalImage payload).length := by
  unfold originalImage
  split
  · rename_i footer found
    have kept := uncut footer found
    exact ⟨take_truncate kept inside, (length_truncate _ _).symm ▸ kept⟩
  · exact ⟨rfl, inside⟩

/-- A written image starts with its header. -/
theorem exists_header_append
    {args : VendorBootArguments}
    {payload : Bytes}
    (written : args.writeVendorBoot = some payload) :
    ∃ header rest, HeaderFields args header ∧ payload = header ++ rest := by
  obtain ⟨-, header, back, fields, rfl⟩ := writeVendorBoot_eq_some written
  obtain ⟨first, firstPadded⟩ := padFile_eq_append args.pagesize header
  obtain ⟨second, secondPadded⟩ := padFile_eq_append args.pagesize
    (padFile args.pagesize header ++ args.ramdisks)
  refine ⟨header, first ++ (args.ramdisks ++ (second ++ (args.dtb ++ back))),
    fields, ?_⟩
  rw [VendorBootArguments.sectionsTo, secondPadded, firstPadded]
  simp only [List.append_assoc]

/-- So it starts with the magic. -/
theorem take_of_writeVendorBoot
    {args : VendorBootArguments}
    {payload : Bytes}
    (written : args.writeVendorBoot = some payload)
    (behind : Bytes) :
    (payload ++ behind).take 8 = vendorBootMagic := by
  obtain ⟨header, rest, fields, rfl⟩ := exists_header_append written
  have long : 8 ≤ header.length := by
    rw [fields.length, VendorBootArguments.headerSize]
    split <;>
      omega
  rw [List.append_assoc, List.take_append_of_le_length long]
  exact fields.magic

/-- `avbtool.py` opens every written image. -/
theorem sparseHeaderSize_le_length
    {args : VendorBootArguments}
    {payload : Bytes}
    (written : args.writeVendorBoot = some payload) :
    sparseHeaderSize ≤ payload.length := by
  obtain ⟨header, rest, fields, rfl⟩ := exists_header_append written
  have size : 2112 ≤ args.headerSize := by
    rw [VendorBootArguments.headerSize]
    split <;>
      omega
  rw [List.length_append, fields.length, sparseHeaderSize]
  omega

/-- The section of an image is still found behind its footer. -/
theorem unpackDtb_addHashFooter
    {args : VendorBootArguments}
    {payload : Bytes}
    (packed : args.writeVendorBoot = some payload)
    (uncut : Uncut payload args.dtbEnd)
    (nonempty : 0 < args.dtb.length)
    {vbmetaBlob : Bytes → Option Bytes}
    {partitionSize : Nat}
    (succeeded :
      (addHashFooter vbmetaBlob partitionSize payload).succeeded = true) :
    unpackDtb (addHashFooter vbmetaBlob partitionSize payload).image =
      some args.dtb := by
  obtain ⟨blob, -, isImage, room, -, -⟩ := addHashFooter_succeeded succeeded
  obtain ⟨kept, inOriginal⟩ :=
    take_originalImage (dtbEnd_le_length packed) uncut
  apply unpackDtb_of_take_eq packed _ nonempty
  rw [isImage, take_original_footedImage blob inOriginal room, kept]

/-- The sections behind the device trees do not depend on them. -/
theorem exists_file_dtb
    {args : VendorBootArguments}
    {table image payload : Bytes}
    (written : args.writeVendorBoot = some image)
    (packed : { args with dtb := table }.writeVendorBoot = some payload) :
    args.pagesize ∈ pageSizes ∧
      ∃ front front' sections,
        image =
            front ++ (pad args.pagesize args.dtb ++
              file args.pagesize sections) ∧
          payload =
            front' ++ (pad args.pagesize table ++
              file args.pagesize sections) := by
  obtain ⟨page, header, sections, -, isFile, table₁, plain₁⟩ :=
    writeVendorBoot_eq_file written
  obtain ⟨-, header', sections', -, isFile', table₂, plain₂⟩ :=
    writeVendorBoot_eq_file packed
  have same : sections' = sections := by
    by_cases four : 3 < args.headerVersion
    · obtain ⟨entries, encoded, rfl⟩ := table₁ four
      obtain ⟨entries', encoded', rfl⟩ := table₂ four
      cases encoded.symm.trans encoded'
      rfl
    · rw [plain₁ four, plain₂ four]
  refine ⟨page, file args.pagesize [header, args.ramdisks],
    file args.pagesize [header', args.ramdisks], sections, ?_, ?_⟩
  · rw [isFile, show header :: args.ramdisks :: args.dtb :: sections =
      [header, args.ramdisks] ++ args.dtb :: sections from rfl,
      file_append]
    rfl
  · rw [isFile', same]
    show file args.pagesize
      ([header', args.ramdisks] ++ table :: sections) = _
    rw [file_append]
    rfl

/--
A payload whose table ends in names without the magic of a footer has none, if
the image it was made from has none.
-/
theorem footerOf_of_names
    {args : VendorBootArguments}
    {table image payload : Bytes}
    (written : args.writeVendorBoot = some image)
    (packed : { args with dtb := table }.writeVendorBoot = some payload)
    (plain : footerOf image = none)
    {front names : Bytes}
    {count : Nat}
    (isTable : table = front ++ (names ++ List.replicate count 0))
    (long : footerSize ≤ names.length)
    (absent : ¬footerMagic <:+: names) :
    footerOf payload = none := by
  obtain ⟨page, head, head', sections, isImage, isPayload⟩ :=
    exists_file_dtb written packed
  have size := length_file (page_pos page) sections
  cases isBack : pagesOf args.pagesize sections with
  | zero =>
      -- the table is the last section
      rw [isBack, Nat.mul_zero, List.length_eq_zero_iff] at size
      rw [isPayload, size, List.append_nil, pad, isTable]
      simp only [List.append_assoc, List.replicate_append_replicate]
      rw [← List.append_assoc]
      exact footerOf_of_not_infix _ long absent _
  | succ pages =>
      have large : 2048 ≤ args.pagesize := by
        simp only [pageSizes, List.mem_cons, List.not_mem_nil, or_false]
          at page
        omega
      have reach : footerSize ≤ (file args.pagesize sections).length := by
        rw [size, isBack, Nat.mul_succ, footerSize]
        omega
      rw [isImage, ← List.append_assoc, footerOf_append _ reach] at plain
      rw [isPayload, ← List.append_assoc, footerOf_append _ reach, plain]

/-! ## An image around a blob -/

/-- The property names of the example trees, and others of such trees. -/
def exampleStrings : Bytes :=
  stringBytes oppHz ++ stringBytes oppMicrovolt ++
    stringBytes "phandle".toList ++ stringBytes "compatible".toList ++
      stringBytes "operating-points-v2".toList ++
        stringBytes "opp-shared".toList

def exampleOffset (name : Text) : Nat :=
  if name = oppHz then 0 else if name = oppMicrovolt then 7 else 21

def exampleBlob (tree : DeviceTree) : Bytes :=
  writeBlob exampleStrings exampleOffset tree

/-- A table around a blob, without padding. -/
def exampleDtTable (blob : Bytes) : Option Bytes :=
  createDtboImage (printUnsigned 1) (printUnsigned 0) blob

theorem mem_pageSizes : 2048 ∈ pageSizes :=
  List.mem_cons_self

/-- A version 3 image without ramdisk around a table. -/
def exampleBoot
    (cmdline : Text)
    (cmdlineFits : FitsAsciiz vendorBootArgsSize cmdline)
    (dtb : Bytes) :
    VendorBoot where
  headerVersion := 3
  pageSize := 2048
  kernelLoadAddress := 0x40080000
  ramdiskLoadAddress := 0x47c80000
  tagsLoadAddress := 0x4bc80000
  dtbLoadAddress := 0x4bc80000
  cmdline := cmdline
  productName := "mt6768".toList
  dtb := dtb
  vendorRamdisk := []
  bootconfig := []
  fragments := []
  version := .inl rfl
  page := mem_pageSizes
  cmdlineFits := cmdlineFits
  productNameFits := by decide
  plain := fun _ => rfl
  names := by decide

/-- Only the section differs. -/
theorem exampleBoot_arguments_dtb
    {cmdline : Text}
    (cmdlineFits : FitsAsciiz vendorBootArgsSize cmdline)
    (dtb other : Bytes) :
    { (exampleBoot cmdline cmdlineFits dtb).arguments with dtb := other } =
      (exampleBoot cmdline cmdlineFits other).arguments :=
  rfl

/-- A table that leaves room for a footer's worth of zeros is packed. -/
theorem exampleBoot_packed
    {cmdline : Text}
    (cmdlineFits : FitsAsciiz vendorBootArgsSize cmdline)
    {dtb : Bytes}
    (nonempty : 0 < dtb.length)
    (short : dtb.length ≤ 1984) :
    ∃ payload,
      (exampleBoot cmdline cmdlineFits dtb).arguments.writeVendorBoot =
          some payload ∧
        payload.length = 6144 ∧ footerOf payload = none := by
  let boot := exampleBoot cmdline cmdlineFits dtb
  have small : (dtb.length : Int) < 4294967296 := by
    omega
  have packed : ∃ header, boot.arguments.header = some header := by
    simp [VendorBootArguments.header, VendorBootArguments.tableFields,
      VendorBootArguments.headerSize, VendorBootArguments.ramdisks,
      VendorBoot.arguments, boot, exampleBoot, packInteger, small]
  obtain ⟨header, packed⟩ := packed
  have member : boot.arguments.pagesize ∈ pageSizes :=
    mem_pageSizes
  have sections :=
    length_sectionsTo member (headerFields_of_header packed)
  have sectionEnd :
      boot.arguments.dtbEnd = 4096 + dtb.length := by
    simp [VendorBootArguments.dtbEnd, VendorBootArguments.headerSize,
      VendorBootArguments.ramdisks, VendorBoot.arguments, boot,
      exampleBoot, getNumberOfPages]
  have length :
      (padFile 2048 (boot.arguments.sectionsTo header)).length = 6144 := by
    rw [length_padFile mem_pageSizes, sections,
      sectionEnd, getNumberOfPages]
    omega
  refine ⟨padFile 2048 (boot.arguments.sectionsTo header), ?_,
    length, ?_⟩
  · rw [VendorBootArguments.writeVendorBoot, if_pos ⟨member, .inl rfl⟩,
      packed]
    rfl
  · rw [padFile]
    apply footerOf_append_zeros
    rw [padFile, List.length_append, List.length_replicate, sections,
      sectionEnd] at length
    rw [sections, sectionEnd, footerSize]
    omega

end OverclockBuilder
